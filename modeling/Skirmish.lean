import Skirmish.Combat.ContextJson
import Skirmish.Entity.KindsJson
import Skirmish.Formula.Script
import Skirmish.Json.Parser
import Skirmish.Main
import Skirmish.Proofs.BoundedIntegers
import Skirmish.Proofs.BuffGroups
import Skirmish.Proofs.BuffLoading
import Skirmish.Proofs.Builtin
import Skirmish.Proofs.ContextForms
import Skirmish.Proofs.DamageTotal
import Skirmish.Proofs.DamagingRuns
import Skirmish.Proofs.Evasion
import Skirmish.Proofs.FormulaNames
import Skirmish.Proofs.HitOdds
import Skirmish.Proofs.HitRoll
import Skirmish.Proofs.Interchange
import Skirmish.Proofs.JsonRecords
import Skirmish.Proofs.JsonScanning
import Skirmish.Proofs.JsonText
import Skirmish.Proofs.LastWrite
import Skirmish.Proofs.LedgerForms
import Skirmish.Proofs.OneDraw
import Skirmish.Proofs.ParameterLayers
import Skirmish.Proofs.RateBounds
import Skirmish.Proofs.Registrations
import Skirmish.Proofs.Replay
import Skirmish.Proofs.Rollback
import Skirmish.Proofs.Simulation
import Skirmish.Proofs.TargetCount
import Skirmish.Proofs.Untraced
import Skirmish.Random.Sampled
import Skirmish.Random.Scripted
import Skirmish.Proofs.NearFullRates
import Skirmish.Proofs.ReportTotal
import Skirmish.Proofs.BuffAdding
import Skirmish.Proofs.RepeatedParameters
import Skirmish.Proofs.AttributeKeys
import Skirmish.Proofs.Recasting
import Skirmish.Proofs.SkillBars
import Skirmish.Proofs.ScriptedAnswers

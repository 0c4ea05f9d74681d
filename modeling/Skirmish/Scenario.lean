import Skirmish.Config.Constants
import Skirmish.Config.Entities
import Skirmish.Config.Parameters
import Skirmish.Formula.Combatants
import Skirmish.Formula.Name

namespace Skirmish

structure Scenario where
  formula : Option FormulaId := none
  name : Option String := none
  seed : UInt64 := 42
  runs : UInt32 := 1
  initDamage : Amount := 0
  paramsFile : Option String := none
  params : Table String Float := .empty
  targetCount : Option Int64 := none
  constants : CombatConstants := {}
  attacker : Option Combatant := none
  target : Option Combatant := none
  user : Option Combatant := none
  deriving DecidableEq

inductive ScenarioError
  | malformed : Toml.Fault → ScenarioError
  | invalid : Violation → ScenarioError
  | noRuns : ScenarioError
  | noFormula : ScenarioError
  | unknownName : String → ScenarioError
  deriving DecidableEq

def ScenarioError.message : ScenarioError → String
  | malformed fault => (ConfigError.malformed fault).message
  | invalid v => v.message
  | noRuns => "runs must be at least 1"
  | noFormula => "scenario names no formula; set `formula` or `name`"
  | unknownName name => (FormulaError.unknownName name).message

namespace Scenario

open Toml (Reading)

def setField (s : Scenario) (key : String) (v : Toml.Value) : Reading Scenario :=
  match key with
  | "formula" => do return { s with formula := ← v.readUInt32 }
  | "name" => do return { s with name := ← v.readString }
  | "seed" => do return { s with seed := ← v.readUInt64 }
  | "runs" => do return { s with runs := ← v.readUInt32 }
  | "init_damage" => do return { s with initDamage := ← v.readInt64 }
  | "params_file" => do return { s with paramsFile := ← v.readString }
  | "params" => do return { s with params := .ofList (← v.readFloats) }
  | "attack_target_count" => do return { s with targetCount := ← v.readInt64 }
  | "constants" => do return { s with constants := ← CombatConstants.ofToml false v }
  | "attacker" => do return { s with attacker := ← Combatant.ofToml v }
  | "target" => do return { s with target := ← Combatant.ofToml v }
  | "user" => do return { s with user := ← Combatant.ofToml v }
  | _ => .ok s

def ofToml (es : Toml.Entries) : Reading Scenario :=
  es.foldlM (fun s (key, v) => s.setField key v) {}

def validate (s : Scenario) : Except ScenarioError Scenario :=
  match s.constants.validate with
  | .error v => .error (.invalid v)
  | .ok _ => if s.runs = 0 then .error .noRuns else .ok s

def parse (text : String) : Except ScenarioError Scenario :=
  match Toml.parse? text with
  | none => .error (.malformed .malformed)
  | some es =>
    match ofToml es with
    | .error fault => .error (.malformed fault)
    | .ok s => s.validate

def formulaId (s : Scenario) : Except ScenarioError FormulaId :=
  match s.formula, s.name with
  | some id, _ => .ok id
  | none, some name =>
    match FormulaId.ofName? name with
    | some id => .ok id
    | none => .error (.unknownName name)
  | none, none => .error .noFormula

def context (s : Scenario) (t : ParameterTable) (id : FormulaId) : Context :=
  let c := t.contextFor id s.constants
  let c := s.params.toList.foldl (fun c (name, value) => c.setParam name value) c
  match s.targetCount with
  | some n => c.withTargetCount n
  | none => c

def combatants (s : Scenario) : Combatants where
  attacker := s.attacker.map Combatant.toEntity
  target := s.target.map Combatant.toEntity
  user := s.user.map Combatant.toEntity

end Scenario

end Skirmish

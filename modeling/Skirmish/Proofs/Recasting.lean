import Mathlib.Control.Monad.Basic
import Skirmish.Entity.Kinds
import Skirmish.Formula.Script
import Skirmish.Proofs.Likeness

namespace Skirmish

variable {σ ω : Type}

def Query.isShared : Query → Bool
  | .attributeValue _ | .storedAttribute _ => true
  | .buffCount _ | .buffCountByTag _ | .buffLeftTime _ | .buffInterval _ => true
  | .position | .distance => true
  | .kind | .monsterType | .storedType | .skillSlots _ _ | .skillBar _ => false

def Entity.withoutKind (e : Entity) : Entity :=
  { e with kind := .none, configuredType := none, skillBar := fun _ => none }

theorem Query.answer_withoutKind {q : Query} (shared : q.isShared) (e partner : Option Entity) :
    q.answer (e.map Entity.withoutKind) (partner.map Entity.withoutKind) = q.answer e partner := by
  cases q with
  | kind | monsterType | storedType | skillSlots | skillBar => cases shared
  | attributeValue | storedAttribute | buffCount | buffCountByTag | buffLeftTime | buffInterval
  | position => cases e <;> rfl
  | distance => cases e <;> cases partner <;> rfl

def Combatant.state : Combatant → EntityState
  | .player p => p.state
  | .monster m => m.state
  | .pet p => p.state

theorem Combatant.withoutKind_toEntity (c : Combatant) :
    c.toEntity.withoutKind = c.state.toEntity .none := by
  cases c <;> rfl

/-- One entity in the place of another: the same one, or a combatant with the same state. -/
inductive Recast : Option Entity → Option Entity → Prop
  | same (e : Option Entity) : Recast e e
  | state {a b : Combatant} : a.state = b.state → Recast (some a.toEntity) (some b.toEntity)

theorem Recast.withoutKind {e e' : Option Entity} (h : Recast e e') :
    e.map Entity.withoutKind = e'.map Entity.withoutKind := by
  cases h with
  | same => rfl
  | state same =>
    rw [Option.map_some, Option.map_some, Combatant.withoutKind_toEntity,
      Combatant.withoutKind_toEntity, same]

theorem Recast.answer {e e' partner partner' : Option Entity} (h : Recast e e')
    (k : Recast partner partner') {q : Query} (shared : q.isShared) :
    q.answer e partner = q.answer e' partner' := by
  rw [← Query.answer_withoutKind shared, h.withoutKind, k.withoutKind,
    Query.answer_withoutKind shared]

theorem Query.exists_answer_ne (s : EntityState) {q : Query} (unshared : q.isShared = false) :
    ∃ a b : Combatant, a.state = s ∧ b.state = s ∧ ∀ partner,
      q.answer (some a.toEntity) partner ≠ q.answer (some b.toEntity) partner := by
  let monster : Combatant := .monster { state := s, configuredType := 1 }
  let pet : Combatant := .pet { state := s }
  let player (bar : SkillBar) : Player := { state := s, skillBars := [bar] }
  have lookup (bar : SkillBar) : (player bar).skillBar bar.id = some bar :=
    List.find?_cons_of_pos (beq_self_eq_true bar.id)
  cases q with
  | attributeValue | storedAttribute | buffCount | buffCountByTag | buffLeftTime | buffInterval
  | position | distance => cases unshared
  | kind | monsterType | storedType =>
    refine ⟨monster, pet, rfl, rfl, fun partner same => ?_⟩
    cases same
  | skillSlots id used =>
    let bar : SkillBar := ⟨id, [⟨if used then 1 else 0⟩]⟩
    refine ⟨.player (player bar), pet, rfl, rfl, fun partner same => ?_⟩
    have counted : Skirmish.skillSlots (some (player bar).toEntity) bar.id used = 0 :=
      Query.Answer.count.inj same
    rw [Player.skillSlots_toEntity, lookup] at counted
    cases used <;> cases counted
  | skillBar id =>
    let bar : SkillBar := ⟨id, []⟩
    refine ⟨.player (player bar), pet, rfl, rfl, fun partner same => ?_⟩
    have found : (player bar).skillBar bar.id = none := Query.Answer.skillBar.inj same
    cases (lookup bar).symm.trans found

def Combatants.AgreeOnShared (c c' : Combatants) : Prop :=
  ∀ q : Query, q.isShared → ∀ role partner,
    q.answer (c.get role) (c.get partner) = q.answer (c'.get role) (c'.get partner)

theorem Combatants.AgreeOnShared.attributeValue {c c' : Combatants} (h : c.AgreeOnShared c')
    (role : Role) (id : AttributeId) :
    attributeValue (c.get role) id = attributeValue (c'.get role) id :=
  Query.Answer.number.inj (h (.attributeValue id) rfl role role)

def Likeness.sharedReads : Likeness := .ofCombatants Combatants.AgreeOnShared

theorem Builtin.respects_sharedReads {id : FormulaId} {f : Formula ω} (h : (id, f) ∈ formulas) :
    f.Respects .sharedReads := by
  apply respects _ h
  intro a b agree
  exact ⟨agree.attributeValue .attacker .attack, agree.attributeValue .target .evasion⟩

namespace Script

def Instruction.readsShared : Instruction → Bool
  | query _ q => q.isShared
  | _ => true

def readsShared : Script → Bool
  | step i rest => i.readsShared && rest.readsShared
  | ifHit yes no rest => yes.readsShared && no.readsShared && rest.readsShared
  | finish | fail _ | give _ | giveTotal => true

theorem Instruction.respects_perform {i : Instruction} (shared : i.readsShared) (init : Amount)
    {k : Reading → Program Reading Amount} (h : ∀ r, (k r).Respects .sharedReads) :
    (i.perform init k).Respects .sharedReads := by
  cases i with
  | id | hit | outcome | hitRate | randomInt => exact fun _ => h _
  | param name => exact (Program.respects_param _ name).bind fun v => h _
  | tryParam name =>
    refine ⟨fun a b same => by cases same; rfl, fun c => ?_⟩
    cases held : c.param? name with
    | some v =>
      simp only [held]
      exact h _
    | none =>
      simp only [held]
      exact fun id => h _
  | targetCount | context => exact ⟨fun a b same => by cases same; rfl, fun c => h _⟩
  | query role q =>
    refine ⟨fun a b agree => ?_, fun c => h _⟩
    exact congrArg (fun answer => k (.answer answer)) (agree q shared role .target)
  | damage | finalType | fight | line => exact h _

theorem respects_program {script : Script} (shared : script.readsShared) (init : Amount)
    {next : Program Reading Amount} (h : next.Respects .sharedReads) :
    (script.program init next).Respects .sharedReads := by
  induction script generalizing next with
  | finish => exact h
  | step i rest ih =>
    obtain ⟨first, rest⟩ := Bool.and_eq_true_iff.1 shared
    exact Instruction.respects_perform first init fun r => ih rest h
  | ifHit yes no rest ihYes ihNo ihRest =>
    obtain ⟨branches, rest⟩ := Bool.and_eq_true_iff.1 shared
    obtain ⟨yes, no⟩ := Bool.and_eq_true_iff.1 branches
    intro hit
    cases hit with
    | true => exact ihYes yes (ihRest rest h)
    | false => exact ihNo no (ihRest rest h)
  | fail | give => trivial
  | giveTotal => exact ⟨fun a b same => by cases same; rfl, fun _ => trivial⟩

theorem respects_formula (rate : Rate) {script : Script} (shared : script.readsShared) :
    (formula rate script).Respects .sharedReads := by
  refine ⟨fun {a b c c'} same agree => ?_, fun init => respects_program shared init trivial⟩
  cases same
  cases rate with
  | fixed | param => rfl
  | attributeValue role id => exact congrArg truncate (agree.attributeValue role id)

end Script

namespace Dispatcher

variable [RandomSource σ] {d : Dispatcher ω} {id : FormulaId} {f : Formula ω}

theorem evaluate_of_recast (registered : d.registry.get id = .ok f)
    (respects : f.Respects .sharedReads) {c c' : Combatants}
    (recast : ∀ role, Recast (c.get role) (c'.get role)) (context : Context) (source : σ)
    (init : Amount) :
    d.evaluate id context c source init = d.evaluate id context c' source init := by
  have agree : c.AgreeOnShared c' := fun q shared role partner =>
    (recast role).answer (recast partner) shared
  exact evaluate_of_related registered respects agree rfl context source

/-- No formula that asks its combatants what all kinds answer from their state, as the built-in ones
and many scripted ones do, tells combatants of different kinds with the same state apart. Only three
reads can: the kind, the type of a monster and the slots of a player's bar. -/
theorem recasting_changes_no_result :
    (∀ (d : Dispatcher ω) (id : FormulaId) (f : Formula ω),
      d.registry.get id = .ok f → f.Respects .sharedReads →
      ∀ c c' : Combatants, (∀ role, Recast (c.get role) (c'.get role)) →
      ∀ (context : Context) (source : σ) (init : Amount),
        d.evaluate id context c source init = d.evaluate id context c' source init) ∧
    (∀ (id : FormulaId) (f : Formula ω), (id, f) ∈ Builtin.formulas → f.Respects .sharedReads) ∧
    (∀ (rate : Script.Rate) (script : Script), script.readsShared →
      (Script.formula rate script).Respects .sharedReads) ∧
    (∀ q : Query, q.isShared → ∀ e e' partner partner' : Option Entity,
      Recast e e' → Recast partner partner' → q.answer e partner = q.answer e' partner') ∧
    (∀ (s : EntityState) (q : Query), q.isShared = false → ∃ a b : Combatant,
      a.state = s ∧ b.state = s ∧ ∀ partner,
        q.answer (some a.toEntity) partner ≠ q.answer (some b.toEntity) partner) ∧
    (∀ p : Player, entityKind (some p.toEntity) = .player ∧ monsterType (some p.toEntity) = 0 ∧
      ∀ bar used, skillSlots (some p.toEntity) bar used =
        (p.skillBar bar).elim 0 (·.countSlots used)) ∧
    (∀ m : Monster, entityKind (some m.toEntity) = .monster ∧
      monsterType (some m.toEntity) = m.configuredType ∧
      ∀ bar used, skillSlots (some m.toEntity) bar used = 0) ∧
    ∀ p : Pet, entityKind (some p.toEntity) = .pet ∧ monsterType (some p.toEntity) = 0 ∧
      ∀ bar used, skillSlots (some p.toEntity) bar used = 0 := by
  refine ⟨?results, fun _ _ => Builtin.respects_sharedReads, fun rate _ => Script.respects_formula rate,
    ?shared, fun s _ => Query.exists_answer_ne s, ?players, ?monsters, ?pets⟩
  case results =>
    intro d id f registered respects c c' recast context source init
    exact evaluate_of_recast registered respects recast context source init
  case shared =>
    intro q shared e e' partner partner' h k
    exact h.answer k shared
  case players => exact fun p => ⟨rfl, rfl, p.skillSlots_toEntity⟩
  case monsters => exact fun m => ⟨rfl, rfl, fun _ _ => rfl⟩
  case pets => exact fun p => ⟨rfl, rfl, fun _ _ => rfl⟩

def scout : Dispatcher Script.Reading where
  registry := ⟨.ofList [(7, Script.formula rate script)]⟩
where
  rate : Script.Rate := .attributeValue .attacker .attack
  script : Script :=
    .step (.query .attacker (.buffCountByTag 90)) <|
    .step (.query .user (.buffLeftTime 5)) <|
    .step (.query .attacker .distance) <|
    .ifHit (.step (.damage 3 (some 8)) .finish) (.fail "missed") .finish

theorem recasting_scout :
    let state : EntityState := {
      attributes := .ofList [(.attack, 200)]
      buffs := ⟨[{ id := 5, tags := [90], stackCount := 3 }]⟩
      position := ⟨3, 4, 0⟩ }
    let player : Player := { state, skillBars := [⟨1, [⟨7⟩]⟩] }
    let monster : Monster := { state, configuredType := 2 }
    let target : Option Entity := some ({} : Pet).toEntity
    let c : Combatants := ⟨some player.toEntity, target, some player.toEntity⟩
    let c' : Combatants := ⟨some monster.toEntity, target, some monster.toEntity⟩
    let e := scout.evaluate 7 {} c (ScriptedRolls.fixed 150) 1
    e.damage = .ok 1 ∧ e.context.damageOf? 3 = some 8 ∧
      e = scout.evaluate 7 {} c' (ScriptedRolls.fixed 150) 1 := by
  intro state player monster target c c' e
  have recast (role : Role) : Recast (c.get role) (c'.get role) := by
    have played : Recast (some player.toEntity) (some monster.toEntity) :=
      .state (a := .player player) (b := .monster monster) rfl
    cases role with
    | attacker | user => exact played
    | target => exact .same target
  obtain ⟨results, -, scripted, -⟩ :=
    recasting_changes_no_result (σ := ScriptedRolls) (ω := Script.Reading)
  have respects := scripted scout.rate scout.script rfl
  refine ⟨by decide +kernel, by decide +kernel, ?_⟩
  exact results scout 7 _ rfl respects c c' recast {} (.fixed 150) 1

end Dispatcher

end Skirmish

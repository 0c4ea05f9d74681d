import Mathlib.Control.Monad.Basic
import Skirmish.Entity.Kinds
import Skirmish.Proofs.Likeness

namespace Skirmish

variable {σ ω : Type}

inductive ReadsZero (id : AttributeId) : Option Entity → Prop
  | absent : ReadsZero id none
  | unset {e : Entity} : e.storedAttribute id = none → ReadsZero id (some e)
  | zero {e : Entity} : e.storedAttribute id = some 0 → ReadsZero id (some e)
  | negativeZero {e : Entity} : e.storedAttribute id = some (-0.0) → ReadsZero id (some e)
  | noNumber {e : Entity} {v : Float} :
      e.storedAttribute id = some v → v.isNaN → ReadsZero id (some e)

theorem ReadsZero.attributeValue {id : AttributeId} {e : Option Entity} (h : ReadsZero id e) :
    attributeValue e id = 0 := by
  cases h with
  | absent => rfl
  | unset h => simp [Skirmish.attributeValue, h, readAttribute]
  | zero h =>
    simp only [Skirmish.attributeValue, Option.bind_some, h]
    decide +kernel
  | negativeZero h =>
    simp only [Skirmish.attributeValue, Option.bind_some, h]
    decide +kernel
  | noNumber h nan =>
    simp only [Skirmish.attributeValue, Option.bind_some, h, readAttribute, nan, Bool.true_or,
      if_true]

/-- Two entities store the same under the attribute, or it reads as zero in both. Whatever else
there is to an entity may differ. -/
inductive SameAttribute (id : AttributeId) : Option Entity → Option Entity → Prop
  | stored {e e' : Entity} :
      e.storedAttribute id = e'.storedAttribute id → SameAttribute id (some e) (some e')
  | zero {e e' : Option Entity} : ReadsZero id e → ReadsZero id e' → SameAttribute id e e'

theorem SameAttribute.attributeValue {id : AttributeId} {e e' : Option Entity}
    (h : SameAttribute id e e') : attributeValue e id = attributeValue e' id := by
  cases h with
  | stored h => simp [Skirmish.attributeValue, h]
  | zero h h' => rw [h.attributeValue, h'.attributeValue]

namespace Dispatcher

variable [RandomSource σ] {d : Dispatcher ω} {id : FormulaId} {f : Formula ω}

theorem evaluate_of_sameReads (builtin : (id, f) ∈ Builtin.formulas)
    (registered : d.registry.get id = .ok f) {c c' : Combatants} (reads : c.SameReads c')
    (context : Context) (source : σ) (init init' : Amount) :
    d.evaluate id context c source init = d.evaluate id context c' source init' := by
  have respects : f.Respects (.ofCombatants Combatants.SameReads) :=
    Builtin.respects (fun _ _ h => h) builtin
  have damage := Builtin.damage_eq builtin init init'
  exact evaluate_of_related registered respects reads damage context source

/-- A built-in formula gives the same to all combatants with the same two reads, and so to all that
store the same there or nothing that counts. -/
theorem evaluate_eq_of_two_reads (builtin : (id, f) ∈ Builtin.formulas)
    (registered : d.registry.get id = .ok f) (context : Context) (source : σ) (c c' : Combatants)
    (init init' : Amount) :
    (attributeValue c.attacker .attack = attributeValue c'.attacker .attack →
      attributeValue c.target .evasion = attributeValue c'.target .evasion →
      d.evaluate id context c source init = d.evaluate id context c' source init') ∧
    (SameAttribute .attack c.attacker c'.attacker → SameAttribute .evasion c.target c'.target →
      d.evaluate id context c source init = d.evaluate id context c' source init') := by
  constructor
  · intro attack evasion
    exact evaluate_of_sameReads builtin registered ⟨attack, evasion⟩ context source init init'
  · intro attack evasion
    have reads : c.SameReads c' := ⟨attack.attributeValue, evasion.attributeValue⟩
    exact evaluate_of_sameReads builtin registered reads context source init init'

theorem evaluate_player_pet :
    let attributes : Attributes := .ofList [(.attack, 200)]
    let player : Player := { state := { attributes, buffs := ⟨[{ id := 5 }]⟩ } }
    let pet : Pet := { state := { attributes, position := ⟨9, 9, 9⟩ } }
    let monster : Monster := {
      state := { attributes := .ofList [(.evasion, 0.0 / 0.0)] }
      configuredType := 2 }
    let c : Combatants := { attacker := some player.toEntity, user := some player.toEntity }
    let c' : Combatants := { attacker := some pet.toEntity, target := some monster.toEntity }
    let context : Context := { params := .ofList [("par001", 5000), ("par002", 3)] }
    let e := ({} : Dispatcher Empty).evaluate 10002 context c (ScriptedRolls.fixed 9999) 1
    e.damage = .ok 103 ∧
      e = ({} : Dispatcher Empty).evaluate 10002 context c' (ScriptedRolls.fixed 9999) 2 := by
  intro attributes player pet monster c c' context e
  refine ⟨by decide +kernel, ?_⟩
  have builtin : (10002, ⟨Builtin.evadable, Builtin.scaledStrike⟩) ∈
      Builtin.formulas (ω := Empty) := by
    simp [Builtin.formulas, Builtin.scaledStrikeId]
  have same := (evaluate_eq_of_two_reads (d := ({} : Dispatcher Empty)) builtin rfl context
    (ScriptedRolls.fixed 9999) c c' 1 2).2
  apply same
  · exact .stored rfl
  · exact .zero .absent (.noNumber (v := 0.0 / 0.0) (by decide +kernel) (by decide +kernel))

end Dispatcher

end Skirmish

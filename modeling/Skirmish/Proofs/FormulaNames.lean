import Mathlib
import Skirmish.Formula.Dispatcher
import Skirmish.Random.Scripted

namespace Skirmish

namespace Decimal

def value (ds : List Char) : Nat := Nat.ofDigits 10 (ds.reverse.map fun c => c.toNat - '0'.toNat)

theorem ofDigitChars_eq_value (ds : List Char) : Nat.ofDigitChars 10 ds 0 = value ds := by
  rw [value, Nat.ofDigits_eq_foldr, List.foldr_map, List.foldr_reverse, Nat.ofDigitChars]
  congr 1
  funext n c
  exact Nat.add_comm _ _

theorem all_isDigit_iff {ds : List Char} : ds.all Char.isDigit ↔ ∀ c ∈ ds, '0' ≤ c ∧ c ≤ '9' := by
  simp [Char.isDigit, Char.le_def]

end Decimal

namespace FormulaId

/-- A name of a formula: the prefix, and ASCII digits that denote the identifier. -/
def Names (name : String) (id : FormulaId) : Prop :=
  ∃ digits : List Char, name = nameStart ++ String.ofList digits ∧ digits ≠ [] ∧
    (∀ c ∈ digits, '0' ≤ c ∧ c ≤ '9') ∧ Decimal.value digits = id.toNat

theorem ofName?_eq_some_iff {name : String} {id : FormulaId} :
    ofName? name = some id ↔ Names name id := by
  rw [ofName?, Option.bind_eq_some_iff]
  apply exists_congr
  intro digits
  rw [Text.dropStart?_eq_some_iff, Decimal.readUInt32?_eq_some_iff, Decimal.all_isDigit_iff,
    Decimal.ofDigitChars_eq_value, ← String.toList_inj, String.toList_append, String.toList_ofList]

theorem ofName_eq_ok_iff {name : String} {id : FormulaId} :
    ofName name = .ok id ↔ Names name id := by
  rw [← ofName?_eq_some_iff, ofName]
  cases ofName? name <;> simp

theorem ofName_eq_error_iff {name : String} :
    ofName name = .error (.unknownName name) ↔ ∀ id, ¬ Names name id := by
  simp only [← ofName?_eq_some_iff, ofName]
  cases ofName? name <;> simp

theorem names_zeros (zeros : Nat) (id : FormulaId) :
    Names (nameStart ++ String.ofList (List.replicate zeros '0') ++ toString id) id := by
  refine ⟨List.replicate zeros '0' ++ Nat.toDigits 10 id.toNat, ?text, ?some, ?digits, ?number⟩
  case text =>
    rw [String.ofList_append, ← String.append_assoc]
    rfl
  case some => simp
  case digits =>
    rw [← Decimal.all_isDigit_iff, List.all_append, Decimal.all_toDigits, Bool.and_true]
    simp
  case number =>
    rw [← Decimal.ofDigitChars_eq_value, Nat.ofDigitChars_append, Nat.ofDigitChars_replicate_zero,
      Nat.mul_zero, Nat.ofDigitChars_toDigits (by decide) (by decide)]

end FormulaId

namespace Dispatcher

open FormulaId (Names)

variable {σ ω : Type} [RandomSource σ] (d : Dispatcher ω) (name : String) (context : Context)
variable (c : Combatants) (source : σ) (init : Amount)

theorem evaluateByName_of_names {id : FormulaId} (h : Names name id) :
    d.evaluateByName name context c source init = d.evaluate id context c source init := by
  rw [evaluateByName, FormulaId.ofName_eq_ok_iff.2 h]

theorem evaluateByName_of_unnamed (h : ∀ id, ¬ Names name id) :
    d.evaluateByName name context c source init =
      ⟨.error (.failed (.unknownName name)), context, source, []⟩ := by
  rw [evaluateByName, FormulaId.ofName_eq_error_iff.2 h]

/-- A text is read as an identifier exactly if it names it, the printed name among them, and is
refused as an unknown name otherwise. Evaluations follow that reading. -/
theorem evaluateByName_reads_names :
    (∀ id, FormulaId.ofName name = .ok id ↔ Names name id) ∧
      (FormulaId.ofName name = .error (.unknownName name) ↔ ∀ id, ¬ Names name id) ∧
      (∀ id : FormulaId, FormulaId.ofName id.name = .ok id) ∧
      (∀ zeros id, Names
        (FormulaId.nameStart ++ String.ofList (List.replicate zeros '0') ++ toString id) id) ∧
      (∀ id, Names name id →
        d.evaluateByName name context c source init = d.evaluate id context c source init) ∧
      ((∀ id, ¬ Names name id) →
        d.evaluateByName name context c source init =
          ⟨.error (.failed (.unknownName name)), context, source, []⟩) := by
  refine ⟨fun _ => FormulaId.ofName_eq_ok_iff, FormulaId.ofName_eq_error_iff, ?printed,
    FormulaId.names_zeros, ?named, d.evaluateByName_of_unnamed name context c source init⟩
  case printed =>
    intro id
    rw [FormulaId.ofName, FormulaId.ofName?_name]
  case named =>
    intro id h
    exact d.evaluateByName_of_names name context c source init h

theorem evaluateByName_strike :
    let strike (name : String) : Evaluation ScriptedRolls Empty :=
      ({} : Dispatcher Empty).evaluateByName name {} {} (.fixed 0) 0
    (strike "damage_00010001").context.damageOf? .primary = some 100 ∧
      (strike "damage_+10001").damage = .error (.failed (.unknownName "damage_+10001")) ∧
      (strike "damage_4294977297").damage =
        .error (.failed (.unknownName "damage_4294977297")) := by
  intro strike
  have read (name : String) :=
    evaluateByName_reads_names ({} : Dispatcher Empty) name {} {} (ScriptedRolls.fixed 0) 0
  have unknown (name : String) (h : FormulaId.ofName name = .error (.unknownName name)) :
      (strike name).damage = .error (.failed (.unknownName name)) := by
    obtain ⟨-, refused, -, -, -, unnamed⟩ := read name
    simp only [strike]
    rw [unnamed (refused.1 h)]
  refine ⟨?_, unknown _ (by decide), unknown _ (by decide)⟩
  obtain ⟨-, -, -, zeros, named, -⟩ := read "damage_00010001"
  simp only [strike]
  rw [named 10001 (zeros 3 10001)]
  decide +kernel

end Dispatcher

end Skirmish

import Mathlib.Data.List.Induction
import Skirmish.Proofs.ParameterLayers
import Skirmish.Proofs.Simulation

namespace Skirmish

namespace Scenario

def targetsKey : String := "attack_target_count"

variable {s s' : Scenario}

theorem targetCount_setField_of_ne {key : String} {v : Toml.Value} (ne : key ≠ targetsKey)
    (h : s.setField key v = .ok s') : s'.targetCount = s.targetCount := by
  unfold setField at h
  split at h
  case h_8 => exact absurd rfl ne
  case h_13 => cases h; rfl
  all_goals
    obtain ⟨_, -, e⟩ := exists_of_bind_eq_ok h
    cases e
    rfl

theorem targetCount_setField {v : Toml.Value} (h : s.setField targetsKey v = .ok s') :
    v.readInt64.map some = .ok s'.targetCount := by
  obtain ⟨n, read, e⟩ := exists_of_bind_eq_ok h
  cases e
  rw [read]
  rfl

theorem targetCount_of_ofToml {es : Toml.Entries} (h : ofToml es = .ok s) :
    (es.reverse.lookup targetsKey).mapM Toml.Value.readInt64 = .ok s.targetCount := by
  rw [ofToml] at h
  induction es using List.reverseRecOn generalizing s with
  | nil => cases h; rfl
  | append_singleton es e ih =>
    obtain ⟨key, v⟩ := e
    rw [List.foldlM_append] at h
    obtain ⟨before, first, last⟩ := exists_of_bind_eq_ok h
    obtain ⟨_, step, stop⟩ := exists_of_bind_eq_ok last
    cases stop
    rw [List.reverse_append, List.reverse_singleton, List.singleton_append, List.lookup_cons]
    by_cases same : targetsKey = key
    · rw [beq_iff_eq.2 same]
      exact targetCount_setField (same ▸ step)
    · rw [beq_false_of_ne same, targetCount_setField_of_ne (Ne.symm same) step]
      exact ih first

theorem targetCount_context (s : Scenario) (t : ParameterTable) (id : FormulaId) :
    (s.context t id).targetCount = s.targetCount.getD s.constants.targetCount := by
  rw [← contextListed_ascending, contextListed_eq]

theorem eq_of_validate (h : s'.validate = .ok s) : s' = s := by
  rw [validate] at h
  split at h
  · cases h
  · split at h <;> cases h
    rfl

theorem exists_document_of_parse {text : String} (h : parse text = .ok s) :
    ∃ es, Toml.parse? text = some es ∧ ofToml es = .ok s ∧ s.validate = .ok s := by
  rw [parse] at h
  split at h
  · cases h
  · rename_i es document
    split at h
    · cases h
    · rename_i read
      obtain rfl := eq_of_validate h
      exact ⟨es, document, read, h⟩

theorem validate_withTargets (n : Option Int64) (h : s.validate = .ok s) :
    validate { s with targetCount := n } = .ok { s with targetCount := n } := by
  rw [validate] at h ⊢
  split at h
  · cases h
  · split at h
    · cases h
    · rename_i valid runs
      simp only [valid, if_neg runs]

/-- Of an accepted scenario the constants name one target at least, and this is the number of targets
of a run unless the document gives one of the scenario's own. That one may be any number: then a run
has a target exactly if it is positive. -/
theorem one_le_targetCount_iff {text : String} (accepted : parse text = .ok s) :
    1 ≤ s.constants.targetCount ∧
      (∃ es, Toml.parse? text = some es ∧
        (es.reverse.lookup targetsKey).mapM Toml.Value.readInt64 = .ok s.targetCount) ∧
      (∀ n, validate { s with targetCount := n } = .ok { s with targetCount := n }) ∧
      ∀ t id,
        (s.context t id).targetCount = s.targetCount.getD s.constants.targetCount ∧
          (1 ≤ (s.context t id).targetCount ↔ ∀ n, s.targetCount = some n → 1 ≤ n) := by
  obtain ⟨es, document, read, valid⟩ := exists_document_of_parse accepted
  have constants : 1 ≤ s.constants.targetCount :=
    CombatConstants.one_le_targetCount_of_validate (validate_constants_of_validate valid)
  refine ⟨constants, ⟨es, document, targetCount_of_ofToml read⟩,
    fun n => validate_withTargets n valid, fun t id => ⟨targetCount_context s t id, ?_⟩⟩
  rw [targetCount_context]
  cases s.targetCount with
  | none => simp [constants]
  | some n => simp

def untargetedText : String := "formula = 10001\nattack_target_count = 0\n"

theorem parse_untargeted :
    ∃ s, parse untargetedText = .ok s ∧ ∀ t id, ¬ 1 ≤ (s.context t id).targetCount := by
  refine ⟨{ formula := some 10001, targetCount := some 0 }, by decide +kernel, fun t id => ?_⟩
  rw [targetCount_context]
  decide

theorem parse_threeTargets :
    ∃ s, parse "formula = 10001\nattack_target_count = 3\n" = .ok s ∧
      ∀ t id, (s.context t id).targetCount = 3 ∧ 1 ≤ (s.context t id).targetCount := by
  let s : Scenario := { formula := some 10001, targetCount := some 3 }
  have accepted : parse "formula = 10001\nattack_target_count = 3\n" = .ok s := by decide +kernel
  refine ⟨s, accepted, fun t id => ?_⟩
  obtain ⟨-, -, -, targets⟩ := one_le_targetCount_iff accepted
  obtain ⟨count, some_iff⟩ := targets t id
  exact ⟨count, some_iff.2 fun n own => by cases own; decide⟩

end Scenario

end Skirmish

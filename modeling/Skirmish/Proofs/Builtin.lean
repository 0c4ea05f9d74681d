import Skirmish.Proofs.Trail

namespace Skirmish

variable {σ ω : Type}

theorem Registry.entries_builtin :
    (Registry.builtin : Registry ω).formulas.entries = Builtin.formulas := by
  apply Table.entries_insertMany
  simp only [Table.empty, List.nil_append, Builtin.formulas, List.pairwise_cons, List.mem_cons,
    forall_eq_or_imp, List.not_mem_nil, false_implies, implies_true, List.Pairwise.nil, and_true]
  decide

theorem Registry.mem_of_get_builtin {id : FormulaId} {f : Formula ω}
    (h : Registry.builtin.get id = .ok f) : (id, f) ∈ Builtin.formulas := by
  rw [get_eq_ok_iff, Table.get?_eq_some_iff, entries_builtin] at h
  exact h

namespace Builtin

theorem cases_of_mem {id : FormulaId} {f : Formula ω} (h : (id, f) ∈ formulas) :
    f = ⟨alwaysHits, fixedStrike⟩ ∨ f = ⟨evadable, scaledStrike⟩ ∨
      f = ⟨alwaysHits, skillStrike⟩ := by
  simp only [formulas, List.mem_cons, Prod.mk.injEq, List.not_mem_nil, or_false] at h
  obtain ⟨-, h⟩ | ⟨-, h⟩ | ⟨-, h⟩ := h
  · exact .inl h
  · exact .inr (.inl h)
  · exact .inr (.inr h)

theorem only_of_mem {id : FormulaId} {f : Formula ω} (h : (id, f) ∈ formulas) (init : Amount)
    {allowed : Call ω → Prop} (hit : ∀ b, allowed (.damageHit b))
    (damage : ∀ type amount, allowed (.write (.damage type amount))) :
    (f.damage init).Only allowed := by
  obtain rfl | rfl | rfl := cases_of_mem h
  · exact fun b => ⟨hit b, damage _ _, trivial⟩
  · intro c b
    refine ⟨hit b, ?_⟩
    cases b with
    | false => exact ⟨damage _ _, trivial⟩
    | true =>
      apply Program.Only.bind (Program.only_param allowed _)
      intro ratio
      apply Program.Only.bind (Program.only_param allowed _)
      intro flat
      exact ⟨damage _ _, trivial⟩
  · intro c b
    refine ⟨hit b, ?_⟩
    cases b with
    | false => exact ⟨damage _ _, trivial⟩
    | true =>
      apply Program.Only.bind (Program.only_param allowed _)
      intro rate
      exact ⟨damage _ _, trivial⟩

theorem run_eq_damageHit [RandomSource σ] {id : FormulaId} {f : Formula ω}
    (h : (id, f) ∈ formulas) (s : Setting) (init : Amount) :
    ∃ k, ∀ scope : Scope σ ω,
      (f.damage init).run s scope = (Program.damageHit k).run s scope := by
  obtain rfl | rfl | rfl := cases_of_mem h
  · exact ⟨_, fun _ => rfl⟩
  · exact ⟨_, fun _ => rfl⟩
  · exact ⟨_, fun _ => rfl⟩

end Builtin

end Skirmish

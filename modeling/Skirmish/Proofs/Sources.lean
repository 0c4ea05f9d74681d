import Skirmish.Proofs.Trail

namespace Skirmish

variable {σ τ ω α : Type}

/-- Two scopes that differ at most in their sources, which the relation ties to the outcome. -/
structure Scope.Alike (R : Option Bool → σ → τ → Prop) (a : Scope σ ω) (b : Scope τ ω) : Prop where
  context : a.context = b.context
  outcome : a.outcome = b.outcome
  observed : a.observed = b.observed
  source : R a.outcome a.source b.source

variable [RandomSource σ] [RandomSource τ] {R : Option Bool → σ → τ → Prop}

def RollsAlike (R : Option Bool → σ → τ → Prop) : Prop :=
  ∀ x y rate, R none x y → (resolveHit x rate).1 = (resolveHit y rate).1 ∧
    R (some (resolveHit x rate).1) (resolveHit x rate).2 (resolveHit y rate).2

def Call.DrawsAlike (R : Option Bool → σ → τ → Prop) : Call ω → Prop
  | .randomInt min max _ => ∀ o x y, R o x y →
      (boundedInt x min max).1 = (boundedInt y min max).1 ∧
        R o (boundedInt x min max).2 (boundedInt y min max).2
  | _ => True

structure RunAlike (R : Option Bool → σ → τ → Prop) (x : Except Halt α × Scope σ ω)
    (y : Except Halt α × Scope τ ω) : Prop where
  result : x.1 = y.1
  scope : x.2.Alike R y.2

theorem Scope.Alike.roll {a : Scope σ ω} {b : Scope τ ω} (h : a.Alike R b) (roll : RollsAlike R)
    (unrolled : a.outcome = none) (s : Setting) (rate : Int64) :
    (a.roll s rate).1 = (b.roll s rate).1 ∧ (a.roll s rate).2.Alike R (b.roll s rate).2 := by
  have source := h.source
  rw [unrolled] at source
  obtain ⟨hit, after⟩ := roll _ _ rate source
  refine ⟨hit, ⟨?_, congrArg some hit, h.observed, after⟩⟩
  rw [context_roll, context_roll, h.context, hit]

theorem Program.run_alike (roll : RollsAlike R) {s : Setting} (p : Program ω α) {a : Scope σ ω}
    {b : Scope τ ω} (h : a.Alike R b) (draw : ∀ call ∈ p.calls s a, call.DrawsAlike R) :
    RunAlike R (p.run s a) (p.run s b) ∧ p.calls s a = p.calls s b := by
  induction p generalizing a b with
  | done | fail => exact ⟨⟨rfl, h⟩, rfl⟩
  | readId k ih => exact ih s.id h draw
  | readContext k ih =>
    have := ih a.context h draw
    simp only [run, calls, ← h.context]
    exact this
  | readCombatants k ih => exact ih s.combatants h draw
  | hitRate k ih =>
    simp only [run, calls, ← h.context] at draw ⊢
    cases hr : s.rate? a.context with
    | none => exact ⟨⟨rfl, h⟩, rfl⟩
    | some rate =>
      simp only [hr] at draw ⊢
      obtain ⟨runs, calls⟩ := ih rate h (List.forall_mem_cons.1 draw).2
      exact ⟨runs, congrArg _ calls⟩
  | damageHit k ih =>
    simp only [run, calls, ← h.context, ← h.outcome] at draw ⊢
    cases ho : a.outcome with
    | some hit =>
      simp only [ho] at draw ⊢
      obtain ⟨runs, calls⟩ := ih hit h (List.forall_mem_cons.1 draw).2
      exact ⟨runs, congrArg _ calls⟩
    | none =>
      cases hr : s.rate? a.context with
      | none => exact ⟨⟨rfl, h⟩, rfl⟩
      | some rate =>
        simp only [ho, hr] at draw ⊢
        obtain ⟨hit, after⟩ := h.roll roll ho s rate
        obtain ⟨runs, calls⟩ := ih _ after (List.forall_mem_cons.1 draw).2
        rw [← hit, ← calls]
        exact ⟨runs, rfl⟩
  | hitOutcome k ih =>
    simp only [run, calls, ← h.outcome] at draw ⊢
    obtain ⟨runs, calls⟩ := ih _ h (List.forall_mem_cons.1 draw).2
    exact ⟨runs, congrArg _ calls⟩
  | randomInt min max k ih =>
    simp only [run, calls] at draw ⊢
    obtain ⟨first, rest⟩ := List.forall_mem_cons.1 draw
    obtain ⟨answer, source⟩ := first _ _ _ h.source
    have after : Scope.Alike R { a with source := (boundedInt a.source min max).2 }
        { b with source := (boundedInt b.source min max).2 } := { h with source := source }
    obtain ⟨runs, calls⟩ := ih _ after rest
    rw [← answer, ← calls]
    exact ⟨runs, rfl⟩
  | write w p ih =>
    have after : Scope.Alike R { a with context := a.context.write s.id w }
        { b with context := b.context.write s.id w } := { h with context := by rw [h.context] }
    obtain ⟨runs, calls⟩ := ih after (List.forall_mem_cons.1 draw).2
    exact ⟨runs, congrArg _ calls⟩
  | emit o p ih =>
    have after : Scope.Alike R { a with observed := a.observed ++ [o] }
        { b with observed := b.observed ++ [o] } := { h with observed := by rw [h.observed] }
    obtain ⟨runs, calls⟩ := ih after (List.forall_mem_cons.1 draw).2
    exact ⟨runs, congrArg _ calls⟩

end Skirmish

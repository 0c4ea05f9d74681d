import Skirmish.Proofs.Builtin
import Skirmish.Proofs.HitRoll
import Skirmish.Random.Scripted

/-!
Evaluations that draw nothing but their roll. All that they do is settled by one draw, and the next
evaluation finds the source one draw further on; the built-in formulas are of this kind.
-/

namespace Skirmish

variable {σ τ ω α : Type} [RandomSource σ] [RandomSource τ]

def draw (source : σ) : UInt64 := (nextBelow source basisPoints.toUInt64).1

def advance (source : σ) : σ := (nextBelow source basisPoints.toUInt64).2

def drawAt (source : σ) : Nat → UInt64
  | 0 => draw source
  | i + 1 => drawAt (advance source) i

theorem drawAt_lt [LawfulRandomSource σ] (source : σ) (i : Nat) :
    drawAt source i < basisPoints.toUInt64 := by
  induction i generalizing source with
  | zero => exact nextBelow_lt source (by decide)
  | succ i ih => exact ih (advance source)

def highestDraw : Int64 := basisPoints - 1

theorem toInt64_le_of_highestDraw_le {n : UInt64} {rate : Int64} (h : n < basisPoints.toUInt64)
    (reaches : highestDraw ≤ rate) : n.toInt64 ≤ rate := by
  obtain ⟨value, below⟩ := toInt_of_lt_basisPoints h
  have highest : highestDraw.toInt = 9999 := by decide
  rw [Int64.le_iff_toInt_le, highest] at reaches
  rw [Int64.le_iff_toInt_le, value]
  omega

theorem answer_fixed {n bound : UInt64} (h : n < bound) :
    ScriptedRolls.answer [n] 0 bound = n := by
  have lt := UInt64.lt_iff_toNat_lt.1 h
  have one_le : 1 ≤ bound := UInt64.le_iff_toNat_le.2 (Nat.one_le_of_lt lt)
  have le : n ≤ bound - 1 := by
    rw [UInt64.le_iff_toNat_le, UInt64.toNat_sub_of_le bound 1 one_le]
    exact Nat.le_pred_of_lt lt
  have pos : bound ≠ 0 := by rintro rfl; cases lt
  show (if bound = 0 then 0 else min n (bound - 1)) = n
  rw [if_neg pos]
  exact if_pos le

theorem draw_fixed {n : UInt64} (h : n < basisPoints.toUInt64) :
    draw (ScriptedRolls.fixed n) = n := answer_fixed h

def SameRoll (o : Option Bool) (x : σ) (y : τ) : Prop := o = none → draw x = draw y

theorem SameRoll.rollsAlike : RollsAlike (SameRoll (σ := σ) (τ := τ)) := by
  intro x y rate h
  have same : draw x = draw y := h rfl
  refine ⟨?_, fun e => by cases e⟩
  show decide ((draw x).toInt64 ≤ rate) = decide ((draw y).toInt64 ≤ rate)
  rw [same]

def Scope.OneDraw (a b : Scope σ ω) : Prop :=
  (b.outcome = a.outcome ∧ b.source = a.source) ∨
    (a.outcome = none ∧ b.outcome ≠ none ∧ b.source = advance a.source)

theorem Scope.OneDraw.trans {a b c : Scope σ ω} (h : a.OneDraw b) (k : b.OneDraw c) :
    a.OneDraw c := by
  cases h with
  | inl h =>
    rw [OneDraw, h.1, h.2] at k
    exact k
  | inr h =>
    cases k with
    | inl k => exact .inr ⟨h.1, k.1 ▸ h.2.1, k.2.trans h.2.2⟩
    | inr k => exact absurd k.1 h.2.1

theorem Call.Step.oneDraw {s : Setting} {a b : Scope σ ω} {call : Call ω} (h : Call.Step s a call b)
    (undrawn : call.drawsInt = false) : a.OneDraw b := by
  cases h with
  | roll ho => exact .inr ⟨ho, by simp, rfl⟩
  | @randomInt min max =>
    have : max ≤ min := by simpa [Call.drawsInt] using undrawn
    exact .inl ⟨rfl, by simp [boundedInt, this]⟩
  | hitRate | again | hitOutcome | write | emit => exact .inl ⟨rfl, rfl⟩

theorem Trail.oneDraw {s : Setting} {a b : Scope σ ω} {calls : List (Call ω)}
    (h : Trail s a calls b) (undrawn : ∀ call ∈ calls, call.drawsInt = false) : a.OneDraw b :=
  h.relate (fun _ => .inl ⟨rfl, rfl⟩) .trans fun call hc step => step.oneDraw (undrawn call hc)

theorem Program.outcome_run_damageHit {s : Setting} (bounds : s.bounds.min ≤ s.bounds.max)
    (k : Bool → Program ω α) (scope : Scope σ ω) :
    ((damageHit k).run s scope).2.outcome ≠ none := by
  have outcome := ((damageHit k).trail_run (s := s) scope).outcome
  obtain ⟨rate, hr⟩ := Setting.exists_rate bounds scope.context
  rw [← Option.isSome_iff_ne_none, outcome, Bool.or_eq_true]
  cases ho : scope.outcome with
  | some hit => exact .inl rfl
  | none =>
    simp only [calls, ho, hr]
    exact .inr rfl

namespace Builtin

variable {id : FormulaId} {f : Formula ω}

theorem source_run (h : (id, f) ∈ formulas) {s : Setting} (bounds : s.bounds.min ≤ s.bounds.max)
    (init : Amount) (context : Context) (source : σ) :
    ((f.damage init).run s { context, source }).2.source = advance source := by
  let start : Scope σ ω := { context, source }
  have only : (f.damage init).Only fun call => call.drawsInt = false :=
    only_of_mem h init (fun _ => rfl) fun _ _ => rfl
  have oneDraw := ((f.damage init).trail_run (s := s) start).oneDraw (only.calls start)
  obtain ⟨k, begins⟩ := run_eq_damageHit (σ := σ) h s init
  -- The run begins with its roll, so it cannot be that nothing was drawn.
  cases oneDraw with
  | inl kept =>
    have rolled := Program.outcome_run_damageHit bounds k start
    rw [← begins] at rolled
    exact absurd kept.1 rolled
  | inr drawn => exact drawn.2.2

theorem run_sameRoll (h : (id, f) ∈ formulas) (s : Setting) (init : Amount) (context : Context)
    {x : σ} {y : τ} (same : draw x = draw y) :
    RunAlike SameRoll ((f.damage init).run s { context, source := x })
      ((f.damage init).run s { context, source := y }) := by
  have only : (f.damage init).Only fun call => call.DrawsAlike (SameRoll (σ := σ) (τ := τ)) :=
    only_of_mem h init (fun _ => trivial) fun _ _ => trivial
  let left : Scope σ ω := { context, source := x }
  let right : Scope τ ω := { context, source := y }
  have alike : left.Alike SameRoll right := ⟨rfl, rfl, rfl, fun _ => same⟩
  exact ((f.damage init).run_alike (s := s) SameRoll.rollsAlike alike (only.calls left)).1

end Builtin

namespace Dispatcher

variable {d : Dispatcher ω} (builtin : d.registry = .builtin) (id : FormulaId) (context : Context)
  (c : Combatants) (init : Amount)

include builtin

theorem evaluate_sameRoll {x : σ} {y : τ} (same : draw x = draw y) :
    (d.evaluate id context c x init).damage = (d.evaluate id context c y init).damage ∧
      (d.evaluate id context c x init).context = (d.evaluate id context c y init).context := by
  cases hf : d.registry.get id with
  | error e => simp only [evaluate_unknown hf, and_self]
  | ok f =>
    have mem := Registry.mem_of_get_builtin (builtin ▸ hf)
    have alike := Builtin.run_sameRoll mem (d.setting id f c) init context same
    have damage : (d.evaluate id context c x init).damage =
        (d.evaluate id context c y init).damage := by
      rw [damage_evaluate hf, damage_evaluate hf, alike.result]
    refine ⟨damage, ?_⟩
    rw [context_evaluate hf, context_evaluate hf, damage, alike.scope.context]

theorem source_evaluate_of_ok (bounds : d.constants.hit.min ≤ d.constants.hit.max) {source : σ}
    {damage : Amount} (h : (d.evaluate id context c source init).damage = .ok damage) :
    (d.evaluate id context c source init).source = advance source := by
  cases hf : d.registry.get id with
  | error e =>
    rw [evaluate_unknown hf] at h
    cases h
  | ok f =>
    have mem := Registry.mem_of_get_builtin (builtin ▸ hf)
    rw [source_evaluate hf]
    exact Builtin.source_run (s := d.setting id f c) mem bounds init context source

end Dispatcher

end Skirmish

import Skirmish.Proofs.Rollback
import Skirmish.Proofs.Sources

namespace Skirmish

variable {σ ω α : Type}

namespace Call

def asksHit : Call ω → Bool
  | .damageHit _ => true
  | _ => false

def drawsInt : Call ω → Bool
  | .randomInt min max _ => min < max
  | _ => false

def lines (id : FormulaId) : Call ω → List String
  | .write w => w.lines id
  | _ => []

def Agrees (o : Option Bool) : Call ω → Prop
  | .damageHit hit => o = some hit
  | .hitOutcome o' => o' = o
  | _ => True

end Call

/-- Between two scopes nothing rolled, and every answer fitted the outcome that there was. -/
structure Settled (s : Setting) (a b : Scope σ ω) (calls : List (Call ω)) : Prop where
  outcome : b.outcome = a.outcome
  agrees : ∀ call ∈ calls, call.Agrees a.outcome
  trace : b.context.trace = a.context.trace.map (· ++ calls.flatMap (Call.lines s.id))

theorem Settled.append {s : Setting} {a b c : Scope σ ω} {xs ys : List (Call ω)}
    (h : Settled s a b xs) (k : Settled s b c ys) : Settled s a c (xs ++ ys) where
  outcome := k.outcome.trans h.outcome
  agrees := by
    intro call hc
    cases List.mem_append.1 hc with
    | inl hx => exact h.agrees call hx
    | inr hy => exact h.outcome ▸ k.agrees call hy
  trace := by
    rw [List.flatMap_append]
    exact Context.trace_trans h.trace k.trace

@[ext] structure Metered (σ : Type) where
  source : σ
  draws : Nat

variable [RandomSource σ]

instance : RandomSource (Metered σ) where
  nextBelow m bound :=
    ((nextBelow m.source bound).1, ⟨(nextBelow m.source bound).2, m.draws + 1⟩)

namespace Metered

@[simp] theorem resolveHit_eq (m : Metered σ) (rate : Int64) :
    resolveHit m rate =
      ((resolveHit m.source rate).1, ⟨(resolveHit m.source rate).2, m.draws + 1⟩) := rfl

theorem boundedInt_eq (m : Metered σ) (min max : Int64) :
    boundedInt m min max = ((boundedInt m.source min max).1,
      ⟨(boundedInt m.source min max).2, m.draws + (decide (min < max)).toNat⟩) := by
  simp only [boundedInt]
  by_cases h : max ≤ min
  · have hlt : ¬ min < max := Std.not_lt.2 h
    simp [h, hlt]
  · have hlt : min < max := Std.not_le.1 h
    simp [h, hlt, nextBelow]

def Meters (_ : Option Bool) (source : σ) (m : Metered σ) : Prop := m.source = source

theorem rollsAlike : RollsAlike (Meters (σ := σ)) := by
  intro source m rate h
  subst h
  exact ⟨rfl, rfl⟩

theorem drawsAlike (call : Call ω) : call.DrawsAlike (Meters (σ := σ)) := by
  cases call with
  | randomInt min max n =>
    intro o source m h
    subst h
    rw [boundedInt_eq]
    exact ⟨rfl, rfl⟩
  | hitRate | damageHit | hitOutcome | write | emit => trivial

end Metered

variable {s : Setting}

theorem Call.Step.outcome {a b : Scope σ ω} {call : Call ω} (h : Call.Step s a call b) :
    b.outcome.isSome = (a.outcome.isSome || call.asksHit) := by
  cases h with
  | again ho => simp [ho]
  | roll => simp [Call.asksHit]
  | hitRate | hitOutcome | randomInt | write | emit => simp [Call.asksHit]

theorem Trail.outcome {a b : Scope σ ω} {calls : List (Call ω)} (h : Trail s a calls b) :
    b.outcome.isSome = (a.outcome.isSome || calls.any Call.asksHit) := by
  induction h with
  | nil => simp
  | cons step _ ih => rw [ih, step.outcome, List.any_cons, Bool.or_assoc]

theorem Call.Step.draws {a b : Scope (Metered σ) ω} {call : Call ω} (h : Call.Step s a call b) :
    b.source.draws + a.outcome.isSome.toNat =
      a.source.draws + b.outcome.isSome.toNat + call.drawsInt.toNat := by
  cases h with
  | again ho => simp [ho, Call.drawsInt]
  | roll ho => simp [ho, Call.drawsInt]
  | randomInt =>
    rw [Metered.boundedInt_eq]
    simp only [Call.drawsInt]
    omega
  | hitRate | hitOutcome | write | emit => simp [Call.drawsInt]

theorem Trail.draws {a b : Scope (Metered σ) ω} {calls : List (Call ω)} (h : Trail s a calls b) :
    b.source.draws + a.outcome.isSome.toNat =
      a.source.draws + b.outcome.isSome.toNat + calls.countP Call.drawsInt := by
  induction h with
  | nil => simp
  | cons step _ ih =>
    have := step.draws
    rw [List.countP_cons]
    cases hd : Call.drawsInt _ <;> simp [hd] at this ⊢ <;> omega

theorem Call.Step.settled {a b : Scope σ ω} {call : Call ω} (h : Call.Step s a call b)
    (unasked : a.outcome = none → call.asksHit = false) : Settled s a b [call] := by
  cases h with
  | again ho => exact ⟨rfl, by simpa [Call.Agrees] using ho, by simp [Call.lines]⟩
  | roll ho => exact absurd (unasked ho) (by simp [Call.asksHit])
  | write => exact ⟨rfl, by simp [Call.Agrees], by simpa [Call.lines] using Context.trace_write ..⟩
  | hitRate | hitOutcome | randomInt | emit =>
    exact ⟨rfl, by simp [Call.Agrees], by simp [Call.lines]⟩

theorem Trail.settled {a b : Scope σ ω} {calls : List (Call ω)} (h : Trail s a calls b)
    (unasked : a.outcome = none → ∀ call ∈ calls, call.asksHit = false) :
    Settled s a b calls := by
  induction h with
  | nil => exact ⟨rfl, List.forall_mem_nil _, by simp⟩
  | cons step _ ih =>
    have first := step.settled fun ho => unasked ho _ List.mem_cons_self
    apply first.append
    apply ih
    intro ho call hc
    exact unasked (first.outcome ▸ ho) call (List.mem_cons_of_mem _ hc)

/-- The rate of the setting's formula in a context, held within the setting's bounds. -/
def Setting.Gives (s : Setting) (c : Context) (rate : Int64) : Prop :=
  s.bounds.Holds (s.rawRate c s.combatants) rate

theorem Setting.gives_of_rate? {c : Context} {rate : Int64} (h : s.rate? c = some rate) :
    s.Gives c rate := HitBounds.holds_of_clamp h

/-- How the calls from a fresh scope to a final one were answered: without a roll, or by the roll of
the first question. -/
inductive RollAccount (s : Setting) (start final : Scope σ ω) (calls : List (Call ω)) : Prop
  | unasked (agrees : ∀ call ∈ calls, call.Agrees none) (outcome : final.outcome = none)
      (trace : final.context.trace =
        start.context.trace.map (· ++ calls.flatMap (Call.lines s.id)))
  | rolled (before after : List (Call ω)) (scope : Scope σ ω) (rate : Int64) (hit : Bool)
      (calls_eq : calls = before ++ .damageHit hit :: after)
      (reached : Trail s start before scope)
      (rate_eq : s.rate? scope.context = some rate)
      (given : s.Gives scope.context rate)
      (hit_eq : hit = decide ((nextBelow scope.source basisPoints.toUInt64).1.toInt64 ≤ rate))
      (agrees_before : ∀ call ∈ before, call.Agrees none)
      (agrees_after : ∀ call ∈ after, call.Agrees (some hit))
      (outcome : final.outcome = some hit)
      (trace : final.context.trace = start.context.trace.map (· ++
        (before.flatMap (Call.lines s.id) ++
          hitLine s.id rate hit :: after.flatMap (Call.lines s.id))))

theorem Trail.rollAccount {a b : Scope σ ω} {calls : List (Call ω)} (h : Trail s a calls b)
    (fresh : a.outcome = none) : RollAccount s a b calls := by
  -- The first question splits the calls: before it there is no outcome, after it there is one.
  cases hfind : calls.find? Call.asksHit with
  | none =>
    have settled := h.settled fun _ call hc => by simpa using List.find?_eq_none.1 hfind call hc
    exact .unasked (fresh ▸ settled.agrees) (settled.outcome.trans fresh) settled.trace
  | some call =>
    obtain ⟨asks, before, after, rfl, none_asks⟩ := List.find?_eq_some_iff_append.1 hfind
    obtain ⟨scope, reached, rest⟩ := h.split
    have early := reached.settled fun _ call hc => by simpa using none_asks call hc
    have unrolled : scope.outcome = none := early.outcome.trans fresh
    cases rest with
    | cons step later =>
      cases step with
      | again ho => exact absurd (unrolled.symm.trans ho) (by simp)
      | @roll rate _ hr =>
        have late := later.settled fun ho => absurd ho (by simp)
        exact .rolled before after scope rate _ rfl reached hr (Setting.gives_of_rate? hr) rfl
          (fresh ▸ early.agrees) late.agrees late.outcome
          (Context.trace_trans early.trace (Context.trace_trans (scope.trace_roll rate) late.trace))
      | hitRate | hitOutcome | randomInt | write | emit => cases asks

theorem Setting.exists_rate (bounds : s.bounds.min ≤ s.bounds.max) (c : Context) :
    ∃ rate, s.rate? c = some rate := by
  rw [← Option.isSome_iff_exists, Option.isSome_iff_ne_none, rate?, ne_eq,
    HitBounds.clamp_eq_none_iff]
  exact Int64.not_lt.2 bounds

theorem Program.run_ne_reversedBounds (bounds : s.bounds.min ≤ s.bounds.max) (p : Program ω α)
    (scope : Scope σ ω) : (p.run s scope).1 ≠ .error .reversedBounds := by
  induction p generalizing scope with
  | done a => intro e; cases e
  | fail e => intro e; cases e
  | readId k ih => exact ih _ scope
  | readContext k ih => exact ih _ scope
  | readCombatants k ih => exact ih _ scope
  | hitRate k ih =>
    obtain ⟨rate, hr⟩ := Setting.exists_rate bounds scope.context
    simp only [run, hr]
    exact ih rate scope
  | damageHit k ih =>
    obtain ⟨rate, hr⟩ := Setting.exists_rate bounds scope.context
    simp only [run, hr]
    split
    · exact ih _ scope
    · exact ih _ _
  | hitOutcome k ih => exact ih _ scope
  | randomInt min max k ih => exact ih _ _
  | write w p ih => exact ih _
  | emit o p ih => exact ih _

theorem Program.source_run_metered (p : Program ω α) (context : Context) (source : σ) :
    (p.run s { context, source := (⟨source, 0⟩ : Metered σ) }).2.source =
      ⟨(p.run s { context, source }).2.source,
        ((p.calls s { context, source }).any Call.asksHit).toNat +
          (p.calls s { context, source }).countP Call.drawsInt⟩ := by
  let plain : Scope σ ω := { context, source }
  let metered : Scope (Metered σ) ω := { context, source := ⟨source, 0⟩ }
  have alike : plain.Alike Metered.Meters metered := ⟨rfl, rfl, rfl, rfl⟩
  obtain ⟨runs, calls⟩ := p.run_alike (s := s) Metered.rollsAlike alike
    fun call _ => Metered.drawsAlike call
  have trail := p.trail_run (s := s) metered
  have draws := trail.draws
  rw [trail.outcome, ← calls] at draws
  apply Metered.ext
  · exact runs.scope.source
  · simpa [metered] using draws

namespace Dispatcher

theorem hitRate_eq_ok_iff {d : Dispatcher ω} {id : FormulaId} {f : Formula ω}
    (registered : d.registry.get id = .ok f) {context : Context} {c : Combatants} {rate : Int64} :
    d.hitRate id context c = .ok rate ↔ (d.setting id f c).rate? context = some rate := by
  simp only [hitRate, registered]
  cases (d.setting id f c).rate? context <;> simp

theorem damage_evaluate_ne_reversedBounds {d : Dispatcher ω}
    (bounds : d.constants.hit.min ≤ d.constants.hit.max) (id : FormulaId) (context : Context)
    (c : Combatants) (source : σ) (init : Amount) :
    (d.evaluate id context c source init).damage ≠ .error .reversedBounds := by
  cases hf : d.registry.get id with
  | error e =>
    rw [evaluate_unknown hf]
    intro h
    cases h
  | ok f =>
    rw [damage_evaluate hf]
    exact (f.damage init).run_ne_reversedBounds (s := d.setting id f c) bounds _

/-- An evaluation rolls at most once, and accounts for every draw that it makes. -/
theorem evaluate_rolls_once {d : Dispatcher ω} {id : FormulaId} {f : Formula ω}
    (registered : d.registry.get id = .ok f)
    (bounds : d.constants.hit.min ≤ d.constants.hit.max) (context : Context) (c : Combatants)
    (source : σ) (init : Amount) :
    let s := d.setting id f c
    let start : Scope σ ω := { context, source }
    let final := ((f.damage init).run s start).2
    let calls := (f.damage init).calls s start
    let draws := (calls.any Call.asksHit).toNat + calls.countP Call.drawsInt
    (d.evaluate id context c source init).damage ≠ .error .reversedBounds ∧
      RollAccount s start final calls ∧
      (d.evaluate id context c (⟨source, 0⟩ : Metered σ) init).source =
        ⟨(d.evaluate id context c source init).source, draws⟩ := by
  intro s start final calls draws
  refine ⟨damage_evaluate_ne_reversedBounds bounds id context c source init,
    ((f.damage init).trail_run start).rollAccount rfl, ?_⟩
  · rw [source_evaluate registered, source_evaluate registered]
    exact (f.damage init).source_run_metered context source

def gambler : Dispatcher Empty where
  registry := ⟨.ofList [(7, gamble)]⟩
where
  gamble : Formula Empty := {
    hitRate := fun context _ => if context.damage.toList.isEmpty then 5000 else 0
    damage := fun init =>
      .randomInt 9 2 fun _ =>
      .damageHit fun _ =>
      .write (.damage .primary init) <|
      .damageHit fun _ =>
      .randomInt 1 6 fun _ =>
      .fail (.missingParameter 7 "par001") }

theorem evaluate_gambler :
    let start : Scope ScriptedRolls Empty := { context := {}, source := .ofList [100, 9000] }
    let s := gambler.setting 7 gambler.gamble {}
    RollAccount s start ((gambler.gamble.damage 5).run s start).2
        [.randomInt 9 2 9, .damageHit true, .write (.damage .primary 5), .damageHit true,
          .randomInt 1 6 6] ∧
      (gambler.evaluate 7 {} {} (⟨start.source, 0⟩ : Metered ScriptedRolls) 5).source =
        ⟨⟨[100, 9000], 2⟩, 2⟩ := by
  intro start s
  exact (evaluate_rolls_once (d := gambler) (f := gambler.gamble) rfl (by decide) {} {}
    start.source 5).2

end Dispatcher

end Skirmish

import Skirmish.Proofs.Trail
import Skirmish.Random.Scripted

namespace Skirmish

variable {σ ω : Type} [RandomSource σ]

namespace Context

/-- Lines and fights were only added, and what formulas cannot write is as before. -/
structure Grown (old new : Context) : Prop where
  trace : ∃ lines, new.trace = old.trace.map (· ++ lines)
  fights : old.fights <+: new.fights
  params : new.params = old.params
  targetCount : new.targetCount = old.targetCount

namespace Grown

theorem refl (c : Context) : c.Grown c where
  trace := ⟨[], by simp⟩
  fights := List.prefix_refl _
  params := rfl
  targetCount := rfl

theorem trans {a b c : Context} (h : a.Grown b) (k : b.Grown c) : a.Grown c where
  trace := by
    obtain ⟨xs, hx⟩ := h.trace
    obtain ⟨ys, hy⟩ := k.trace
    exact ⟨xs ++ ys, trace_trans hx hy⟩
  fights := h.fights.trans k.fights
  params := k.params.trans h.params
  targetCount := k.targetCount.trans h.targetCount

end Grown

theorem grown_appendTrace (c : Context) (line : String) : c.Grown (c.appendTrace line) := by
  refine ⟨⟨_, trace_appendTrace c line⟩, ?_, ?_, ?_⟩
  all_goals rw [appendTrace]; split <;> simp

theorem grown_write (c : Context) (id : FormulaId) (w : Write) : c.Grown (c.write id w) := by
  cases w with
  | damage type amount =>
    have stored : c.Grown (c.storeDamage type amount) :=
      { Grown.refl c with }
    exact stored.trans (grown_appendTrace _ _)
  | finalType type => exact { Grown.refl c with }
  | fight f => exact { Grown.refl c with fights := List.prefix_append _ _ }
  | line text => exact grown_appendTrace c text

theorem rollback_of_grown {old new : Context} (h : old.Grown new) :
    new.rollback old.checkpoint = old := by
  have fights : new.fights.take old.fights.length = old.fights :=
    (List.prefix_iff_eq_take.1 h.fights).symm
  have trace : new.trace.map (·.take old.traceLines.length) = old.trace := by
    obtain ⟨lines, ht⟩ := h.trace
    rw [ht, traceLines]
    cases old.trace <;> simp
  simp only [rollback, checkpoint, fights, trace, h.params, h.targetCount]

end Context

theorem Call.Step.grown {s : Setting} {a b : Scope σ ω} {call : Call ω} (h : Call.Step s a call b) :
    a.context.Grown b.context := by
  cases h with
  | roll =>
    rw [Scope.context_roll]
    exact Context.grown_appendTrace _ _
  | write => exact Context.grown_write _ _ _
  | hitRate | again | hitOutcome | randomInt | emit => exact .refl _

theorem Trail.grown {s : Setting} {a b : Scope σ ω} {calls : List (Call ω)}
    (h : Trail s a calls b) : a.context.Grown b.context :=
  h.relate (R := fun a b => a.context.Grown b.context) (fun _ => .refl _) .trans
    fun _ _ => Call.Step.grown

namespace Dispatcher

variable {d : Dispatcher ω} {id : FormulaId} {f : Formula ω}

theorem evaluate_unknown {e : FormulaError} (h : d.registry.get id = .error e) (context : Context)
    (c : Combatants) (source : σ) (init : Amount) :
    d.evaluate id context c source init = ⟨.error (.failed e), context, source, []⟩ := by
  simp only [evaluate, h]

theorem damage_evaluate (h : d.registry.get id = .ok f) (context : Context) (c : Combatants)
    (source : σ) (init : Amount) :
    (d.evaluate id context c source init).damage =
      ((f.damage init).run (d.setting id f c) { context, source }).1 := by
  simp only [evaluate, h]

theorem source_evaluate (h : d.registry.get id = .ok f) (context : Context) (c : Combatants)
    (source : σ) (init : Amount) :
    (d.evaluate id context c source init).source =
      ((f.damage init).run (d.setting id f c) { context, source }).2.source := by
  simp only [evaluate, h]

theorem context_evaluate (h : d.registry.get id = .ok f) (context : Context) (c : Combatants)
    (source : σ) (init : Amount) :
    (d.evaluate id context c source init).context =
      match (d.evaluate id context c source init).damage with
      | .error (.failed _) => context
      | _ => ((f.damage init).run (d.setting id f c) { context, source }).2.context := by
  have grown := ((f.damage init).trail_run (s := d.setting id f c) { context, source }).grown
  rw [damage_evaluate h]
  simp only [evaluate, h]
  split
  · rename_i e he
    rw [he]
    exact Context.rollback_of_grown grown
  · rename_i hne
    cases hr : ((f.damage init).run (d.setting id f c) { context, source }).1 with
    | ok amount => rfl
    | error halt =>
      cases halt with
      | failed e => exact absurd hr (hne e)
      | reversedBounds => rfl

/-- An evaluation that fails has no effect on its context, whatever its formula did before. -/
theorem context_evaluate_of_failed (d : Dispatcher ω) (id : FormulaId) (context : Context)
    (c : Combatants) (source : σ) (init : Amount) {e : FormulaError}
    (h : (d.evaluate id context c source init).damage = .error (.failed e)) :
    (d.evaluate id context c source init).context = context := by
  cases hf : d.registry.get id with
  | error e => rw [evaluate_unknown hf]
  | ok f => rw [context_evaluate hf, h]

def reckless : Dispatcher Empty where
  registry := ⟨.ofList [(7, {
    hitRate := fun _ _ => 5000
    damage := fun init =>
      .damageHit fun _ =>
      .write (.damage .primary init) <|
      .write (.damage 3 7) <|
      .write (.line "spent") <|
      .write (.finalType 3) <|
      .write (.fight ⟨1, true, 0⟩) <|
      .fail (.missingParameter 7 "par001") })]⟩

theorem context_evaluate_reckless :
    let context : Context := { damage := .ofList [(.primary, 50)], trace := some ["kept"] }
    let e := reckless.evaluate 7 context {} (ScriptedRolls.fixed 0) 99
    e.damage = .error (.failed (.missingParameter 7 "par001")) ∧ e.context = context :=
  ⟨rfl, context_evaluate_of_failed _ _ _ _ _ _ rfl⟩

end Dispatcher

end Skirmish

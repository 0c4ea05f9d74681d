import Skirmish.Proofs.Replay

namespace Skirmish

variable {σ ω : Type}

def lastStored? (type : CombatType) (stores : List (CombatType × Amount)) : Option Amount :=
  stores.reverse.lookup type

theorem lastStored?_eq_none {type : CombatType} {stores : List (CombatType × Amount)}
    (h : ∀ amount, (type, amount) ∉ stores) : lastStored? type stores = none := by
  rw [lastStored?, List.lookup_eq_none_iff]
  intro e he
  have ne : type ≠ e.1 := by
    rintro rfl
    exact h e.2 (List.mem_reverse.1 he)
  simpa using ne

theorem lastStored?_append (type : CombatType) (xs ys : List (CombatType × Amount)) :
    lastStored? type (xs ++ ys) = (lastStored? type ys).or (lastStored? type xs) := by
  rw [lastStored?, List.reverse_append, List.lookup_append]
  rfl

def Call.stores : Call ω → List (CombatType × Amount)
  | .write (.damage type amount) => [(type, amount)]
  | _ => []

namespace Context

theorem damageOf?_insertMany {old new : Context} {stores : List (CombatType × Amount)}
    (h : new.damage = old.damage.insertMany stores) (type : CombatType) :
    new.damageOf? type = (lastStored? type stores).or (old.damageOf? type) := by
  rw [damageOf?, h]
  exact old.damage.get?_insertMany stores type

@[simp] theorem damage_appendTrace (c : Context) (line : String) :
    (c.appendTrace line).damage = c.damage := by
  rw [appendTrace]
  split <;> rfl

theorem Grown.hasSink {old new : Context} (h : old.Grown new) : new.hasSink = old.hasSink := by
  obtain ⟨lines, ht⟩ := h.trace
  simp [Context.hasSink, ht]

theorem Grown.traceLines {old new : Context} (h : old.Grown new) :
    old.traceLines <+: new.traceLines := by
  obtain ⟨lines, ht⟩ := h.trace
  rw [Context.traceLines, Context.traceLines, ht]
  cases old.trace with
  | none => exact List.prefix_refl _
  | some start => exact List.prefix_append _ _

end Context

variable [RandomSource σ]

theorem Call.Step.damage {s : Setting} {a b : Scope σ ω} {call : Call ω}
    (h : Call.Step s a call b) :
    b.context.damage = a.context.damage.insertMany call.stores := by
  cases h with
  | roll => rw [Scope.context_roll, Context.damage_appendTrace]; rfl
  | @write w =>
    cases w with
    | damage type amount => exact Context.damage_appendTrace _ _
    | finalType | fight => rfl
    | line text => exact Context.damage_appendTrace _ _
  | hitRate | again | hitOutcome | randomInt | emit => rfl

theorem Trail.damage {s : Setting} {a b : Scope σ ω} {calls : List (Call ω)}
    (h : Trail s a calls b) :
    b.context.damage = a.context.damage.insertMany (calls.flatMap Call.stores) := by
  induction h with
  | nil => rfl
  | cons step _ ih => rw [ih, step.damage, List.flatMap_cons, Table.insertMany_append]

namespace Turn

def stores (turn : Turn σ ω) (c : Context) : List (CombatType × Amount) :=
  match turn.dispatcher.registry.get turn.id with
  | .error _ => []
  | .ok f =>
    let s := turn.dispatcher.setting turn.id f turn.combatants
    ((f.damage turn.init).calls s { context := c, source := turn.source }).flatMap Call.stores

def lasting (turn : Turn σ ω) (c : Context) : List (CombatType × Amount) :=
  match (turn.evaluate c).damage with
  | .ok _ => turn.stores c
  | .error _ => []

variable (turn : Turn σ ω) (c : Context)

theorem grown_evaluate : c.Grown (turn.evaluate c).context := by
  cases hf : turn.dispatcher.registry.get turn.id with
  | error e =>
    rw [evaluate, Dispatcher.evaluate_unknown hf]
    exact .refl c
  | ok f =>
    rw [evaluate, Dispatcher.context_evaluate hf]
    split
    · exact .refl c
    · let start : Scope σ ω := { context := c, source := turn.source }
      exact ((f.damage turn.init).trail_run start).grown

theorem context_evaluate_eq_self {e : FormulaError}
    (failed : (turn.evaluate c).damage = .error (.failed e)) : (turn.evaluate c).context = c := by
  cases hf : turn.dispatcher.registry.get turn.id with
  | error _ => rw [evaluate, Dispatcher.evaluate_unknown hf]
  | ok f =>
    rw [evaluate] at failed
    rw [evaluate, Dispatcher.context_evaluate hf, failed]

theorem damage_context_evaluate (unfailed : ∀ e, (turn.evaluate c).damage ≠ .error (.failed e)) :
    (turn.evaluate c).context.damage = c.damage.insertMany (turn.stores c) := by
  cases hf : turn.dispatcher.registry.get turn.id with
  | error e =>
    rw [evaluate, Dispatcher.evaluate_unknown hf] at unfailed
    exact absurd rfl (unfailed e)
  | ok f =>
    rw [evaluate, Dispatcher.context_evaluate hf]
    split
    · rename_i e he
      exact absurd he (unfailed e)
    · let start : Scope σ ω := { context := c, source := turn.source }
      simp only [stores, hf]
      exact ((f.damage turn.init).trail_run start).damage

theorem damageOf?_evaluate_of_unstored {type : CombatType}
    (unstored : ∀ amount, (type, amount) ∉ turn.stores c) :
    (turn.evaluate c).context.damageOf? type = c.damageOf? type := by
  -- A failed turn restores the context, whatever it stored on the way.
  by_cases h : ∃ e, (turn.evaluate c).damage = .error (.failed e)
  · obtain ⟨e, he⟩ := h
    rw [turn.context_evaluate_eq_self c he]
  · have damage := turn.damage_context_evaluate c fun e he => h ⟨e, he⟩
    rw [Context.damageOf?_insertMany damage, lastStored?_eq_none unstored, Option.none_or]

theorem damageOf?_evaluate_of_ok {damage : Amount} (ok : (turn.evaluate c).damage = .ok damage)
    (type : CombatType) :
    (turn.evaluate c).context.damageOf? type =
      (lastStored? type (turn.stores c)).or (c.damageOf? type) := by
  apply Context.damageOf?_insertMany
  apply turn.damage_context_evaluate
  intro e he
  cases ok.symm.trans he

theorem damageOf?_evaluate (returned : (turn.evaluate c).damage ≠ .error .reversedBounds)
    (type : CombatType) :
    (turn.evaluate c).context.damageOf? type =
      (lastStored? type (turn.lasting c)).or (c.damageOf? type) := by
  cases h : (turn.evaluate c).damage with
  | ok damage =>
    rw [turn.damageOf?_evaluate_of_ok c h, lasting, h]
  | error halt =>
    cases halt with
    | reversedBounds => exact absurd h returned
    | failed e =>
      rw [lasting, h, turn.context_evaluate_eq_self c h]
      rfl

end Turn

namespace Context

def Returns (c : Context) : List (Turn σ ω) → Prop
  | [] => True
  | turn :: turns =>
    (turn.evaluate c).damage ≠ .error .reversedBounds ∧ (turn.evaluate c).context.Returns turns

def lasting (c : Context) : List (Turn σ ω) → List (CombatType × Amount)
  | [] => []
  | turn :: turns => turn.lasting c ++ (turn.evaluate c).context.lasting turns

theorem damageOf?_play (c : Context) (turns : List (Turn σ ω)) (returns : c.Returns turns)
    (type : CombatType) :
    (c.play turns).damageOf? type = (lastStored? type (c.lasting turns)).or (c.damageOf? type) := by
  induction turns generalizing c with
  | nil => rfl
  | cons turn turns ih =>
    rw [play_cons, ih _ returns.2, turn.damageOf?_evaluate c returns.1, lasting,
      lastStored?_append, Option.or_assoc]

/-- Evaluations only add to what they may not overwrite, and the amount that a type has after any
number of them is the last one that a successful evaluation stored there. -/
theorem evaluations_add_and_store (context : Context) :
    (∀ turn : Turn σ ω,
      let stores := turn.stores context
      let after := (turn.evaluate context).context
      context.traceLines <+: after.traceLines ∧ context.fights <+: after.fights ∧
        after.hasSink = context.hasSink ∧ after.params = context.params ∧
        after.targetCount = context.targetCount ∧
        (∀ type, (∀ amount, (type, amount) ∉ stores) →
          after.damageOf? type = context.damageOf? type) ∧
        ∀ damage, (turn.evaluate context).damage = .ok damage → ∀ type amount,
          lastStored? type stores = some amount → after.damageOf? type = some amount) ∧
    ∀ turns : List (Turn σ ω), context.Returns turns → ∀ type,
      (context.play turns).damageOf? type =
        (lastStored? type (context.lasting turns)).or (context.damageOf? type) := by
  refine ⟨?_, context.damageOf?_play⟩
  intro turn stores after
  have grown := turn.grown_evaluate context
  refine ⟨grown.traceLines, grown.fights, grown.hasSink, grown.params, grown.targetCount, ?_, ?_⟩
  · intro type unstored
    exact turn.damageOf?_evaluate_of_unstored context unstored
  · intro damage ok type amount last
    rw [turn.damageOf?_evaluate_of_ok context ok, last, Option.some_or]

theorem evaluations_strike_reckless :
    let context : Context := { damage := .ofList [(3, -4)], trace := none }
    let strike : Turn ScriptedRolls Empty := ⟨{}, 10001, {}, .fixed 0, 0⟩
    let reckless : Turn ScriptedRolls Empty := ⟨.reckless, 7, {}, .fixed 0, 99⟩
    reckless.stores (context.play [strike]) = [(.primary, 99), (3, 7)] ∧
      (context.play [strike, reckless]).damageOf? .primary = some 100 ∧
      (context.play [strike, reckless]).damageOf? 3 = some (-4) := by
  intro context strike reckless
  have returns : context.Returns [strike, reckless] :=
    ⟨by decide +kernel, by decide +kernel, trivial⟩
  have last := (evaluations_add_and_store context).2 [strike, reckless] returns
  refine ⟨by decide +kernel, ?_, ?_⟩
  · rw [last]
    decide +kernel
  · rw [last]
    decide +kernel

end Context

end Skirmish

import Mathlib.Control.Monad.Basic
import Skirmish.Proofs.Builtin
import Skirmish.Proofs.Rollback

namespace Skirmish

variable {σ ω : Type}

inductive IsRecord : String → Prop
  | hit (id : FormulaId) (rate : Int64) (hit : Bool) : IsRecord (hitLine id rate hit)
  | damage (id : FormulaId) (type : CombatType) (amount : Amount) :
      IsRecord (damageLine id type amount)

theorem replay_append (xs ys : List String) (damage : Table CombatType Amount) :
    replay (xs ++ ys) damage = replay ys (replay xs damage) := by
  simp only [replay, List.filterMap_append, Table.insertMany_append]

@[simp] theorem replay_hitLine (id : FormulaId) (rate : Int64) (hit : Bool)
    (damage : Table CombatType Amount) : replay [hitLine id rate hit] damage = damage := by
  simp [replay]

@[simp] theorem replay_damageLine (id : FormulaId) (type : CombatType) (amount : Amount)
    (damage : Table CombatType Amount) :
    replay [damageLine id type amount] damage = damage.insert type amount := by
  simp [replay, Table.insertMany]

structure Turn (σ ω : Type) where
  dispatcher : Dispatcher ω
  id : FormulaId
  combatants : Combatants
  source : σ
  init : Amount

def Turn.Silent (turn : Turn σ ω) : Prop :=
  ∀ f, turn.dispatcher.registry.get turn.id = .ok f →
    (f.damage turn.init).Only fun call => ∀ text, call ≠ .write (.line text)

theorem Turn.silent_of_builtin {turn : Turn σ ω} (builtin : turn.dispatcher.registry = .builtin) :
    turn.Silent := by
  intro f h
  apply Builtin.only_of_mem (Registry.mem_of_get_builtin (builtin ▸ h))
  · intro b text e
    cases e
  · intro type amount text e
    cases e

variable [RandomSource σ]

def Turn.evaluate (turn : Turn σ ω) (c : Context) : Evaluation σ ω :=
  turn.dispatcher.evaluate turn.id c turn.combatants turn.source turn.init

namespace Context

def play (c : Context) (turns : List (Turn σ ω)) : Context :=
  turns.foldl (fun c turn => (turn.evaluate c).context) c

@[simp] theorem play_nil (c : Context) : c.play ([] : List (Turn σ ω)) = c := rfl

@[simp] theorem play_cons (c : Context) (turn : Turn σ ω) (turns : List (Turn σ ω)) :
    c.play (turn :: turns) = (turn.evaluate c).context.play turns := rfl

theorem play_append (c : Context) (xs ys : List (Turn σ ω)) :
    c.play (xs ++ ys) = (c.play xs).play ys :=
  List.foldl_append ..

structure Recorded (lines : List String) (old new : Context) : Prop where
  trace : new.trace = old.trace.map (· ++ lines)
  damage : new.damage = replay lines old.damage
  records : ∀ line ∈ lines, IsRecord line

namespace Recorded

theorem nil {old new : Context} (trace : new.trace = old.trace)
    (damage : new.damage = old.damage) : Recorded [] old new where
  trace := by simp [trace]
  damage := damage
  records := by simp

theorem append {a b c : Context} {xs ys : List String} (h : Recorded xs a b)
    (k : Recorded ys b c) : Recorded (xs ++ ys) a c where
  trace := trace_trans h.trace k.trace
  damage := by rw [replay_append, ← h.damage, k.damage]
  records := by
    intro line hl
    cases List.mem_append.1 hl with
    | inl hx => exact h.records line hx
    | inr hy => exact k.records line hy

end Recorded

theorem recorded_hitLine (c : Context) (id : FormulaId) (rate : Int64) (hit : Bool) :
    Recorded [hitLine id rate hit] c (c.appendTrace (hitLine id rate hit)) where
  trace := by simp [trace_appendTrace]
  damage := by simp [appendTrace]
  records := by
    intro line hl
    rw [List.mem_singleton.1 hl]
    exact .hit id rate hit

theorem recorded_damage (c : Context) (id : FormulaId) (type : CombatType) (amount : Amount) :
    Recorded [damageLine id type amount] c (c.write id (.damage type amount)) where
  trace := trace_write c id (.damage type amount)
  damage := by simp [write, storeDamage, appendTrace]
  records := by
    intro line hl
    rw [List.mem_singleton.1 hl]
    exact .damage id type amount

end Context

open Context (Recorded)

theorem Call.Step.recorded {s : Setting} {a b : Scope σ ω} {call : Call ω}
    (h : Call.Step s a call b) (silent : ∀ text, call ≠ .write (.line text)) :
    ∃ lines, Recorded lines a.context b.context := by
  cases h with
  | roll =>
    rw [Scope.context_roll]
    exact ⟨_, Context.recorded_hitLine _ _ _ _⟩
  | @write w =>
    cases w with
    | damage type amount => exact ⟨_, Context.recorded_damage _ _ _ _⟩
    | finalType | fight => exact ⟨[], .nil rfl rfl⟩
    | line text => exact absurd rfl (silent text)
  | hitRate | again | hitOutcome | randomInt | emit => exact ⟨[], .nil rfl rfl⟩

theorem Trail.recorded {s : Setting} {a b : Scope σ ω} {calls : List (Call ω)}
    (h : Trail s a calls b) (silent : ∀ call ∈ calls, ∀ text, call ≠ .write (.line text)) :
    ∃ lines, Recorded lines a.context b.context := by
  refine h.relate (R := fun a b => ∃ lines, Recorded lines a.context b.context) ?_ ?_ ?_
  · exact fun _ => ⟨[], .nil rfl rfl⟩
  · rintro a b c ⟨xs, hx⟩ ⟨ys, hy⟩
    exact ⟨xs ++ ys, hx.append hy⟩
  · intro a b call hc step
    exact step.recorded (silent call hc)

namespace Turn

theorem recorded_evaluate (turn : Turn σ ω) (silent : turn.Silent) (c : Context) :
    ∃ lines, Recorded lines c (turn.evaluate c).context := by
  cases hf : turn.dispatcher.registry.get turn.id with
  | error e =>
    rw [evaluate, Dispatcher.evaluate_unknown hf]
    exact ⟨[], .nil rfl rfl⟩
  | ok f =>
    rw [evaluate, Dispatcher.context_evaluate hf]
    split
    · exact ⟨[], .nil rfl rfl⟩
    · let scope : Scope σ ω := { context := c, source := turn.source }
      have trail := (f.damage turn.init).trail_run
        (s := turn.dispatcher.setting turn.id f turn.combatants) scope
      exact trail.recorded ((silent f hf).calls scope)

end Turn

namespace Context

theorem recorded_play (c : Context) (turns : List (Turn σ ω))
    (silent : ∀ turn ∈ turns, turn.Silent) :
    ∃ lines, Recorded lines c (c.play turns) := by
  induction turns generalizing c with
  | nil => exact ⟨[], .nil rfl rfl⟩
  | cons turn turns ih =>
    obtain ⟨xs, hx⟩ := turn.recorded_evaluate (silent turn List.mem_cons_self) c
    obtain ⟨ys, hy⟩ := ih (turn.evaluate c).context fun next h =>
      silent next (List.mem_cons_of_mem _ h)
    exact ⟨xs ++ ys, hx.append hy⟩

/-- The lines that evaluations add rebuild the damage, and those that fail add nothing. -/
theorem damage_play_eq_replay (turns : List (Turn σ ω)) (context : Context) {start : List String}
    (silent : ∀ turn ∈ turns, turn.Silent)
    (sink : context.trace = some start) :
    (∃ lines, (context.play turns).trace = some (start ++ lines) ∧
      (context.play turns).damage = replay lines context.damage ∧
      ∀ line ∈ lines, IsRecord line) ∧
    (∀ line type amount, readDamageLine? line = some (type, amount) ↔
      ∃ id, line = damageLine id type amount) ∧
    (∀ id rate hit, readDamageLine? (hitLine id rate hit) = none) ∧
    ∀ before (turn : Turn σ ω) e,
      (turn.evaluate (context.play before)).damage = .error (.failed e) →
      context.play (before ++ [turn]) = context.play before := by
  refine ⟨?_, fun _ _ _ => readDamageLine?_eq_some_iff, readDamageLine?_hitLine, ?_⟩
  · obtain ⟨lines, h⟩ := context.recorded_play turns silent
    exact ⟨lines, by rw [h.trace, sink]; rfl, h.damage, h.records⟩
  · intro before turn e h
    rw [play_append, play_cons, play_nil]
    cases hf : turn.dispatcher.registry.get turn.id with
    | error e => rw [Turn.evaluate, Dispatcher.evaluate_unknown hf]
    | ok f => rw [Turn.evaluate, Dispatcher.context_evaluate hf, ← Turn.evaluate, h]

theorem damage_play_strikes :
    let context : Context := { damage := .ofList [(3, -4)], trace := some ["kept"] }
    let strike (id : FormulaId) : Turn ScriptedRolls Empty := ⟨{}, id, {}, .fixed 0, 0⟩
    let turns := [strike 10001, strike 10002]
    (∃ lines, (context.play turns).trace = some ("kept" :: lines) ∧
      (context.play turns).damage = replay lines context.damage) ∧
    context.play turns = context.play [strike 10001] := by
  intro context strike turns
  have silent : ∀ turn ∈ turns, turn.Silent := by
    intro turn h
    simp only [turns, List.mem_cons, List.not_mem_nil, or_false] at h
    obtain rfl | rfl := h <;> exact Turn.silent_of_builtin rfl
  obtain ⟨⟨lines, trace, damage, -⟩, -, -, failed⟩ :=
    damage_play_eq_replay turns context silent rfl
  refine ⟨⟨lines, trace, damage⟩, failed [strike 10001] (strike 10002) ?_ ?_⟩
  · exact .missingParameter 10002 "par001"
  · decide +kernel

end Context

end Skirmish

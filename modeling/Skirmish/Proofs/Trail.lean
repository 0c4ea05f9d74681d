import Skirmish.Formula.Dispatcher

/-!
The calls that a run makes on its scope. Every call is a step from one scope to the next, and a run
ends where its calls lead, so what every step keeps every run keeps.
-/

namespace Skirmish

variable {σ ω α β : Type}

/-- Something that a program asks of its scope, with the answer, or does to it. -/
inductive Call (ω : Type)
  | hitRate : Int64 → Call ω
  | damageHit : Bool → Call ω
  | hitOutcome : Option Bool → Call ω
  | randomInt : Int64 → Int64 → Int64 → Call ω
  | write : Write → Call ω
  | emit : ω → Call ω

/-- What a call finds, answers and leaves behind. Only a scope that has no outcome yet rolls. -/
inductive Call.Step [RandomSource σ] (s : Setting) : Scope σ ω → Call ω → Scope σ ω → Prop
  | hitRate {scope : Scope σ ω} {rate : Int64} :
      s.rate? scope.context = some rate → Call.Step s scope (.hitRate rate) scope
  | again {scope : Scope σ ω} {hit : Bool} :
      scope.outcome = some hit → Call.Step s scope (.damageHit hit) scope
  | roll {scope : Scope σ ω} {rate : Int64} :
      scope.outcome = none → s.rate? scope.context = some rate →
      Call.Step s scope (.damageHit (scope.roll s rate).1) (scope.roll s rate).2
  | hitOutcome {scope : Scope σ ω} : Call.Step s scope (.hitOutcome scope.outcome) scope
  | randomInt {scope : Scope σ ω} {min max : Int64} :
      Call.Step s scope (.randomInt min max (boundedInt scope.source min max).1)
        { scope with source := (boundedInt scope.source min max).2 }
  | write {scope : Scope σ ω} {w : Write} :
      Call.Step s scope (.write w) { scope with context := scope.context.write s.id w }
  | emit {scope : Scope σ ω} {o : ω} :
      Call.Step s scope (.emit o) { scope with observed := scope.observed ++ [o] }

inductive Trail [RandomSource σ] (s : Setting) : Scope σ ω → List (Call ω) → Scope σ ω → Prop
  | nil {scope : Scope σ ω} : Trail s scope [] scope
  | cons {scope next last : Scope σ ω} {call : Call ω} {calls : List (Call ω)} :
      Call.Step s scope call next → Trail s next calls last → Trail s scope (call :: calls) last

/-- The calls of a run in order; a run that is halted leaves out the one that halts it. -/
def Program.calls [RandomSource σ] (s : Setting) : Program ω α → Scope σ ω → List (Call ω)
  | .done _, _ => []
  | .fail _, _ => []
  | .readId k, scope => (k s.id).calls s scope
  | .readContext k, scope => (k scope.context).calls s scope
  | .readCombatants k, scope => (k s.combatants).calls s scope
  | .hitRate k, scope =>
    match s.rate? scope.context with
    | some rate => .hitRate rate :: (k rate).calls s scope
    | none => []
  | .damageHit k, scope =>
    match scope.outcome with
    | some hit => .damageHit hit :: (k hit).calls s scope
    | none =>
      match s.rate? scope.context with
      | some rate =>
        let (hit, scope) := scope.roll s rate
        .damageHit hit :: (k hit).calls s scope
      | none => []
  | .hitOutcome k, scope => .hitOutcome scope.outcome :: (k scope.outcome).calls s scope
  | .randomInt min max k, scope =>
    let (n, source) := boundedInt scope.source min max
    .randomInt min max n :: (k n).calls s { scope with source := source }
  | .write w p, scope =>
    .write w :: p.calls s { scope with context := scope.context.write s.id w }
  | .emit o p, scope => .emit o :: p.calls s { scope with observed := scope.observed ++ [o] }

def Program.Only (allowed : Call ω → Prop) : Program ω α → Prop
  | .done _ => True
  | .fail _ => True
  | .readId k => ∀ id, (k id).Only allowed
  | .readContext k => ∀ c, (k c).Only allowed
  | .readCombatants k => ∀ c, (k c).Only allowed
  | .hitRate k => ∀ rate, allowed (.hitRate rate) ∧ (k rate).Only allowed
  | .damageHit k => ∀ hit, allowed (.damageHit hit) ∧ (k hit).Only allowed
  | .hitOutcome k => ∀ o, allowed (.hitOutcome o) ∧ (k o).Only allowed
  | .randomInt min max k => ∀ n, allowed (.randomInt min max n) ∧ (k n).Only allowed
  | .write w p => allowed (.write w) ∧ p.Only allowed
  | .emit o p => allowed (.emit o) ∧ p.Only allowed

namespace Program

theorem Only.bind {allowed : Call ω → Prop} {p : Program ω α} {f : α → Program ω β}
    (hp : p.Only allowed) (hf : ∀ a, (f a).Only allowed) : (p.bind f).Only allowed := by
  induction p with
  | done a => exact hf a
  | fail e => trivial
  | readId k ih => exact fun id => ih id (hp id)
  | readContext k ih => exact fun c => ih c (hp c)
  | readCombatants k ih => exact fun c => ih c (hp c)
  | hitRate k ih => exact fun rate => ⟨(hp rate).1, ih rate (hp rate).2⟩
  | damageHit k ih => exact fun hit => ⟨(hp hit).1, ih hit (hp hit).2⟩
  | hitOutcome k ih => exact fun o => ⟨(hp o).1, ih o (hp o).2⟩
  | randomInt min max k ih => exact fun n => ⟨(hp n).1, ih n (hp n).2⟩
  | write w p ih => exact ⟨hp.1, ih hp.2⟩
  | emit o p ih => exact ⟨hp.1, ih hp.2⟩

theorem only_param (allowed : Call ω → Prop) (name : String) : (param name).Only allowed := by
  intro c
  cases h : c.param? name with
  | none =>
    simp only [h]
    exact fun _ => trivial
  | some v =>
    simp only [h]
    trivial

end Program

def Write.lines (id : FormulaId) : Write → List String
  | .damage type amount => [damageLine id type amount]
  | .line text => if text.isEmpty then [] else [text]
  | .finalType _ => []
  | .fight _ => []

theorem Context.trace_appendTrace (c : Context) (line : String) :
    (c.appendTrace line).trace = c.trace.map (· ++ if line.isEmpty then [] else [line]) := by
  rw [appendTrace]
  split <;> simp

theorem Context.trace_trans {a b c : Context} {xs ys : List String}
    (h : b.trace = a.trace.map (· ++ xs)) (k : c.trace = b.trace.map (· ++ ys)) :
    c.trace = a.trace.map (· ++ (xs ++ ys)) := by
  rw [k, h, Option.map_map]
  congr 1
  funext lines
  exact List.append_assoc lines xs ys

theorem Context.trace_write (c : Context) (id : FormulaId) (w : Write) :
    (c.write id w).trace = c.trace.map (· ++ w.lines id) := by
  cases w with
  | damage type amount =>
    rw [write, trace_appendTrace]
    simp [storeDamage, Write.lines]
  | finalType type => simp [write, setFinalType, Write.lines]
  | fight f => simp [write, addFight, Write.lines]
  | line text => exact trace_appendTrace c text

variable [RandomSource σ] {s : Setting}

namespace Scope

@[simp] theorem source_roll (scope : Scope σ ω) (rate : Int64) :
    (scope.roll s rate).2.source = (resolveHit scope.source rate).2 := rfl

@[simp] theorem outcome_roll (scope : Scope σ ω) (rate : Int64) :
    (scope.roll s rate).2.outcome = some (resolveHit scope.source rate).1 := rfl

@[simp] theorem context_roll (scope : Scope σ ω) (rate : Int64) :
    (scope.roll s rate).2.context =
      scope.context.appendTrace (hitLine s.id rate (resolveHit scope.source rate).1) := rfl

theorem trace_roll (scope : Scope σ ω) (rate : Int64) :
    (scope.roll s rate).2.context.trace =
      scope.context.trace.map (· ++ [hitLine s.id rate (resolveHit scope.source rate).1]) := by
  simp [Context.trace_appendTrace]

end Scope

theorem Program.trail_run (p : Program ω α) (scope : Scope σ ω) :
    Trail s scope (p.calls s scope) (p.run s scope).2 := by
  induction p generalizing scope with
  | done | fail => exact .nil
  | readId k ih => exact ih s.id scope
  | readContext k ih => exact ih scope.context scope
  | readCombatants k ih => exact ih s.combatants scope
  | hitRate k ih =>
    simp only [calls, run]
    cases h : s.rate? scope.context with
    | none => exact .nil
    | some rate => exact .cons (.hitRate h) (ih rate scope)
  | damageHit k ih =>
    simp only [calls, run]
    cases ho : scope.outcome with
    | some hit => exact .cons (.again ho) (ih hit scope)
    | none =>
      cases hr : s.rate? scope.context with
      | none => exact .nil
      | some rate => exact .cons (.roll ho hr) (ih _ _)
  | hitOutcome k ih => exact .cons .hitOutcome (ih scope.outcome scope)
  | randomInt min max k ih => exact .cons .randomInt (ih _ _)
  | write w p ih => exact .cons .write (ih _)
  | emit o p ih => exact .cons .emit (ih _)

theorem Program.Only.calls {allowed : Call ω → Prop} {p : Program ω α} (h : p.Only allowed)
    (scope : Scope σ ω) : ∀ call ∈ p.calls s scope, allowed call := by
  induction p generalizing scope with
  | done | fail => exact List.forall_mem_nil _
  | readId k ih => exact ih _ (h _) scope
  | readContext k ih => exact ih _ (h _) scope
  | readCombatants k ih => exact ih _ (h _) scope
  | hitRate k ih =>
    simp only [Program.calls]
    split
    · exact List.forall_mem_cons.2 ⟨(h _).1, ih _ (h _).2 scope⟩
    · exact List.forall_mem_nil _
  | damageHit k ih =>
    simp only [Program.calls]
    split
    · exact List.forall_mem_cons.2 ⟨(h _).1, ih _ (h _).2 scope⟩
    · split
      · exact List.forall_mem_cons.2 ⟨(h _).1, ih _ (h _).2 _⟩
      · exact List.forall_mem_nil _
  | hitOutcome k ih => exact List.forall_mem_cons.2 ⟨(h _).1, ih _ (h _).2 scope⟩
  | randomInt min max k ih => exact List.forall_mem_cons.2 ⟨(h _).1, ih _ (h _).2 _⟩
  | write w p ih => exact List.forall_mem_cons.2 ⟨h.1, ih h.2 _⟩
  | emit o p ih => exact List.forall_mem_cons.2 ⟨h.1, ih h.2 _⟩

namespace Trail

theorem split {a c : Scope σ ω} {xs ys : List (Call ω)} (h : Trail s a (xs ++ ys) c) :
    ∃ b, Trail s a xs b ∧ Trail s b ys c := by
  -- The scope in between is where the first calls lead, so the induction follows them.
  induction xs generalizing a with
  | nil => exact ⟨a, .nil, h⟩
  | cons x xs ih =>
    cases h with
    | cons step rest =>
      obtain ⟨b, hb, hc⟩ := ih rest
      exact ⟨b, .cons step hb, hc⟩

theorem relate {R : Scope σ ω → Scope σ ω → Prop} {a b : Scope σ ω} {calls : List (Call ω)}
    (h : Trail s a calls b) (refl : ∀ a, R a a) (trans : ∀ {a b c}, R a b → R b c → R a c)
    (step : ∀ {a b}, ∀ call ∈ calls, Call.Step s a call b → R a b) : R a b := by
  induction h with
  | nil => exact refl _
  | cons first _ ih =>
    exact trans (step _ List.mem_cons_self first)
      (ih fun call hc => step call (List.mem_cons_of_mem _ hc))

end Trail

end Skirmish

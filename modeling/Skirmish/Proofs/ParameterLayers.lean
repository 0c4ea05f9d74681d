import Skirmish.Scenario

namespace Skirmish

/-- The entries of a table, each of them once, in any order. -/
structure Table.Listing {κ α : Type} [Ord κ] (t : Table κ α) where
  entries : List (κ × α)
  perm : entries.Perm t.toList

namespace Table.Listing

variable {κ α : Type} [Ord κ] {t : Table κ α}

def ascending (t : Table κ α) : t.Listing := ⟨t.toList, .refl _⟩

def descending (t : Table κ α) : t.Listing := ⟨t.toList.reverse, List.reverse_perm _⟩

theorem lookup_reverse [Std.TransOrd κ] [Std.LawfulEqOrd κ] [DecidableEq κ] (l : t.Listing)
    (k : κ) : l.entries.reverse.lookup k = t.get? k :=
  lookup_of_perm ((List.reverse_perm _).trans l.perm) k

end Table.Listing

namespace Context

def setParams (c : Context) (l : List (String × Float)) : Context :=
  { c with params := c.params.insertMany l }

theorem foldl_setParam (c : Context) (l : List (String × Float)) :
    l.foldl (fun c (name, value) => c.setParam name value) c = c.setParams l := by
  induction l generalizing c with
  | nil => rfl
  | cons e l ih => rw [List.foldl_cons, ih]; rfl

theorem setParams_append (c : Context) (l m : List (String × Float)) :
    c.setParams (l ++ m) = (c.setParams l).setParams m := by
  simp [setParams]

end Context

namespace ParameterEntry

variable (e : ParameterEntry)

def applyListed (bag : e.params.Listing) (c : Context) : Context :=
  let c := match e.damageRate with
    | some rate => c.setParam Context.damageRateName rate
    | none => c
  let c := match e.damageExt with
    | some ext => c.setParam Context.damageExtName ext
    | none => c
  bag.entries.foldl (fun c (name, value) => c.setParam name value) c

def writes (bag : e.params.Listing) : List (String × Float) :=
  (e.damageRate.map (Context.damageRateName, ·)).toList ++
    (e.damageExt.map (Context.damageExtName, ·)).toList ++ bag.entries

theorem applyListed_eq (bag : e.params.Listing) (c : Context) :
    e.applyListed bag c = c.setParams (e.writes bag) := by
  rw [applyListed, Context.foldl_setParam, writes, Context.setParams_append]
  cases e.damageRate <;> cases e.damageExt <;> rfl

def value? (name : String) : Option Float :=
  (e.params.get? name).or <|
    (if name = Context.damageRateName then e.damageRate else none).or <|
      if name = Context.damageExtName then e.damageExt else none

theorem lookup_field (field name : String) (value : Option Float) :
    (value.map (field, ·)).toList.lookup name = if name = field then value else none := by
  cases value with
  | none => simp
  | some v => exact Table.lookup_single name (field, v)

theorem lookup_writes (bag : e.params.Listing) (name : String) :
    (e.writes bag).reverse.lookup name = e.value? name := by
  have single (o : Option (String × Float)) : o.toList.reverse = o.toList := by cases o <;> rfl
  rw [writes, List.reverse_append, List.reverse_append, List.lookup_append, List.lookup_append,
    bag.lookup_reverse, single, single, lookup_field, lookup_field, value?]
  congr 1
  by_cases rate : name = Context.damageRateName
  · have ne : name ≠ Context.damageExtName := by rw [rate]; decide
    rw [if_neg ne, Option.none_or, Option.or_none]
  · rw [if_neg rate, Option.none_or, Option.or_none]

end ParameterEntry

namespace ParameterTable

variable (t : ParameterTable) (id : FormulaId)
variable (bags : ∀ e : ParameterEntry, e.params.Listing)

def contextListed (constants : CombatConstants) : Context :=
  match t.get? id with
  | some e => e.applyListed (bags e) (.ofConstants constants)
  | none => .ofConstants constants

def writes : List (String × Float) :=
  match t.get? id with
  | some e => e.writes (bags e)
  | none => []

theorem contextListed_eq (constants : CombatConstants) :
    t.contextListed id bags constants =
      (Context.ofConstants constants).setParams (t.writes id bags) := by
  rw [contextListed, writes]
  cases t.get? id with
  | none => rfl
  | some e => exact e.applyListed_eq (bags e) _

theorem lookup_writes (name : String) :
    (t.writes id bags).reverse.lookup name = (t.get? id).bind (·.value? name) := by
  rw [writes]
  cases t.get? id with
  | none => rfl
  | some e => exact e.lookup_writes (bags e) name

end ParameterTable

namespace Scenario

variable (s : Scenario) (t : ParameterTable) (id : FormulaId)
variable (bags : ∀ e : ParameterEntry, e.params.Listing) (own : s.params.Listing)

def contextListed : Context :=
  let c := t.contextListed id bags s.constants
  let c := own.entries.foldl (fun c (name, value) => c.setParam name value) c
  match s.targetCount with
  | some n => c.withTargetCount n
  | none => c

theorem contextListed_ascending :
    s.contextListed t id (fun e => .ascending e.params) (.ascending s.params) = s.context t id :=
  rfl

theorem contextListed_eq :
    s.contextListed t id bags own =
      { Context.ofConstants s.constants with
        params := .ofList (t.writes id bags ++ own.entries)
        targetCount := s.targetCount.getD s.constants.targetCount } := by
  rw [contextListed, Context.foldl_setParam, ParameterTable.contextListed_eq,
    ← Context.setParams_append]
  cases s.targetCount <;> rfl

theorem get?_writes (name : String) :
    (Table.ofList (t.writes id bags ++ own.entries)).get? name =
      (s.params.get? name).or ((t.get? id).bind (·.value? name)) := by
  rw [Table.ofList, Table.get?_insertMany, Table.get?_empty, Option.or_none, List.reverse_append,
    List.lookup_append, own.lookup_reverse, t.lookup_writes]

theorem contextListed_eq_context : s.contextListed t id bags own = s.context t id := by
  have same : Table.ofList (t.writes id bags ++ own.entries) =
      .ofList (t.writes id (fun e => .ascending e.params) ++ s.params.toList) := by
    apply Table.ext_get?
    intro name
    exact (s.get?_writes t id bags own name).trans (s.get?_writes t id _ (.ascending _) name).symm
  rw [← contextListed_ascending, contextListed_eq, contextListed_eq, same]
  rfl

/-- A parameter of a run is the scenario's own, or else the entry's. In whatever order the bags are
gone through, the context holds these parameters and no others. It is otherwise as the constants have
it, but for the number of targets, which the scenario may set. -/
theorem context_layers {l : List ParameterEntry} {t : ParameterTable}
    (built : ParameterTable.ofEntries l = .ok t) (s : Scenario) (id : FormulaId)
    (bags : ∀ e : ParameterEntry, e.params.Listing) (own : s.params.Listing) :
    let c := s.contextListed t id bags own
    let entry := l.find? (·.id == id)
    let layered := fun name => (s.params.get? name).or (entry.bind (·.value? name))
    c = s.context t id ∧ t.get? id = entry ∧ (∀ name, c.param? name = layered name) ∧
      (∀ name value, (name, value) ∈ c.params.toList ↔ layered name = some value) ∧
      c.damage = .empty ∧ c.traceLines = [] ∧ c.fights = [] ∧ c.finalType = none ∧
      c.hasSink = s.constants.traced ∧
      c.targetCount = s.targetCount.getD s.constants.targetCount := by
  intro c entry layered
  have found : t.get? id = entry := ParameterTable.get?_of_ofEntries built id
  have whole := s.contextListed_eq t id bags own
  have params (name : String) : c.param? name = layered name := by
    have held : c.params = .ofList (t.writes id bags ++ own.entries) := congrArg Context.params whole
    rw [Context.param?, held, s.get?_writes, found]
  refine ⟨s.contextListed_eq_context t id bags own, found, params, ?members, ?rest⟩
  case members =>
    intro name value
    rw [← params name]
    exact Table.get?_eq_some_iff.symm
  case rest =>
    simp only [c, whole, Context.ofConstants, Context.traceLines, Context.hasSink]
    cases s.constants.traced <;> simp

theorem context_layers_collision :
    let entry : ParameterEntry :=
      { id := 7, damageRate := some 1, damageExt := some 2,
        params := .ofList [("par001", 3), ("damageRate", 4)] }
    let s : Scenario := { params := .ofList [("damageExt", 5), ("par001", 6)], targetCount := some 3 }
    ∃ t, ParameterTable.ofEntries [entry] = .ok t ∧
      let c := s.contextListed t 7 (fun e => .descending e.params) (.ascending s.params)
      (c.damageRate?, c.damageExt?, c.param? "par001") = (some 4, some 5, some 6) ∧
        c.targetCount = 3 ∧ (s.context t 8).damageRate? = none := by
  intro entry s
  refine ⟨_, rfl, ?_⟩
  intro c
  obtain ⟨-, -, params, -, -, -, -, -, -, targets⟩ :=
    context_layers (l := [entry]) rfl s 7 (fun e => .descending e.params) (.ascending s.params)
  obtain ⟨same, -, without, -⟩ :=
    context_layers (l := [entry]) rfl s 8 (fun e => .ascending e.params) (.ascending s.params)
  rw [Context.damageRate?, Context.damageExt?, params, params, params, targets, ← same,
    Context.damageRate?, without]
  decide +kernel

end Scenario

end Skirmish

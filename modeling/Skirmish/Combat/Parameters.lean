import Skirmish.Combat.Context

namespace Skirmish

structure ParameterEntry where
  id : FormulaId
  damageRate : Option Float := none
  damageExt : Option Float := none
  params : Table String Float := .empty
  deriving DecidableEq

namespace ParameterEntry

/-- Named parameters go over the damage rate and the extra damage. -/
def applyTo (e : ParameterEntry) (c : Context) : Context :=
  let c := match e.damageRate with
    | some rate => c.setParam Context.damageRateName rate
    | none => c
  let c := match e.damageExt with
    | some ext => c.setParam Context.damageExtName ext
    | none => c
  e.params.toList.foldl (fun c (name, value) => c.setParam name value) c

end ParameterEntry

structure ParameterTable where
  entries : Table FormulaId ParameterEntry
  deriving DecidableEq

namespace ParameterTable

def empty : ParameterTable := ⟨.empty⟩

instance : Inhabited ParameterTable := ⟨empty⟩

def insertNew (t : ParameterTable) (e : ParameterEntry) : Except Violation ParameterTable :=
  if t.entries.contains e.id then .error (.duplicateParameters e.id)
  else .ok ⟨t.entries.insert e.id e⟩

def ofEntries (l : List ParameterEntry) : Except Violation ParameterTable :=
  l.foldlM insertNew empty

def get? (t : ParameterTable) (id : FormulaId) : Option ParameterEntry := t.entries.get? id

def size (t : ParameterTable) : Nat := t.entries.size

def isEmpty (t : ParameterTable) : Bool := t.entries.isEmpty

theorem insertNew_of_get?_eq_none {t : ParameterTable} {e : ParameterEntry}
    (h : t.get? e.id = none) : t.insertNew e = .ok ⟨t.entries.insert e.id e⟩ := by
  simp [insertNew, Table.contains, show t.entries.get? e.id = none from h]

theorem insertNew_of_get?_eq_some {t : ParameterTable} {e old : ParameterEntry}
    (h : t.get? e.id = some old) : t.insertNew e = .error (.duplicateParameters e.id) := by
  simp [insertNew, Table.contains, show t.entries.get? e.id = some old from h]

theorem get?_of_foldlM_insertNew {l : List ParameterEntry} {start t : ParameterTable}
    (h : l.foldlM insertNew start = .ok t) (id : FormulaId) :
    t.get? id = (start.get? id).or (l.find? (·.id == id)) := by
  induction l generalizing start with
  | nil => cases h; simp
  | cons e l ih =>
    rw [List.foldlM_cons] at h
    cases fresh : start.get? e.id with
    | some old => rw [insertNew_of_get?_eq_some fresh] at h; cases h
    | none =>
      rw [insertNew_of_get?_eq_none fresh] at h
      rw [ih h, get?, Table.get?_insert, List.find?_cons]
      by_cases same : id = e.id
      · rw [if_pos same, same, fresh]
        simp
      · rw [if_neg same, beq_false_of_ne (Ne.symm same)]
        rfl

theorem get?_of_ofEntries {l : List ParameterEntry} {t : ParameterTable} (h : ofEntries l = .ok t)
    (id : FormulaId) : t.get? id = l.find? (·.id == id) :=
  get?_of_foldlM_insertNew h id

def applyTo (t : ParameterTable) (id : FormulaId) (c : Context) : Context :=
  match t.get? id with
  | some e => e.applyTo c
  | none => c

def contextFor (t : ParameterTable) (id : FormulaId) (constants : CombatConstants) : Context :=
  t.applyTo id (.ofConstants constants)

def bundled : ParameterTable where
  entries := .ofList [
    (10001, { id := 10001 }),
    (10002, { id := 10002, params := .ofList [("par001", 5000), ("par002", 3)] }),
    (10003, { id := 10003, damageRate := some 10000, damageExt := some 0 })]

end ParameterTable

end Skirmish

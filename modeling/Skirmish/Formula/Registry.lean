import Skirmish.Formula.Name
import Skirmish.Formula.Program

namespace Skirmish

structure Formula (ω : Type) where
  hitRate : Context → Combatants → Int64
  damage : Amount → Program ω Amount

structure Registry (ω : Type) where
  formulas : Table FormulaId (Formula ω)

namespace Registry

variable {ω : Type}

def empty : Registry ω := ⟨.empty⟩

instance : EmptyCollection (Registry ω) := ⟨empty⟩

def register (r : Registry ω) (id : FormulaId) (f : Formula ω) : Except FormulaError (Registry ω) :=
  if r.formulas.contains id then .error (.alreadyRegistered id) else .ok ⟨r.formulas.insert id f⟩

def get (r : Registry ω) (id : FormulaId) : Except FormulaError (Formula ω) :=
  match r.formulas.get? id with
  | some f => .ok f
  | none => .error (.unknownFormula id)

theorem get_eq_ok_iff {r : Registry ω} {id : FormulaId} {f : Formula ω} :
    r.get id = .ok f ↔ r.formulas.get? id = some f := by
  unfold get
  split <;> simp_all

theorem get_eq_unknown_iff {r : Registry ω} {id : FormulaId} :
    r.get id = .error (.unknownFormula id) ↔ r.formulas.get? id = none := by
  unfold get
  split <;> simp_all

def getByName (r : Registry ω) (name : String) : Except FormulaError (FormulaId × Formula ω) := do
  let id ← FormulaId.ofName name
  let f ← r.get id
  return (id, f)

def contains (r : Registry ω) (id : FormulaId) : Bool := r.formulas.contains id

def ids (r : Registry ω) : List FormulaId := r.formulas.keys

def size (r : Registry ω) : Nat := r.formulas.size

def isEmpty (r : Registry ω) : Bool := r.formulas.isEmpty

def description (r : Registry ω) : String :=
  "FormulaRegistry \x7b ids: [" ++ ", ".intercalate (r.ids.map toString) ++ "] \x7d"

end Registry

def Formula.description {ω : Type} (_ : Formula ω) : String := "FormulaPair \x7b .. \x7d"

end Skirmish

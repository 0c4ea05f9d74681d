import Skirmish.Decimal
import Skirmish.Formula.Error
import Skirmish.Text

namespace Skirmish

namespace FormulaId

def nameStart : String := "damage_"

def name (id : FormulaId) : String := nameStart ++ toString id

def ofName? (name : String) : Option FormulaId :=
  (Text.dropStart? nameStart.toList name.toList).bind Decimal.readUInt32?

def ofName (name : String) : Except FormulaError FormulaId :=
  match ofName? name with
  | some id => .ok id
  | none => .error (.unknownName name)

@[simp] theorem ofName?_name (id : FormulaId) : ofName? id.name = some id := by
  have h : id.name.toList = nameStart.toList ++ Nat.toDigits 10 id.toNat := by
    simp [name, String.toList_append, show toString id = toString id.toNat from rfl]
  simp [ofName?, h]

end FormulaId

end Skirmish

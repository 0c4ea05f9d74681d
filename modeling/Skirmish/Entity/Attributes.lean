import Skirmish.Basic
import Skirmish.Decimal
import Skirmish.Table
import Skirmish.Text

namespace Skirmish

namespace AttributeId

def key (id : AttributeId) : String := toString id

def ofKey? (key : String) : Option AttributeId :=
  match Text.trim key.toList with
  | '+' :: ds => Decimal.readUInt32? ds
  | ds => Decimal.readUInt32? ds

theorem toList_key (id : AttributeId) : id.key.toList = Nat.toDigits 10 id.toNat := by
  simp [key, show toString id = toString id.toNat from rfl]

@[simp] theorem ofKey?_key (id : AttributeId) : ofKey? id.key = some id := by
  have digits := List.all_eq_true.1 (Decimal.all_toDigits id.toNat)
  unfold ofKey?
  rw [toList_key, Text.trim_of_all fun c hc => Text.isBlank_of_isDigit (digits c hc)]
  split
  · rename_i h
    exact absurd (digits '+' (h ▸ List.mem_cons_self)) (by decide)
  · simp

end AttributeId

abbrev Attributes := Table AttributeId Float

namespace Attributes

def encode (a : Attributes) : List (String × Float) :=
  a.toList.map fun (id, value) => (id.key, value)

def decode (l : List (String × Float)) : Except String Attributes :=
  match l.mapM entry with
  | .ok entries => .ok (.ofList entries)
  | .error key => .error key
where
  entry : String × Float → Except String (AttributeId × Float)
    | (key, value) =>
      match AttributeId.ofKey? key with
      | some id => .ok (id, value)
      | none => .error key

end Attributes

end Skirmish

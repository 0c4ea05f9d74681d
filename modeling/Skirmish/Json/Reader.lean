import Skirmish.Json
import Skirmish.Rounding

namespace Skirmish

namespace Json

def readInteger? (min max : Int) : Json Numeral → Option Int
  | number (.integer n) => if min ≤ n ∧ n ≤ max then some n else none
  | _ => none

def readInt64? (j : Json Numeral) : Option Int64 :=
  (j.readInteger? Int64.minValue.toInt Int64.maxValue.toInt).map Int64.ofInt

def readInt32? (j : Json Numeral) : Option Int32 :=
  (j.readInteger? Int32.minValue.toInt Int32.maxValue.toInt).map Int32.ofInt

def readUInt32? (j : Json Numeral) : Option UInt32 :=
  (j.readInteger? 0 4294967295).map fun n => UInt32.ofNat n.toNat

def readFloat? : Json Numeral → Option Float
  | number (.integer n) => some (Float.ofInt n)
  | number (.decimal x) => some x
  | _ => none

def readBool? : Json Numeral → Option Bool
  | bool b => some b
  | _ => none

def readString? : Json Numeral → Option String
  | string s => some s
  | _ => none

def readList? {α : Type} (read : Json Numeral → Option α) : Json Numeral → Option (List α)
  | array items => items.mapM read
  | _ => none

def readMembers? {κ α : Type} (readKey : String → Option κ) (read : Json Numeral → Option α) :
    Json Numeral → Option (List (κ × α))
  | object members => members.mapM fun (k, j) => do return (← readKey k, ← read j)
  | _ => none

abbrev Record := String → Option (Json Numeral)

def positional : List String → List (Json Numeral) → Record
  | name :: names, item :: items, key =>
    if key = name then some item else positional names items key
  | _, _, _ => none

/-- A record is an object, or an array of its fields in order, the first `least` at least. -/
def readRecord? (names : List String) (least : Nat) : Json Numeral → Option Record
  | object members => some fun key => findMember key members
  | array items =>
    if least ≤ items.length ∧ items.length ≤ names.length then some (positional names items)
    else none
  | _ => none

namespace Record

variable {α : Type}

def required (r : Record) (name : String) (read : Json Numeral → Option α) : Option α :=
  (r name).bind read

def withDefault (r : Record) (name : String) (default : α) (read : Json Numeral → Option α) :
    Option α :=
  match r name with
  | none => some default
  | some j => read j

def optional (r : Record) (name : String) (read : Json Numeral → Option α) : Option (Option α) :=
  match r name with
  | none | some null => some none
  | some j => (read j).map some

end Record

def ofInt (n : Int) : Json Numeral := number (.integer n)

def ofFloat (x : Float) : Json Numeral := if x.isFinite then number (.decimal x) else null

def ofOption {α : Type} (f : α → Json Numeral) : Option α → Json Numeral
  | none => null
  | some a => f a

@[simp] theorem readInt64?_ofInt (n : Int64) : readInt64? (ofInt n.toInt) = some n := by
  simp only [readInt64?, readInteger?, ofInt]
  rw [if_pos ⟨Int64.le_toInt n, Int64.toInt_le n⟩]
  simp

@[simp] theorem readInt32?_ofInt (n : Int32) : readInt32? (ofInt n.toInt) = some n := by
  simp only [readInt32?, readInteger?, ofInt]
  rw [if_pos ⟨Int32.minValue_le_toInt n, Int32.toInt_le n⟩]
  simp

@[simp] theorem readUInt32?_ofInt (n : UInt32) : readUInt32? (ofInt n.toNat) = some n := by
  have h := n.toNat_lt
  simp only [readUInt32?, readInteger?, ofInt]
  rw [if_pos ⟨by omega, by omega⟩]
  simp

theorem readList?_map {α : Type} {read : Json Numeral → Option α} {write : α → Json Numeral}
    (h : ∀ a, read (write a) = some a) (l : List α) :
    readList? read (.array (l.map write)) = some l := by
  rw [readList?]
  induction l with
  | nil => rfl
  | cons a l ih => rw [List.map_cons, List.mapM_cons, h, ih]; rfl

theorem readFloat?_ofFloat {x : Float} (h : x.isFinite) : readFloat? (ofFloat x) = some x := by
  simp [ofFloat, h, readFloat?]

end Json

end Skirmish

import Skirmish.Table
import Skirmish.Toml

namespace Skirmish

namespace Toml

inductive Fault
  | malformed
  | unfit
  | badKey : String → Fault
  deriving DecidableEq, Repr

abbrev Reading (α : Type) := Except Fault α

namespace Value

def readInteger (min max : Int) : Value → Reading Int
  | .integer n => if min ≤ n.toInt ∧ n.toInt ≤ max then .ok n.toInt else .error .unfit
  | _ => .error .unfit

def readInt64 : Value → Reading Int64
  | .integer n => .ok n
  | _ => .error .unfit

def readInt32 (v : Value) : Reading Int32 :=
  (v.readInteger Int32.minValue.toInt Int32.maxValue.toInt).map Int32.ofInt

def readUInt32 (v : Value) : Reading UInt32 :=
  (v.readInteger 0 4294967295).map fun n => UInt32.ofNat n.toNat

def readUInt64 (v : Value) : Reading UInt64 :=
  (v.readInteger 0 18446744073709551615).map fun n => UInt64.ofNat n.toNat

def readFloat : Value → Reading Float
  | .integer n => .ok (Float.ofInt n.toInt)
  | .float x => .ok x
  | _ => .error .unfit

def readBool : Value → Reading Bool
  | .bool b => .ok b
  | _ => .error .unfit

def readString : Value → Reading String
  | .string s => .ok s
  | _ => .error .unfit

def readList {α : Type} (read : Value → Reading α) : Value → Reading (List α)
  | .array items => items.mapM read
  | .tables parts => parts.mapM fun es => read (.table .header es)
  | _ => .error .unfit

def readFloats : Value → Reading (List (String × Float))
  | .table _ es => es.mapM fun (k, v) => do return (k, ← v.readFloat)
  | _ => .error .unfit

/-- The fields of a record as they are written: by name, or in order. In order there may be more
than the names unless `exact` forbids it. A date has no field of any name. -/
def readFields (names : List String) (exact : Bool) : Value → Reading Entries
  | .table _ es => .ok es
  | .date => .ok []
  | .array items => inOrder items
  | .tables parts => inOrder (parts.map (.table .header))
  | _ => .error .unfit
where
  inOrder (items : List Value) : Reading Entries :=
    if exact ∧ names.length < items.length then .error .unfit else .ok (names.zip items)

end Value

namespace Entries

variable {α : Type}

def required (es : Entries) (key : String) (read : Value → Reading α) : Reading α :=
  match es.get? key with
  | some v => read v
  | none => .error .unfit

def withDefault (es : Entries) (key : String) (default : α) (read : Value → Reading α) :
    Reading α :=
  match es.get? key with
  | some v => read v
  | none => .ok default

def optional (es : Entries) (key : String) (read : Value → Reading α) : Reading (Option α) :=
  match es.get? key with
  | some v => (read v).map some
  | none => .ok none

end Entries

end Toml

section Readings

variable {ε α β γ : Type} {f : β → α → Except ε β}

theorem exists_of_bind_eq_ok {x : Except ε α} {k : α → Except ε β} {b : β} (h : x >>= k = .ok b) :
    ∃ a, x = .ok a ∧ k a = .ok b := by
  cases x with
  | error e => cases h
  | ok a => exact ⟨a, rfl, h⟩

theorem foldlM_keeps {g : β → γ} {l : List α}
    (keeps : ∀ a ∈ l, ∀ b c, f b a = .ok c → g c = g b) {b c : β} (h : l.foldlM f b = .ok c) :
    g c = g b := by
  induction l generalizing b with
  | nil => cases h; rfl
  | cons a l ih =>
    rw [List.foldlM_cons] at h
    obtain ⟨next, step, rest⟩ := exists_of_bind_eq_ok h
    rw [ih (fun a mem => keeps a (List.mem_cons_of_mem _ mem)) rest]
    exact keeps a List.mem_cons_self b next step

end Readings

end Skirmish

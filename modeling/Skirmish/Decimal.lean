namespace Skirmish

namespace Decimal

def read? (ds : List Char) : Option Nat :=
  if ds ≠ [] ∧ ds.all Char.isDigit then some (Nat.ofDigitChars 10 ds 0) else none

def readUInt32? (ds : List Char) : Option UInt32 :=
  match read? ds with
  | some n => if n < UInt32.size then some n.toUInt32 else none
  | none => none

theorem read?_eq_some_iff {ds : List Char} {n : Nat} :
    read? ds = some n ↔ ds ≠ [] ∧ ds.all Char.isDigit ∧ Nat.ofDigitChars 10 ds 0 = n := by
  unfold read?
  split
  · simp_all
  · rename_i h
    simp only [reduceCtorEq, false_iff]
    exact fun k => h ⟨k.1, k.2.1⟩

theorem readUInt32?_eq_some_iff {ds : List Char} {n : UInt32} :
    readUInt32? ds = some n ↔
      ds ≠ [] ∧ ds.all Char.isDigit ∧ Nat.ofDigitChars 10 ds 0 = n.toNat := by
  rw [← read?_eq_some_iff, readUInt32?]
  cases read? ds with
  | none => simp
  | some m =>
    have held := n.toNat_lt
    simp only [Option.some.injEq]
    split
    · rename_i fits
      rw [Option.some.injEq, ← UInt32.toNat_inj, Nat.toUInt32, UInt32.toNat_ofNat_of_lt' fits]
    · rename_i large
      simp only [reduceCtorEq, false_iff]
      rintro rfl
      exact large held

theorem all_toDigits (n : Nat) : (Nat.toDigits 10 n).all Char.isDigit :=
  List.all_eq_true.2 fun _ hc => Nat.isDigit_of_mem_toDigits (by decide) (by decide) hc

@[simp] theorem read?_toDigits (n : Nat) : read? (Nat.toDigits 10 n) = some n := by
  rw [read?_eq_some_iff]
  exact ⟨Nat.toDigits_ne_nil, all_toDigits n, Nat.ofDigitChars_toDigits (by decide) (by decide)⟩

@[simp] theorem readUInt32?_toDigits (n : UInt32) :
    readUInt32? (Nat.toDigits 10 n.toNat) = some n := by
  have := n.toNat_lt
  simp [readUInt32?, this]

def readInt? : List Char → Option Int
  | '-' :: ds => (read? ds).map fun n => -(n : Int)
  | ds => (read? ds).map fun n => (n : Int)

def ofInt : Int → List Char
  | .ofNat n => Nat.toDigits 10 n
  | .negSucc n => '-' :: Nat.toDigits 10 (n + 1)

@[simp] theorem toList_repr (n : Int) : n.repr.toList = ofInt n := by
  cases n <;> simp [ofInt, Int.repr, Nat.repr_eq_ofList_toDigits]

@[simp] theorem readInt?_ofInt (n : Int) : readInt? (ofInt n) = some n := by
  cases n with
  | ofNat n =>
    show readInt? (Nat.toDigits 10 n) = _
    unfold readInt?
    split
    · rename_i ds h
      have : '-' ∈ Nat.toDigits 10 n := h ▸ List.mem_cons_self
      exact absurd (Nat.isDigit_of_mem_toDigits (by decide) (by decide) this) (by decide)
    · simp
  | negSucc n =>
    show (read? (Nat.toDigits 10 (n + 1))).map (fun n => -(n : Int)) = _
    rw [read?_toDigits]
    rfl

def isIntegerChar (c : Char) : Bool := c = '-' || c.isDigit

theorem all_ofInt (n : Int) : (ofInt n).all isIntegerChar := by
  have digits (n : Nat) : (Nat.toDigits 10 n).all isIntegerChar :=
    List.all_eq_true.2 fun c hc => by
      simp [isIntegerChar, Nat.isDigit_of_mem_toDigits (by decide) (by decide) hc]
  cases n with
  | ofNat n => exact digits n
  | negSucc n => simpa [ofInt, isIntegerChar] using digits (n + 1)

/-- The double nearest to `m * 10 ^ e`. Beyond the range of doubles it is infinite or zero. -/
def toFloat (m : Nat) (e : Int) : Float :=
  let places := (Nat.toDigits 10 m).length
  if m = 0 then 0
  else if 310 < e then 1 / 0
  else if places + e < -330 then 0
  else Float.ofScientific m (e < 0) e.natAbs

def roundHalfEven (num : Nat) (den : Nat) : Nat :=
  let q := num / den
  let r := num % den
  if 2 * r < den then q else if den < 2 * r then q + 1 else if q % 2 = 0 then q else q + 1

/-- A double with one place after the point; a tie goes to the even digit. -/
def onePlace (x : Float) : String :=
  match x.toModel.unpack with
  | .notANumber => "NaN"
  | .infinity s => signText s ++ "inf"
  | .zero s => signText s ++ "0.0"
  | .finite s m e _ =>
    let tenths := roundHalfEven ((10 * m) <<< e.toNat) (1 <<< (-e).toNat)
    signText s ++ s!"{tenths / 10}.{tenths % 10}"
where
  signText : Float.Model.UnpackedFloat.Sign → String
    | .positive => ""
    | .negative => "-"

end Decimal

end Skirmish

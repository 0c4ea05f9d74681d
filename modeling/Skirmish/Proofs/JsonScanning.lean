import Skirmish.Json.Parser

namespace Skirmish

namespace Text

def Stops (p : Char → Bool) (rest : List Char) : Prop := ∀ c ∈ rest.head?, p c = false

theorem stops_cons {p : Char → Bool} {c : Char} (h : p c = false) (rest : List Char) :
    Stops p (c :: rest) := by
  simp [Stops, h]

theorem Stops.mono {p q : Char → Bool} {rest : List Char} (h : Stops p rest)
    (le : ∀ c, q c → p c) : Stops q rest := by
  intro c mem
  cases hq : q c with
  | false => rfl
  | true => rw [← h c mem, le c hq]

theorem splitWhile_append_of_stops {p : Char → Bool} {rest : List Char} (h : Stops p rest)
    (text : List Char) :
    splitWhile p (text ++ rest) = ((splitWhile p text).1, (splitWhile p text).2 ++ rest) := by
  induction text with
  | nil =>
    cases rest with
    | nil => rfl
    | cons c rest => simp [splitWhile, h c rfl]
  | cons c text ih =>
    simp only [splitWhile, Prod.mk.injEq] at ih ⊢
    by_cases hc : p c <;> simp [hc, ih]

theorem splitWhile_of_all {p : Char → Bool} {text : List Char} (h : ∀ c ∈ text, p c) :
    splitWhile p text = (text, []) := by
  induction text with
  | nil => rfl
  | cons c text ih =>
    rw [List.forall_mem_cons] at h
    simpa [splitWhile, h.1] using ih h.2

end Text

namespace Json.Parse

open Text (Stops Step)

def continuesNumeral (c : Char) : Bool := c.isDigit || c = '.' || c = 'e' || c = 'E'

def unsigned (negative : Bool) : Step Numeral := fun text => do
  let (whole, text) ← integerPart text
  let (places, text) ← fraction text
  let (power, text) ← exponent text
  let m := Nat.ofDigitChars 10 (whole ++ places) 0
  if places.isEmpty ∧ power.isNone ∧ ¬ (negative ∧ m = 0) then
    return (.integer (if negative then -(m : Int) else m), text)
  else
    let x ← finite? negative m (power.getD 0 - places.length)
    return (.decimal x, text)

theorem numeral_minus (text : List Char) : numeral ('-' :: text) = unsigned true text := rfl

theorem numeral_of_ne {c : Char} (h : c ≠ '-') (text : List Char) :
    numeral (c :: text) = unsigned false (c :: text) := by
  simp [numeral, unsigned, h]

section Continued

variable {rest : List Char} (stops : Stops continuesNumeral rest)

include stops

theorem digits_append (text : List Char) :
    digits (text ++ rest) = ((digits text).1, (digits text).2 ++ rest) :=
  Text.splitWhile_append_of_stops (stops.mono fun c hc => by simp [continuesNumeral, hc]) text

theorem integerPart_append {text left ds : List Char} (h : integerPart text = some (ds, left)) :
    integerPart (text ++ rest) = some (ds, left ++ rest) := by
  rw [integerPart] at h ⊢
  rw [digits_append stops]
  grind

theorem fraction_append {text left ds : List Char} (h : fraction text = some (ds, left)) :
    fraction (text ++ rest) = some (ds, left ++ rest) := by
  cases text with
  | nil =>
    cases h
    cases rest with
    | nil => rfl
    | cons c rest =>
      have point : c ≠ '.' := fun e => by simpa [continuesNumeral, e] using stops c rfl
      simp [fraction, point]
  | cons c text =>
    rw [List.cons_append]
    unfold fraction at h ⊢
    by_cases point : c = '.'
    · subst point
      simp only at h ⊢
      rw [digits_append stops]
      grind
    · grind

theorem number_append {negative : Bool} {text left : List Char} {e : Option Int}
    (h : exponent.number negative text = some (e, left)) :
    exponent.number negative (text ++ rest) = some (e, left ++ rest) := by
  rw [exponent.number] at h ⊢
  rw [digits_append stops]
  grind

theorem signed_append {text left : List Char} {e : Option Int}
    (h : exponent.signed text = some (e, left)) :
    exponent.signed (text ++ rest) = some (e, left ++ rest) := by
  cases text with
  | nil => cases h
  | cons c text =>
    rw [List.cons_append]
    unfold exponent.signed at h ⊢
    have := @number_append rest stops
    grind

theorem exponent_append {text left : List Char} {e : Option Int}
    (h : exponent text = some (e, left)) :
    exponent (text ++ rest) = some (e, left ++ rest) := by
  cases text with
  | nil =>
    cases h
    cases rest with
    | nil => rfl
    | cons c rest =>
      have small : c ≠ 'e' := fun e => by simpa [continuesNumeral, e] using stops c rfl
      have large : c ≠ 'E' := fun e => by simpa [continuesNumeral, e] using stops c rfl
      simp [exponent, small, large]
  | cons c text =>
    rw [List.cons_append]
    unfold exponent at h ⊢
    have := @signed_append rest stops
    grind

theorem unsigned_append {negative : Bool} {text left : List Char} {n : Numeral}
    (h : unsigned negative text = some (n, left)) :
    unsigned negative (text ++ rest) = some (n, left ++ rest) := by
  obtain ⟨⟨whole, _⟩, hw, h⟩ := Option.bind_eq_some_iff.1 h
  obtain ⟨⟨places, _⟩, hp, h⟩ := Option.bind_eq_some_iff.1 h
  obtain ⟨⟨power, _⟩, he, h⟩ := Option.bind_eq_some_iff.1 h
  simp only [unsigned, integerPart_append stops hw, fraction_append stops hp,
    exponent_append stops he, Option.bind_eq_bind, Option.bind_some]
  dsimp only at h
  split at h
  · rename_i integer
    cases h
    rw [if_pos integer]
    rfl
  · rename_i decimal
    obtain ⟨x, hx, h⟩ := Option.bind_eq_some_iff.1 h
    cases h
    rw [if_neg decimal, hx]
    rfl

theorem numeral_append {text left : List Char} {n : Numeral} (h : numeral text = some (n, left)) :
    numeral (text ++ rest) = some (n, left ++ rest) := by
  cases text with
  | nil => cases h
  | cons c text =>
    by_cases minus : c = '-'
    · subst minus
      rw [List.cons_append, numeral_minus] at *
      exact unsigned_append stops h
    · rw [List.cons_append, numeral_of_ne minus] at *
      exact unsigned_append stops h

end Continued

theorem numeral_head {text left : List Char} {n : Numeral} (h : numeral text = some (n, left)) :
    ∃ c cs, text = c :: cs ∧ (c = '-' ∨ c.isDigit) := by
  cases text with
  | nil => cases h
  | cons c cs =>
    refine ⟨c, cs, rfl, ?_⟩
    by_cases minus : c = '-'
    · exact .inl minus
    · right
      rw [numeral_of_ne minus] at h
      obtain ⟨_, whole, -⟩ := Option.bind_eq_some_iff.1 h
      cases digit : c.isDigit with
      | true => rfl
      | false => simp [integerPart, digits, Text.splitWhile, digit] at whole

section Integers

theorem toDigits_head {n : Nat} (pos : 0 < n) :
    ∃ c cs, Nat.toDigits 10 n = c :: cs ∧ c ≠ '0' := by
  induction n using Nat.strongRecOn with
  | ind n ih =>
    rw [Nat.toDigits_eq_if (by decide)]
    split
    · rename_i small
      have nonzero : ∀ d < 10, 0 < d → Nat.digitChar d ≠ '0' := by decide
      exact ⟨_, _, rfl, nonzero n small pos⟩
    · obtain ⟨c, cs, head, ne⟩ := ih (n / 10) (by omega) (by omega)
      exact ⟨c, cs ++ [_], by rw [head]; rfl, ne⟩

theorem digits_toDigits (n : Nat) : digits (Nat.toDigits 10 n) = (Nat.toDigits 10 n, []) :=
  Text.splitWhile_of_all (List.all_eq_true.1 (Decimal.all_toDigits n))

theorem integerPart_toDigits (n : Nat) :
    integerPart (Nat.toDigits 10 n) = some (Nat.toDigits 10 n, []) := by
  rw [integerPart, digits_toDigits]
  cases n with
  | zero => rfl
  | succ n =>
    obtain ⟨c, cs, head, ne⟩ := toDigits_head (Nat.succ_pos n)
    rw [head]
    grind

theorem unsigned_toDigits {negative : Bool} {n : Nat} (h : ¬ (negative ∧ n = 0)) :
    unsigned negative (Nat.toDigits 10 n) =
      some (.integer (if negative then -(n : Int) else n), []) := by
  have value : Nat.ofDigitChars 10 (Nat.toDigits 10 n ++ []) 0 = n := by simp
  simp only [unsigned, integerPart_toDigits, fraction, exponent, Option.bind_eq_bind,
    Option.bind_some, value]
  rw [if_pos ⟨rfl, rfl, h⟩]
  rfl

theorem numeral_ofInt (n : Int) : numeral (Decimal.ofInt n) = some (.integer n, []) := by
  cases n with
  | ofNat n =>
    have all := Decimal.all_toDigits n
    rw [Decimal.ofInt]
    cases text : Nat.toDigits 10 n with
    | nil => exact absurd text Nat.toDigits_ne_nil
    | cons c cs =>
      have ne : c ≠ '-' := by
        rintro rfl
        rw [text] at all
        cases all
      rw [numeral_of_ne ne, ← text, unsigned_toDigits (by simp)]
      rfl
  | negSucc n =>
    rw [Decimal.ofInt, numeral_minus, unsigned_toDigits (by simp)]
    rfl

end Integers

section Strings

theorem hexValue?_hexDigit : ∀ n < 16, Text.hexValue? (hexDigit n) = some n := by
  decide

theorem codeUnit_control {n : Nat} (h : n < 32) (rest : List Char) :
    codeUnit ('0' :: '0' :: hexDigit (n / 16) :: hexDigit (n % 16) :: rest) = some (n, rest) := by
  have zero : Text.hexValue? '0' = some 0 := rfl
  simp only [codeUnit, Text.hexNumber, zero, hexValue?_hexDigit (n / 16) (by omega),
    hexValue?_hexDigit (n % 16) (by omega), Option.bind_eq_bind, Option.bind_some]
  rw [Option.some.injEq, Prod.mk.injEq]
  exact ⟨by omega, rfl⟩

theorem escapedChar_control {c : Char} (h : c.toNat < 32) (rest : List Char) :
    escapedChar ('0' :: '0' :: hexDigit (c.toNat / 16) :: hexDigit (c.toNat % 16) :: rest) =
      some (c, rest) := by
  rw [escapedChar, codeUnit_control h, Option.bind_eq_bind, Option.bind_some]
  dsimp only
  rw [if_neg (by omega), if_neg (by omega), Char.ofNat_toNat]
  rfl

theorem stringTail_escape {fuel : Nat} {c : Char} {text rest : List Char}
    (h : stringTail.escape text = some (c, rest)) :
    stringTail (fuel + 1) ('\\' :: text) =
      (stringTail fuel rest).map fun (cs, rest) => (c :: cs, rest) := by
  simp only [stringTail, h, Option.bind_eq_bind, Option.bind_some, Char.reduceEq, if_false, if_true]
  cases stringTail fuel rest <;> rfl

theorem stringTail_plain {fuel : Nat} {c : Char} {text : List Char} (quote : c ≠ '"')
    (backslash : c ≠ '\\') (printed : ¬ c.toNat < 32) :
    stringTail (fuel + 1) (c :: text) =
      (stringTail fuel text).map fun (cs, rest) => (c :: cs, rest) := by
  simp only [stringTail, if_neg quote, if_neg backslash, if_neg printed]
  cases stringTail fuel text <;> rfl

theorem stringTail_escapeChar (fuel : Nat) (c : Char) (text : List Char) :
    stringTail (fuel + 1) (escapeChar c ++ text) =
      (stringTail fuel text).map fun (cs, rest) => (c :: cs, rest) := by
  have named {n : Nat} (h : c.toNat = n) : c = Char.ofNat n := by rw [← h, Char.ofNat_toNat]
  unfold escapeChar
  iterate 5
    split
    · subst c
      exact stringTail_escape rfl
  iterate 2
    split
    · rename_i h
      obtain rfl := named h
      exact stringTail_escape rfl
  split
  · rename_i control
    exact stringTail_escape (escapedChar_control control text)
  · rename_i quote backslash _ _ _ _ _ printed
    exact stringTail_plain quote backslash printed

theorem stringTail_quoted (cs rest : List Char) {fuel : Nat} (enough : cs.length < fuel) :
    stringTail fuel (cs.flatMap escapeChar ++ '"' :: rest) = some (cs, rest) := by
  induction cs generalizing fuel with
  | nil =>
    obtain ⟨fuel, rfl⟩ := Nat.exists_eq_add_of_lt enough
    rfl
  | cons c cs ih =>
    cases fuel with
    | zero => exact absurd enough (Nat.not_lt_zero _)
    | succ fuel =>
      rw [List.flatMap_cons, List.append_assoc, stringTail_escapeChar,
        ih (Nat.lt_of_succ_lt_succ enough)]
      rfl

theorem length_le_flatMap_escapeChar (cs : List Char) :
    cs.length ≤ (cs.flatMap escapeChar).length := by
  induction cs with
  | nil => exact Nat.le_refl 0
  | cons c cs ih =>
    have pos : 0 < (escapeChar c).length := by
      unfold escapeChar
      grind
    rw [List.flatMap_cons, List.length_append, List.length_cons]
    omega

theorem stringBody_quoted (s : String) (rest : List Char) :
    stringBody (s.toList.flatMap escapeChar ++ '"' :: rest) = some (s, rest) := by
  have enough := length_le_flatMap_escapeChar s.toList
  rw [stringBody, stringTail_quoted s.toList rest (by rw [List.length_append]; omega)]
  simp

end Strings

end Json.Parse

end Skirmish

namespace Skirmish

namespace Text

abbrev Step (α : Type) := List Char → Option (α × List Char)

def dropStart? : (start text : List Char) → Option (List Char)
  | [], text => some text
  | _ :: _, [] => none
  | a :: start, c :: text => if a = c then dropStart? start text else none

theorem dropStart?_eq_some_iff {start text rest : List Char} :
    dropStart? start text = some rest ↔ text = start ++ rest := by
  induction start generalizing text with
  | nil => simp [dropStart?, eq_comm]
  | cons a start ih =>
    cases text with
    | nil => simp [dropStart?]
    | cons c text =>
      by_cases h : a = c
      · simp [dropStart?, h, ih]
      · simp [dropStart?, h, Ne.symm h]

@[simp] theorem dropStart?_append (start rest : List Char) :
    dropStart? start (start ++ rest) = some rest :=
  dropStart?_eq_some_iff.2 rfl

def splitWhile (p : Char → Bool) (text : List Char) : List Char × List Char :=
  (text.takeWhile p, text.dropWhile p)

theorem splitWhile_append {p : Char → Bool} {start : List Char} (h : start.all p) {c : Char}
    (hc : p c = false) (rest : List Char) :
    splitWhile p (start ++ c :: rest) = (start, c :: rest) := by
  rw [List.all_eq_true] at h
  simp [splitWhile, List.takeWhile_append_of_pos h, List.dropWhile_append_of_pos h, hc]

def isBlank (c : Char) : Bool :=
  let n := c.toNat
  (9 ≤ n && n ≤ 13) || n == 0x20 || n == 0x85 || n == 0xa0 || n == 0x1680 ||
    (0x2000 ≤ n && n ≤ 0x200a) || n == 0x2028 || n == 0x2029 || n == 0x202f || n == 0x205f ||
    n == 0x3000

def trim (text : List Char) : List Char :=
  ((text.dropWhile isBlank).reverse.dropWhile isBlank).reverse

theorem trim_between {before text after : List Char} (blank_before : ∀ c ∈ before, isBlank c)
    (solid : ∀ c ∈ text, isBlank c = false) (blank_after : ∀ c ∈ after, isBlank c) :
    trim (before ++ (text ++ after)) = text := by
  have keep {l : List Char} (h : ∀ c ∈ l, isBlank c = false) : l.dropWhile isBlank = l := by
    cases l with
    | nil => rfl
    | cons c rest => simp [h c (by simp)]
  have back : ∀ c ∈ after.reverse, isBlank c := by simpa using blank_after
  rw [trim, List.dropWhile_append_of_pos blank_before]
  cases text with
  | nil =>
    have none : (after ++ []).dropWhile isBlank = [] := List.dropWhile_append_of_pos blank_after
    rw [List.nil_append, ← after.append_nil, none]
    rfl
  | cons c rest =>
    have front : (c :: rest ++ after).dropWhile isBlank = c :: rest ++ after := by
      simp [solid c (by simp)]
    rw [front, List.reverse_append, List.dropWhile_append_of_pos back,
      keep fun c hc => solid c (List.mem_reverse.1 hc), List.reverse_reverse]

theorem trim_of_all {text : List Char} (h : ∀ c ∈ text, isBlank c = false) : trim text = text := by
  simpa using @trim_between [] text [] nofun h nofun

theorem exists_trim (text : List Char) :
    ∃ before after, text = before ++ (trim text ++ after) ∧ (∀ c ∈ before, isBlank c) ∧
      ∀ c ∈ after, isBlank c := by
  let rest := text.dropWhile isBlank
  have passed (l : List Char) : ∀ c ∈ l.takeWhile isBlank, isBlank c :=
    List.all_eq_true.1 List.all_takeWhile
  refine ⟨text.takeWhile isBlank, (rest.reverse.takeWhile isBlank).reverse, ?_, passed text, ?_⟩
  · rw [trim, ← List.reverse_append, List.takeWhile_append_dropWhile, List.reverse_reverse,
      List.takeWhile_append_dropWhile]
  · intro c hc
    exact passed _ c (List.mem_reverse.1 hc)

theorem isBlank_of_isDigit {c : Char} (h : c.isDigit) : isBlank c = false := by
  obtain ⟨lo, hi⟩ : 48 ≤ c.toNat ∧ c.toNat ≤ 57 := Char.isDigit_iff_toNat.1 h
  simp only [isBlank, Bool.or_eq_false_iff, Bool.and_eq_false_iff, decide_eq_false_iff_not,
    beq_eq_false_iff_ne]
  omega

def hexValue? (c : Char) : Option Nat :=
  if c.isDigit then some (c.toNat - '0'.toNat)
  else if 'a' ≤ c ∧ c ≤ 'f' then some (c.toNat - 'a'.toNat + 10)
  else if 'A' ≤ c ∧ c ≤ 'F' then some (c.toNat - 'A'.toNat + 10)
  else none

def hexNumber : Nat → Nat → Step Nat
  | 0, n, text => some (n, text)
  | _ + 1, _, [] => none
  | count + 1, n, c :: rest => do hexNumber count (16 * n + (← hexValue? c)) rest

end Text

end Skirmish

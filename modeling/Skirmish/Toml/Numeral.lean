import Skirmish.Decimal
import Skirmish.Text
import Skirmish.Toml

namespace Skirmish

namespace Toml

open Text (Step)

def digitsAfter (isDigit : Char → Bool) : Step (List Char)
  | [] => some ([], [])
  | ['_'] => none
  | '_' :: c :: rest =>
    if isDigit c then (digitsAfter isDigit rest).map fun (ds, rest) => (c :: ds, rest) else none
  | c :: rest =>
    if isDigit c then (digitsAfter isDigit rest).map fun (ds, rest) => (c :: ds, rest)
    else some ([], c :: rest)

def digitRun (isDigit : Char → Bool) : Step (List Char)
  | [] => none
  | c :: rest =>
    if isDigit c then (digitsAfter isDigit rest).map fun (ds, rest) => (c :: ds, rest) else none

def wholeDigits : Step (List Char)
  | '0' :: rest => some (['0'], rest)
  | text => digitRun Char.isDigit text

def sign : List Char → Bool × List Char
  | '-' :: rest => (true, rest)
  | '+' :: rest => (false, rest)
  | text => (false, text)

def integer? (n : Int) : Option Value :=
  if Int64.minValue.toInt ≤ n ∧ n ≤ Int64.maxValue.toInt then some (.integer (Int64.ofInt n))
  else none

def based (base : Nat) : Step Value := fun text => do
  let (ds, rest) ← digitRun (fun c => (Text.hexValue? c).any (· < base)) text
  let n := ds.foldl (fun n c => base * n + (Text.hexValue? c).getD 0) 0
  return (← integer? n, rest)

def fraction? : Step (Option (List Char))
  | '.' :: rest => (digitRun Char.isDigit rest).map fun (ds, rest) => (some ds, rest)
  | text => some (none, text)

def exponent? : Step (Option Int)
  | c :: rest =>
    if c = 'e' ∨ c = 'E' then do
      let (negative, rest) := sign rest
      let (ds, rest) ← digitRun Char.isDigit rest
      let n : Int := Nat.ofDigitChars 10 ds 0
      return (some (if negative then -n else n), rest)
    else some (none, c :: rest)
  | [] => some (none, [])

def float? (negative : Bool) (m : Nat) (e : Int) : Option Value :=
  let x := Decimal.toFloat m e
  let x := if negative then -x else x
  if x = 1 / 0 then none else some (.float x)

def decimal (negative : Bool) : Step Value := fun text => do
  let (whole, rest) ← wholeDigits text
  let (places, rest) ← fraction? rest
  let (power, rest) ← exponent? rest
  let n : Int := Nat.ofDigitChars 10 whole 0
  if places.isNone ∧ power.isNone then return (← integer? (if negative then -n else n), rest)
  else
    let places := places.getD []
    let m := Nat.ofDigitChars 10 (whole ++ places) 0
    return (← float? negative m (power.getD 0 - places.length), rest)

def special (negative : Bool) : Step Value
  | 'i' :: 'n' :: 'f' :: rest => some (.float (if negative then -(1 / 0) else 1 / 0), rest)
  | 'n' :: 'a' :: 'n' :: rest => some (.float (0 / 0), rest)
  | _ => none

def number : Step Value
  | '0' :: 'x' :: rest => based 16 rest
  | '0' :: 'o' :: rest => based 8 rest
  | '0' :: 'b' :: rest => based 2 rest
  | text =>
    let (negative, rest) := sign text
    match special negative rest with
    | some r => some r
    | none => decimal negative rest

def field (count min max : Nat) : Step Nat := fun text =>
  let (ds, rest) := text.splitAt count
  match Decimal.read? ds with
  | some n => if ds.length = count ∧ min ≤ n ∧ n ≤ max then some (n, rest) else none
  | none => none

def mark (c : Char) : List Char → Option (List Char) := Text.dropStart? [c]

def isLeapYear (y : Nat) : Bool := y % 4 = 0 && (y % 100 ≠ 0 || y % 400 = 0)

def daysInMonth (y m : Nat) : Nat :=
  if m = 2 then if isLeapYear y then 29 else 28
  else if m = 4 ∨ m = 6 ∨ m = 9 ∨ m = 11 then 30
  else 31

def afterDate (text : List Char) : Option (List Char) := do
  let (y, rest) ← field 4 0 9999 text
  let (m, rest) ← field 2 1 12 (← mark '-' rest)
  let (_, rest) ← field 2 1 (daysInMonth y m) (← mark '-' rest)
  return rest

def afterTime (text : List Char) : Option (List Char) := do
  let (_, rest) ← field 2 0 23 text
  let (_, rest) ← field 2 0 59 (← mark ':' rest)
  let (_, rest) ← field 2 0 60 (← mark ':' rest)
  match rest with
  | '.' :: rest =>
    let (ds, rest) := Text.splitWhile Char.isDigit rest
    if ds.isEmpty then none else return rest
  | rest => return rest

def afterOffset (text : List Char) : Option (List Char) :=
  match text with
  | [] => some []
  | c :: rest =>
    if c = 'Z' ∨ c = 'z' then some rest
    else if c = '+' ∨ c = '-' then do
      let (_, rest) ← field 2 0 23 rest
      let (_, rest) ← field 2 0 59 (← mark ':' rest)
      return rest
    else some text

def startsTime : List Char → Bool
  | a :: b :: ':' :: _ => a.isDigit && b.isDigit
  | _ => false

def startsDate : List Char → Bool
  | a :: b :: c :: d :: '-' :: _ => a.isDigit && b.isDigit && c.isDigit && d.isDigit
  | _ => false

def afterDateTime (text : List Char) : Option (List Char) := do
  let rest ← afterDate text
  match rest with
  | c :: time =>
    if (c = 'T' ∨ c = 't' ∨ c = ' ') ∧ startsTime time then afterOffset (← afterTime time)
    else return rest
  | [] => return rest

def numeral : Step Value := fun text =>
  if startsDate text then (afterDateTime text).map (.date, ·)
  else if startsTime text then (afterTime text).map (.date, ·)
  else number text

end Toml

end Skirmish

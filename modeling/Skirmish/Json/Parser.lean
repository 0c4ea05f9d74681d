import Skirmish.Decimal
import Skirmish.Json
import Skirmish.Text

namespace Skirmish

namespace Json

open Text (Step)

namespace Parse

def skipBlanks (text : List Char) : List Char :=
  text.dropWhile fun c => c = ' ' || c = '\t' || c = '\n' || c = '\r'

def codeUnit : Step Nat := Text.hexNumber 4 0

def escapedChar : Step Char := fun text => do
  let (n, rest) ← codeUnit text
  if 0xd800 ≤ n ∧ n < 0xdc00 then
    let rest ← Text.dropStart? ['\\', 'u'] rest
    let (m, rest) ← codeUnit rest
    if 0xdc00 ≤ m ∧ m < 0xe000 then
      return (Char.ofNat (0x10000 + 0x400 * (n - 0xd800) + (m - 0xdc00)), rest)
    else none
  else if 0xdc00 ≤ n ∧ n < 0xe000 then none
  else return (Char.ofNat n, rest)

def stringTail : Nat → Step (List Char)
  | 0, _ => none
  | _, [] => none
  | fuel + 1, c :: rest =>
    if c = '"' then some ([], rest)
    else if c = '\\' then do
      let (c, rest) ← escape rest
      let (cs, rest) ← stringTail fuel rest
      return (c :: cs, rest)
    else if c.toNat < 32 then none
    else do
      let (cs, rest) ← stringTail fuel rest
      return (c :: cs, rest)
where
  escape : Step Char
    | 'u' :: rest => escapedChar rest
    | '"' :: rest => some ('"', rest)
    | '\\' :: rest => some ('\\', rest)
    | '/' :: rest => some ('/', rest)
    | 'b' :: rest => some ('\x08', rest)
    | 'f' :: rest => some ('\x0c', rest)
    | 'n' :: rest => some ('\n', rest)
    | 'r' :: rest => some ('\r', rest)
    | 't' :: rest => some ('\t', rest)
    | _ => none

def stringBody : Step String := fun text =>
  (stringTail (text.length + 1) text).map fun (cs, rest) => (String.ofList cs, rest)

def digits : List Char → List Char × List Char := Text.splitWhile Char.isDigit

def integerPart : Step (List Char) := fun text =>
  match digits text with
  | ([], _) => none
  | ('0' :: _ :: _, _) => none
  | (ds, rest) => some (ds, rest)

def fraction : Step (List Char)
  | '.' :: rest =>
    match digits rest with
    | ([], _) => none
    | (ds, rest) => some (ds, rest)
  | rest => some ([], rest)

def exponent : Step (Option Int) := fun text =>
  match text with
  | 'e' :: rest => signed rest
  | 'E' :: rest => signed rest
  | rest => some (none, rest)
where
  signed : Step (Option Int)
    | '-' :: rest => number true rest
    | '+' :: rest => number false rest
    | rest => number false rest
  number (negative : Bool) : Step (Option Int) := fun rest =>
    match digits rest with
    | ([], _) => none
    | (ds, rest) =>
      let n : Int := Nat.ofDigitChars 10 ds 0
      some (some (if negative then -n else n), rest)

def finite? (negative : Bool) (m : Nat) (e : Int) : Option Float :=
  let x := Decimal.toFloat m e
  if x.isFinite then some (if negative then -x else x) else none

/-- A number. The integer zero with a sign can only be kept as a decimal. -/
def numeral : Step Numeral := fun text => do
  let (negative, text) := match text with
    | '-' :: rest => (true, rest)
    | _ => (false, text)
  let (whole, text) ← integerPart text
  let (places, text) ← fraction text
  let (power, text) ← exponent text
  let m := Nat.ofDigitChars 10 (whole ++ places) 0
  if places.isEmpty ∧ power.isNone ∧ ¬ (negative ∧ m = 0) then
    return (.integer (if negative then -(m : Int) else m), text)
  else
    let x ← finite? negative m (power.getD 0 - places.length)
    return (.decimal x, text)

mutual

def value : Nat → Step (Json Numeral)
  | 0, _ => none
  | fuel + 1, text =>
    match skipBlanks text with
    | '"' :: rest => (stringBody rest).map fun (s, rest) => (.string s, rest)
    | '[' :: rest =>
      match skipBlanks rest with
      | ']' :: rest => some (.array [], rest)
      | rest => (items fuel rest).map fun (l, rest) => (.array l, rest)
    | '\x7b' :: rest =>
      match skipBlanks rest with
      | '\x7d' :: rest => some (.object [], rest)
      | rest => (members fuel rest).map fun (l, rest) => (.object l, rest)
    | 'n' :: rest => (Text.dropStart? ['u', 'l', 'l'] rest).map (.null, ·)
    | 't' :: rest => (Text.dropStart? ['r', 'u', 'e'] rest).map (.bool true, ·)
    | 'f' :: rest => (Text.dropStart? ['a', 'l', 's', 'e'] rest).map (.bool false, ·)
    | rest => (numeral rest).map fun (n, rest) => (.number n, rest)

def items : Nat → Step (List (Json Numeral))
  | 0, _ => none
  | fuel + 1, text => do
    let (j, rest) ← value fuel text
    match skipBlanks rest with
    | ',' :: rest =>
      let (l, rest) ← items fuel rest
      return (j :: l, rest)
    | ']' :: rest => return ([j], rest)
    | _ => none

def members : Nat → Step (List (String × Json Numeral))
  | 0, _ => none
  | fuel + 1, text => do
    let text ← Text.dropStart? ['"'] (skipBlanks text)
    let (k, rest) ← stringBody text
    let rest ← Text.dropStart? [':'] (skipBlanks rest)
    let (j, rest) ← value fuel rest
    match skipBlanks rest with
    | ',' :: rest =>
      let (l, rest) ← members fuel rest
      return ((k, j) :: l, rest)
    | '\x7d' :: rest => return ([(k, j)], rest)
    | _ => none

end

end Parse

/-- Reads a text that holds one value. Each character takes at most two steps. -/
def parse? (text : String) : Option (Json Numeral) :=
  let cs := text.toList
  match Parse.value (2 * cs.length + 2) cs with
  | some (j, rest) => if (Parse.skipBlanks rest).isEmpty then some j else none
  | none => none

end Json

end Skirmish

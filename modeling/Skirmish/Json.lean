namespace Skirmish

inductive Json (ν : Type)
  | null : Json ν
  | bool : Bool → Json ν
  | number : ν → Json ν
  | string : String → Json ν
  | array : List (Json ν) → Json ν
  | object : List (String × Json ν) → Json ν

/-- A number as it is written: with neither a fraction nor an exponent it is an integer. -/
inductive Json.Numeral
  | integer : Int → Numeral
  | decimal : Float → Numeral
  deriving DecidableEq

namespace Json

variable {ν : Type}

instance : Inhabited (Json ν) := ⟨null⟩

def hexDigit (n : Nat) : Char := (Nat.toDigits 16 n).getD 0 '0'

def escapeChar (c : Char) : List Char :=
  if c = '"' then ['\\', '"']
  else if c = '\\' then ['\\', '\\']
  else if c = '\n' then ['\\', 'n']
  else if c = '\r' then ['\\', 'r']
  else if c = '\t' then ['\\', 't']
  else if c.toNat = 8 then ['\\', 'b']
  else if c.toNat = 12 then ['\\', 'f']
  else if c.toNat < 32 then ['\\', 'u', '0', '0', hexDigit (c.toNat / 16), hexDigit (c.toNat % 16)]
  else [c]

def quote (s : String) : String := String.ofList ('"' :: s.toList.flatMap escapeChar ++ ['"'])

def bracket (start stop : String) (items : List String) : String :=
  start ++ ",".intercalate items ++ stop

mutual

def compact (num : ν → String) : Json ν → String
  | null => "null"
  | bool b => if b then "true" else "false"
  | number n => num n
  | string s => quote s
  | array items => bracket "[" "]" (compactItems num items)
  | object members => bracket "\x7b" "\x7d" (compactMembers num members)

def compactItems (num : ν → String) : List (Json ν) → List String
  | [] => []
  | j :: rest => j.compact num :: compactItems num rest

def compactMembers (num : ν → String) : List (String × Json ν) → List String
  | [] => []
  | (k, j) :: rest => (quote k ++ ":" ++ j.compact num) :: compactMembers num rest

end

def indentation (depth : Nat) : String := String.ofList (List.replicate (2 * depth) ' ')

def block (start stop : String) (depth : Nat) (items : List String) : String :=
  if items.isEmpty then start ++ stop
  else
    start ++ "\n" ++ ",\n".intercalate (items.map (indentation (depth + 1) ++ ·)) ++ "\n" ++
      indentation depth ++ stop

mutual

def pretty (num : ν → String) (depth : Nat) : Json ν → String
  | null => "null"
  | bool b => if b then "true" else "false"
  | number n => num n
  | string s => quote s
  | array items => block "[" "]" depth (prettyItems num (depth + 1) items)
  | object members => block "\x7b" "\x7d" depth (prettyMembers num (depth + 1) members)

def prettyItems (num : ν → String) (depth : Nat) : List (Json ν) → List String
  | [] => []
  | j :: rest => j.pretty num depth :: prettyItems num depth rest

def prettyMembers (num : ν → String) (depth : Nat) : List (String × Json ν) → List String
  | [] => []
  | (k, j) :: rest => (quote k ++ ": " ++ j.pretty num depth) :: prettyMembers num depth rest

end

/-- The value under a key. Of two equal keys the later one counts. -/
def findMember (key : String) : List (String × Json ν) → Option (Json ν)
  | [] => none
  | (k, j) :: rest => (findMember key rest).or (if k = key then some j else none)

def get? (key : String) : Json ν → Option (Json ν)
  | object members => findMember key members
  | _ => none

end Json

end Skirmish

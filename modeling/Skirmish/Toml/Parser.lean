import Skirmish.Toml.Numeral
import Skirmish.Toml.Text

namespace Skirmish

namespace Toml

open Text (Step)

mutual

def value (level : Nat) : Nat → Step Value
  | 0, _ => none
  | fuel + 1, text =>
    match text with
    | [] => none
    | c :: rest =>
      if c = '"' ∨ c = '\'' then (string text).map fun (s, rest) => (.string s, rest)
      else if c = '[' then
        if level + 1 < depthLimit then
          (items (level + 1) fuel rest).map fun (l, rest) => (.array l, rest)
        else none
      else if c = '\x7b' then
        if level + 1 < depthLimit then
          match skipBlanks rest with
          | '\x7d' :: rest => some (.table .inline [], rest)
          | rest => do
            let (l, rest) ← assignments (level + 1) fuel rest
            return (.table .inline (← Entries.assignAll .inline [] l), rest)
        else none
      else if c = 't' then (Text.dropStart? ['r', 'u', 'e'] rest).map (.bool true, ·)
      else if c = 'f' then (Text.dropStart? ['a', 'l', 's', 'e'] rest).map (.bool false, ·)
      else numeral text

def items (level : Nat) : Nat → Step (List Value)
  | 0, _ => none
  | fuel + 1, text =>
    match skipLines text.length text with
    | ']' :: rest => some ([], rest)
    | text => do
      let (v, rest) ← value level fuel text
      match skipLines rest.length rest with
      | ']' :: rest => return ([v], rest)
      | ',' :: rest =>
        let (l, rest) ← items level fuel rest
        return (v :: l, rest)
      | _ => none

def assignments (level : Nat) : Nat → Step (List Assignment)
  | 0, _ => none
  | fuel + 1, text => do
    let ((path, key), rest) ← key text
    let rest ← Text.dropStart? ['='] rest
    let (v, rest) ← value level fuel (skipBlanks rest)
    match skipBlanks rest with
    | '\x7d' :: rest => return ([⟨path, key, v⟩], rest)
    | ',' :: rest =>
      let (l, rest) ← assignments level fuel rest
      return (⟨path, key, v⟩ :: l, rest)
    | _ => none

end

def assignment : Step Assignment := fun text => do
  let ((path, key), rest) ← key text
  let rest ← Text.dropStart? ['='] rest
  let (v, rest) ← value 0 (2 * rest.length + 2) (skipBlanks rest)
  return (⟨path, key, v⟩, rest)

def statement (text : List Char) : Option (Statement × List Char) :=
  match text with
  | '[' :: '[' :: rest => do
    let ((path, key), rest) ← key rest
    return (.head (.element path key), ← lineEnd (← Text.dropStart? [']', ']'] rest))
  | '[' :: rest => do
    let ((path, key), rest) ← key rest
    return (.head (.table path key), ← lineEnd (← Text.dropStart? [']'] rest))
  | text => do
    let (a, rest) ← assignment text
    return (.assign a, ← lineEnd rest)

def statements : Nat → List Char → Option (List Statement)
  | 0, _ => none
  | fuel + 1, text =>
    match skipLines text.length text with
    | [] => some []
    | '#' :: rest => if (skipComment rest).isEmpty then some [] else none
    | text => do
      let (s, rest) ← statement text
      return s :: (← statements fuel rest)

def parse? (text : String) : Option Entries := do
  let text := normalize text.toList
  ofStatements (← statements (text.length + 1) text)

end Toml

end Skirmish

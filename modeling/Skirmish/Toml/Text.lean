import Skirmish.Text

namespace Skirmish

namespace Toml

open Text (Step)

/-- Drops a leading byte order mark and makes every line end a line feed. -/
def normalize (text : List Char) : List Char :=
  match text with
  | '\ufeff' :: rest => lineFeeds rest
  | text => lineFeeds text
where
  lineFeeds : List Char → List Char
    | '\r' :: '\n' :: rest => '\n' :: lineFeeds rest
    | c :: rest => c :: lineFeeds rest
    | [] => []

def skipBlanks (text : List Char) : List Char := text.dropWhile fun c => c = ' ' || c = '\t'

def isPlain (c : Char) : Bool := c = '\t' || (32 ≤ c.toNat && c.toNat ≠ 127)

def skipComment (text : List Char) : List Char := text.dropWhile isPlain

def lineEnd (text : List Char) : Option (List Char) :=
  let text := match skipBlanks text with
    | '#' :: rest => skipComment rest
    | text => text
  match text with
  | [] => some []
  | '\n' :: rest => some rest
  | _ => none

def skipLines : Nat → List Char → List Char
  | 0, text => text
  | fuel + 1, text =>
    match skipBlanks text with
    | '\n' :: rest => skipLines fuel rest
    | '#' :: rest =>
      match skipComment rest with
      | '\n' :: rest => skipLines fuel rest
      | rest => '#' :: rest
    | text => text

def scalar? (n : Nat) : Option Char :=
  if h : n.isValidChar then some (Char.ofNatAux n h) else none

def escape : Step Char
  | 'b' :: rest => some ('\x08', rest)
  | 't' :: rest => some ('\t', rest)
  | 'n' :: rest => some ('\n', rest)
  | 'f' :: rest => some ('\x0c', rest)
  | 'r' :: rest => some ('\r', rest)
  | '"' :: rest => some ('"', rest)
  | '\\' :: rest => some ('\\', rest)
  | 'u' :: rest => coded 4 rest
  | 'U' :: rest => coded 8 rest
  | _ => none
where
  coded (count : Nat) : Step Char := fun text => do
    let (n, rest) ← Text.hexNumber count 0 text
    return (← scalar? n, rest)

def basicTail : Nat → Step (List Char)
  | 0, _ => none
  | _, [] => none
  | fuel + 1, c :: rest =>
    if c = '"' then some ([], rest)
    else do
      let (c, rest) ← if c = '\\' then escape rest else if isPlain c then some (c, rest) else none
      let (cs, rest) ← basicTail fuel rest
      return (c :: cs, rest)

def literalTail : Step (List Char) := fun text =>
  match Text.splitWhile (fun c => isPlain c && c ≠ '\'') text with
  | (cs, '\'' :: rest) => some (cs, rest)
  | _ => none

def continued? (text : List Char) : Option (List Char) :=
  match skipBlanks text with
  | '\n' :: rest => some (rest.dropWhile fun c => c = ' ' || c = '\t' || c = '\n')
  | _ => none

/-- The rest of a string on several lines. Three quotes close it, up to two before them belong. -/
def multilineTail (quote : Char) : Nat → Step (List Char)
  | 0, _ => none
  | _, [] => none
  | fuel + 1, c :: rest =>
    if c = quote then
      let (quotes, rest) := Text.splitWhile (· = quote) (c :: rest)
      if quotes.length < 3 then do
        let (cs, rest) ← multilineTail quote fuel rest
        return (quotes ++ cs, rest)
      else if quotes.length ≤ 5 then some (quotes.drop 3, rest)
      else none
    else if c = '\\' ∧ quote = '"' then
      match continued? rest with
      | some rest => multilineTail quote fuel rest
      | none => do
        let (c, rest) ← escape rest
        let (cs, rest) ← multilineTail quote fuel rest
        return (c :: cs, rest)
    else if isPlain c ∨ c = '\n' then do
      let (cs, rest) ← multilineTail quote fuel rest
      return (c :: cs, rest)
    else none

def multiline (quote : Char) (text : List Char) : Option (List Char × List Char) :=
  match text with
  | '\n' :: rest => multilineTail quote (rest.length + 1) rest
  | text => multilineTail quote (text.length + 1) text

def string : Step String := fun text =>
  let chars := match text with
    | '"' :: '"' :: '"' :: rest => multiline '"' rest
    | '\'' :: '\'' :: '\'' :: rest => multiline '\'' rest
    | '"' :: rest => basicTail (rest.length + 1) rest
    | '\'' :: rest => literalTail rest
    | _ => none
  chars.map fun (cs, rest) => (String.ofList cs, rest)

def isBare (c : Char) : Bool := c.isAlphanum || c = '_' || c = '-'

def simpleKey : Step String
  | '"' :: rest => (basicTail (rest.length + 1) rest).map fun (cs, rest) => (String.ofList cs, rest)
  | '\'' :: rest => (literalTail rest).map fun (cs, rest) => (String.ofList cs, rest)
  | text =>
    match Text.splitWhile isBare text with
    | ([], _) => none
    | (cs, rest) => some (String.ofList cs, rest)

def keyParts : Nat → Step (List String)
  | 0, _ => none
  | fuel + 1, text => do
    let (part, rest) ← simpleKey (skipBlanks text)
    match skipBlanks rest with
    | '.' :: rest =>
      let (parts, rest) ← keyParts fuel rest
      return (part :: parts, rest)
    | rest => return ([part], rest)

def depthLimit : Nat := 80

def key : Step (List String × String) := fun text => do
  let (parts, rest) ← keyParts depthLimit text
  if parts.length < depthLimit then return ((parts.dropLast, ← parts.getLast?), rest) else none

end Toml

end Skirmish

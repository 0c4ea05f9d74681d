/-!
TOML values, and how the lines of a document build them. A table can be written in parts: its dotted
keys, its own header and the headers of its parts may come apart, but nothing is defined twice.
-/

namespace Skirmish

namespace Toml

/-- Where a table comes from, which decides who may still add to it. -/
inductive Origin
  | header
  | implied
  | dotted
  | inline
  deriving DecidableEq, Repr

inductive Value
  | integer : Int64 → Value
  | float : Float → Value
  | bool : Bool → Value
  | string : String → Value
  | date : Value
  | array : List Value → Value
  | table : Origin → List (String × Value) → Value
  | tables : List (List (String × Value)) → Value

abbrev Entries := List (String × Value)

namespace Entries

def get? (key : String) : Entries → Option Value
  | [] => none
  | (k, v) :: rest => if k = key then some v else get? key rest

def replace (key : String) (v : Value) : Entries → Entries
  | [] => []
  | (k, old) :: rest => if k = key then (k, v) :: rest else (k, old) :: replace key v rest

def erase (key : String) : Entries → Entries
  | [] => []
  | (k, v) :: rest => if k = key then rest else (k, v) :: erase key rest

/-- Changes the table at the end of a path, and makes the tables that are missing on the way. Dotted
keys pass no table that has a header of its own. -/
def within (dotted : Bool) (change : Origin → Entries → Option Entries) :
    List String → Origin → Entries → Option Entries
  | [], origin, es => change origin es
  | key :: path, _, es =>
    match get? key es with
    | none => do
      let origin := if dotted then .dotted else .implied
      return es ++ [(key, .table origin (← within dotted change path origin []))]
    | some (.table origin inner) =>
      if origin = .inline ∨ (dotted ∧ origin = .header) then none
      else do return replace key (.table origin (← within dotted change path origin inner)) es
    | some (.tables parts) =>
      match parts.getLast? with
      | none => none
      | some last => do
        let last ← within dotted change path .header last
        return replace key (.tables (parts.dropLast ++ [last])) es
    | some _ => none

def assign (path : List String) (key : String) (v : Value) (origin : Origin) (es : Entries) :
    Option Entries :=
  within true (fun last es =>
    if decide (last = .dotted) = path.isEmpty then none
    else if (get? key es).isSome then none
    else some (es ++ [(key, v)])) path origin es

end Entries

structure Assignment where
  path : List String
  key : String
  value : Value

def Entries.assignAll (origin : Origin) (es : Entries) (l : List Assignment) : Option Entries :=
  l.foldlM (fun es a => Entries.assign a.path a.key a.value origin es) es

inductive Head
  | top
  | table : List String → String → Head
  | element : List String → String → Head

inductive Statement
  | assign : Assignment → Statement
  | head : Head → Statement

structure Section where
  head : Head
  body : List Assignment

def sections : Head → List Assignment → List Statement → List Section
  | head, body, [] => [⟨head, body.reverse⟩]
  | head, body, .assign a :: rest => sections head (a :: body) rest
  | head, body, .head next :: rest => ⟨head, body.reverse⟩ :: sections next [] rest

/-- Enters a section. A table with a header keeps what earlier headers placed below it and moves to
the end of its table. -/
def Section.enter (root : Entries) (s : Section) : Option Entries :=
  match s.head with
  | .top => Entries.assignAll .header root s.body
  | .table path key =>
    Entries.within false (fun _ es =>
      match Entries.get? key es with
      | none => do return es ++ [(key, .table .header (← Entries.assignAll .header [] s.body))]
      | some (.table .implied inner) => do
        let own ← Entries.assignAll .header inner s.body
        return Entries.erase key es ++ [(key, .table .header own)]
      | some _ => none) path .header root
  | .element path key =>
    Entries.within false (fun _ es =>
      match Entries.get? key es with
      | none => do return es ++ [(key, .tables [← Entries.assignAll .header [] s.body])]
      | some (.tables parts) => do
        return Entries.replace key (.tables (parts ++ [← Entries.assignAll .header [] s.body])) es
      | some _ => none) path .header root

def ofStatements (l : List Statement) : Option Entries :=
  (sections .top [] l).foldlM Section.enter []

end Toml

end Skirmish

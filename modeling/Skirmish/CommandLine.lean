import Skirmish.Random.ChaCha8
import Skirmish.Simulation.Failure
import Skirmish.Simulation.Report

/-!
The command line: its arguments, and what it does with them. Options take their value from the same
argument or from the next one; after two dashes nothing is an option.
-/

namespace Skirmish

namespace CommandLine

inductive Format
  | summary
  | json
  deriving DecidableEq, Repr

structure Options where
  scenario : String
  seed : Option UInt64 := none
  runs : Option UInt32 := none
  format : Format := .summary
  deriving DecidableEq, Repr

inductive Request
  | version : Request
  | run : Options → Request
  deriving DecidableEq, Repr

structure Draft where
  scenario : Option String := none
  seed : Option UInt64 := none
  runs : Option UInt32 := none
  format : Option Format := none

inductive Setting
  | seed
  | runs
  | format
  deriving DecidableEq, Repr

def dropPlus : List Char → List Char
  | '+' :: ds => ds
  | ds => ds

def readSeed? (text : String) : Option UInt64 :=
  match Decimal.read? (dropPlus text.toList) with
  | some n => if n < UInt64.size then some n.toUInt64 else none
  | none => none

def readRuns? (text : String) : Option UInt32 :=
  let n := match text.toList with
    | '-' :: ds => (Decimal.read? ds).map fun n => -(n : Int)
    | ds => (Decimal.read? (dropPlus ds)).map fun n => (n : Int)
  match n with
  | some n => if 0 ≤ n ∧ n < UInt32.size then some n.toNat.toUInt32 else none
  | none => none

def readFormat? : String → Option Format
  | "summary" => some .summary
  | "json" => some .json
  | _ => none

namespace Draft

def setOnce {α : Type} (old new : Option α) : Option (Option α) :=
  match old, new with
  | none, some v => some (some v)
  | _, _ => none

def set (d : Draft) (value : String) : Setting → Option Draft
  | .seed => do return { d with seed := ← setOnce d.seed (readSeed? value) }
  | .runs => do return { d with runs := ← setOnce d.runs (readRuns? value) }
  | .format => do return { d with format := ← setOnce d.format (readFormat? value) }

def place (d : Draft) (path : String) : Option Draft :=
  if path.isEmpty then none else do return { d with scenario := ← setOnce d.scenario (some path) }

def finish (d : Draft) : Option Request := do
  let scenario ← d.scenario
  return .run { scenario, seed := d.seed, runs := d.runs, format := d.format.getD .summary }

end Draft

inductive Argument
  | version : Argument
  | awaits : Setting → Argument
  | sets : Setting → String → Argument
  | path : String → Argument
  | paths : Argument
  | unknown : Argument

def short? : Char → Option Setting
  | 's' => some .seed
  | 'r' => some .runs
  | 'f' => some .format
  | _ => none

def long? : String → Option Setting
  | "seed" => some .seed
  | "runs" => some .runs
  | "format" => some .format
  | _ => none

def Argument.ofLong (text : List Char) : Argument :=
  match Text.splitWhile (· ≠ '=') text with
  | (name, []) =>
    if name = ['v', 'e', 'r', 's', 'i', 'o', 'n'] then .version
    else ((long? (String.ofList name)).map .awaits).getD .unknown
  | (name, _ :: value) =>
    ((long? (String.ofList name)).map (.sets · (String.ofList value))).getD .unknown

def Argument.ofShort (letter : Char) (value : List Char) : Argument :=
  if letter = 'V' then .version
  else
    match short? letter, value with
    | none, _ => .unknown
    | some setting, [] => .awaits setting
    | some setting, '=' :: value => .sets setting (String.ofList value)
    | some setting, value => .sets setting (String.ofList value)

def Argument.ofText (text : String) : Argument :=
  match text.toList with
  | ['-', '-'] => .paths
  | '-' :: '-' :: rest => .ofLong rest
  | '-' :: letter :: rest => .ofShort letter rest
  | _ => .path text

/-- The request that the arguments make, from left to right. An argument that is wrong ends it, and
so does the question for the version. -/
def request? (d : Draft) : List String → Option Request
  | [] => d.finish
  | arg :: rest =>
    match Argument.ofText arg, rest with
    | .version, _ => some .version
    | .awaits _, [] => none
    | .awaits setting, value :: rest =>
      match Argument.ofText value with
      | .path _ => do request? (← d.set value setting) rest
      | _ => none
    | .sets setting value, rest => do request? (← d.set value setting) rest
    | .path path, rest => do request? (← d.place path) rest
    | .paths, rest => do (← rest.foldlM Draft.place d).finish
    | .unknown, _ => none

inductive Outcome
  | printed : String → Outcome
  | misused : Outcome
  | failed : Failure → Outcome

def versionText : String := "formula_sim 0.1.0\n"

def runCount (o : Options) (s : Scenario) : Nat := max 1 (o.runs.getD s.runs).toNat

def report (o : Options) (s : Scenario) (id : FormulaId) (t : ParameterTable) :
    Except Failure Report :=
  let seed := o.seed.getD s.seed
  match s.simulate t id (runCount o s) (ChaCha8.ofSeed seed) with
  | .error failed => .error (.runFailed id failed)
  | .ok runs => .ok ⟨id, seed, runs⟩

def Format.render : Format → Report → String
  | summary, r => r.summary
  | json, r => r.json

def scenarioOfFile (path : String) : Except FileFault String → Except Failure Scenario
  | .error fault => .error (.scenarioUnreadable path fault)
  | .ok text =>
    match Scenario.parse text with
    | .error e => .error (.scenarioInvalid path e)
    | .ok s => .ok s

variable {m : Type → Type} [Monad m]

def parameterTable (readText : String → m (Except FileFault String)) (o : Options) (s : Scenario) :
    m (Except Failure ParameterTable) := do
  match s.paramsFile with
  | none => return .ok .bundled
  | some file =>
    let path := joinPath (parentPath o.scenario) file
    match ParameterTable.ofFile path (← readText path) with
    | .error e => return .error (.parametersUnusable path e)
    | .ok t => return .ok t

def execute (readText : String → m (Except FileFault String)) (o : Options) :
    m (Except Failure Report) := do
  match scenarioOfFile o.scenario (← readText o.scenario) with
  | .error e => return .error e
  | .ok s =>
    match s.formulaId with
    | .error e => return .error (.formulaUnknown e)
    | .ok id =>
      match ← parameterTable readText o s with
      | .error e => return .error e
      | .ok t => return report o s id t

def call (readText : String → m (Except FileFault String)) (args : List String) : m Outcome := do
  match request? {} args with
  | none => return .misused
  | some .version => return .printed versionText
  | some (.run o) =>
    match ← execute readText o with
    | .error e => return .failed e
    | .ok r => return .printed (o.format.render r)

end CommandLine

end Skirmish

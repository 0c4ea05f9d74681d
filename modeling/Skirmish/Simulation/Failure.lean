import Skirmish.Simulation

namespace Skirmish

inductive Failure
  | scenarioUnreadable : String → FileFault → Failure
  | scenarioInvalid : String → ScenarioError → Failure
  | formulaUnknown : ScenarioError → Failure
  | parametersUnusable : String → ConfigError → Failure
  | runFailed : FormulaId → FailedRun → Failure

namespace Failure

def causeLines : List String → String
  | [] => ""
  | [cause] => "\nCaused by:\n    " ++ cause ++ "\n"
  | causes =>
    "\nCaused by:\n" ++ "".intercalate (causes.mapIdx fun i cause => s!"    {i}: " ++ cause ++ "\n")

def tell (what : String) (causes : List String) : String :=
  "Error: " ++ what ++ "\n" ++ causeLines causes

/-- A malformed document is the first of two causes, and the telling ends where its faulty place
would be described. -/
def tellMalformed (what : String) (fault : Toml.Fault) : String :=
  "Error: " ++ what ++ "\n\nCaused by:\n    0: " ++ (ConfigError.malformed fault).message

def text : Failure → String
  | scenarioUnreadable path fault => tell ("Failed to read scenario " ++ path) [fault.message]
  | scenarioInvalid path (.malformed fault) => tellMalformed ("Invalid scenario " ++ path) fault
  | scenarioInvalid path e => tell ("Invalid scenario " ++ path) [e.message]
  | formulaUnknown e => tell e.message []
  | parametersUnusable path (.malformed fault) =>
    tellMalformed ("Failed to load parameters from " ++ path) fault
  | parametersUnusable path (.unreadable file fault) =>
    tell ("Failed to load parameters from " ++ path)
      [(ConfigError.unreadable file fault).message, fault.message]
  | parametersUnusable path (.invalid v) =>
    tell ("Failed to load parameters from " ++ path) [v.message]
  | runFailed id failed => tell s!"Run {failed.number} of formula {id} failed" [failed.halt.message]

end Failure

end Skirmish

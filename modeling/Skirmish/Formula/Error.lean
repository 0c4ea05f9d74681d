import Skirmish.Basic

namespace Skirmish

inductive FormulaError
  | unknownFormula : FormulaId → FormulaError
  | unknownName : String → FormulaError
  | alreadyRegistered : FormulaId → FormulaError
  | missingParameter : FormulaId → String → FormulaError
  deriving DecidableEq, Repr

def FormulaError.message : FormulaError → String
  | unknownFormula id => s!"Unknown formula id: {id}"
  | unknownName name => "Unknown formula name: " ++ name
  | alreadyRegistered id => s!"Formula {id} is already registered"
  | missingParameter id name => s!"Formula {id} requires missing parameter " ++ "`" ++ name ++ "`"

inductive Halt
  | failed : FormulaError → Halt
  | reversedBounds : Halt
  deriving DecidableEq, Repr

def Halt.message : Halt → String
  | failed e => e.message
  | reversedBounds => "the hit rate bounds are reversed"

end Skirmish

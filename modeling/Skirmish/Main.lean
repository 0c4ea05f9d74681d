import Skirmish.CommandLine

namespace Skirmish

def FileFault.ofError : IO.Error → FileFault
  | .inappropriateType _ code _ => if code = 21 then .isDirectory else .notDirectory
  | _ => .notFound

def readTextFile (path : String) : IO (Except FileFault String) := do
  match ← (IO.FS.readBinFile path).toBaseIO with
  | .error e => return .error (.ofError e)
  | .ok bytes =>
    match String.fromUTF8? bytes with
    | some text => return .ok text
    | none => return .error .notText

end Skirmish

open Skirmish in
def main (args : List String) : IO UInt32 := do
  match ← CommandLine.call readTextFile args with
  | .printed text =>
    IO.print text
    return 0
  | .misused =>
    IO.eprintln "Usage: formula_sim [OPTIONS] <SCENARIO>"
    return 2
  | .failed failure =>
    IO.eprint failure.text
    return 1

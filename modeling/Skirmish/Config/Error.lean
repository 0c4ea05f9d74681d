import Skirmish.Combat.Constants
import Skirmish.Files
import Skirmish.Toml.Reader

namespace Skirmish

def Toml.Fault.message? : Toml.Fault → Option String
  | badKey key => some ("invalid attribute id " ++ "`" ++ key ++ "`")
  | _ => none

inductive ConfigError
  | unreadable : String → FileFault → ConfigError
  | malformed : Toml.Fault → ConfigError
  | invalid : Violation → ConfigError
  deriving DecidableEq

namespace ConfigError

def message : ConfigError → String
  | unreadable path fault => "Failed to read config file " ++ path ++ ": " ++ fault.message
  | malformed _ => "Failed to parse TOML: "
  | invalid v => v.message

end ConfigError

end Skirmish

import Skirmish.Combat.Parameters
import Skirmish.Config.Error
import Skirmish.Toml.Parser

namespace Skirmish

open Toml (Reading)

def ParameterEntry.ofToml (v : Toml.Value) : Reading ParameterEntry := do
  let es ← v.readFields ["id", "damage_rate", "damage_ext", "params"] false
  let id ← es.required "id" Toml.Value.readUInt32
  let damageRate ← es.optional "damage_rate" Toml.Value.readFloat
  let damageExt ← es.optional "damage_ext" Toml.Value.readFloat
  let params ← es.withDefault "params" [] Toml.Value.readFloats
  return { id, damageRate, damageExt, params := .ofList params }

namespace ParameterTable

def parse (text : String) : Except ConfigError ParameterTable :=
  match Toml.parse? text with
  | none => .error (.malformed .malformed)
  | some es =>
    match es.withDefault "formulas" [] (Toml.Value.readList ParameterEntry.ofToml) with
    | .error fault => .error (.malformed fault)
    | .ok entries =>
      match ofEntries entries with
      | .error v => .error (.invalid v)
      | .ok t => .ok t

def ofFile (path : String) : Except FileFault String → Except ConfigError ParameterTable
  | .error fault => .error (.unreadable path fault)
  | .ok text => parse text

end ParameterTable

end Skirmish

import Skirmish.Config.Error
import Skirmish.Toml.Parser

namespace Skirmish

open Toml (Reading)

def HitBounds.ofToml (exact : Bool) (v : Toml.Value) : Reading HitBounds := do
  let es ← v.readFields ["min_rate", "max_rate"] exact
  let min ← es.withDefault "min_rate" 0 Toml.Value.readInt64
  let max ← es.withDefault "max_rate" basisPoints Toml.Value.readInt64
  return { min, max }

namespace CombatConstants

def ofToml (exact : Bool) (v : Toml.Value) : Reading CombatConstants := do
  let es ← v.readFields ["hit", "trace", "targets"] exact
  let hit ← es.withDefault "hit" {} (HitBounds.ofToml exact)
  let traced ← es.withDefault "trace" true fun v => do
    (← v.readFields ["enabled"] exact).withDefault "enabled" true Toml.Value.readBool
  let targetCount ← es.withDefault "targets" 1 fun v => do
    (← v.readFields ["default_count"] exact).withDefault "default_count" 1 Toml.Value.readInt64
  return { hit, traced, targetCount }

def read (text : String) : Reading CombatConstants :=
  match Toml.parse? text with
  | some es => ofToml false (.table .header es)
  | none => .error .malformed

def parse (text : String) : Except ConfigError CombatConstants :=
  match read text with
  | .error fault => .error (.malformed fault)
  | .ok c =>
    match c.validate with
    | .error v => .error (.invalid v)
    | .ok c => .ok c

def ofFile (path : String) : Except FileFault String → Except ConfigError CombatConstants
  | .error fault => .error (.unreadable path fault)
  | .ok text =>
    match read text with
    | .error fault => .error (.malformed fault)
    | .ok c => .ok c

end CombatConstants

end Skirmish

import Skirmish.Config.Error
import Skirmish.Entity.Kinds
import Skirmish.Toml.Parser

namespace Skirmish

open Toml (Reading)

/-- All values are read before the first key is. -/
def Attributes.ofToml (v : Toml.Value) : Reading Attributes := do
  (decode (← v.readFloats)).mapError .badKey

def Buff.ofToml (v : Toml.Value) : Reading Buff := do
  let es ← v.readFields ["buff_id", "tags", "stacks", "left_time", "interval"] true
  let id ← es.required "buff_id" Toml.Value.readUInt32
  let tags ← es.withDefault "tags" [] (Toml.Value.readList Toml.Value.readUInt32)
  let stackCount ← es.withDefault "stacks" 1 Toml.Value.readUInt32
  let leftTime ← es.withDefault "left_time" 0 Toml.Value.readInt64
  let interval ← es.withDefault "interval" 0 Toml.Value.readInt64
  return { id, tags, stackCount, leftTime, interval }

def Position.ofToml (v : Toml.Value) : Reading Position := do
  let es ← v.readFields ["x", "y", "z"] true
  return ⟨← es.required "x" Toml.Value.readFloat, ← es.required "y" Toml.Value.readFloat,
    ← es.required "z" Toml.Value.readFloat⟩

def SkillSlot.ofToml (exact : Bool) (v : Toml.Value) : Reading SkillSlot := do
  let es ← v.readFields ["skill_id"] exact
  return ⟨← es.withDefault "skill_id" 0 Toml.Value.readUInt32⟩

def SkillBar.ofToml (exact : Bool) (v : Toml.Value) : Reading SkillBar := do
  let es ← v.readFields ["bar_id", "slots"] exact
  let id ← es.required "bar_id" Toml.Value.readUInt32
  let slots ← es.withDefault "slots" [] (Toml.Value.readList (SkillSlot.ofToml exact))
  return { id, slots }

def EntityState.ofToml (es : Toml.Entries) : Reading EntityState :=
  es.foldlM (fun s (key, v) =>
    match key with
    | "attributes" => do return { s with attributes := ← Attributes.ofToml v }
    | "buffs" => do return { s with buffs := ⟨← v.readList Buff.ofToml⟩ }
    | "position" => do return { s with position := ← Position.ofToml v }
    | _ => .ok s) {}

def Player.ofToml (exact : Bool) (es : Toml.Entries) : Reading Player := do
  let skillBars ← es.withDefault "skill_bars" [] (Toml.Value.readList (SkillBar.ofToml exact))
  return { state := ← EntityState.ofToml es, skillBars }

def Monster.ofToml (es : Toml.Entries) : Reading Monster := do
  let configuredType ← es.withDefault "configured_type" 0 Toml.Value.readInt32
  return { state := ← EntityState.ofToml es, configuredType }

def Pet.ofToml (es : Toml.Entries) : Reading Pet := do
  return { state := ← EntityState.ofToml es }

namespace Combatant

def ofKind (kind : String) (exact : Bool) (es : Toml.Entries) : Reading Combatant :=
  match kind with
  | "player" => (Player.ofToml exact es).map .player
  | "monster" => (Monster.ofToml es).map .monster
  | "pet" => (Pet.ofToml es).map .pet
  | _ => .error .unfit

def ofToml : Toml.Value → Reading Combatant
  | .table _ es => do ofKind (← Toml.Entries.required es "kind" Toml.Value.readString) true es
  | _ => .error .unfit

def parse (kind : String) (text : String) : Except ConfigError Combatant :=
  match Toml.parse? text with
  | none => .error (.malformed .malformed)
  | some es =>
    match ofKind kind false es with
    | .error fault => .error (.malformed fault)
    | .ok c => .ok c

end Combatant

end Skirmish

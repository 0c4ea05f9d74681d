import Skirmish.Entity.Kinds
import Skirmish.Json.Reader

namespace Skirmish

open Json (Numeral)

namespace Buff

def toJson (b : Buff) : Json Numeral :=
  .object [
    ("buff_id", .ofInt b.id.toNat),
    ("tags", .array (b.tags.map fun tag => .ofInt tag.toNat)),
    ("stacks", .ofInt b.stackCount.toNat),
    ("left_time", .ofInt b.leftTime.toInt),
    ("interval", .ofInt b.interval.toInt)]

def fieldNames : List String := ["buff_id", "tags", "stacks", "left_time", "interval"]

def ofJson? (j : Json Numeral) : Option Buff := do
  let r ← j.readRecord? fieldNames 1
  let id ← r.required "buff_id" Json.readUInt32?
  let tags ← r.withDefault "tags" [] (Json.readList? Json.readUInt32?)
  let stackCount ← r.withDefault "stacks" 1 Json.readUInt32?
  let leftTime ← r.withDefault "left_time" 0 Json.readInt64?
  let interval ← r.withDefault "interval" 0 Json.readInt64?
  return { id, tags, stackCount, leftTime, interval }

@[simp] theorem ofJson?_toJson (b : Buff) : ofJson? b.toJson = some b := by
  have tags : Json.readList? Json.readUInt32? (.array (b.tags.map fun tag => .ofInt tag.toNat)) =
      some b.tags := Json.readList?_map Json.readUInt32?_ofInt b.tags
  simp [ofJson?, toJson, Json.readRecord?, Json.Record.required, Json.Record.withDefault,
    Json.findMember, tags]

end Buff

namespace BuffLedger

def toJson (ledger : BuffLedger) : Json Numeral := .array (ledger.buffs.map Buff.toJson)

def ofJson? (j : Json Numeral) : Option BuffLedger := (Json.readList? Buff.ofJson? j).map .mk

@[simp] theorem ofJson?_toJson (ledger : BuffLedger) : ofJson? ledger.toJson = some ledger := by
  rw [ofJson?, toJson, Json.readList?_map Buff.ofJson?_toJson]
  rfl

end BuffLedger

def Position.toJson (p : Position) : Json Numeral :=
  .object [("x", .ofFloat p.x), ("y", .ofFloat p.y), ("z", .ofFloat p.z)]

def SkillBar.toJson (bar : SkillBar) : Json Numeral :=
  .object [
    ("bar_id", .ofInt bar.id.toNat),
    ("slots", .array (bar.slots.map fun s => .object [("skill_id", .ofInt s.skill.toNat)]))]

def EntityState.toMembers (s : EntityState) : List (String × Json Numeral) :=
  [("attributes", .object (s.attributes.encode.map fun (key, value) => (key, .ofFloat value))),
    ("buffs", s.buffs.toJson),
    ("position", s.position.toJson)]

def Combatant.toJson : Combatant → Json Numeral
  | .player p =>
    .object (p.state.toMembers ++ [("skill_bars", .array (p.skillBars.map SkillBar.toJson))])
  | .monster m =>
    .object (m.state.toMembers ++ [("configured_type", .ofInt m.configuredType.toInt)])
  | .pet p => .object p.state.toMembers

end Skirmish

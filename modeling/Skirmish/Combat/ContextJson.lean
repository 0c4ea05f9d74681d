import Skirmish.Combat.Context
import Skirmish.Decimal
import Skirmish.Json.Reader

namespace Skirmish

open Json (Numeral)

namespace FightInfo

def toJson (f : FightInfo) : Json Numeral :=
  .object [
    ("fight_id", .ofInt f.id.toNat),
    ("success", .bool f.success),
    ("value", .ofFloat f.value)]

def ofJson? (j : Json Numeral) : Option FightInfo := do
  let r ← j.readRecord? ["fight_id", "success", "value"] 3
  let id ← r.required "fight_id" Json.readUInt32?
  let success ← r.required "success" Json.readBool?
  let value ← r.required "value" Json.readFloat?
  return ⟨id, success, value⟩

end FightInfo

namespace CombatType

def key (type : CombatType) : String := toString type

def ofKey? (key : String) : Option CombatType :=
  match Decimal.readInt? key.toList with
  | some n =>
    if toString n = key ∧ Int32.minValue.toInt ≤ n ∧ n ≤ Int32.maxValue.toInt then
      some (Int32.ofInt n)
    else none
  | none => none

@[simp] theorem ofKey?_key (type : CombatType) : ofKey? type.key = some type := by
  have h : type.key.toList = Decimal.ofInt type.toInt := Decimal.toList_repr type.toInt
  simp only [ofKey?, h, Decimal.readInt?_ofInt]
  rw [if_pos ⟨rfl, Int32.minValue_le_toInt type, Int32.toInt_le type⟩]
  simp

end CombatType

namespace Context

def toJson (c : Context) : Json Numeral :=
  .object [
    ("damage_by_type",
      .object (c.damage.toList.map fun (type, amount) => (type.key, .ofInt amount.toInt))),
    ("trace", .ofOption (fun lines => .array (lines.map .string)) c.trace),
    ("custom_params",
      .object (c.params.toList.map fun (name, value) => (name, .ofFloat value))),
    ("final_combat_type", .ofOption (fun type => .ofInt type.toInt) c.finalType),
    ("fight_info", .array (c.fights.map FightInfo.toJson)),
    ("attack_target_count", .ofInt c.targetCount.toInt)]

def fieldNames : List String :=
  ["damage_by_type", "trace", "custom_params", "final_combat_type", "fight_info",
    "attack_target_count"]

def ofJson? (j : Json Numeral) : Option Context := do
  let r ← j.readRecord? fieldNames 6
  let damage ← r.required "damage_by_type" (Json.readMembers? CombatType.ofKey? Json.readInt64?)
  let trace ← r.optional "trace" (Json.readList? Json.readString?)
  let params ← r.required "custom_params" (Json.readMembers? some Json.readFloat?)
  let finalType ← r.optional "final_combat_type" Json.readInt32?
  let fights ← r.required "fight_info" (Json.readList? FightInfo.ofJson?)
  let targetCount ← r.required "attack_target_count" Json.readInt64?
  return {
    damage := .ofList damage
    trace
    params := .ofList params
    finalType
    fights
    targetCount }

end Context

end Skirmish

import Skirmish.Decimal
import Skirmish.Json
import Skirmish.Simulation

namespace Skirmish

def padLeft (width : Nat) (text : String) : String :=
  String.ofList (List.replicate (width - text.length) ' ') ++ text

namespace Run

def summary (number : Nat) (r : Run) : String :=
  let stored := r.damageByType.toList.map fun (type, amount) =>
    s!"  type {padLeft 6 (toString type)}: {amount}\n"
  let final := match r.finalType with
    | some type => s!"  final type: {type}\n"
    | none => ""
  let trace := r.trace.map fun line => "  | " ++ line ++ "\n"
  s!"\nRun {number}: {r.damage} damage\n" ++ "".intercalate stored ++ final ++ "".intercalate trace

def toJson (r : Run) : Json Int :=
  .object [
    ("damage", .number r.damage.toInt),
    ("damage_by_type", .object (r.damageByType.toList.map fun (type, amount) =>
      (toString type, .number amount.toInt))),
    ("final_combat_type", match r.finalType with
      | some type => .number type.toInt
      | none => .null),
    ("trace", .array (r.trace.map .string))]

end Run

namespace Report

def average (r : Report) : Float := Float.ofInt r.totalDamage.toInt / Float.ofNat r.runs.length

def totals (r : Report) : String :=
  s!"\n{r.runs.length} runs, {r.damagingRuns} dealt damage, {r.totalDamage} total " ++
    s!"({Decimal.onePlace r.average} per run)\n"

def summary (r : Report) : String :=
  s!"Formula {r.formula} (seed {r.seed})\n" ++
    "".intercalate (r.runs.mapIdx fun i run => run.summary (i + 1)) ++
    if 1 < r.runs.length then r.totals else ""

def toJson (r : Report) : Json Int :=
  .object [
    ("formula", .number r.formula.toNat),
    ("seed", .number r.seed.toNat),
    ("runs", .array (r.runs.map Run.toJson)),
    ("damaging_runs", .number r.damagingRuns),
    ("total_damage", .number r.totalDamage.toInt)]

def json (r : Report) : String := r.toJson.pretty toString 0 ++ "\n"

end Report

end Skirmish

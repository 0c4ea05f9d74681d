import Skirmish.Entity.Buff
import Skirmish.Entity.Position
import Skirmish.Entity.SkillBar

/-!
Entities as formulas see them: an entity is what can be read from it, and a read that finds nothing
is zero. An absent entity, an unset attribute and an attribute that is zero or no number look alike.
-/

namespace Skirmish

inductive EntityKind
  | none
  | player
  | monster
  | pet
  deriving DecidableEq, Repr

namespace EntityKind

def code : EntityKind → Int32
  | none => 0
  | player => 1
  | monster => 2
  | pet => 3

def name : EntityKind → String
  | none => "none"
  | player => "player"
  | monster => "monster"
  | pet => "pet"

end EntityKind

structure Entity where
  kind : EntityKind
  storedAttribute : AttributeId → Option Float
  buffCount : BuffId → Int64
  buffCountByTag : BuffTag → Int64
  buffLeftTime : BuffId → Int64
  buffInterval : BuffId → Int64
  position : Position
  configuredType : Option Int32 := Option.none
  skillBar : SkillBarId → Option SkillBar := fun _ => Option.none

/-- A stored zero and no number read as the positive zero. -/
def readAttribute : Option Float → Float
  | some v => if v.isNaN || v == 0 then 0 else v
  | none => 0

def attributeValue (e : Option Entity) (id : AttributeId) : Float :=
  readAttribute (e.bind (·.storedAttribute id))

def entityKind : Option Entity → EntityKind
  | some e => e.kind
  | none => .none

def monsterType : Option Entity → Int32
  | some e => if e.kind = .monster then e.configuredType.getD 0 else 0
  | none => 0

def buffCount : Option Entity → BuffId → Int64
  | some e => e.buffCount
  | none => fun _ => 0

def buffCountByTag : Option Entity → BuffTag → Int64
  | some e => e.buffCountByTag
  | none => fun _ => 0

def buffLeftTime : Option Entity → BuffId → Int64
  | some e => e.buffLeftTime
  | none => fun _ => 0

def buffInterval : Option Entity → BuffId → Int64
  | some e => e.buffInterval
  | none => fun _ => 0

def skillSlots (e : Option Entity) (bar : SkillBarId) (used : Bool) : Int64 :=
  match e with
  | some e =>
    if e.kind = .player then
      match e.skillBar bar with
      | some b => b.countSlots used
      | none => 0
    else 0
  | none => 0

def distance : Option Entity → Option Entity → Int64
  | some a, some b => truncate (roundUp (a.position.distanceTo b.position))
  | _, _ => 0

end Skirmish

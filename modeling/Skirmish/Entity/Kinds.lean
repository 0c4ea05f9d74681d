import Skirmish.Entity
import Skirmish.Entity.Attributes

namespace Skirmish

structure EntityState where
  attributes : Attributes := .empty
  buffs : BuffLedger := .empty
  position : Position := .origin
  deriving DecidableEq

namespace EntityState

def withAttribute (s : EntityState) (id : AttributeId) (value : Float) : EntityState :=
  { s with attributes := s.attributes.insert id value }

def withBuff (s : EntityState) (b : Buff) : EntityState := { s with buffs := s.buffs.add b }

def toEntity (s : EntityState) (kind : EntityKind) : Entity where
  kind := kind
  storedAttribute := s.attributes.get?
  buffCount := s.buffs.count
  buffCountByTag := s.buffs.countByTag
  buffLeftTime := s.buffs.leftTime
  buffInterval := s.buffs.interval
  position := s.position

end EntityState

structure Player where
  state : EntityState := {}
  skillBars : List SkillBar := []
  deriving DecidableEq

namespace Player

def withSkillBar (p : Player) (bar : SkillBar) : Player :=
  { p with skillBars := p.skillBars.filter (·.id != bar.id) ++ [bar] }

def skillBar (p : Player) (id : SkillBarId) : Option SkillBar := p.skillBars.find? (·.id == id)

def toEntity (p : Player) : Entity := { p.state.toEntity .player with skillBar := p.skillBar }

theorem skillSlots_toEntity (p : Player) (id : SkillBarId) (used : Bool) :
    skillSlots (some p.toEntity) id used = (p.skillBar id).elim 0 (·.countSlots used) := by
  cases held : p.skillBar id <;> simp [skillSlots, toEntity, EntityState.toEntity, held]

end Player

structure Monster where
  state : EntityState := {}
  configuredType : Int32 := 0
  deriving DecidableEq

def Monster.toEntity (m : Monster) : Entity :=
  { m.state.toEntity .monster with configuredType := some m.configuredType }

structure Pet where
  state : EntityState := {}
  deriving DecidableEq

def Pet.toEntity (p : Pet) : Entity := p.state.toEntity .pet

inductive Combatant
  | player : Player → Combatant
  | monster : Monster → Combatant
  | pet : Pet → Combatant
  deriving DecidableEq

def Combatant.toEntity : Combatant → Entity
  | .player p => p.toEntity
  | .monster m => m.toEntity
  | .pet p => p.toEntity

end Skirmish

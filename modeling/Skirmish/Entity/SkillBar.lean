import Skirmish.Basic

namespace Skirmish

structure SkillSlot where
  skill : SkillId := 0
  deriving DecidableEq, Repr

def SkillSlot.isUsed (s : SkillSlot) : Bool := s.skill != 0

structure SkillBar where
  id : SkillBarId
  slots : List SkillSlot := []
  deriving DecidableEq, Repr

namespace SkillBar

def ofSkills (id : SkillBarId) (skills : List SkillId) : SkillBar := ⟨id, skills.map fun s => ⟨s⟩⟩

def countSlots (bar : SkillBar) (used : Bool) : Int64 :=
  Int64.ofNat (bar.slots.countP (·.isUsed == used))

end SkillBar

end Skirmish

import Skirmish.Entity

namespace Skirmish

inductive Query
  | attributeValue : AttributeId → Query
  | storedAttribute : AttributeId → Query
  | kind : Query
  | monsterType : Query
  | storedType : Query
  | buffCount : BuffId → Query
  | buffCountByTag : BuffTag → Query
  | buffLeftTime : BuffId → Query
  | buffInterval : BuffId → Query
  | skillSlots : SkillBarId → Bool → Query
  | skillBar : SkillBarId → Query
  | position : Query
  | distance : Query

inductive Query.Answer
  | number : Float → Answer
  | storedNumber : Option Float → Answer
  | kind : EntityKind → Answer
  | type : Int32 → Answer
  | storedType : Option Int32 → Answer
  | count : Int64 → Answer
  | skillBar : Option SkillBar → Answer
  | position : Option Position → Answer

def Query.answer (e partner : Option Entity) : Query → Query.Answer
  | .attributeValue id => .number (Skirmish.attributeValue e id)
  | .storedAttribute id => .storedNumber (e.bind (·.storedAttribute id))
  | .kind => .kind (entityKind e)
  | .monsterType => .type (Skirmish.monsterType e)
  | .storedType => .storedType (e.bind (·.configuredType))
  | .buffCount id => .count (Skirmish.buffCount e id)
  | .buffCountByTag tag => .count (Skirmish.buffCountByTag e tag)
  | .buffLeftTime id => .count (Skirmish.buffLeftTime e id)
  | .buffInterval id => .count (Skirmish.buffInterval e id)
  | .skillSlots bar used => .count (Skirmish.skillSlots e bar used)
  | .skillBar bar => .skillBar (e.bind (·.skillBar bar))
  | .position => .position (e.map (·.position))
  | .distance => .count (Skirmish.distance e partner)

end Skirmish

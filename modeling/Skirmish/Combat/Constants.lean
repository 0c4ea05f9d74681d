import Skirmish.Basic

namespace Skirmish

structure HitBounds where
  min : Int64 := 0
  max : Int64 := basisPoints
  deriving DecidableEq, Repr

namespace HitBounds

/-- Holds a rate within the bounds; reversed bounds hold no rate. -/
def clamp (b : HitBounds) (rate : Int64) : Option Int64 :=
  if b.max < b.min then none
  else if rate < b.min then some b.min
  else if b.max < rate then some b.max
  else some rate

structure OnScale (b : HitBounds) : Prop where
  nonneg : 0 ≤ b.min
  ordered : b.min ≤ b.max
  atMost : b.max ≤ basisPoints

theorem clamp_eq_none_iff {b : HitBounds} {rate : Int64} : b.clamp rate = none ↔ b.max < b.min := by
  unfold clamp
  grind

/-- The rate within the bounds that is nearest to the one a formula asks for. -/
structure Holds (b : HitBounds) (asked rate : Int64) : Prop where
  lower : b.min ≤ rate
  upper : rate ≤ b.max
  own : b.min ≤ asked → asked ≤ b.max → rate = asked
  below : asked < b.min → rate = b.min
  above : b.max < asked → rate = b.max

theorem exists_clamp {b : HitBounds} (ordered : b.min ≤ b.max) (asked : Int64) :
    ∃ rate, b.clamp asked = some rate ∧ b.Holds asked rate := by
  rw [clamp, if_neg (Int64.not_lt.2 ordered)]
  split
  · rename_i below
    refine ⟨b.min, rfl, Int64.le_refl _, ordered, fun le => ?_, fun _ => rfl, fun above => ?_⟩
    · exact absurd below (Int64.not_lt.2 le)
    · exact absurd (Int64.lt_trans above below) (Int64.not_lt.2 ordered)
  · rename_i notBelow
    split
    · rename_i above
      refine ⟨b.max, rfl, ordered, Int64.le_refl _, fun _ le => ?_, fun below => ?_, fun _ => rfl⟩
      · exact absurd above (Int64.not_lt.2 le)
      · exact absurd below notBelow
    · rename_i notAbove
      refine ⟨asked, rfl, Int64.not_lt.1 notBelow, Int64.not_lt.1 notAbove, fun _ _ => rfl, ?_, ?_⟩
      · exact fun below => absurd below notBelow
      · exact fun above => absurd above notAbove

theorem holds_of_clamp {b : HitBounds} {asked rate : Int64} (h : b.clamp asked = some rate) :
    b.Holds asked rate := by
  have ordered : b.min ≤ b.max := by
    refine Int64.not_lt.1 fun reversed => ?_
    cases (clamp_eq_none_iff.2 reversed).symm.trans h
  obtain ⟨held, clamped, holds⟩ := exists_clamp ordered asked
  cases clamped.symm.trans h
  exact holds

end HitBounds

structure CombatConstants where
  hit : HitBounds := {}
  traced : Bool := true
  targetCount : Int64 := 1
  deriving DecidableEq, Repr

instance : Inhabited CombatConstants := ⟨{}⟩

inductive Violation
  | reversedBounds : HitBounds → Violation
  | boundsOutsideScale : Violation
  | noTargets : Violation
  | duplicateParameters : FormulaId → Violation
  deriving DecidableEq, Repr

namespace Violation

def text : Violation → String
  | reversedBounds b => s!"hit.min_rate ({b.min}) exceeds hit.max_rate ({b.max})"
  | boundsOutsideScale => s!"hit rate bounds must lie within 0..={basisPoints}"
  | noTargets => "targets.default_count must be at least 1"
  | duplicateParameters id => s!"duplicate parameters for formula {id}"

def message (v : Violation) : String := "Configuration validation error: " ++ v.text

end Violation

namespace CombatConstants

def violation? (c : CombatConstants) : Option Violation :=
  if c.hit.max < c.hit.min then some (.reversedBounds c.hit)
  else if c.hit.min < 0 ∨ basisPoints < c.hit.max then some .boundsOutsideScale
  else if c.targetCount < 1 then some .noTargets
  else none

theorem violation?_eq_none_iff {c : CombatConstants} :
    c.violation? = none ↔
      ¬ c.hit.max < c.hit.min ∧ ¬ (c.hit.min < 0 ∨ basisPoints < c.hit.max) ∧
        ¬ c.targetCount < 1 := by
  unfold violation?
  grind

def validate (c : CombatConstants) : Except Violation CombatConstants :=
  match c.violation? with
  | some v => .error v
  | none => .ok c

theorem validate_eq_ok_iff {c c' : CombatConstants} :
    c.validate = .ok c' ↔ c.violation? = none ∧ c = c' := by
  unfold validate
  split <;> simp_all

theorem onScale_of_validate {c c' : CombatConstants} (h : c.validate = .ok c') : c.hit.OnScale := by
  obtain ⟨ordered, onScale, -⟩ := violation?_eq_none_iff.1 (validate_eq_ok_iff.1 h).1
  rw [not_or] at onScale
  exact ⟨Int64.not_lt.1 onScale.1, Int64.not_lt.1 ordered, Int64.not_lt.1 onScale.2⟩

theorem one_le_targetCount_of_validate {c c' : CombatConstants} (h : c.validate = .ok c') :
    1 ≤ c.targetCount := by
  obtain ⟨-, -, enough⟩ := violation?_eq_none_iff.1 (validate_eq_ok_iff.1 h).1
  exact Int64.not_lt.1 enough

end CombatConstants

end Skirmish

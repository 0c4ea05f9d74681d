import Skirmish.Basic

namespace Skirmish

/-- A supply of integers below a bound. A bound of zero is answered by zero. -/
class RandomSource (σ : Type) where
  nextBelow : σ → UInt64 → UInt64 × σ

export RandomSource (nextBelow)

class LawfulRandomSource (σ : Type) [RandomSource σ] : Prop where
  nextBelow_lt (source : σ) {bound : UInt64} : 0 < bound → (nextBelow source bound).1 < bound

export LawfulRandomSource (nextBelow_lt)

variable {σ : Type} [RandomSource σ]

def resolveHit (source : σ) (rate : Int64) : Bool × σ :=
  let (draw, source) := nextBelow source basisPoints.toUInt64
  (decide (draw.toInt64 ≤ rate), source)

/-- How many integers lie from `min` to `max`; the full range of words counts one too few. -/
def rangeSize (min max : Int64) : UInt64 :=
  let width := max.toUInt64 - min.toUInt64
  if width = -1 then width else width + 1

def boundedInt (source : σ) (min max : Int64) : Int64 × σ :=
  if max ≤ min then (min, source)
  else
    let (draw, source) := nextBelow source (rangeSize min max)
    (min + draw.toInt64, source)

end Skirmish

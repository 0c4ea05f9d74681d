import Skirmish.Rounding

namespace Skirmish

structure Position where
  x : Float
  y : Float
  z : Float
  deriving DecidableEq, BEq

namespace Position

def origin : Position := ⟨0, 0, 0⟩

instance : Inhabited Position := ⟨origin⟩

def distanceTo (p q : Position) : Float :=
  let dx := p.x - q.x
  let dy := p.y - q.y
  let dz := p.z - q.z
  (dx * dx + dy * dy + dz * dz).sqrt

end Position

end Skirmish

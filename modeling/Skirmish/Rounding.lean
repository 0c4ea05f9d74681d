namespace Skirmish

open Float.Model

def wholePart (m : Nat) (e : Int) : Nat :=
  if 0 ≤ e then m <<< e.toNat else m >>> (-e).toNat

def isWhole (m : Nat) (e : Int) : Bool :=
  0 ≤ e || m % (1 <<< (-e).toNat) == 0

/-- The integer part, held within the range of `Int64`; no number counts as zero. -/
def truncate (x : Float) : Int64 :=
  match x.toModel.unpack with
  | .notANumber => 0
  | .zero _ => 0
  | .infinity .positive => Int64.maxValue
  | .infinity .negative => Int64.minValue
  | .finite .positive m e _ => Int64.ofIntClamp (wholePart m e)
  | .finite .negative m e _ => Int64.ofIntClamp (-(wholePart m e : Int))

def roundDown (x : Float) : Float :=
  match x.toModel.unpack with
  | .finite .positive m e _ => if isWhole m e then x else Float.ofNat (wholePart m e)
  | .finite .negative m e _ => if isWhole m e then x else -Float.ofNat (wholePart m e + 1)
  | _ => x

def roundUp (x : Float) : Float :=
  match x.toModel.unpack with
  | .finite .positive m e _ => if isWhole m e then x else Float.ofNat (wholePart m e + 1)
  | .finite .negative m e _ => if isWhole m e then x else -Float.ofNat (wholePart m e)
  | _ => x

/-- The larger of two doubles; beside a number, no number is passed over. -/
def larger (x y : Float) : Float :=
  if x.isNaN then y else if y.isNaN then x else if x < y then y else x

example :
    roundDown (-0.5) = -1 ∧ roundUp (-0.5) = -0.0 ∧ roundUp 2.25 = 3 ∧ roundDown 1e300 = 1e300 := by
  decide +kernel

example : truncate (-1.9) = -1 ∧ truncate 1e19 = Int64.maxValue ∧ truncate (0.0 / 0.0) = 0 := by
  decide +kernel

end Skirmish

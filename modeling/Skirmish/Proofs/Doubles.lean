import Mathlib
import Skirmish.Basic
import Skirmish.Rounding

namespace Skirmish

open Float.Model UnpackedFloat

def AboveZero : UnpackedFloat → Prop
  | .infinity .positive => True
  | .finite .positive .. => True
  | _ => False

/-- The mantissas of doubles have 53 bits, the first of which is set above the least exponent. -/
structure Canonical (m : Nat) (e : Int) : Prop where
  lt : m < 2 ^ 53
  least : -1074 ≤ e
  full : e ≠ -1074 → 2 ^ 52 ≤ m

theorem toNat_one_append (v : BitVec 52) : (1#1 ++ v).toNat = 2 ^ 52 + v.toNat := by
  rw [BitVec.toNat_append, ← Nat.shiftLeft_add_eq_or_of_lt v.isLt]
  rfl

theorem canonical_of_unpack {x : Float.Model} {s : Sign} {m : Nat} {e : Int} {pos : 0 < m}
    (h : x.unpack = .finite s m e pos) : Canonical m e := by
  have bias : (Format.binary64.exponentBias : Int) = 1023 := rfl
  have bits : (Format.binary64.mantissaBitsWithoutImplicit : Int) = 52 := rfl
  rw [Float.Model.unpack, UnpackedFloat.unpack] at h
  have small : (@unpackMantissa .binary64 x.toBits.toBitVec).toNat < 2 ^ 52 :=
    BitVec.isLt _
  split at h
  · split at h <;> cases h
  · split at h
    · split at h
      · cases h
      · rename_i zero _
        cases h
        rw [zero]
        exact ⟨by omega, by decide, fun positive => absurd rfl positive⟩
    · rename_i nonzero
      cases h
      have : (@unpackExponent .binary64 x.toBits.toBitVec).toNat ≠ 0 :=
        fun zero => nonzero (BitVec.eq_of_toNat_eq zero)
      rw [toNat_one_append, bias, bits]
      exact ⟨by omega, by omega, by omega⟩

theorem not_aboveZero_of_sign {b : BitVec Format.binary64.numBits}
    (h : unpackSign b = Sign.toBitVec .negative) :
    ¬ AboveZero (UnpackedFloat.unpack .binary64 b) := by
  have sign : Sign.ofBitVec (unpackSign b) = .negative := by
    rw [h, Sign.ofBitVec_toBitVec]
  rw [UnpackedFloat.unpack]
  simp only [sign]
  split
  · split <;> exact id
  · split
    · split <;> exact id
    · exact id

theorem aboveZero_of_pack {u : UnpackedFloat} (h : AboveZero (Float.Model.pack u).unpack) :
    AboveZero u := by
  cases u with
  | notANumber => exact h
  | infinity s => cases s <;> exact h
  | zero s => cases s <;> exact h
  | finite s m e pos =>
    cases s with
    | positive => trivial
    | negative =>
      refine absurd h (not_aboveZero_of_sign ?_)
      show unpackSign (UnpackedFloat.pack .binary64 _) = _
      rw [UnpackedFloat.pack]
      split
      · exact unpackSign_packComponents _ _ _
      · split <;> exact unpackSign_packComponents _ _ _

/-- In units of a common exponent: a larger exponent outweighs the mantissas, for the first bit of
the larger number is then set. -/
theorem shiftLeft_le_of_isLE {m₁ m₂ : Nat} {e₁ e₂ e : Int} (c₁ : Canonical m₁ e₁)
    (c₂ : Canonical m₂ e₂) (h : ((compare e₁ e₂).then (compare m₁ m₂)).isLE) (le₁ : e ≤ e₁) :
    m₁ <<< (e₁ - e).toNat ≤ m₂ <<< (e₂ - e).toNat := by
  rw [Ordering.isLE_then_iff_or] at h
  rw [Nat.shiftLeft_eq, Nat.shiftLeft_eq]
  obtain lt | ⟨eq, le⟩ := h
  · have lt : e₁ < e₂ := Std.compare_eq_lt.1 lt
    have small := c₁.lt
    have full := c₂.full (by have := c₁.least; omega)
    have more : (e₁ - e).toNat + 1 ≤ (e₂ - e).toNat := by omega
    calc
      m₁ * 2 ^ (e₁ - e).toNat ≤ m₂ * 2 * 2 ^ (e₁ - e).toNat := Nat.mul_le_mul_right _ (by omega)
      _ = m₂ * 2 ^ ((e₁ - e).toNat + 1) := by rw [Nat.pow_succ', Nat.mul_assoc]
      _ ≤ m₂ * 2 ^ (e₂ - e).toNat := Nat.mul_le_mul_left _ (Nat.pow_le_pow_right (by decide) more)
  · obtain rfl : e₁ = e₂ := Std.compare_eq_iff_eq.1 eq
    exact Nat.mul_le_mul_right _ (Std.isLE_compare.1 le)

theorem apply_shiftLeft_le {s s' : Sign} {m m' : Nat} {e e' : Int} {pos : 0 < m} {pos' : 0 < m'}
    (c : Canonical m e) (c' : Canonical m' e')
    (h : ((UnpackedFloat.finite s m e pos).compare (.finite s' m' e' pos')).any (·.isLE)) :
    s.apply (m <<< (e - min e e').toNat : Nat) ≤ s'.apply (m' <<< (e' - min e e').toNat : Nat) := by
  cases s with
  | negative =>
    cases s' with
    | negative =>
      have le : ((compare e e').then (compare m m')).swap.isLE := h
      rw [Ordering.swap_then, ← Std.OrientedOrd.eq_swap, ← Std.OrientedOrd.eq_swap] at le
      exact Int.neg_le_neg (Int.ofNat_le.2 (shiftLeft_le_of_isLE c' c le (Int.min_le_right ..)))
    | positive =>
      calc
        -(_ : Int) ≤ 0 := Int.neg_nonpos_of_nonneg (Int.natCast_nonneg _)
        _ ≤ _ := Int.natCast_nonneg _
  | positive =>
    cases s' with
    | negative => cases h
    | positive => exact Int.ofNat_le.2 (shiftLeft_le_of_isLE c c' h (Int.min_le_left ..))

theorem not_aboveZero_round {f : Format} (m : Nat) (e : Int) :
    ¬ AboveZero (UnpackedFloat.round f .negative m e) := by
  simp only [UnpackedFloat.round, roundWithAccuracy]
  split <;> exact id

theorem not_aboveZero_normalize {f : Format} {n : Int} (h : n ≤ 0) (e : Int) (s : Sign) :
    ¬ AboveZero (UnpackedFloat.normalize f n e s) := by
  rw [UnpackedFloat.normalize]
  split
  · exact not_aboveZero_round _ _
  · exact id
  · rename_i gt
    exact absurd h (Int.not_le.2 (Std.compare_eq_gt.1 gt))

theorem not_aboveZero_sub {x y : Float} (h : x ≤ y) : ¬ AboveZero (x - y).toModel.unpack := by
  have le : (x.toModel.unpack.compare y.toModel.unpack).any (·.isLE) := of_decide_eq_true h
  suffices ¬ AboveZero (UnpackedFloat.sub .binary64 x.toModel.unpack y.toModel.unpack) from
    fun above => this (aboveZero_of_pack above)
  -- Unless both are finite, their signs settle it: out of order, or nothing above zero is left.
  cases hx : x.toModel.unpack with
  | notANumber => exact id
  | infinity s | zero s =>
    rw [hx] at le
    cases hy : y.toModel.unpack with
    | notANumber => exact id
    | infinity s' | zero s' | finite s' =>
      rw [hy] at le
      cases s <;> cases s' <;> first | exact id | cases le
  | finite s m e pos =>
    rw [hx] at le
    cases hy : y.toModel.unpack with
    | notANumber => exact id
    | infinity s' | zero s' =>
      rw [hy] at le
      cases s <;> cases s' <;> first | exact id | cases le
    | finite s' m' e' pos' =>
      rw [hy] at le
      apply not_aboveZero_normalize
      apply Int.sub_nonpos_of_le
      exact apply_shiftLeft_le (canonical_of_unpack hx) (canonical_of_unpack hy) le

theorem unpack_zero : (0 : Float).toModel.unpack = .zero .positive := rfl

theorem unpack_one :
    (1 : Float).toModel.unpack = .finite .positive (2 ^ 52) (-52) (by decide) := rfl

theorem larger_cases {x y : Float} (number : y.isNaN = false) :
    larger x y = y ∨
      larger x y = x ∧ x.toModel.unpack ≠ .notANumber ∧
        x.toModel.unpack.compare y.toModel.unpack ≠ some .lt := by
  rw [larger]
  simp only [number, Bool.false_eq_true, if_false]
  split
  · exact .inl rfl
  · rename_i notNaN
    split
    · exact .inl rfl
    · rename_i notBelow
      refine .inr ⟨rfl, fun no => notNaN (congrArg UnpackedFloat.isNaN no), fun lt => ?_⟩
      exact notBelow (decide_eq_true (beq_iff_eq.2 lt))

theorem unpack_larger_zero {x : Float} (h : ¬ AboveZero x.toModel.unpack) :
    ∃ s, (larger x 0).toModel.unpack = .zero s := by
  obtain eq | ⟨eq, number, notBelow⟩ := larger_cases (x := x) (y := 0) rfl
  · exact ⟨_, eq ▸ unpack_zero⟩
  · rw [unpack_zero] at notBelow
    rw [eq]
    cases hx : x.toModel.unpack with
    | notANumber => exact absurd hx number
    | zero s => exact ⟨s, rfl⟩
    | infinity s | finite s =>
      rw [hx] at h notBelow
      cases s with
      | negative => exact absurd rfl notBelow
      | positive => exact absurd trivial h

theorem truncate_roundDown_larger_zero {x : Float} (h : ¬ AboveZero x.toModel.unpack) :
    truncate (roundDown (larger x 0)) = 0 := by
  obtain ⟨s, hs⟩ := unpack_larger_zero h
  simp only [roundDown, truncate, hs]

theorem one_le_wholePart {m : Nat} {e : Int} (c : Canonical m e)
    (h : (compare e (-52)).then (compare m (2 ^ 52)) ≠ .lt) : 1 ≤ wholePart m e := by
  have enough : -52 ≤ e ∧ 2 ^ 52 ≤ m := by
    rw [ne_eq, Ordering.then_eq_lt, Std.compare_eq_lt, Std.compare_eq_lt,
      Std.compare_eq_iff_eq] at h
    have := c.full
    omega
  rw [wholePart]
  split
  · rw [Nat.shiftLeft_eq]
    exact Nat.mul_pos (Nat.le_trans (by decide) enough.2) (Nat.two_pow_pos _)
  · rw [Nat.shiftRight_eq_div_pow]
    refine Nat.div_pos (Nat.le_trans ?_ enough.2) (Nat.two_pow_pos _)
    exact Nat.pow_le_pow_right (by decide) (by omega)

theorem one_le_ofIntClamp {n : Int} (h : 1 ≤ n) : 1 ≤ Int64.ofIntClamp n := by
  rw [Int64.le_iff_toInt_le, Amount.toInt_ofIntClamp]
  have : Int64.maxValue.toInt = 9223372036854775807 := rfl
  have : (1 : Int64).toInt = 1 := rfl
  omega

theorem one_le_truncate_larger_one (x : Float) : 1 ≤ truncate (larger x 1) := by
  obtain eq | ⟨eq, number, notBelow⟩ := larger_cases (x := x) (y := 1) rfl
  · rw [eq]
    decide +kernel
  · rw [unpack_one] at notBelow
    rw [eq, truncate]
    cases hx : x.toModel.unpack with
    | notANumber => exact absurd hx number
    | zero s =>
      rw [hx] at notBelow
      exact absurd rfl notBelow
    | infinity s =>
      rw [hx] at notBelow
      cases s with
      | negative => exact absurd rfl notBelow
      | positive => decide
    | finite s m e pos =>
      rw [hx] at notBelow
      cases s with
      | negative => exact absurd rfl notBelow
      | positive =>
        have whole : 1 ≤ wholePart m e :=
          one_le_wholePart (canonical_of_unpack hx) fun lt => notBelow (congrArg some lt)
        exact one_le_ofIntClamp (Int.ofNat_le.2 whole)

end Skirmish

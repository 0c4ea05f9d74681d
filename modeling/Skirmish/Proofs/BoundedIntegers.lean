import Mathlib.Algebra.Order.Ring.Int
import Mathlib.Logic.ExistsUnique
import Skirmish.Random.ChaCha8
import Skirmish.Random.Sampled
import Skirmish.Random.Scripted

/-!
Integers drawn from a range. The draws of a range run through it upwards, each integer once, and
come round into it however wide it is. Only the full range has one integer more than a bound can
name: its highest one is never drawn.
-/

namespace Skirmish

def above (min : Int64) (draw : UInt64) : Int64 := min + draw.toInt64

def width (min max : Int64) : Nat := (max.toInt - min.toInt).toNat

theorem toInt_word (word : UInt64) : word.toInt64.toInt = (word.toNat : Int).bmod (2 ^ 64) := by
  rw [Int64.toInt, UInt64.toBitVec_toInt64, BitVec.toInt_eq_toNat_bmod, UInt64.toNat_toBitVec]

theorem toNat_word (n : Int64) : (n.toUInt64.toNat : Int) = n.toInt % (2 ^ 64 : Nat) := by
  have small := n.toUInt64.toNat_lt
  have word : n.toInt = (n.toUInt64.toNat : Int).bmod (2 ^ 64) := toInt_word n.toUInt64
  rw [word, Int.bmod_emod]
  exact (Int.emod_eq_of_lt (Int.natCast_nonneg _) (by omega)).symm

theorem toInt_above {min : Int64} {draw : UInt64}
    (h : min.toInt + draw.toNat ≤ Int64.maxValue.toInt) :
    (above min draw).toInt = min.toInt + draw.toNat := by
  have least := Int64.le_toInt min
  rw [Int64.toInt_maxValue] at h
  rw [above, Int64.toInt_add, toInt_word, Int.add_bmod_bmod]
  apply Int.bmod_eq_of_le <;> omega

section Size

variable {min max : Int64}

theorem add_width (h : min ≤ max) : min.toInt + width min max = max.toInt := by
  have := Int64.le_iff_toInt_le.1 h
  rw [width]
  omega

theorem toNat_sub_word (h : min ≤ max) : (max.toUInt64 - min.toUInt64).toNat = width min max := by
  have range := add_width h
  have low := toNat_word min
  have high := toNat_word max
  have least := Int64.le_toInt min
  have most := Int64.toInt_lt max
  rw [UInt64.toNat_sub]
  omega

theorem width_lt (h : min ≤ max) : width min max < 2 ^ 64 := by
  rw [← toNat_sub_word h]
  exact UInt64.toNat_lt _

theorem width_eq_iff (h : min ≤ max) :
    width min max = 2 ^ 64 - 1 ↔ min = Int64.minValue ∧ max = Int64.maxValue := by
  have range := add_width h
  have least := Int64.le_toInt min
  have most := Int64.toInt_lt max
  rw [← Int64.toInt_inj, ← Int64.toInt_inj, Int64.toInt_minValue, Int64.toInt_maxValue]
  omega

theorem toNat_rangeSize (h : min ≤ max) : (rangeSize min max).toNat =
    if width min max = 2 ^ 64 - 1 then width min max else width min max + 1 := by
  have word := toNat_sub_word h
  have small := width_lt h
  have last : max.toUInt64 - min.toUInt64 = -1 ↔ width min max = 2 ^ 64 - 1 := by
    rw [← UInt64.toNat_inj, word]
    exact Iff.rfl
  simp only [rangeSize, last]
  split
  · exact word
  · rw [UInt64.toNat_add, word, UInt64.toNat_one]
    exact Nat.mod_eq_of_lt (by omega)

/-- The draws below a size run through the integers from `min` to `max`: upwards, without leaving
them, and coming to each of them once. -/
structure Traverses (size : Nat) (min max : Int64) : Prop where
  upwards (d e : UInt64) : d < e → e.toNat < size → above min d < above min e
  stays (d : UInt64) : d.toNat < size → min ≤ above min d ∧ above min d ≤ max
  reaches (n : Int64) : min ≤ n → n ≤ max → ∃! d : UInt64, d.toNat < size ∧ above min d = n

theorem toInt_above_of_le_width (h : min ≤ max) {draw : UInt64} (le : draw.toNat ≤ width min max) :
    (above min draw).toInt = min.toInt + draw.toNat := by
  have range := add_width h
  have most := Int64.toInt_le max
  apply toInt_above
  omega

theorem traverses_width (h : min ≤ max) : Traverses (width min max + 1) min max where
  upwards d e lt below := by
    have lt := UInt64.lt_iff_toNat_lt.1 lt
    rw [Int64.lt_iff_toInt_lt, toInt_above_of_le_width h (by omega),
      toInt_above_of_le_width h (by omega)]
    omega
  stays d below := by
    have range := add_width h
    rw [Int64.le_iff_toInt_le, Int64.le_iff_toInt_le, toInt_above_of_le_width h (by omega)]
    omega
  reaches n lower upper := by
    have range := add_width h
    have place := add_width lower
    have within : width min n ≤ width min max := by
      have := Int64.le_iff_toInt_le.1 upper
      omega
    have toNat : (UInt64.ofNat (width min n)).toNat = width min n :=
      UInt64.toNat_ofNat_of_lt' (Nat.lt_of_le_of_lt within (width_lt h))
    refine ⟨UInt64.ofNat (width min n), ⟨?_, ?_⟩, ?_⟩
    · rw [toNat]
      exact Nat.lt_succ_of_le within
    · have placed := toInt_above_of_le_width h (Nat.le_trans (Nat.le_of_eq toNat) within)
      rw [← Int64.toInt_inj, placed, toNat, place]
    · rintro d ⟨below, rfl⟩
      rw [toInt_above_of_le_width h (Nat.le_of_lt_succ below)] at place
      rw [← UInt64.toNat_inj, toNat]
      omega

theorem not_traverses_width (h : min ≤ max) : ¬ Traverses (width min max) min max := by
  intro traverses
  obtain ⟨d, ⟨below, last⟩, -⟩ := traverses.reaches max h (Int64.le_refl max)
  have range := add_width h
  have place := toInt_above_of_le_width h (Nat.le_of_lt below)
  rw [last] at place
  omega

theorem traverses_full : Traverses (rangeSize Int64.minValue Int64.maxValue).toNat
    Int64.minValue (Int64.maxValue - 1) := by
  have size : (rangeSize Int64.minValue Int64.maxValue).toNat =
      width Int64.minValue (Int64.maxValue - 1) + 1 := by decide
  rw [size]
  exact traverses_width (by decide)

variable {σ : Type} [RandomSource σ]

theorem boundedInt_of_le (h : max ≤ min) (source : σ) : boundedInt source min max = (min, source) :=
  if_pos h

theorem boundedInt_of_lt (h : min < max) (source : σ) :
    boundedInt source min max = (above min (nextBelow source (rangeSize min max)).1,
      (nextBelow source (rangeSize min max)).2) :=
  if_neg (Int64.not_le.2 h)

end Size

/-- The draws that are asked for in a range run through it evenly, unless it is the full range. That
one is asked for without its highest integer. -/
theorem boundedInt_traverses_iff {min max : Int64} (h : min < max) :
    (∀ (σ : Type) [RandomSource σ] (source : σ),
      (boundedInt source min max).1 = above min (nextBelow source (rangeSize min max)).1) ∧
      Traverses (width min max + 1) min max ∧
      (Traverses (rangeSize min max).toNat min max ↔
        ¬ (min = Int64.minValue ∧ max = Int64.maxValue)) ∧
      (min = Int64.minValue → max = Int64.maxValue →
        Traverses (rangeSize min max).toNat min (max - 1)) := by
  have le : min ≤ max := Int64.le_of_lt h
  refine ⟨?asked, traverses_width le, ?even, ?full⟩
  case asked =>
    intro σ _ source
    rw [boundedInt_of_lt h]
  case even =>
    rw [toNat_rangeSize le, ← width_eq_iff le]
    split
    · rename_i full
      exact iff_of_false (not_traverses_width le) (not_not_intro full)
    · rename_i proper
      exact iff_of_true (traverses_width le) proper
  case full =>
    rintro rfl rfl
    exact traverses_full

theorem boundedInt_misses_highest :
    (∀ (σ : Type) [RandomSource σ] [LawfulRandomSource σ] (source : σ),
      (boundedInt source Int64.minValue Int64.maxValue).1 ≠ Int64.maxValue) ∧
      (boundedInt (ScriptedRolls.fixed (-1)) Int64.minValue Int64.maxValue).1 =
        Int64.maxValue - 1 := by
  refine ⟨?_, by decide⟩
  intro σ _ _ source highest
  have pos : 0 < rangeSize Int64.minValue Int64.maxValue := by decide
  have below := nextBelow_lt source pos
  have stays := (traverses_full.stays _ (UInt64.lt_iff_toNat_lt.1 below)).2
  rw [boundedInt_of_lt (by decide)] at highest
  dsimp only at highest
  rw [highest] at stays
  exact absurd stays (by decide)

theorem boundedInt_traverses_wide :
    let max := Int64.maxValue - 1
    Int64.minValue < max ∧ Traverses (rangeSize Int64.minValue max).toNat Int64.minValue max := by
  intro max
  have proper : Int64.minValue < max := by decide
  exact ⟨proper, (boundedInt_traverses_iff proper).2.2.1.2 (by decide)⟩

structure Asked (σ : Type) where
  source : σ
  bounds : List UInt64 := []

instance {σ : Type} [RandomSource σ] : RandomSource (Asked σ) where
  nextBelow r bound :=
    ((nextBelow r.source bound).1, ⟨(nextBelow r.source bound).2, r.bounds ++ [bound]⟩)

/-- A range of at most one point is answered by `min`, and the source is not asked. For any other it
is asked once, below a bound that leaves room, and the answer is from within. -/
structure DrawnWithin {σ : Type} [RandomSource σ] (source : σ) (min max : Int64) : Prop where
  undrawn : max ≤ min →
    boundedInt source min max = (min, source) ∧
      boundedInt (⟨source, []⟩ : Asked σ) min max = (min, ⟨source, []⟩)
  drawn : min < max → ∃ (n : Int64) (bound : UInt64), 0 < bound ∧ min ≤ n ∧ n ≤ max ∧
    boundedInt source min max = (n, (nextBelow source bound).2) ∧
      boundedInt (⟨source, []⟩ : Asked σ) min max = (n, ⟨(nextBelow source bound).2, [bound]⟩)

theorem DrawnWithin.of_lawful {σ : Type} [RandomSource σ] [LawfulRandomSource σ] (source : σ)
    (min max : Int64) : DrawnWithin source min max where
  undrawn h := ⟨boundedInt_of_le h source, boundedInt_of_le h _⟩
  drawn h := by
    have le := Int64.le_of_lt h
    have size := toNat_rangeSize le
    have range := add_width le
    have lt := Int64.lt_iff_toInt_lt.1 h
    have pos : 0 < rangeSize min max := by
      rw [UInt64.lt_iff_toNat_lt, size, UInt64.toNat_zero]
      split <;> omega
    have below := UInt64.lt_iff_toNat_lt.1 (nextBelow_lt source pos)
    have within : (nextBelow source (rangeSize min max)).1.toNat < width min max + 1 := by
      split at size <;> omega
    obtain ⟨lower, upper⟩ := (traverses_width le).stays _ within
    exact ⟨_, _, pos, lower, upper, boundedInt_of_lt h source, boundedInt_of_lt h _⟩

theorem boundedInt_drawnWithin (min max : Int64) :
    (∀ (σ : Type) [RandomSource σ] [LawfulRandomSource σ] (source : σ),
      DrawnWithin source min max) ∧
      (∀ rolls : ScriptedRolls, DrawnWithin rolls min max) ∧
      (∀ (γ : Type) (sample : γ → UInt64 → UInt64 × γ),
        (∀ g bound, 0 < bound → (sample g bound).1 < bound) →
        ∀ source : Sampled γ sample, DrawnWithin source min max) ∧
      ∀ g : ChaCha8, DrawnWithin g min max := by
  refine ⟨fun σ _ _ source => .of_lawful source min max, fun rolls => .of_lawful rolls min max, ?_,
    fun g => .of_lawful g min max⟩
  intro γ sample below source
  have := Sampled.lawful below
  exact .of_lawful source min max

theorem boundedInt_drawnWithin_wide :
    let rolls : ScriptedRolls := .ofList [3, 18446744073709551615]
    let counter : Sampled UInt64 fun g bound => (g % bound, g + 1) := ⟨17446744073709551615⟩
    DrawnWithin rolls Int64.minValue Int64.maxValue ∧
      DrawnWithin counter (-9000000000000000000) 9000000000000000000 ∧
      (boundedInt counter (-9000000000000000000) 9000000000000000000).1 = 8446744073709551615 := by
  intro rolls counter
  have drawn := boundedInt_drawnWithin Int64.minValue Int64.maxValue
  have drawn' := boundedInt_drawnWithin (-9000000000000000000) 9000000000000000000
  refine ⟨drawn.2.1 rolls, drawn'.2.2.1 _ _ ?_ counter, by decide⟩
  exact fun g bound pos => UInt64.mod_lt g pos

end Skirmish

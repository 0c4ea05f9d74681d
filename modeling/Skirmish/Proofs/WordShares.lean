import Mathlib.Algebra.Order.Floor.Div
import Mathlib.Data.FinEnum
import Mathlib.Data.Set.Card
import Mathlib.Data.Set.Finite.List
import Mathlib.Order.Interval.Finset.Nat
import Mathlib.Tactic.Ring
import Skirmish.Random.ChaCha8

/-!
How the words of a generator are shared out among the answers below a bound. A word is accepted with
an answer if its product with the bound ends low enough above the answer's place. Each of these
places takes up the same number of words, and so each answer is the one of as many sequences of
words as any other.
-/

namespace Skirmish

open ChaCha8 (accepted product scaled zone)

def leadingZeros (n : UInt64) : Nat := n.toBitVec.clz.toNat

def kept (n : UInt64) : Nat := n.toNat * 2 ^ leadingZeros n

section Word

variable {n : UInt64} (h : 0 < n)

include h

theorem log2_add_leadingZeros : n.toNat.log2 + leadingZeros n = 63 := by
  have nonzero : n.toBitVec ≠ 0 := by
    rintro zero
    obtain rfl : n = 0 := UInt64.toBitVec_inj.1 zero
    exact absurd h (by decide)
  have few : leadingZeros n < 64 := BitVec.lt_def.1 (BitVec.clz_lt_iff_ne_zero.2 nonzero)
  have low : 2 ^ (63 - leadingZeros n) ≤ n.toNat :=
    BitVec.two_pow_sub_clz_le_toNat_of_ne_zero (by decide) nonzero
  have high : n.toNat < 2 ^ (64 - leadingZeros n) := BitVec.toNat_lt_two_pow_sub_clz
  have log : n.toNat.log2 = 63 - leadingZeros n := by
    rw [Nat.log2_eq_iff (UInt64.lt_iff_toNat_lt.1 h).ne']
    refine ⟨low, ?_⟩
    rwa [show 63 - leadingZeros n + 1 = 64 - leadingZeros n by omega]
  omega

theorem kept_lt : kept n < 2 ^ 64 := by
  have bits := log2_add_leadingZeros h
  calc
    kept n < 2 ^ (n.toNat.log2 + 1) * 2 ^ leadingZeros n :=
      Nat.mul_lt_mul_of_pos_right Nat.lt_log2_self (Nat.two_pow_pos _)
    _ = 2 ^ 64 := by rw [← Nat.pow_add]; congr 1; omega

theorem le_kept : 2 ^ 63 ≤ kept n := by
  have bits := log2_add_leadingZeros h
  have pos : n.toNat ≠ 0 := (UInt64.lt_iff_toNat_lt.1 h).ne'
  calc
    2 ^ 63 = 2 ^ n.toNat.log2 * 2 ^ leadingZeros n := by rw [← Nat.pow_add, bits]
    _ ≤ kept n := Nat.mul_le_mul_right _ (Nat.log2_self_le pos)

theorem toNat_zone : (zone n).toNat = kept n - 1 := by
  have bits := log2_add_leadingZeros h
  have shift : (63 - n.toNat.log2).toUInt64.toNat = leadingZeros n := by
    rw [UInt64.toNat_ofNat_of_lt' (by rw [UInt64.size]; omega)]
    omega
  have shifted : (n <<< (63 - n.toNat.log2).toUInt64).toNat = kept n := by
    rw [UInt64.toNat_shiftLeft, shift, Nat.shiftLeft_eq,
      Nat.mod_eq_of_lt (show leadingZeros n < 64 by omega)]
    exact Nat.mod_eq_of_lt (kept_lt h)
  have one_le : 1 ≤ kept n := Nat.le_trans (by decide) (le_kept h)
  rw [zone, UInt64.toNat_sub_of_le _ _ (UInt64.le_iff_toNat_le.2 (shifted ▸ one_le)), shifted]
  rfl

theorem accepted_iff {w : UInt64} : accepted w n ↔ product w n % 2 ^ 64 < kept n := by
  have one_le : 1 ≤ kept n := Nat.le_trans (by decide) (le_kept h)
  have low : (product w n).toUInt64.toNat = product w n % 2 ^ 64 := rfl
  rw [accepted, decide_eq_true_eq, UInt64.le_iff_toNat_le, low, toNat_zone h]
  omega

omit h in
theorem toNat_scaled (w : UInt64) : (scaled w n).toNat = product w n / 2 ^ 64 := by
  have below : product w n / 2 ^ 64 < 2 ^ 64 := by
    apply Nat.div_lt_of_lt_mul
    exact Nat.mul_lt_mul'' w.toNat_lt n.toNat_lt
  rw [scaled, Nat.shiftRight_eq_div_pow]
  exact UInt64.toNat_ofNat_of_lt' below

theorem accepted_scaled_iff {w k : UInt64} : accepted w n ∧ scaled w n = k ↔
    k.toNat * 2 ^ 64 ≤ product w n ∧ product w n < k.toNat * 2 ^ 64 + kept n := by
  have small := kept_lt h
  rw [accepted_iff h, ← UInt64.toNat_inj, toNat_scaled]
  omega

end Word

theorem ncard_words {low count : Nat} (h : low + count ≤ 2 ^ 64) :
    {w : UInt64 | low ≤ w.toNat ∧ w.toNat < low + count}.ncard = count := by
  have image : UInt64.toNat '' {w | low ≤ w.toNat ∧ w.toNat < low + count} =
      Finset.Ico low (low + count) := by
    ext m
    simp only [Set.mem_image, Set.mem_ofPred_eq, Finset.coe_Ico, Set.mem_Ico]
    constructor
    · rintro ⟨w, within, rfl⟩
      exact within
    · intro within
      have toNat : (UInt64.ofNat m).toNat = m :=
        UInt64.toNat_ofNat_of_lt' (by rw [UInt64.size]; omega)
      exact ⟨UInt64.ofNat m, by rwa [toNat], toNat⟩
  rw [← Set.ncard_image_of_injective _ fun a b => UInt64.toNat_inj.1, image, Set.ncard_coe_finset,
    Nat.card_Ico]
  omega

theorem ncard_univ_words : (Set.univ : Set UInt64).ncard = 2 ^ 64 := by
  have all : (Set.univ : Set UInt64) = {w | 0 ≤ w.toNat ∧ w.toNat < 0 + 2 ^ 64} := by
    ext w
    have := w.toNat_lt
    simpa using this
  rw [all, ncard_words (by decide)]

theorem ncard_accepted_scaled {n k : UInt64} (h : k < n) :
    {w | accepted w n ∧ scaled w n = k}.ncard = 2 ^ leadingZeros n := by
  have pos : 0 < n := UInt64.lt_of_le_of_lt UInt64.zero_le h
  have pos' : 0 < n.toNat := UInt64.lt_iff_toNat_lt.1 pos
  have lt : k.toNat < n.toNat := UInt64.lt_iff_toNat_lt.1 h
  -- Stepping by the bound, the products reach the answer's place at a first word, and leave it so
  -- many words later, for it is as wide as so many steps.
  let first := (k.toNat * 2 ^ 64) ⌈/⌉ n.toNat
  have reaches (w : Nat) : k.toNat * 2 ^ 64 ≤ w * n.toNat ↔ first ≤ w := by
    rw [Nat.mul_comm w]
    exact (ceilDiv_le_iff_le_mul pos').symm
  have leaves (w : Nat) :
      w * n.toNat < k.toNat * 2 ^ 64 + kept n ↔ w < first + 2 ^ leadingZeros n := by
    by_cases early : w < 2 ^ leadingZeros n
    · have : w * n.toNat < 2 ^ leadingZeros n * n.toNat := Nat.mul_lt_mul_of_pos_right early pos'
      rw [kept, Nat.mul_comm n.toNat]
      omega
    · obtain ⟨v, rfl⟩ := Nat.exists_eq_add_of_le (Nat.not_lt.1 early)
      have := reaches v
      rw [kept, Nat.mul_comm n.toNat, Nat.add_mul]
      omega
  have last : first + 2 ^ leadingZeros n ≤ 2 ^ 64 := by
    rw [← Nat.not_lt, ← leaves]
    have := kept_lt pos
    have : (k.toNat + 1) * 2 ^ 64 ≤ n.toNat * 2 ^ 64 := Nat.mul_le_mul_right _ lt
    omega
  have same : {w | accepted w n ∧ scaled w n = k} =
      {w | first ≤ w.toNat ∧ w.toNat < first + 2 ^ leadingZeros n} := by
    ext w
    exact (accepted_scaled_iff pos).trans (and_congr (reaches w.toNat) (leaves w.toNat))
  rw [same, ncard_words last]

theorem ncard_accepted_below {n : UInt64} {m : Nat} (h : m ≤ n.toNat) :
    {w | accepted w n ∧ (scaled w n).toNat < m}.ncard = m * 2 ^ leadingZeros n := by
  induction m with
  | zero => simp
  | succ m ih =>
    have toNat : (UInt64.ofNat m).toNat = m :=
      UInt64.toNat_ofNat_of_lt' (Nat.lt_trans h n.toNat_lt)
    have last : UInt64.ofNat m < n := UInt64.lt_iff_toNat_lt.2 (toNat.symm ▸ h)
    have split : {w | accepted w n ∧ (scaled w n).toNat < m + 1} =
        {w | accepted w n ∧ (scaled w n).toNat < m} ∪
          {w | accepted w n ∧ scaled w n = UInt64.ofNat m} := by
      ext w
      rw [Set.mem_union, Set.mem_ofPred_eq, Set.mem_ofPred_eq, Set.mem_ofPred_eq, ← and_or_left,
        ← UInt64.toNat_inj, toNat, Nat.lt_succ_iff_lt_or_eq]
    have apart : Disjoint {w | accepted w n ∧ (scaled w n).toNat < m}
        {w | accepted w n ∧ scaled w n = UInt64.ofNat m} := by
      rw [Set.disjoint_left]
      rintro w ⟨-, below⟩ ⟨-, eq⟩
      rw [eq, toNat] at below
      exact Nat.lt_irrefl m below
    rw [split, Set.ncard_union_eq apart, ih (Nat.le_of_succ_le h), ncard_accepted_scaled last,
      Nat.succ_mul]

theorem ncard_accepted {n : UInt64} (h : 0 < n) : {w | accepted w n}.ncard = kept n := by
  rw [kept, ← ncard_accepted_below (Nat.le_refl n.toNat)]
  congr 1
  ext w
  exact (and_iff_left (UInt64.lt_iff_toNat_lt.1 (ChaCha8.scaled_lt w h))).symm

def firstAccepted? (bound : UInt64) (words : List UInt64) : Option UInt64 :=
  words.find? (accepted · bound)

theorem firstAccepted?_cons (bound w : UInt64) (words : List UInt64) :
    firstAccepted? bound (w :: words) =
      if accepted w bound then some w else firstAccepted? bound words := by
  rw [firstAccepted?, List.find?_cons]
  cases accepted w bound <;> rfl

/-- The sequences of so many words of which the first accepted one is of a kind. -/
def decidedBy (bound : UInt64) (kind : Set UInt64) (length : Nat) : Set (List UInt64) :=
  {words | words.length = length ∧ ∃ w ∈ kind, firstAccepted? bound words = some w}

theorem ncard_image2_cons (heads : Set UInt64) (tails : Set (List UInt64)) :
    (Set.image2 List.cons heads tails).ncard = heads.ncard * tails.ncard := by
  rw [← Set.image_prod, Set.ncard_image_of_injective, Set.ncard_prod]
  rintro ⟨w, ws⟩ ⟨w', ws'⟩ h
  simpa using h

theorem ncard_length (length : Nat) :
    {words : List UInt64 | words.length = length}.ncard = (2 ^ 64) ^ length := by
  induction length with
  | zero => simp
  | succ length ih =>
    have cons : {words : List UInt64 | words.length = length + 1} =
        Set.image2 List.cons Set.univ {words | words.length = length} := by
      ext words
      cases words <;> simp
    rw [cons, ncard_image2_cons, ncard_univ_words, ih, pow_succ' (2 ^ 64) length]

section Decided

variable {n : UInt64} {kind : Set UInt64} (sub : ∀ w ∈ kind, accepted w n)

include sub

theorem decidedBy_succ (length : Nat) : decidedBy n kind (length + 1) =
    Set.image2 List.cons kind {words | words.length = length} ∪
      Set.image2 List.cons {w | accepted w n}ᶜ (decidedBy n kind length) := by
  ext words
  cases words with
  | nil => simp [decidedBy]
  | cons w words =>
    by_cases hw : accepted w n
    · simp [decidedBy, firstAccepted?_cons, hw, and_comm]
    · have : w ∉ kind := fun mem => hw (sub w mem)
      simp [decidedBy, firstAccepted?_cons, hw, this]

theorem ncard_decidedBy_succ (h : 0 < n) (length : Nat) :
    (decidedBy n kind (length + 1)).ncard =
      kind.ncard * (2 ^ 64) ^ length + (2 ^ 64 - kept n) * (decidedBy n kind length).ncard := by
  have all := List.finite_length_eq UInt64 length
  have decided : (decidedBy n kind length).Finite := all.subset fun words mem => mem.1
  have now := kind.toFinite.image2 List.cons all
  have later := ({w | accepted w n}ᶜ).toFinite.image2 List.cons decided
  have apart : Disjoint (Set.image2 List.cons kind {words | words.length = length})
      (Set.image2 List.cons {w | accepted w n}ᶜ (decidedBy n kind length)) := by
    rw [Set.disjoint_left]
    rintro _ ⟨w, mem, words, -, rfl⟩ ⟨w', rejected, words', -, eq⟩
    obtain ⟨rfl, -⟩ := List.cons.inj eq
    exact rejected (sub w' mem)
  have rejected : ({w | accepted w n}ᶜ).ncard = 2 ^ 64 - kept n := by
    rw [Set.ncard_compl, ncard_accepted h, ← Set.ncard_univ, ncard_univ_words]
  rw [decidedBy_succ sub, Set.ncard_union_eq apart now later, ncard_image2_cons,
    ncard_image2_cons, ncard_length, rejected]

/-- Of the sequences that are not rejected throughout, a kind of words decides the share that it has
in the accepted words. -/
theorem kept_mul_ncard_decidedBy (h : 0 < n) (length : Nat) :
    kept n * (decidedBy n kind length).ncard + kind.ncard * (2 ^ 64 - kept n) ^ length =
      kind.ncard * (2 ^ 64) ^ length := by
  induction length with
  | zero =>
    have none : decidedBy n kind 0 = ∅ := by
      ext words
      simp +contextual [decidedBy, firstAccepted?]
    simp [none]
  | succ length ih =>
    have all : kept n + (2 ^ 64 - kept n) = 2 ^ 64 := Nat.add_sub_of_le (kept_lt h).le
    rw [ncard_decidedBy_succ sub h]
    generalize 2 ^ 64 - kept n = rest at ih all ⊢
    calc
      kept n * (kind.ncard * (2 ^ 64) ^ length + rest * (decidedBy n kind length).ncard) +
            kind.ncard * rest ^ (length + 1) =
          kept n * (kind.ncard * (2 ^ 64) ^ length) +
            rest * (kept n * (decidedBy n kind length).ncard + kind.ncard * rest ^ length) := by
        ring
      _ = kind.ncard * ((kept n + rest) * (2 ^ 64) ^ length) := by
        rw [ih]
        ring
      _ = kind.ncard * (2 ^ 64) ^ (length + 1) := by rw [all, pow_succ' (2 ^ 64) length]

theorem mul_ncard_decidedBy (h : 0 < n) {answers : Nat}
    (shares : kind.ncard = answers * 2 ^ leadingZeros n) (length : Nat) :
    n.toNat * (decidedBy n kind length).ncard + answers * (2 ^ 64 - kept n) ^ length =
      answers * (2 ^ 64) ^ length := by
  apply Nat.eq_of_mul_eq_mul_left (Nat.two_pow_pos (leadingZeros n))
  calc
    2 ^ leadingZeros n *
          (n.toNat * (decidedBy n kind length).ncard + answers * (2 ^ 64 - kept n) ^ length) =
        n.toNat * 2 ^ leadingZeros n * (decidedBy n kind length).ncard +
          answers * 2 ^ leadingZeros n * (2 ^ 64 - kept n) ^ length := by
      ring
    _ = answers * 2 ^ leadingZeros n * (2 ^ 64) ^ length := by
      rw [← kept, ← shares, kept_mul_ncard_decidedBy sub h]
    _ = 2 ^ leadingZeros n * (answers * (2 ^ 64) ^ length) := by ring

end Decided

end Skirmish

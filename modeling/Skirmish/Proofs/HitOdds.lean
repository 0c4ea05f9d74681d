import Skirmish.Proofs.WordShares
import Skirmish.Random.Sampled

namespace Skirmish

open ChaCha8 (accepted scaled)

variable {γ : Type}

def DrawsWords (next : γ → UInt64 × γ) (sample : γ → UInt64 → UInt64 × γ) : Prop :=
  ∀ g n, 0 < n → sample g n =
    if accepted (next g).1 n then (scaled (next g).1 n, (next g).2) else sample (next g).2 n

def words (next : γ → UInt64 × γ) (g : γ) : Nat → List UInt64
  | 0 => []
  | count + 1 => (next g).1 :: words next (next g).2 count

def hitWords (rate : Int64) : Set UInt64 :=
  {w | accepted w basisPoints.toUInt64 ∧ (scaled w basisPoints.toUInt64).toInt64 ≤ rate}

theorem accepted_of_firstAccepted? {n w : UInt64} {words : List UInt64}
    (h : firstAccepted? n words = some w) : accepted w n :=
  List.find?_some (p := (accepted · n)) h

theorem toInt_scaled (w : UInt64) :
    (scaled w basisPoints.toUInt64).toInt64.toInt = (scaled w basisPoints.toUInt64).toNat ∧
      (scaled w basisPoints.toUInt64).toNat < 10000 :=
  toInt_of_lt_basisPoints (ChaCha8.scaled_lt w (by decide))

theorem ncard_hitWords (rate : Int64) :
    (hitWords rate).ncard = (min 10000 (max 0 (rate.toInt + 1))).toNat * 2 ^ 50 := by
  have share : leadingZeros basisPoints.toUInt64 = 50 := by decide
  have few : (min 10000 (max 0 (rate.toInt + 1))).toNat ≤ basisPoints.toUInt64.toNat := by
    have : basisPoints.toUInt64.toNat = 10000 := rfl
    omega
  rw [← share, ← ncard_accepted_below few]
  congr 1
  ext w
  apply and_congr_right
  intro _
  obtain ⟨value, below⟩ := toInt_scaled w
  rw [Int64.le_iff_toInt_le, value]
  omega

/-- The source answers with the first of the words that is accepted, and it rolls with it. -/
structure Follows {σ : Type} [RandomSource σ] (source : σ) (words : List UInt64) : Prop where
  answer (n w : UInt64) : 0 < n → firstAccepted? n words = some w →
    (nextBelow source n).1 = scaled w n ∧ (nextBelow source n).1 < n
  roll (w : UInt64) (rate : Int64) : firstAccepted? basisPoints.toUInt64 words = some w →
    ((resolveHit source rate).1 ↔ w ∈ hitWords rate)

theorem Follows.of_scaled {σ : Type} [RandomSource σ] {source : σ} {words : List UInt64}
    (h : ∀ n w, 0 < n → firstAccepted? n words = some w → (nextBelow source n).1 = scaled w n) :
    Follows source words where
  answer n w pos first := ⟨h n w pos first, h n w pos first ▸ ChaCha8.scaled_lt w pos⟩
  roll w rate first := by
    have answer := h _ w (by decide) first
    have accepted := accepted_of_firstAccepted? first
    show decide ((nextBelow source basisPoints.toUInt64).1.toInt64 ≤ rate) = true ↔ _
    rw [answer, decide_eq_true_eq, hitWords, Set.mem_ofPred_eq, and_iff_right accepted]

section Drawn

variable {next : γ → UInt64 × γ} {sample : γ → UInt64 → UInt64 × γ}

theorem sample_eq_scaled (draws : DrawsWords next sample) {n w : UInt64} (h : 0 < n)
    {count : Nat} {g : γ} (first : firstAccepted? n (words next g count) = some w) :
    (sample g n).1 = scaled w n := by
  induction count generalizing g with
  | zero => cases first
  | succ count ih =>
    rw [words, firstAccepted?_cons] at first
    rw [draws g n h]
    split at first
    · rename_i hw
      cases first
      rw [if_pos hw]
    · rename_i hw
      rw [if_neg hw]
      exact ih first

theorem Sampled.follows (draws : DrawsWords next sample) (source : Sampled γ sample) (count : Nat) :
    Follows source (words next source.generator count) := by
  apply Follows.of_scaled
  intro n w pos first
  rw [nextBelow_of_ne (UInt64.ne_of_lt pos).symm]
  exact sample_eq_scaled draws pos first

end Drawn

namespace ChaCha8

theorem draw_eq_scaled {n w : UInt64} {count : Nat} {g : ChaCha8}
    (first : firstAccepted? n (words next g count) = some w) {tries : Nat}
    (enough : count ≤ tries) : (draw n tries g).1 = scaled w n := by
  induction count generalizing g tries with
  | zero => cases first
  | succ count ih =>
    cases tries with
    | zero => exact absurd enough (Nat.not_succ_le_zero count)
    | succ tries =>
      rw [words, firstAccepted?_cons] at first
      simp only [draw]
      split at first
      · rename_i hw
        cases first
        rw [if_pos hw]
      · rename_i hw
        rw [if_neg hw]
        exact ih first (Nat.le_of_succ_le_succ enough)

theorem follows (g : ChaCha8) {count : Nat} (enough : count ≤ maxTries) :
    Follows g (words next g count) := by
  apply Follows.of_scaled
  intro n w pos first
  rw [show nextBelow g n = draw n maxTries g from if_neg (UInt64.ne_of_lt pos).symm]
  exact draw_eq_scaled first enough

end ChaCha8

theorem hitWords_of_le {rate : Int64} (h : 9999 ≤ rate) :
    hitWords rate = {w | accepted w basisPoints.toUInt64} := by
  ext w
  obtain ⟨value, below⟩ := toInt_scaled w
  apply and_iff_left
  rw [Int64.le_iff_toInt_le, value]
  have : (9999 : Int64).toInt = 9999 := rfl
  have := Int64.le_iff_toInt_le.1 h
  omega

theorem hitWords_of_neg {rate : Int64} (h : rate < 0) : hitWords rate = ∅ := by
  rw [Set.eq_empty_iff_forall_notMem]
  rintro w ⟨-, le⟩
  obtain ⟨value, -⟩ := toInt_scaled w
  rw [Int64.le_iff_toInt_le, value] at le
  have := Int64.lt_iff_toInt_lt.1 h
  rw [Int64.toInt_zero] at this
  omega

/-- The answers below a bound are those of as many words each, and of as many sequences of words
each. A roll hits by as many of these shares as there are draws up to its rate. -/
theorem Sampled.exact_odds {next : γ → UInt64 × γ} {sample : γ → UInt64 → UInt64 × γ}
    (draws : DrawsWords next sample) :
    (∀ n : UInt64, 0 < n →
      {w | accepted w n}.ncard = n.toNat * 2 ^ leadingZeros n ∧
      ∀ k < n, {w | accepted w n ∧ scaled w n = k}.ncard = 2 ^ leadingZeros n ∧
        ∀ length, n.toNat * (decidedBy n {w | accepted w n ∧ scaled w n = k} length).ncard +
          (2 ^ 64 - n.toNat * 2 ^ leadingZeros n) ^ length = (2 ^ 64) ^ length) ∧
    (∀ rate : Int64,
      let hits := (min 10000 (max 0 (rate.toInt + 1))).toNat
      {w | accepted w basisPoints.toUInt64}.ncard = 10000 * 2 ^ 50 ∧
      (hitWords rate).ncard = hits * 2 ^ 50 ∧
      (9999 ≤ rate → hitWords rate = {w | accepted w basisPoints.toUInt64}) ∧
      (rate < 0 → hitWords rate = ∅) ∧
      ∀ length, 10000 * (decidedBy basisPoints.toUInt64 (hitWords rate) length).ncard +
        hits * (2 ^ 64 - 10000 * 2 ^ 50) ^ length = hits * (2 ^ 64) ^ length) ∧
    (∀ (source : Sampled γ sample) count, Follows source (words next source.generator count)) ∧
    ∀ (g : ChaCha8) count, count ≤ ChaCha8.maxTries → Follows g (words ChaCha8.next g count) := by
  refine ⟨?answers, ?rolls, Sampled.follows draws, fun g _ => ChaCha8.follows g⟩
  case answers =>
    intro n pos
    refine ⟨ncard_accepted pos, fun k lt => ?_⟩
    have shares := ncard_accepted_scaled lt
    have sub : ∀ w ∈ {w | accepted w n ∧ scaled w n = k}, accepted w n := fun w mem => mem.1
    refine ⟨shares, fun length => ?_⟩
    have decided := mul_ncard_decidedBy sub pos (shares.trans (Nat.one_mul _).symm) length
    rwa [Nat.one_mul, Nat.one_mul] at decided
  case rolls =>
    intro rate hits
    have pos : 0 < basisPoints.toUInt64 := by decide
    have shares := ncard_hitWords rate
    refine ⟨ncard_accepted pos, shares, hitWords_of_le, hitWords_of_neg, ?_⟩
    exact mul_ncard_decidedBy (fun w mem => mem.1) pos shares

def nextOnTape : List UInt64 → UInt64 × List UInt64
  | [] => (0, [])
  | w :: ws => (w, ws)

def sampleTape : List UInt64 → UInt64 → UInt64 × List UInt64
  | [], _ => (0, [])
  | w :: ws, n => if accepted w n then (scaled w n, ws) else sampleTape ws n

theorem drawsWords_tape : DrawsWords nextOnTape sampleTape := by
  intro tape n pos
  cases tape with
  | nil =>
    have product : ChaCha8.product 0 n = 0 := Nat.zero_mul _
    have zero : accepted 0 n := by
      rw [accepted, product]
      exact decide_eq_true UInt64.zero_le
    have answer : scaled 0 n = 0 := by
      rw [scaled, product]
      rfl
    simp only [nextOnTape, sampleTape, zero, answer, if_true]
  | cons w ws => rfl

theorem Sampled.exact_odds_tape :
    let source : Sampled (List UInt64) sampleTape := ⟨[18446744073709551615, 1844674407370956]⟩
    DrawsWords nextOnTape sampleTape ∧ (hitWords 0).ncard = 2 ^ 50 ∧
      (nextBelow source basisPoints.toUInt64).1 = 1 ∧ ¬ (resolveHit source 0).1 ∧
      (resolveHit source 9999).1 := by
  intro source
  obtain ⟨-, rolls, follows, -⟩ := exact_odds drawsWords_tape
  obtain ⟨-, zero, -⟩ := rolls 0
  obtain ⟨-, -, all, -⟩ := rolls 9999
  have first : firstAccepted? basisPoints.toUInt64 (words nextOnTape source.generator 2) =
      some 1844674407370956 := by decide
  have answer := ((follows source 2).answer _ _ (by decide) first).1
  have roll (rate : Int64) := (follows source 2).roll _ rate first
  refine ⟨drawsWords_tape, zero, answer, ?_, ?_⟩
  · rw [roll]
    rintro ⟨-, le⟩
    exact absurd le (by decide)
  · rw [roll, all (by decide)]
    exact accepted_of_firstAccepted? first

end Skirmish

import Skirmish.Proofs.Doubles
import Skirmish.Proofs.Strikes

namespace Skirmish

variable {σ ω : Type}

namespace Evaluation

def Deals (e : Evaluation σ ω) (amount : Amount) : Prop :=
  e.damage = .ok amount ∧ e.context.damageOf? .primary = some amount

instance (e : Evaluation σ ω) (amount : Amount) : Decidable (e.Deals amount) :=
  inferInstanceAs (Decidable (_ ∧ _))

theorem Deals.unique {e : Evaluation σ ω} {amount amount' : Amount} (h : e.Deals amount)
    (h' : e.Deals amount') : amount = amount' :=
  Except.ok.inj (h.1.symm.trans h'.1)

end Evaluation

variable [RandomSource σ]

namespace Builtin

theorem evadableRate_eq_zero {evasion : Float} (h : 10000 ≤ evasion) : evadableRate evasion = 0 :=
  truncate_roundDown_larger_zero (not_aboveZero_sub h)

theorem one_le_scaledDamage (attack ratio flat : Float) : 1 ≤ scaledDamage attack ratio flat :=
  one_le_truncate_larger_one _

end Builtin

theorem toInt64_pos_iff {n : UInt64} (h : n < basisPoints.toUInt64) : 0 < n.toInt64 ↔ n ≠ 0 := by
  obtain ⟨value, -⟩ := toInt_of_lt_basisPoints h
  rw [Int64.lt_iff_toInt_lt, value, Int64.toInt_zero, ne_eq, ← UInt64.toNat_inj, UInt64.toNat_zero]
  omega

namespace Dispatcher

open Builtin

section Strike

variable {d : Dispatcher ω} {c : Combatants} {context : Context} {ratio flat : Float}
  (registered : d.registry.get scaledStrikeId = .ok ⟨evadable, scaledStrike⟩)
  (hratio : context.param? "par001" = some ratio) (hflat : context.param? "par002" = some flat)
  (source : σ) (init : Amount)

include registered hratio hflat

theorem deals_scaledStrike {rate : Int64}
    (rated : (d.setting scaledStrikeId ⟨evadable, scaledStrike⟩ c).rate? context = some rate) :
    (d.evaluate scaledStrikeId context c source init).Deals
      (if (draw source).toInt64 ≤ rate then
        scaledDamage (attributeValue c.attacker .attack) ratio flat
      else 0) := by
  have told : d.hitRate Strike.scaled.id context c = .ok rate :=
    (hitRate_eq_ok_iff registered).2 rated
  have evaluated := evaluate_strike_of_outcome registered told source init
    (Strike.outcome_scaled hratio hflat _ (decide ((draw source).toInt64 ≤ rate)))
  simp only [decide_eq_true_eq] at evaluated
  refine ⟨congrArg Evaluation.damage evaluated, ?_⟩
  have after := congrArg (·.context.damageOf? .primary) evaluated
  exact after.trans (Table.get?_insert_self ..)

/-- A strike at a target whose evasion takes up the whole hit rate misses unless the draw is zero,
and then it hits. -/
theorem scaledStrike_evaded_iff (constants : d.constants = {})
    (evasive : 10000 ≤ attributeValue c.target .evasion) :
    let e := d.evaluate scaledStrikeId context c source init
    (e.Deals 0 ↔ 0 < (draw source).toInt64) ∧
      (draw source < basisPoints.toUInt64 → (e.Deals 0 ↔ draw source ≠ 0)) ∧
      (e.Deals 0 ∨ ∃ amount, 1 ≤ amount ∧ e.Deals amount) := by
  intro e
  have none : evadable context c = 0 := evadableRate_eq_zero evasive
  have rated : (d.setting scaledStrikeId ⟨evadable, scaledStrike⟩ c).rate? context = some 0 := by
    rw [Setting.rate?, setting, constants]
    dsimp only
    rw [none]
    rfl
  have deals := deals_scaledStrike registered hratio hflat source init rated
  have enough := one_le_scaledDamage (attributeValue c.attacker .attack) ratio flat
  have missed_iff : e.Deals 0 ↔ 0 < (draw source).toInt64 := by
    by_cases hit : (draw source).toInt64 ≤ 0
    · rw [if_pos hit] at deals
      refine iff_of_false (fun missed => ?_) (Int64.not_lt.2 hit)
      rw [deals.unique missed] at enough
      exact absurd enough (by decide)
    · rw [if_neg hit] at deals
      exact iff_of_true deals (Int64.not_le.1 hit)
  refine ⟨missed_iff, fun below => missed_iff.trans (toInt64_pos_iff below), ?_⟩
  split at deals
  · exact .inr ⟨_, enough, deals⟩
  · exact .inl deals

end Strike

theorem scaledStrike_not_evaded :
    let player : Player := { state := { attributes := .ofList [(.attack, 200)] } }
    let monster : Monster := { state := { attributes := .ofList [(.evasion, 10000)] } }
    let c : Combatants := { attacker := some player.toEntity, target := some monster.toEntity }
    let context : Context := { params := .ofList [("par001", 5000), ("par002", 3)] }
    let e := ({} : Dispatcher Empty).evaluate scaledStrikeId context c (ScriptedRolls.fixed 0) 0
    10000 ≤ attributeValue c.target .evasion ∧ e.Deals 103 ∧ ¬ e.Deals 0 := by
  decide +kernel

theorem scaledStrike_evaded_infinite :
    let player : Player := { state := { attributes := .ofList [(.attack, 200)] } }
    let monster : Monster := { state := { attributes := .ofList [(.evasion, 1 / 0)] } }
    let c : Combatants := { attacker := some player.toEntity, target := some monster.toEntity }
    let context : Context := { params := .ofList [("par001", 5000), ("par002", 3)] }
    let e := ({} : Dispatcher Empty).evaluate scaledStrikeId context c (ScriptedRolls.fixed 1) 0
    10000 ≤ attributeValue c.target .evasion ∧ e.Deals 0 := by
  intro player monster c context e
  have evasive : 10000 ≤ attributeValue c.target .evasion := by decide +kernel
  have registered : ({} : Dispatcher Empty).registry.get scaledStrikeId =
      .ok ⟨evadable, scaledStrike⟩ := rfl
  have hratio : context.param? "par001" = some 5000 := rfl
  have hflat : context.param? "par002" = some 3 := rfl
  have evaded_iff :=
    (scaledStrike_evaded_iff registered hratio hflat (ScriptedRolls.fixed 1) 0 rfl evasive).1
  exact ⟨evasive, evaded_iff.2 (by decide)⟩

end Dispatcher

end Skirmish

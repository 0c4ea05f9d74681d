import Mathlib.Control.Monad.Basic
import Skirmish.Entity.Kinds
import Skirmish.Proofs.OneDraw

/-!
Strikes, which is what the built-in formulas are. A strike rolls first. A miss needs nothing more,
and a hit needs the parameters of its formula, in their order; the draw is spent either way. What an
evaluation of a strike returns, stores and traces follows from its hit rate and its draw.
-/

namespace Skirmish

variable {σ ω : Type}

inductive Strike
  | fixed
  | scaled
  | skill
  deriving DecidableEq

structure Blow where
  stored : Amount
  returned : Amount

def Blow.dealt (damage : Amount) : Blow := ⟨damage, damage⟩

def Context.require (c : Context) (name : String) : Except String Float :=
  match c.param? name with
  | some value => .ok value
  | none => .error name

namespace Strike

open Builtin

def id : Strike → FormulaId
  | fixed => fixedStrikeId
  | scaled => scaledStrikeId
  | skill => skillStrikeId

def formula : Strike → Formula ω
  | fixed => ⟨alwaysHits, fixedStrike⟩
  | scaled => ⟨evadable, scaledStrike⟩
  | skill => ⟨alwaysHits, skillStrike⟩

def blow (context : Context) (attack : Float) : Strike → Except String Blow
  | fixed => .ok ⟨fixedStrikeDamage, 0⟩
  | scaled => do
    let ratio ← context.require "par001"
    let flat ← context.require "par002"
    return .dealt (scaledDamage attack ratio flat)
  | skill => do
    let rate ← context.require Context.damageRateName
    return .dealt (skillDamage attack rate)

def outcome (strike : Strike) (context : Context) (attack : Float) : Bool → Except String Blow
  | true => strike.blow context attack
  | false => .ok (.dealt 0)

def finish (s : Setting) (rolled : Scope σ ω) : Except String Blow → Except Halt Amount × Scope σ ω
  | .ok blow =>
    (.ok blow.returned,
      { rolled with context := rolled.context.write s.id (.damage .primary blow.stored) })
  | .error name => (.error (.failed (.missingParameter s.id name)), rolled)

end Strike

@[simp] theorem Context.require_appendTrace (c : Context) (line name : String) :
    (c.appendTrace line).require name = c.require name := by
  rw [require, param?, (grown_appendTrace c line).params, ← param?, ← require]

namespace Strike

open Builtin

variable {context : Context} {attack : Float} {blow : Blow}

theorem blow_scaled_eq_ok (h : scaled.blow context attack = .ok blow) :
    ∃ ratio flat, blow = .dealt (scaledDamage attack ratio flat) := by
  simp only [Strike.blow, bind, Except.bind] at h
  split at h
  · cases h
  · split at h
    · cases h
    · cases h
      exact ⟨_, _, rfl⟩

theorem blow_skill_eq_ok (h : skill.blow context attack = .ok blow) :
    ∃ rate, blow = .dealt (skillDamage attack rate) := by
  simp only [Strike.blow, bind, Except.bind] at h
  split at h
  · cases h
  · cases h
    exact ⟨_, rfl⟩

theorem blow_scaled_eq_error_iff {name : String} :
    scaled.blow context attack = .error name ↔
      context.param? "par001" = none ∧ name = "par001" ∨
        context.param? "par001" ≠ none ∧ context.param? "par002" = none ∧ name = "par002" := by
  simp only [Strike.blow, Context.require, bind, Except.bind, pure, Except.pure]
  cases context.param? "par001" <;> cases context.param? "par002" <;> simp [eq_comm]

theorem blow_skill_eq_error_iff {name : String} :
    skill.blow context attack = .error name ↔
      context.param? Context.damageRateName = none ∧ name = Context.damageRateName := by
  simp only [Strike.blow, Context.require, bind, Except.bind, pure, Except.pure]
  cases context.param? Context.damageRateName <;> simp [eq_comm]

theorem outcome_fixed (context : Context) (attack : Float) (hit : Bool) :
    fixed.outcome context attack hit = .ok ⟨if hit then fixedStrikeDamage else 0, 0⟩ := by
  cases hit <;> rfl

theorem outcome_scaled {ratio flat : Float} (hratio : context.param? "par001" = some ratio)
    (hflat : context.param? "par002" = some flat) (attack : Float) (hit : Bool) :
    scaled.outcome context attack hit =
      .ok (.dealt (if hit then scaledDamage attack ratio flat else 0)) := by
  cases hit with
  | false => rfl
  | true =>
    simp only [outcome, Strike.blow, Context.require, hratio, hflat]
    rfl

theorem outcome_skill {rate : Float} (hrate : context.param? Context.damageRateName = some rate)
    (attack : Float) (hit : Bool) :
    skill.outcome context attack hit =
      .ok (.dealt (if hit then skillDamage attack rate else 0)) := by
  cases hit with
  | false => rfl
  | true =>
    simp only [outcome, Strike.blow, Context.require, hrate]
    rfl

theorem outcome_dealt {strike : Strike} (h : strike ≠ fixed) {hit : Bool}
    (out : strike.outcome context attack hit = .ok blow) : blow.stored = blow.returned := by
  cases hit with
  | false =>
    cases out
    rfl
  | true =>
    cases strike with
    | fixed => exact absurd rfl h
    | scaled =>
      obtain ⟨_, _, rfl⟩ := blow_scaled_eq_ok out
      rfl
    | skill =>
      obtain ⟨_, rfl⟩ := blow_skill_eq_ok out
      rfl

end Strike

theorem Context.write_damage_hitLine (context : Context) (id : FormulaId) (rate : Int64)
    (hit : Bool) (type : CombatType) (amount : Amount) :
    (context.appendTrace (hitLine id rate hit)).write id (.damage type amount) =
      { context with
        damage := context.damage.insert type amount
        trace := context.trace.map (· ++ [hitLine id rate hit, damageLine id type amount]) } := by
  simp [write, appendTrace, storeDamage, Function.comp_def]

variable [RandomSource σ]

theorem Program.run_param (s : Setting) (scope : Scope σ ω) (name : String) :
    (param name).run s scope =
      match scope.context.require name with
      | .ok value => (.ok value, scope)
      | .error missing => (.error (.failed (.missingParameter s.id missing)), scope) := by
  simp only [param, run, Context.require]
  cases scope.context.param? name <;> rfl

namespace Strike

open Builtin

/-- A strike rolls, and does what its outcome says. -/
theorem run_damage (strike : Strike) (s : Setting) (init : Amount) {scope rolled : Scope σ ω}
    {rate : Int64} {hit : Bool} (fresh : scope.outcome = none)
    (rated : s.rate? scope.context = some rate) (rolls : scope.roll s rate = (hit, rolled)) :
    (strike.formula.damage init).run s scope =
      finish s rolled
        (strike.outcome scope.context (attributeValue s.combatants.attacker .attack) hit) := by
  have params (name : String) : rolled.context.require name = scope.context.require name := by
    obtain rfl : (scope.roll s rate).2 = rolled := congrArg Prod.snd rolls
    rw [Scope.context_roll, Context.require_appendTrace]
  cases strike with
  | fixed =>
    simp only [formula, fixedStrike, Program.hit, bind, Program.bind, Program.run, fresh, rated,
      rolls]
    cases hit <;> rfl
  | scaled =>
    simp only [formula, scaledStrike, Builtin.attack, Program.hit, Program.combatants, bind,
      Program.bind, pure, Program.run, fresh, rated, rolls]
    cases hit with
    | false => rfl
    | true =>
      simp only [if_pos, Program.run_bind, Program.run_param, params, outcome, blow]
      cases scope.context.require "par001" with
      | error missing => rfl
      | ok ratio =>
        simp only [params]
        cases scope.context.require "par002" <;> rfl
  | skill =>
    simp only [formula, skillStrike, Builtin.attack, Program.hit, Program.combatants, bind,
      Program.bind, pure, Program.run, fresh, rated, rolls]
    cases hit with
    | false => rfl
    | true =>
      simp only [if_pos, Program.damageRate, Program.run_bind, Program.run_param, params, outcome,
        blow]
      cases scope.context.require Context.damageRateName <;> rfl

end Strike

def Registry.HoldsStrikes (r : Registry ω) : Prop :=
  ∀ strike : Strike, r.get strike.id = .ok strike.formula

theorem Registry.holdsStrikes_builtin : (Registry.builtin : Registry ω).HoldsStrikes := by
  intro strike
  cases strike <;> rfl

namespace Dispatcher

open Builtin

variable {d : Dispatcher ω}

section Strike

variable {strike : Strike} (registered : d.registry.get strike.id = .ok strike.formula)

include registered

theorem exists_hitRate_strike (bounds : d.constants.hit.min ≤ d.constants.hit.max)
    (context : Context) (c : Combatants) : ∃ rate, d.hitRate strike.id context c = .ok rate := by
  obtain ⟨rate, rated⟩ :=
    Setting.exists_rate (s := d.setting strike.id strike.formula c) bounds context
  exact ⟨rate, (hitRate_eq_ok_iff registered).2 rated⟩

theorem evaluate_strike {context : Context} {c : Combatants} {rate : Int64}
    (rated : d.hitRate strike.id context c = .ok rate) (source : σ) (init : Amount) :
    let hit := decide ((draw source).toInt64 ≤ rate)
    d.evaluate strike.id context c source init =
      match strike.outcome context (attributeValue c.attacker .attack) hit with
      | .ok blow =>
        ⟨.ok blow.returned,
          (context.appendTrace (hitLine strike.id rate hit)).write strike.id
            (.damage .primary blow.stored), advance source, []⟩
      | .error name =>
        ⟨.error (.failed (.missingParameter strike.id name)), context, advance source, []⟩ := by
  intro hit
  let s := d.setting strike.id strike.formula c
  let start : Scope σ ω := { context, source }
  let rolled := (start.roll s rate).2
  have fresh : start.outcome = none := rfl
  have told : s.rate? start.context = some rate := (hitRate_eq_ok_iff registered).1 rated
  have rolls : start.roll s rate = (hit, rolled) := rfl
  have run : (strike.formula.damage init).run s start =
      Strike.finish s rolled
        (strike.outcome context (attributeValue c.attacker .attack) hit) :=
    strike.run_damage s init fresh told rolls
  simp only [evaluate, registered]
  rw [run]
  cases strike.outcome context (attributeValue c.attacker .attack) hit with
  | ok blow => rfl
  | error name =>
    -- Of a failed strike there is only the line of its roll to take back.
    have grown := Context.grown_appendTrace context (hitLine strike.id rate hit)
    have kept : rolled.context.rollback context.checkpoint = context :=
      Context.rollback_of_grown grown
    simp only [Strike.finish, settle, kept]
    rfl

theorem evaluate_strike_of_outcome {context : Context} {c : Combatants} {rate : Int64}
    (rated : d.hitRate strike.id context c = .ok rate) (source : σ) (init : Amount) {blow : Blow}
    (out : strike.outcome context (attributeValue c.attacker .attack)
      (decide ((draw source).toInt64 ≤ rate)) = .ok blow) :
    let hit := decide ((draw source).toInt64 ≤ rate)
    d.evaluate strike.id context c source init =
      ⟨.ok blow.returned, { context with
        damage := context.damage.insert .primary blow.stored
        trace := context.trace.map
          (· ++ [hitLine strike.id rate hit, damageLine strike.id .primary blow.stored]) },
        advance source, []⟩ := by
  intro hit
  rw [evaluate_strike registered rated, out]
  simp only [Context.write_damage_hitLine, hit]

theorem exists_outcome_of_ok {context : Context} {c : Combatants} {rate : Int64}
    (rated : d.hitRate strike.id context c = .ok rate) {source : σ} {init v : Amount}
    (ok : (d.evaluate strike.id context c source init).damage = .ok v) :
    ∃ blow, v = blow.returned ∧ strike.outcome context (attributeValue c.attacker .attack)
      (decide ((draw source).toInt64 ≤ rate)) = .ok blow := by
  rw [evaluate_strike registered rated] at ok
  cases out : strike.outcome context (attributeValue c.attacker .attack)
      (decide ((draw source).toInt64 ≤ rate)) with
  | error name =>
    rw [out] at ok
    cases ok
  | ok blow =>
    rw [out] at ok
    cases ok
    exact ⟨blow, rfl, rfl⟩

theorem source_evaluate_strike (bounds : d.constants.hit.min ≤ d.constants.hit.max)
    (context : Context) (c : Combatants) (source : σ) (init : Amount) :
    (d.evaluate strike.id context c source init).source = advance source := by
  obtain ⟨rate, rated⟩ := exists_hitRate_strike registered bounds context c
  rw [evaluate_strike registered rated]
  split <;> rfl

end Strike

def Hits (d : Dispatcher ω) (id : FormulaId) (context : Context) (c : Combatants) (source : σ) :
    Prop :=
  ∃ rate, d.hitRate id context c = .ok rate ∧ (resolveHit source rate).1 = true

theorem hits_iff {id : FormulaId} {context : Context} {c : Combatants} {rate : Int64}
    (rated : d.hitRate id context c = .ok rate) (source : σ) :
    d.Hits id context c source ↔ (draw source).toInt64 ≤ rate := by
  constructor
  · rintro ⟨rate', rated', hit⟩
    cases rated.symm.trans rated'
    exact of_decide_eq_true hit
  · intro hit
    exact ⟨rate, rated, decide_eq_true hit⟩

section Strike

variable {strike : Strike} (registered : d.registry.get strike.id = .ok strike.formula)
  (bounds : d.constants.hit.min ≤ d.constants.hit.max) (context : Context) (c : Combatants)
  (source : σ) (init : Amount)

include registered bounds

theorem damage_evaluate_strike_of_not_hits (missed : ¬ d.Hits strike.id context c source) :
    (d.evaluate strike.id context c source init).damage = .ok 0 := by
  obtain ⟨rate, rated⟩ := exists_hitRate_strike registered bounds context c
  rw [hits_iff rated] at missed
  rw [evaluate_strike registered rated, decide_eq_false missed]
  rfl

theorem damage_evaluate_strike_eq_error_iff (halt : Halt) :
    (d.evaluate strike.id context c source init).damage = .error halt ↔
      d.Hits strike.id context c source ∧
        ∃ name, strike.blow context (attributeValue c.attacker .attack) = .error name ∧
          halt = .failed (.missingParameter strike.id name) := by
  obtain ⟨rate, rated⟩ := exists_hitRate_strike registered bounds context c
  rw [hits_iff rated, evaluate_strike registered rated]
  by_cases hit : (draw source).toInt64 ≤ rate
  · rw [decide_eq_true hit, Strike.outcome]
    cases strike.blow context (attributeValue c.attacker .attack) with
    | ok blow => simp
    | error name => simp [hit, eq_comm]
  · rw [decide_eq_false hit, Strike.outcome]
    simp [hit]

end Strike

/-- A strike fails on a hit for which a parameter is missing, and with the first such: the fixed
strike needs none, the scaled strike two and the skill strike the skill's damage rate. A miss never
fails, and every evaluation draws once. -/
theorem strikes_fail_iff (strikes : d.registry.HoldsStrikes)
    (bounds : d.constants.hit.min ≤ d.constants.hit.max) (context : Context) (c : Combatants)
    (source : σ) (init : Amount) :
    (∃ v, (d.evaluate fixedStrikeId context c source init).damage = .ok v) ∧
      (∀ halt, (d.evaluate scaledStrikeId context c source init).damage = .error halt ↔
        d.Hits scaledStrikeId context c source ∧
          (context.param? "par001" = none ∧
              halt = .failed (.missingParameter scaledStrikeId "par001") ∨
            context.param? "par001" ≠ none ∧ context.param? "par002" = none ∧
              halt = .failed (.missingParameter scaledStrikeId "par002"))) ∧
      (∀ halt, (d.evaluate skillStrikeId context c source init).damage = .error halt ↔
        d.Hits skillStrikeId context c source ∧ context.param? "damageRate" = none ∧
          halt = .failed (.missingParameter skillStrikeId "damageRate")) ∧
      ∀ strike : Strike,
        let e := d.evaluate strike.id context c source init
        (¬ d.Hits strike.id context c source → e.damage = .ok 0) ∧
          e.source = advance source ∧
          (d.evaluate strike.id context c (⟨source, 0⟩ : Metered σ) init).source =
            ⟨advance source, 1⟩ := by
  have fails_iff (strike : Strike) :=
    damage_evaluate_strike_eq_error_iff (strikes strike) bounds context c source init
  refine ⟨?_, ?_, ?_, ?_⟩
  · cases damage : (d.evaluate fixedStrikeId context c source init).damage with
    | ok v => exact ⟨v, rfl⟩
    | error halt =>
      obtain ⟨-, name, missing, -⟩ := (fails_iff .fixed halt).1 damage
      cases missing
  · intro halt
    refine (fails_iff .scaled halt).trans (and_congr_right fun _ => ?_)
    constructor
    · rintro ⟨name, missing, rfl⟩
      obtain ⟨noRatio, rfl⟩ | ⟨ratio, noFlat, rfl⟩ := Strike.blow_scaled_eq_error_iff.1 missing
      · exact .inl ⟨noRatio, rfl⟩
      · exact .inr ⟨ratio, noFlat, rfl⟩
    · rintro (⟨noRatio, rfl⟩ | ⟨ratio, noFlat, rfl⟩)
      · exact ⟨_, Strike.blow_scaled_eq_error_iff.2 (.inl ⟨noRatio, rfl⟩), rfl⟩
      · exact ⟨_, Strike.blow_scaled_eq_error_iff.2 (.inr ⟨ratio, noFlat, rfl⟩), rfl⟩
  · intro halt
    refine (fails_iff .skill halt).trans (and_congr_right fun _ => ?_)
    constructor
    · rintro ⟨name, missing, rfl⟩
      obtain ⟨noRate, rfl⟩ := Strike.blow_skill_eq_error_iff.1 missing
      exact ⟨noRate, rfl⟩
    · rintro ⟨noRate, rfl⟩
      exact ⟨_, Strike.blow_skill_eq_error_iff.2 ⟨noRate, rfl⟩, rfl⟩
  · intro strike e
    have registered := strikes strike
    exact ⟨damage_evaluate_strike_of_not_hits registered bounds context c source init,
      source_evaluate_strike registered bounds context c source init,
      source_evaluate_strike registered bounds context c _ init⟩

theorem scaledStrike_without_flat :
    let d : Dispatcher Empty := {}
    let monster : Monster := { state := { attributes := .ofList [(.evasion, 10000)] } }
    let c : Combatants := { target := some monster.toEntity }
    let context : Context := { params := .ofList [("par001", 5000)] }
    let e (n : UInt64) := d.evaluate scaledStrikeId context c (ScriptedRolls.fixed n) 0
    d.constants.hit.min ≤ d.constants.hit.max ∧
      (e 0).damage = .error (.failed (.missingParameter 10002 "par002")) ∧
      (e 1).damage = .ok 0 := by
  intro d monster c context e
  have bounds : d.constants.hit.min ≤ d.constants.hit.max := by decide
  have rated : d.hitRate scaledStrikeId context c = .ok 0 := by decide +kernel
  have told (n : UInt64) := strikes_fail_iff (d := d) Registry.holdsStrikes_builtin bounds context c
    (ScriptedRolls.fixed n) 0
  refine ⟨bounds, ?_, ?_⟩
  · have hit : d.Hits scaledStrikeId context c (ScriptedRolls.fixed 0) :=
      (hits_iff rated _).2 (by decide)
    exact ((told 0).2.1 _).2 ⟨hit, .inr ⟨by decide, by decide, rfl⟩⟩
  · have miss : ¬ d.Hits scaledStrikeId context c (ScriptedRolls.fixed 1) :=
      fun hit => absurd ((hits_iff rated _).1 hit) (by decide)
    exact ((told 1).2.2.2 .scaled).1 miss

/-- What a strike that succeeds did: it stored one amount, as primary damage, and left two lines in
the trace if there is one, the first of which tells the hit rate that the dispatcher does. -/
theorem strike_effects {strike : Strike}
    (registered : d.registry.get strike.id = .ok strike.formula)
    (bounds : d.constants.hit.min ≤ d.constants.hit.max) (context : Context) (c : Combatants)
    (source : σ) (init : Amount) {v : Amount}
    (ok : (d.evaluate strike.id context c source init).damage = .ok v) :
    let e := d.evaluate strike.id context c source init
    ∃ (rate : Int64) (stored : Amount), d.hitRate strike.id context c = .ok rate ∧
      let hit := decide ((draw source).toInt64 ≤ rate)
      (strike = .fixed → v = 0 ∧ stored = if hit then 100 else 0) ∧
        (strike ≠ .fixed → stored = v ∧ (hit = false → v = 0)) ∧
        e.context = { context with
          damage := context.damage.insert .primary stored
          trace := context.trace.map
            (· ++ [hitLine strike.id rate hit, damageLine strike.id .primary stored]) } ∧
        (∀ type, e.context.damageOf? type =
          if type = .primary then some stored else context.damageOf? type) ∧
        e.source = advance source ∧
        (d.evaluate strike.id context c (⟨source, 0⟩ : Metered σ) init).source =
          ⟨advance source, 1⟩ := by
  intro e
  obtain ⟨rate, rated⟩ := exists_hitRate_strike registered bounds context c
  obtain ⟨blow, rfl, out⟩ := exists_outcome_of_ok registered rated ok
  have evaluated := evaluate_strike_of_outcome registered rated source init out
  refine ⟨rate, blow.stored, rated, ?_, ?_, congrArg Evaluation.context evaluated, ?_,
    source_evaluate_strike registered bounds context c source init,
    source_evaluate_strike registered bounds context c _ init⟩
  · rintro rfl
    cases (Strike.outcome_fixed _ _ _).symm.trans out
    exact ⟨rfl, rfl⟩
  · intro unfixed
    refine ⟨Strike.outcome_dealt unfixed out, fun missed => ?_⟩
    rw [missed] at out
    cases out
    rfl
  · intro type
    have after := congrArg (·.context.damageOf? type) evaluated
    exact after.trans (Table.get?_insert ..)

theorem scaledStrike_effects :
    let d : Dispatcher Empty := {}
    let player : Player := { state := { attributes := .ofList [(.attack, 200)] } }
    let monster : Monster := { state := { attributes := .ofList [(.evasion, 1000)] } }
    let c : Combatants := { attacker := some player.toEntity, target := some monster.toEntity }
    let context : Context := {
      damage := .ofList [(3, -4), (.primary, 7)]
      trace := some ["kept"]
      params := .ofList [("par001", 5000), ("par002", 3)] }
    let e := d.evaluate scaledStrikeId context c (ScriptedRolls.fixed 9000) 0
    d.constants.hit.min ≤ d.constants.hit.max ∧ e.damage = .ok 103 ∧
      e.context.damageOf? .primary = some 103 ∧ e.context.damageOf? 3 = some (-4) ∧
      e.context.traceLines = ["kept", "formula 10002: hit rate 9000 -> hit",
        "formula 10002: 103 damage -> type 10001"] := by
  intro d player monster c context e
  have bounds : d.constants.hit.min ≤ d.constants.hit.max := by decide
  have ok : e.damage = .ok 103 := by decide +kernel
  have told : d.hitRate scaledStrikeId context c = .ok 9000 := by decide +kernel
  obtain ⟨rate, stored, rated, -, dealt, after, damage, -⟩ := strike_effects (d := d)
    (Registry.holdsStrikes_builtin .scaled) bounds context c (ScriptedRolls.fixed 9000) 0 ok
  cases told.symm.trans rated
  obtain ⟨rfl, -⟩ := dealt (by decide)
  refine ⟨bounds, ok, ?_, ?_, ?_⟩
  · exact damage .primary
  · exact damage 3
  · exact (congrArg Context.traceLines after).trans (by decide +kernel)

end Dispatcher

end Skirmish

import Skirmish.Proofs.RateBounds
import Skirmish.Proofs.Strikes
import Skirmish.Random.Sampled

namespace Skirmish

variable {σ ω : Type}

structure Action where
  id : FormulaId
  combatants : Combatants := {}
  init : Amount := 0

structure Moment (σ : Type) where
  context : Context
  source : σ

theorem HitBounds.Holds.le_rate {b : HitBounds} {asked rate least : Int64} (h : b.Holds asked rate)
    (le_asked : least ≤ asked) (le_max : least ≤ b.max) : least ≤ rate := by
  by_cases above : b.max < asked
  · rw [h.above above]
    exact le_max
  · by_cases below : asked < b.min
    · exact Int64.le_trans (Int64.le_of_lt (Int64.lt_of_le_of_lt le_asked below)) h.lower
    · rw [h.own (Int64.not_lt.1 below) (Int64.not_lt.1 above)]
      exact le_asked

namespace Strike

theorem hitRate_of_ne_scaled {strike : Strike} (h : strike ≠ scaled) (context : Context)
    (c : Combatants) : (strike.formula : Formula ω).hitRate context c = basisPoints := by
  cases strike with
  | fixed => rfl
  | scaled => exact absurd rfl h
  | skill => rfl

theorem outcome_finish (s : Setting) (rolled : Scope σ ω) (out : Except String Blow) :
    (finish s rolled out).2.outcome = rolled.outcome := by
  cases out <;> rfl

end Strike

theorem Call.asksHit_of_agrees {call : Call ω} (h : call.Agrees none) : call.asksHit = false := by
  cases call with
  | damageHit hit => cases h
  | hitRate | hitOutcome | randomInt | write | emit => rfl

variable [RandomSource σ]

structure RollsIn (s : Setting) (start : Scope σ ω) (calls : List (Call ω)) (scope : Scope σ ω)
    (rate : Int64) : Prop where
  reached : ∃ before hit after, calls = before ++ .damageHit hit :: after ∧
    (∀ call ∈ before, call.asksHit = false) ∧ Trail s start before scope
  rated : s.rate? scope.context = some rate

namespace RollAccount

variable {s : Setting} {start final : Scope σ ω} {calls : List (Call ω)} {hit : Bool}

theorem told_iff (h : RollAccount s start final calls) :
    .damageHit hit ∈ calls ↔ final.outcome = some hit := by
  cases h with
  | unasked agrees outcome =>
    rw [outcome]
    exact iff_of_false (fun told => absurd (agrees _ told) nofun) nofun
  | rolled before after scope rate first calls_eq reached rate_eq given hit_eq agrees_before
      agrees_after outcome =>
    rw [outcome, calls_eq, List.mem_append, List.mem_cons]
    constructor
    · rintro (early | now | late)
      · exact absurd (agrees_before _ early) nofun
      · cases now
        rfl
      · exact agrees_after _ late
    · intro same
      cases same
      exact .inr (.inl rfl)

theorem exists_rollsIn (h : RollAccount s start final calls) (outcome : final.outcome = some hit) :
    ∃ scope rate, RollsIn s start calls scope rate ∧
      hit = decide ((draw scope.source).toInt64 ≤ rate) := by
  cases h with
  | unasked agrees unrolled => cases unrolled.symm.trans outcome
  | rolled before after scope rate first calls_eq reached rate_eq given hit_eq agrees_before
      agrees_after rolled =>
    cases rolled.symm.trans outcome
    have unasked : ∀ call ∈ before, call.asksHit = false :=
      fun call mem => Call.asksHit_of_agrees (agrees_before call mem)
    exact ⟨scope, rate, ⟨⟨before, hit, after, calls_eq, unasked, reached⟩, rate_eq⟩, hit_eq⟩

end RollAccount

namespace Dispatcher

open Builtin

def after (d : Dispatcher ω) : List Action → Moment σ → Moment σ
  | [], m => m
  | a :: actions, m =>
    let e := d.evaluate a.id m.context a.combatants m.source a.init
    d.after actions ⟨e.context, e.source⟩

def callsOf (d : Dispatcher ω) (id : FormulaId) (f : Formula ω) (context : Context) (c : Combatants)
    (source : σ) (init : Amount) : List (Call ω) :=
  (f.damage init).calls (d.setting id f c) { context, source }

def outcomeOf (d : Dispatcher ω) (id : FormulaId) (f : Formula ω) (context : Context)
    (c : Combatants) (source : σ) (init : Amount) : Option Bool :=
  ((f.damage init).run (d.setting id f c) { context, source }).2.outcome

/-- A rate that reaches the highest draw hits: in any evaluation that asks, in every strike but the
scaled one if the bounds go as high, and everywhere if they begin as high. -/
structure NearFullHits (d : Dispatcher ω) (σ : Type) [RandomSource σ] : Prop where
  told : ∀ id f, d.registry.get id = .ok f →
    ∀ (context : Context) (c : Combatants) (source : σ) (init : Amount) (hit : Bool),
      let calls := d.callsOf id f context c source init
      .damageHit hit ∈ calls → ∃ scope rate,
        RollsIn (d.setting id f c) { context, source } calls scope rate ∧
          (highestDraw ≤ rate → hit = true)
  unevadable : highestDraw ≤ d.constants.hit.max → ∀ strike ≠ Strike.scaled,
    d.registry.get strike.id = .ok strike.formula →
    ∀ (actions : List Action) (first : Moment σ) (c : Combatants) (init : Amount),
      let m := d.after actions first
      let e := d.evaluate strike.id m.context c m.source init
      d.outcomeOf strike.id strike.formula m.context c m.source init = some true ∧
        (strike = .fixed → e.damage = .ok 0 ∧ e.context.damageOf? .primary = some 100)
  always : highestDraw ≤ d.constants.hit.min → ∀ id f, d.registry.get id = .ok f →
    ∀ (context : Context) (c : Combatants) (source : σ) (init : Amount),
      d.outcomeOf id f context c source init ≠ some false

variable {d : Dispatcher ω} {id : FormulaId} {f : Formula ω} {context : Context} {c : Combatants}
  {source : σ} {init : Amount}

section Strike

variable {strike : Strike} (registered : d.registry.get strike.id = .ok strike.formula)

include registered

theorem outcomeOf_strike {rate : Int64} (rated : d.hitRate strike.id context c = .ok rate) :
    d.outcomeOf strike.id strike.formula context c source init =
      some (decide ((draw source).toInt64 ≤ rate)) := by
  let start : Scope σ ω := { context, source }
  have told : (d.setting strike.id strike.formula c).rate? start.context = some rate :=
    (hitRate_eq_ok_iff registered).1 rated
  have unrolled : start.outcome = none := rfl
  have run := strike.run_damage _ init unrolled told rfl
  rw [outcomeOf, run, Strike.outcome_finish]
  rfl

theorem exists_nearFull_rate (ordered : d.constants.hit.min ≤ d.constants.hit.max)
    (reaches : highestDraw ≤ d.constants.hit.max) (unevadable : strike ≠ .scaled) :
    ∃ rate, d.hitRate strike.id context c = .ok rate ∧ highestDraw ≤ rate := by
  obtain ⟨rate, rated, gives⟩ := exists_hitRate ordered registered context c
  have asked : highestDraw ≤ (d.setting strike.id strike.formula c).rawRate context c := by
    show highestDraw ≤ strike.formula.hitRate context c
    rw [Strike.hitRate_of_ne_scaled unevadable]
    decide
  exact ⟨rate, rated, gives.le_rate asked reaches⟩

end Strike

theorem rollAccount_callsOf : RollAccount (d.setting id f c) { context, source }
    ((f.damage init).run (d.setting id f c) { context, source }).2
    (d.callsOf id f context c source init) :=
  ((f.damage init).trail_run _).rollAccount rfl

section Below

variable (below : ∀ source : σ, draw source < basisPoints.toUInt64)

include below

theorem exists_rollsIn_of_outcomeOf {hit : Bool}
    (outcome : d.outcomeOf id f context c source init = some hit) :
    ∃ scope rate,
      RollsIn (d.setting id f c) { context, source } (d.callsOf id f context c source init)
          scope rate ∧
        (highestDraw ≤ rate → hit = true) := by
  obtain ⟨scope, rate, rolls, rfl⟩ := rollAccount_callsOf.exists_rollsIn outcome
  exact ⟨scope, rate, rolls,
    fun reaches => decide_eq_true (toInt64_le_of_highestDraw_le (below scope.source) reaches)⟩

theorem nearFullHits_of_below (ordered : d.constants.hit.min ≤ d.constants.hit.max) :
    d.NearFullHits σ where
  told id f _ context c source init hit asked :=
    exists_rollsIn_of_outcomeOf below (rollAccount_callsOf.told_iff.1 asked)
  unevadable reaches strike unevadable registered actions first c init := by
    intro m e
    obtain ⟨rate, rated, near⟩ : ∃ rate,
        d.hitRate strike.id m.context c = .ok rate ∧ highestDraw ≤ rate :=
      exists_nearFull_rate registered ordered reaches unevadable
    have hit : decide ((draw m.source).toInt64 ≤ rate) = true :=
      decide_eq_true (toInt64_le_of_highestDraw_le (below m.source) near)
    refine ⟨(outcomeOf_strike registered rated).trans (congrArg some hit), ?_⟩
    rintro rfl
    have evaluated := evaluate_strike_of_outcome registered rated m.source init
      (Strike.outcome_fixed _ _ _)
    rw [hit] at evaluated
    have stored := congrArg (·.context.damageOf? .primary) evaluated
    exact ⟨congrArg Evaluation.damage evaluated, stored.trans (Table.get?_insert_self ..)⟩
  always begins id f registered context c source init missed := by
    obtain ⟨scope, rate, rolls, hit⟩ := exists_rollsIn_of_outcomeOf below missed
    have gives := Setting.gives_of_rate? (s := d.setting id f c) rolls.rated
    exact absurd (hit (Int64.le_trans begins gives.lower)) nofun

end Below

theorem nearFullHits_of_lawful [LawfulRandomSource σ]
    (ordered : d.constants.hit.min ≤ d.constants.hit.max) : d.NearFullHits σ :=
  nearFullHits_of_below (fun source => drawAt_lt source 0) ordered

/-- Whatever a source that keeps below the basis points draws, a rate that reaches the highest draw
hits; scripts, the seeded generator and samplings that keep below their bounds are such sources. -/
theorem nearFull_rates_hit (d : Dispatcher ω)
    (ordered : d.constants.hit.min ≤ d.constants.hit.max) :
    (∀ (σ : Type) [RandomSource σ],
      (∀ source : σ, (nextBelow source basisPoints.toUInt64).1 < basisPoints.toUInt64) →
        d.NearFullHits σ) ∧
      d.NearFullHits ScriptedRolls ∧
      (∀ (γ : Type) (sample : γ → UInt64 → UInt64 × γ),
        (∀ g bound, 0 < bound → (sample g bound).1 < bound) →
        d.NearFullHits (Sampled γ sample)) ∧
      d.NearFullHits ChaCha8 := by
  refine ⟨fun σ _ below => nearFullHits_of_below below ordered, nearFullHits_of_lawful ordered, ?_,
    nearFullHits_of_lawful ordered⟩
  intro γ sample below
  have := Sampled.lawful below
  exact nearFullHits_of_lawful ordered

theorem nearFull_rates_hit_scripted :
    let d : Dispatcher Empty := { constants := { hit := ⟨0, 9999⟩ } }
    let start : Moment ScriptedRolls := ⟨{}, .ofList [18446744073709551615, 20000]⟩
    let m := d.after [{ id := skillStrikeId }, { id := scaledStrikeId, init := 5 }] start
    let e := d.evaluate fixedStrikeId m.context {} m.source 7
    d.constants.hit.min ≤ d.constants.hit.max ∧ m.source.consumed = 2 ∧ e.damage = .ok 0 ∧
      e.context.damageOf? .primary = some 100 := by
  intro d start m e
  have ordered : d.constants.hit.min ≤ d.constants.hit.max := by decide
  obtain ⟨-, scripted, -⟩ := nearFull_rates_hit d ordered
  have strikes := (scripted.unevadable (by decide) .fixed nofun rfl
    [{ id := skillStrikeId }, { id := scaledStrikeId, init := 5 }] start {} 7).2 rfl
  exact ⟨ordered, by decide +kernel, strikes⟩

end Dispatcher

end Skirmish

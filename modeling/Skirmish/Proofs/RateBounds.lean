import Skirmish.Proofs.LastWrite
import Skirmish.Proofs.Simulation

namespace Skirmish

variable {σ ω α : Type}

namespace CombatConstants

/-- How constants come to be used: checked by themselves, read from a text, or with a scenario. -/
inductive Accepted : CombatConstants → Prop
  | checked {c : CombatConstants} : c.validate = .ok c → Accepted c
  | parsed {c : CombatConstants} {text : String} : parse text = .ok c → Accepted c
  | ofScenario {s : Scenario} {text : String} : Scenario.parse text = .ok s → Accepted s.constants

theorem validate_of_parse {c : CombatConstants} {text : String} (h : parse text = .ok c) :
    c.validate = .ok c := by
  rw [parse] at h
  split at h
  · cases h
  · split at h
    · cases h
    · rename_i valid
      cases h
      obtain ⟨-, rfl⟩ := validate_eq_ok_iff.1 valid
      exact valid

theorem Accepted.onScale {c : CombatConstants} (h : c.Accepted) : c.hit.OnScale := by
  cases h with
  | checked h => exact onScale_of_validate h
  | parsed h => exact onScale_of_validate (validate_of_parse h)
  | ofScenario h => exact onScale_of_validate (Scenario.validate_constants_of_parse h)

end CombatConstants

variable [RandomSource σ]

def Call.UsesGiven (s : Setting) (scope next : Scope σ ω) : Call ω → Prop
  | .hitRate rate => s.Gives scope.context rate
  | .damageHit hit => scope.outcome = none → ∃ rate, s.Gives scope.context rate ∧
      (hit, next.source) = resolveHit scope.source rate ∧
      next.context = scope.context.appendTrace (hitLine s.id rate hit)
  | _ => True

theorem Call.Step.usesGiven {s : Setting} {scope next : Scope σ ω} {call : Call ω}
    (h : Call.Step s scope call next) : call.UsesGiven s scope next := by
  cases h with
  | hitRate hr => exact Setting.gives_of_rate? hr
  | again ho => exact fun unrolled => absurd (unrolled.symm.trans ho) nofun
  | roll ho hr => exact fun _ => ⟨_, Setting.gives_of_rate? hr, rfl, rfl⟩
  | hitOutcome | randomInt | write | emit => trivial

/-- Wherever the calls of a run are cut, the next one uses a rate that the setting gives there. -/
def Program.UsesGiven (s : Setting) (p : Program ω α) (start : Scope σ ω) : Prop :=
  ∀ before call after, p.calls s start = before ++ call :: after →
    ∃ scope next, Trail s start before scope ∧ call.UsesGiven s scope next ∧
      Trail s next after (p.run s start).2

theorem Program.usesGiven (s : Setting) (p : Program ω α) (start : Scope σ ω) :
    p.UsesGiven s start := by
  intro before call after cut
  have trail := p.trail_run (s := s) start
  rw [cut] at trail
  obtain ⟨scope, reached, rest⟩ := trail.split
  cases rest with
  | cons step later => exact ⟨scope, _, reached, step.usesGiven, later⟩

namespace Dispatcher

variable {d : Dispatcher ω} {id : FormulaId} {f : Formula ω}

theorem exists_hitRate (ordered : d.constants.hit.min ≤ d.constants.hit.max)
    (registered : d.registry.get id = .ok f) (context : Context) (c : Combatants) :
    ∃ rate, d.hitRate id context c = .ok rate ∧ (d.setting id f c).Gives context rate := by
  obtain ⟨rate, hr⟩ := Setting.exists_rate (s := d.setting id f c) ordered context
  exact ⟨rate, (hitRate_eq_ok_iff registered).2 hr,
    Setting.gives_of_rate? (s := d.setting id f c) hr⟩

end Dispatcher

theorem Context.returns_of_ordered {turns : List (Turn σ ω)}
    (ordered : ∀ turn ∈ turns,
      turn.dispatcher.constants.hit.min ≤ turn.dispatcher.constants.hit.max) (c : Context) :
    c.Returns turns := by
  induction turns generalizing c with
  | nil => trivial
  | cons turn turns ih =>
    constructor
    · exact Dispatcher.damage_evaluate_ne_reversedBounds (ordered turn List.mem_cons_self) _ _ _ _ _
    · exact ih (fun next mem => ordered next (List.mem_cons_of_mem _ mem)) _

namespace CommandLine

variable {readText : String → Id (Except FileFault String)} {o : Options} {id : FormulaId}
  {failed : FailedRun}

theorem prepared_of_runFailed (h : (execute readText o).run = .error (.runFailed id failed)) :
    ∃ s t, Prepared readText o s id t := by
  obtain ⟨s, formula, t, prepared⟩ | ⟨failure, fails, unrun⟩ := prepared_or_fails readText o
  · obtain ⟨_, -, same⟩ := prepared.execute_eq_error_iff.1 h
    cases same
    exact ⟨s, t, prepared⟩
  · cases h.symm.trans fails
    exact absurd rfl (unrun id failed)

theorem halt_ne_reversedBounds (h : (execute readText o).run = .error (.runFailed id failed)) :
    failed.halt ≠ .reversedBounds := by
  obtain ⟨s, t, prepared⟩ := prepared_of_runFailed h
  obtain ⟨i, -, e, -, -, same⟩ := prepared.failure h
  cases same
  exact nofun

theorem call_ne_reversedBounds {args : List String}
    (h : (call readText args).run = .failed (.runFailed id failed)) :
    failed.halt ≠ .reversedBounds := by
  simp only [Id.run, call, bind, pure] at h
  split at h
  · cases h
  · cases h
  · rename_i o _
    cases he : execute readText o with
    | ok r =>
      simp only [he] at h
      cases h
    | error e =>
      simp only [he] at h
      cases h
      exact halt_ne_reversedBounds he

end CommandLine

/-- Under accepted constants every rate is held within the bounds, is the formula's own where that is
within them, and halts no evaluation and no call of the program. -/
theorem CombatConstants.accepted_rates_held {constants : CombatConstants}
    (accepted : constants.Accepted) :
    let b := constants.hit
    (0 ≤ b.min ∧ b.min ≤ b.max ∧ b.max ≤ basisPoints) ∧
      (∀ asked, ∃ rate, b.clamp asked = some rate ∧ b.Holds asked rate) ∧
      (∀ (d : Dispatcher ω) id f context c,
        d.constants = constants → d.registry.get id = .ok f →
        ∃ rate, d.hitRate id context c = .ok rate ∧ (d.setting id f c).Gives context rate) ∧
      (∀ (turns : List (Turn σ ω)) (context : Context),
        (∀ turn ∈ turns, turn.dispatcher.constants = constants) →
        context.Returns turns ∧
          ∀ before turn after f, turns = before ++ turn :: after →
            turn.dispatcher.registry.get turn.id = .ok f →
            (f.damage turn.init).UsesGiven (turn.dispatcher.setting turn.id f turn.combatants)
              { context := context.play before, source := turn.source }) ∧
      ∀ (readText : String → Id (Except FileFault String)) args id failed,
        (CommandLine.call readText args).run = .failed (.runFailed id failed) →
        failed.halt ≠ .reversedBounds := by
  intro b
  have scale := accepted.onScale
  refine ⟨⟨scale.nonneg, scale.ordered, scale.atMost⟩, HitBounds.exists_clamp scale.ordered,
    ?told, ?turns, fun _ _ _ _ => CommandLine.call_ne_reversedBounds⟩
  case told =>
    intro d id f context c same registered
    exact Dispatcher.exists_hitRate (same ▸ scale.ordered) registered context c
  case turns =>
    intro turns context same
    have ordered : ∀ turn ∈ turns,
        turn.dispatcher.constants.hit.min ≤ turn.dispatcher.constants.hit.max :=
      fun turn mem => same turn mem ▸ scale.ordered
    refine ⟨Context.returns_of_ordered ordered context, ?_⟩
    intro before turn after f _ _
    exact Program.usesGiven _ (f.damage turn.init) _

namespace Dispatcher

def narrowText : String := "[hit]\nmin_rate = 500\nmax_rate = 4000\n"

def narrowGambler : Dispatcher Empty :=
  { gambler with constants := { hit := ⟨500, 4000⟩ } }

theorem parse_narrow : CombatConstants.parse narrowText = .ok narrowGambler.constants := by
  decide +kernel

theorem narrowGambler_rates :
    let spent : Context := { damage := .ofList [(.primary, 5)] }
    let turn : Turn ScriptedRolls Empty := ⟨narrowGambler, 7, {}, .ofList [100, 9000], 5⟩
    narrowGambler.hitRate 7 {} {} = .ok 4000 ∧ narrowGambler.hitRate 7 spent {} = .ok 500 ∧
      (∃ rate, narrowGambler.hitRate 7 spent {} = .ok rate ∧ 500 ≤ rate ∧ rate ≤ 4000) ∧
      ({} : Context).Returns [turn, turn] := by
  intro spent turn
  obtain ⟨-, -, told, turns, -⟩ := CombatConstants.accepted_rates_held (σ := ScriptedRolls)
    (ω := Empty) (.parsed parse_narrow)
  obtain ⟨rate, hr, gives⟩ := told narrowGambler 7 gambler.gamble spent {} rfl rfl
  have same : ∀ t ∈ [turn, turn], t.dispatcher.constants = narrowGambler.constants := by
    intro t mem
    simp only [List.mem_cons, List.not_mem_nil, or_false, or_self] at mem
    rw [mem]
  exact ⟨by decide, by decide, ⟨rate, hr, gives.lower, gives.upper⟩, (turns _ _ same).1⟩

end Dispatcher

end Skirmish

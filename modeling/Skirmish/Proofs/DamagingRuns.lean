import Skirmish.Proofs.Evasion
import Skirmish.Proofs.ParameterLayers
import Skirmish.Proofs.Simulation

namespace Skirmish

structure Marks (hit : Bool) (amount : Amount) : Prop where
  one_le_iff : 1 ≤ amount ↔ hit = true
  eq_zero_iff : amount = 0 ↔ hit = false

theorem Marks.of_hit {amount : Amount} (h : 1 ≤ amount) : Marks true amount where
  one_le_iff := iff_of_true h rfl
  eq_zero_iff := by
    refine iff_of_false ?_ nofun
    rintro rfl
    exact absurd h (by decide)

theorem Marks.of_miss : Marks false 0 where
  one_le_iff := by decide
  eq_zero_iff := by decide

theorem Marks.decide_pos {hit : Bool} {amount : Amount} (h : Marks hit amount) :
    decide (0 < amount) = hit := by
  cases hit with
  | false => rw [h.eq_zero_iff.2 rfl]; rfl
  | true =>
    apply decide_eq_true
    exact Int64.lt_of_lt_of_le (by decide) (h.one_le_iff.2 rfl)

theorem toInt64_le_basisPoints {n : UInt64} (h : n < basisPoints.toUInt64) :
    n.toInt64 ≤ basisPoints :=
  toInt64_le_of_highestDraw_le h (by decide)

namespace Strike

open Builtin

variable {context : Context} {attack : Float} {hit : Bool} {blow : Blow}

theorem marks_stored {strike : Strike} (h : strike ≠ skill)
    (out : strike.outcome context attack hit = .ok blow) : Marks hit blow.stored := by
  cases hit with
  | false =>
    cases out
    exact .of_miss
  | true =>
    cases strike with
    | fixed =>
      cases out
      exact .of_hit (by decide)
    | scaled =>
      obtain ⟨ratio, flat, rfl⟩ := blow_scaled_eq_ok out
      exact .of_hit (one_le_scaledDamage attack ratio flat)
    | skill => exact absurd rfl h

end Strike

namespace Scenario

variable (s : Scenario) (t : ParameterTable)

theorem damage_context (id : FormulaId) : (s.context t id).damage = .empty := by
  rw [← contextListed_ascending, contextListed_eq]
  rfl

variable {s t} {strike : Strike} {rate : Int64}
  (rated : (s.dispatcher (ω := Empty)).hitRate strike.id (s.context t strike.id) s.combatants =
    .ok rate) {n : UInt64} (below : n < basisPoints.toUInt64)

include rated below

theorem exists_runOn {blow : Blow}
    (out : strike.outcome (s.context t strike.id) (attributeValue s.combatants.attacker .attack)
      (decide (n.toInt64 ≤ rate)) = .ok blow) :
    ∃ run, s.runOn t strike.id n = .ok run ∧ run.damage = blow.returned ∧
      run.damageByType.toList = [(.primary, blow.stored)] := by
  have registered := Registry.holdsStrikes_builtin (ω := Empty) strike
  have drawn : draw (ScriptedRolls.fixed n) = n := draw_fixed below
  rw [← drawn] at out
  have evaluated := Dispatcher.evaluate_strike_of_outcome registered rated (ScriptedRolls.fixed n)
    s.initDamage out
  rw [runOn, Evaluation.toRun, evaluate, evaluated]
  refine ⟨_, rfl, rfl, ?_⟩
  show ((s.context t strike.id).damage.insert .primary blow.stored).toList = _
  rw [damage_context]
  rfl

theorem exists_outcome_of_runOn {run : Run} (ends : s.runOn t strike.id n = .ok run) :
    ∃ blow, strike.outcome (s.context t strike.id) (attributeValue s.combatants.attacker .attack)
        (decide (n.toInt64 ≤ rate)) = .ok blow ∧
      run.damage = blow.returned ∧ run.damageByType.toList = [(.primary, blow.stored)] := by
  have registered := Registry.holdsStrikes_builtin (ω := Empty) strike
  have drawn : draw (ScriptedRolls.fixed n) = n := draw_fixed below
  have returned := (Evaluation.toRun_eq_ok_iff.1 ends).damage
  obtain ⟨blow, -, out⟩ := Dispatcher.exists_outcome_of_ok registered rated returned
  rw [drawn] at out
  obtain ⟨run', ends', does⟩ := exists_runOn rated below out
  cases ends.symm.trans ends'
  exact ⟨blow, out, does⟩

end Scenario

theorem Run.isDamaging_of_single {r : Run} {type : CombatType} {amount : Amount}
    (h : r.damageByType.toList = [(type, amount)]) : r.isDamaging = decide (0 < amount) := by
  have values : r.damageByType.values = [amount] := congrArg (List.map Prod.snd) h
  rw [isDamaging, values, List.any_cons, List.any_nil, Bool.or_false]

theorem Report.damagingRuns_eq_countP {r : Report} {p : Nat → Bool}
    (h : ∀ i (hi : i < r.runs.length), r.runs[i].isDamaging = p i) :
    r.damagingRuns = (List.range r.runs.length).countP p := by
  have same : r.runs.map Run.isDamaging = (List.range r.runs.length).map p := by
    apply List.ext_getElem
    · simp
    · intro i hi hi'
      simp [h]
  calc r.damagingRuns
    _ = (r.runs.map Run.isDamaging).countP (·) := by rw [List.countP_map]; rfl
    _ = ((List.range r.runs.length).map p).countP (·) := by rw [same]
    _ = (List.range r.runs.length).countP p := by rw [List.countP_map]; rfl

namespace CommandLine

open Builtin

variable {readText : String → Id (Except FileFault String)} {o : Options}

theorem prepared_of_ok {r : Report} (h : (execute readText o).run = .ok r) :
    ∃ s t, Prepared readText o s r.formula t := by
  obtain ⟨s, id, t, prepared⟩ | ⟨failure, fails, -⟩ := prepared_or_fails readText o
  · obtain ⟨_, -, rfl⟩ := prepared.execute_eq_ok_iff.1 h
    exact ⟨s, t, prepared⟩
  · cases h.symm.trans fails

/-- The runs that the report counts as damaging are those whose roll hit. A hit stores a positive
amount and a miss stores nothing, and the scaled strike returns what it stores. -/
theorem damagingRuns_eq_hits {r : Report} (completed : (execute readText o).run = .ok r)
    (strikes : r.formula = fixedStrikeId ∨ r.formula = scaledStrikeId) :
    ∃ s t rate, Prepared readText o s r.formula t ∧
      (s.dispatcher (ω := Empty)).hitRate r.formula (s.context t r.formula) s.combatants =
        .ok rate ∧
      let source := ChaCha8.ofSeed (o.seed.getD s.seed)
      let hit (i : Nat) := decide ((drawAt source i).toInt64 ≤ rate)
      r.runs.length = max 1 (o.runs.getD s.runs).toNat ∧
        (∀ i (hi : i < r.runs.length), ∃ stored,
          r.runs[i].damageByType.toList = [(.primary, stored)] ∧ Marks (hit i) stored ∧
            (r.formula = scaledStrikeId → Marks (hit i) r.runs[i].damage)) ∧
        r.damagingRuns = (List.range r.runs.length).countP hit := by
  obtain ⟨strike, named, unskilled⟩ :
      ∃ strike : Strike, r.formula = strike.id ∧ strike ≠ .skill := by
    cases strikes with
    | inl h => exact ⟨.fixed, h, nofun⟩
    | inr h => exact ⟨.scaled, h, nofun⟩
  obtain ⟨s, t, prepared⟩ := prepared_of_ok completed
  obtain ⟨length, entries⟩ := prepared.entries completed
  have registered := Registry.holdsStrikes_builtin (ω := Empty) strike
  rw [named] at prepared entries ⊢
  obtain ⟨rate, rated⟩ := Dispatcher.exists_hitRate_strike (d := s.dispatcher) registered
    prepared.bounds (s.context t strike.id) s.combatants
  refine ⟨s, t, rate, prepared, rated, ?_⟩
  intro source hit
  have stores (i : Nat) (hi : i < r.runs.length) : ∃ stored,
      r.runs[i].damageByType.toList = [(.primary, stored)] ∧ Marks (hit i) stored ∧
        (strike.id = scaledStrikeId → Marks (hit i) r.runs[i].damage) := by
    obtain ⟨blow, out, damage, entry⟩ :=
      Scenario.exists_outcome_of_runOn rated (drawAt_lt source i) (entries i hi)
    have marks := Strike.marks_stored unskilled out
    refine ⟨blow.stored, entry, marks, fun scaled => ?_⟩
    have unfixed : strike ≠ .fixed := by
      rintro rfl
      cases scaled
    rw [damage, ← Strike.outcome_dealt unfixed out]
    exact marks
  refine ⟨length, stores, ?_⟩
  apply Report.damagingRuns_eq_countP
  intro i hi
  obtain ⟨stored, entry, marks, -⟩ := stores i hi
  exact (Run.isDamaging_of_single entry).trans marks.decide_pos

def wild : Scenario where
  formula := some 10002
  runs := 4
  params := .ofList [("par001", 1 / 0), ("par002", 0 / 0)]

def readWild : String → Id (Except FileFault String) := fun _ =>
  .ok "formula = 10002\nruns = 4\n[params]\npar001 = inf\npar002 = nan\n"

theorem parse_wild :
    Scenario.parse "formula = 10002\nruns = 4\n[params]\npar001 = inf\npar002 = nan\n" =
      .ok wild := by decide +kernel

theorem prepared_wild : Prepared readWild { scenario := "wild.toml" } wild 10002 .bundled where
  loaded := by rw [readWild, scenarioOfFile, parse_wild]
  named := rfl
  table := rfl

theorem hitRate_wild : (wild.dispatcher (ω := Empty)).hitRate Strike.scaled.id
    (wild.context .bundled Strike.scaled.id) wild.combatants = .ok basisPoints := by decide +kernel

theorem runAt_wild (i : Nat) : ∃ r, runAt wild .bundled scaledStrikeId 42 i = .ok r := by
  let context := wild.context .bundled scaledStrikeId
  have ratio : context.param? "par001" = some (1 / 0) := by decide +kernel
  have flat : context.param? "par002" = some (0 / 0) := by decide +kernel
  obtain ⟨r, hr, -⟩ := Scenario.exists_runOn hitRate_wild (drawAt_lt (ChaCha8.ofSeed 42) i)
    (Strike.outcome_scaled ratio flat _ _)
  exact ⟨r, hr⟩

theorem damagingRuns_wild : ∃ r, (execute readWild { scenario := "wild.toml" }).run = .ok r ∧
    r.formula = scaledStrikeId ∧ r.runs.length = 4 ∧ r.damagingRuns = 4 := by
  obtain ⟨r, completed⟩ := prepared_wild.exists_execute_iff.2 fun i _ => runAt_wild i
  obtain ⟨_, _, rfl⟩ := prepared_wild.execute_eq_ok_iff.1 completed
  obtain ⟨s, t, rate, prepared, rated, length, -, count⟩ :=
    damagingRuns_eq_hits completed (.inr rfl)
  obtain rfl : wild = s := Except.ok.inj (prepared_wild.loaded.symm.trans prepared.loaded)
  obtain rfl : .bundled = t := Except.ok.inj (prepared_wild.table.symm.trans prepared.table)
  obtain rfl : basisPoints = rate := Except.ok.inj (hitRate_wild.symm.trans rated)
  refine ⟨_, completed, rfl, length, ?_⟩
  rw [count, List.countP_eq_length.2, List.length_range, length]
  · rfl
  · intro i _
    exact decide_eq_true (toInt64_le_basisPoints (drawAt_lt _ i))

end CommandLine

end Skirmish

import Skirmish.Proofs.DamageTotal
import Skirmish.Proofs.DamagingRuns

namespace Skirmish

namespace Amount

variable {l : List Amount} {amount : Amount}

theorem addUp_of_single (h : ∀ a ∈ l, a = 0 ∨ a = amount) : AddUp l := by
  cases Int.le_total 0 amount.toInt with
  | inl nonneg =>
    apply AddUp.noLosses
    apply losses_of_nonneg
    intro a mem
    obtain rfl | rfl := h a mem
    · exact Int.le_refl 0
    · exact nonneg
  | inr nonpos =>
    apply AddUp.noGains
    apply gains_of_nonpos
    intro a mem
    obtain rfl | rfl := h a mem
    · exact Int.le_refl 0
    · exact nonpos

theorem exactSum_of_single (h : ∀ a ∈ l, a = 0 ∨ a = amount) :
    exactSum l = l.count amount * amount.toInt := by
  rw [exactSum, List.sum_map_eq_nsmul_single amount, nsmul_eq_mul]
  intro a ne mem
  rw [(h a mem).resolve_right ne, Int64.toInt_zero]

end Amount

theorem Strike.exists_of_get {ω : Type} {id : FormulaId} {f : Formula ω}
    (h : Registry.builtin.get id = .ok f) : ∃ strike : Strike, id = strike.id := by
  have mem := Registry.mem_of_get_builtin h
  simp only [Builtin.formulas, List.mem_cons, Prod.mk.injEq, List.not_mem_nil, or_false] at mem
  obtain ⟨rfl, -⟩ | ⟨rfl, -⟩ | ⟨rfl, -⟩ := mem
  · exact ⟨.fixed, rfl⟩
  · exact ⟨.scaled, rfl⟩
  · exact ⟨.skill, rfl⟩

namespace Scenario

/-- What a run returns that draws zero, and so hits at any rate; nothing, if that run fails. -/
def worth (s : Scenario) (t : ParameterTable) (id : FormulaId) : Amount :=
  match s.runOn t id 0 with
  | .ok run => run.damage
  | .error _ => 0

variable {s s' : Scenario} {t : ParameterTable} {id : FormulaId}

theorem worth_of_sameFight (h : s.SameFight s') : s'.worth t id = s.worth t id := by
  rw [h]
  rfl

theorem worth_of_runOn {run : Run} (h : s.runOn t id 0 = .ok run) : s.worth t id = run.damage := by
  rw [worth, h]

theorem exists_strike_of_runOn {n : UInt64} {run : Run} (ends : s.runOn t id n = .ok run) :
    ∃ strike : Strike, id = strike.id := by
  cases registered : (Registry.builtin : Registry Empty).get id with
  | ok f => exact Strike.exists_of_get registered
  | error e =>
    have unknown := Dispatcher.evaluate_unknown (d := s.dispatcher) registered (s.context t id)
      s.combatants (ScriptedRolls.fixed n) s.initDamage
    have returned := (Evaluation.toRun_eq_ok_iff.1 ends).damage
    rw [evaluate, unknown] at returned
    cases returned

theorem damage_runOn {strike : Strike} {rate : Int64}
    (rated : (s.dispatcher (ω := Empty)).hitRate strike.id (s.context t strike.id) s.combatants =
      .ok rate) {n : UInt64} (below : n < basisPoints.toUInt64) {run : Run}
    (ends : s.runOn t strike.id n = .ok run) :
    run.damage = if n.toInt64 ≤ rate then s.worth t strike.id else 0 := by
  obtain ⟨blow, out, damage, -⟩ := exists_outcome_of_runOn rated below ends
  rw [damage]
  split
  · rename_i hit
    have nonneg : (0 : UInt64).toInt64 ≤ n.toInt64 := by
      rw [Int64.le_iff_toInt_le, (toInt_of_lt_basisPoints below).1]
      exact Int.natCast_nonneg _
    have lowest : (0 : UInt64).toInt64 ≤ rate := Int64.le_trans nonneg hit
    rw [decide_eq_true hit, ← decide_eq_true lowest] at out
    obtain ⟨zero, endsZero, damageZero, -⟩ := exists_runOn rated (n := 0) (by decide) out
    rw [worth_of_runOn endsZero, damageZero]
  · rename_i miss
    rw [decide_eq_false miss] at out
    cases out
    rfl

end Scenario

namespace CommandLine

open Amount Builtin

variable {readText : String → Id (Except FileFault String)} {o : Options} {s : Scenario}
  {id : FormulaId} {t : ParameterTable}

theorem Prepared.damage_eq (h : Prepared readText o s id t) {r : Report}
    (completed : (execute readText o).run = .ok r) :
    ∀ run ∈ r.runs, run.damage = 0 ∨ run.damage = s.worth t id := by
  obtain ⟨-, entries⟩ := h.entries completed
  intro run mem
  obtain ⟨i, hi, rfl⟩ := List.getElem_of_mem mem
  have ends := entries i hi
  obtain ⟨strike, rfl⟩ := Scenario.exists_strike_of_runOn ends
  have registered := Registry.holdsStrikes_builtin (ω := Empty) strike
  obtain ⟨rate, rated⟩ := Dispatcher.exists_hitRate_strike (d := s.dispatcher) registered
    h.bounds (s.context t strike.id) s.combatants
  rw [Scenario.damage_runOn rated (drawAt_lt _ i) ends]
  split
  · exact .inr rfl
  · exact .inl rfl

/-- In a fight each run returns nothing or one amount, whatever the seed and the number of runs, and
the total of a report is the exact sum of what its runs return, held within the range of amounts. -/
theorem totalDamage_eq_held {r : Report} (completed : (execute readText o).run = .ok r) :
    ∃ s t, Prepared readText o s r.formula t ∧
      let worth := s.worth t r.formula
      let returned := r.runs.map (·.damage)
      (∀ s', s.SameFight s' → s'.worth t r.formula = worth) ∧
        (∀ damage ∈ returned, damage = 0 ∨ damage = worth) ∧
        r.totalDamage.toInt = held (exactSum returned) ∧
        r.totalDamage.toInt = held (returned.count worth * worth.toInt) := by
  obtain ⟨s, t, prepared⟩ := prepared_of_ok completed
  refine ⟨s, t, prepared, ?_⟩
  intro worth returned
  have single : ∀ damage ∈ returned, damage = 0 ∨ damage = worth :=
    List.forall_mem_map.2 (prepared.damage_eq completed)
  have total : r.totalDamage.toInt = held (exactSum returned) :=
    (addUp_of_single single).foldl_eq (.refl returned)
  exact ⟨fun s' same => Scenario.worth_of_sameFight same, single, total,
    total.trans (congrArg held (exactSum_of_single single))⟩

def backfire : Scenario where
  formula := some 10003
  runs := 2
  attacker := some (.pet { state := { attributes := .ofList [(.attack, -6000000000000000000)] } })

def backfireText : String :=
  "formula = 10003\nruns = 2\nattacker = \x7b kind = 'pet', attributes.10007 = -6e18 \x7d\n"

theorem parse_backfire : Scenario.parse backfireText = .ok backfire := by decide +kernel

def readBackfire : String → Id (Except FileFault String) := fun _ => .ok backfireText

theorem prepared_backfire :
    Prepared readBackfire { scenario := "backfire.toml" } backfire 10003 .bundled where
  loaded := by rw [readBackfire, scenarioOfFile, parse_backfire]
  named := rfl
  table := rfl

theorem hitRate_backfire : (backfire.dispatcher (ω := Empty)).hitRate Strike.skill.id
    (backfire.context .bundled Strike.skill.id) backfire.combatants = .ok basisPoints := by
  decide +kernel

theorem worth_backfire : backfire.worth .bundled Strike.skill.id = -6000000000000000000 := by
  decide +kernel

theorem exists_runAt_backfire (i : Nat) :
    ∃ r, runAt backfire .bundled Strike.skill.id 42 i = .ok r := by
  have rate : (backfire.context .bundled Strike.skill.id).param? Context.damageRateName =
      some 10000 := by decide +kernel
  obtain ⟨r, hr, -⟩ := Scenario.exists_runOn hitRate_backfire (drawAt_lt (ChaCha8.ofSeed 42) i)
    (Strike.outcome_skill rate _ _)
  exact ⟨r, hr⟩

theorem damage_runAt_backfire {i : Nat} {r : Run}
    (h : runAt backfire .bundled Strike.skill.id 42 i = .ok r) :
    r.damage = -6000000000000000000 := by
  have below := drawAt_lt (ChaCha8.ofSeed 42) i
  rw [Scenario.damage_runOn hitRate_backfire below h, if_pos (toInt64_le_basisPoints below),
    worth_backfire]

theorem totalDamage_backfire :
    ∃ r, (execute readBackfire { scenario := "backfire.toml" }).run = .ok r ∧
      r.formula = skillStrikeId ∧
      (r.runs.map (·.damage)).count (-6000000000000000000) = 2 ∧
      r.totalDamage = Int64.minValue := by
  obtain ⟨r, completed⟩ := prepared_backfire.exists_execute_iff.2 fun i _ => exists_runAt_backfire i
  obtain ⟨runs, -, rfl⟩ := prepared_backfire.execute_eq_ok_iff.1 completed
  obtain ⟨length, entries⟩ := prepared_backfire.entries completed
  obtain ⟨s, t, prepared, -, -, -, total⟩ := totalDamage_eq_held completed
  obtain rfl : backfire = s := Except.ok.inj (prepared_backfire.loaded.symm.trans prepared.loaded)
  obtain rfl : .bundled = t := Except.ok.inj (prepared_backfire.table.symm.trans prepared.table)
  have all : ∀ run ∈ runs, run.damage = -6000000000000000000 := by
    intro run mem
    obtain ⟨i, hi, rfl⟩ := List.getElem_of_mem mem
    exact damage_runAt_backfire (entries i hi)
  have twice : (runs.map (·.damage)).count (-6000000000000000000) = 2 := by
    rw [List.count_eq_length.2, List.length_map]
    · exact length
    · exact List.forall_mem_map.2 fun run mem => (all run mem).symm
  refine ⟨_, completed, rfl, twice, ?_⟩
  rw [← Int64.toInt_inj, total]
  show held ((runs.map (·.damage)).count (backfire.worth .bundled Strike.skill.id) *
    (backfire.worth .bundled Strike.skill.id).toInt) = _
  rw [worth_backfire, twice]
  decide

end CommandLine

end Skirmish

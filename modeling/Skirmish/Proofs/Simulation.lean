import Mathlib.Control.Monad.Basic
import Skirmish.CommandLine
import Skirmish.Proofs.OneDraw

/-!
Simulations, run by run. A run of a scenario is settled by its own draw alone, so the runs of a
simulation are those of the successive draws, up to the first one that fails.
-/

namespace Skirmish

variable {σ ω : Type}

/-- A run tells the damage that an evaluation returned, and what it left in its context. -/
structure Run.Tells (r : Run) (e : Evaluation σ ω) : Prop where
  damage : e.damage = .ok r.damage
  damageByType : r.damageByType = e.context.damage
  finalType : r.finalType = e.context.finalType
  trace : r.trace = e.context.trace.getD []

namespace Evaluation

def toRun (e : Evaluation σ ω) : Except Halt Run := e.damage.map (Run.ofContext · e.context)

variable {e : Evaluation σ ω}

theorem toRun_eq_ok_iff {r : Run} : e.toRun = .ok r ↔ r.Tells e := by
  constructor
  · intro h
    cases hd : e.damage with
    | error halt =>
      rw [toRun, hd] at h
      cases h
    | ok damage =>
      rw [toRun, hd] at h
      cases h
      exact ⟨hd, rfl, rfl, rfl⟩
  · rintro ⟨damage, byType, finalType, trace⟩
    rw [toRun, damage]
    apply congrArg Except.ok
    show Run.mk r.damage e.context.damage e.context.finalType (e.context.trace.getD []) = r
    rw [← byType, ← finalType, ← trace]

theorem exists_toRun_iff : (∃ r, e.toRun = .ok r) ↔ ∃ damage, e.damage = .ok damage := by
  rw [toRun]
  cases e.damage with
  | error halt => exact ⟨nofun, nofun⟩
  | ok damage => exact ⟨fun _ => ⟨damage, rfl⟩, fun _ => ⟨_, rfl⟩⟩

theorem toRun_eq_error_iff {halt : Halt} : e.toRun = .error halt ↔ e.damage = .error halt := by
  rw [toRun]
  cases e.damage with
  | error other => exact ⟨fun h => by cases h; rfl, fun h => by cases h; rfl⟩
  | ok damage => exact ⟨nofun, nofun⟩

end Evaluation

/-- The outcome of gathering so many runs, numbered from the first: all of them, or the number and
the halt of the one before which there was no other to fail. -/
inductive Gathers (F : Nat → Except Halt Run) (first count : Nat) :
    Except FailedRun (List Run) → Prop
  | completed (runs : List Run) (length : runs.length = count)
      (entries : ∀ i (h : i < runs.length), F i = .ok runs[i]) : Gathers F first count (.ok runs)
  | stopped (i : Nat) (halt : Halt) (lt : i < count) (earlier : ∀ j < i, ∃ r, F j = .ok r)
      (fails : F i = .error halt) : Gathers F first count (.error ⟨first + i, halt⟩)

namespace Gathers

variable {F : Nat → Except Halt Run} {first count : Nat} {x y : Except FailedRun (List Run)}

theorem cons {r : Run} (head : F 0 = .ok r) (h : Gathers (fun i => F (i + 1)) (first + 1) count x) :
    Gathers F first (count + 1) (x.map (r :: ·)) := by
  cases h with
  | completed runs length entries =>
    apply completed
    · simp [length]
    · intro i hi
      cases i with
      | zero => exact head
      | succ i => exact entries i (Nat.lt_of_succ_lt_succ hi)
  | stopped i halt lt earlier fails =>
    have number : first + 1 + i = first + (i + 1) := by omega
    rw [number]
    refine stopped (i + 1) halt (Nat.succ_lt_succ lt) ?_ fails
    intro j hj
    cases j with
    | zero => exact ⟨r, head⟩
    | succ j => exact earlier j (Nat.lt_of_succ_lt_succ hj)

theorem exists_ok_iff (h : Gathers F first count x) :
    (∃ runs, x = .ok runs) ↔ ∀ i < count, ∃ r, F i = .ok r := by
  cases h with
  | completed runs length entries =>
    refine ⟨fun _ i hi => ⟨_, entries i (length ▸ hi)⟩, fun _ => ⟨runs, rfl⟩⟩
  | stopped i halt lt earlier fails =>
    constructor
    · rintro ⟨runs, e⟩
      cases e
    · intro all
      obtain ⟨r, hr⟩ := all i lt
      cases fails.symm.trans hr

theorem unique (h : Gathers F first count x) (k : Gathers F first count y) : x = y := by
  cases h with
  | completed runs length entries =>
    obtain ⟨runs', rfl⟩ := k.exists_ok_iff.2 fun i hi => ⟨_, entries i (length ▸ hi)⟩
    cases k with
    | completed _ length' entries' =>
      apply congrArg Except.ok
      apply List.ext_getElem (length.trans length'.symm)
      intro i hi hi'
      exact Except.ok.inj ((entries i hi).symm.trans (entries' i hi'))
  | stopped i halt lt earlier fails =>
    cases k with
    | completed _ length' entries' => cases fails.symm.trans (entries' i (length' ▸ lt))
    | stopped i' halt' lt' earlier' fails' =>
      rcases Nat.lt_trichotomy i i' with before | rfl | after
      · obtain ⟨r, hr⟩ := earlier' i before
        cases fails.symm.trans hr
      · cases fails.symm.trans fails'
        rfl
      · obtain ⟨r, hr⟩ := earlier i' after
        cases fails'.symm.trans hr

theorem take {runs : List Run} (h : Gathers F first count (.ok runs)) {m : Nat} (le : m ≤ count) :
    Gathers F first m (.ok (runs.take m)) := by
  cases h with
  | completed _ length entries =>
    apply completed
    · rw [List.length_take, length, Nat.min_eq_left le]
    · intro i hi
      rw [List.getElem_take]
      exact entries i _

theorem stop {failed : FailedRun} (h : Gathers F first count (.error failed)) {m : Nat}
    (lt : failed.number < first + m) : Gathers F first m (.error failed) := by
  cases h with
  | stopped i halt _ earlier fails =>
    exact stopped i halt (Nat.lt_of_add_lt_add_left lt) earlier fails

end Gathers

theorem simulate_succ {evaluate : σ → Evaluation σ ω} {source : σ} {damage : Amount}
    (h : (evaluate source).damage = .ok damage) (count number : Nat) :
    simulate evaluate (count + 1) number source =
      (simulate evaluate count (number + 1) (evaluate source).source).map
        (Run.ofContext damage (evaluate source).context :: ·) := by
  simp only [simulate, h]
  cases simulate evaluate count (number + 1) (evaluate source).source <;> rfl

variable [RandomSource σ]

structure PerDraw (evaluate : σ → Evaluation σ ω) (f : UInt64 → Except Halt Run) : Prop where
  toRun : ∀ source, (evaluate source).toRun = f (draw source)
  advances : ∀ source damage, (evaluate source).damage = .ok damage →
    (evaluate source).source = advance source

theorem PerDraw.gathers {evaluate : σ → Evaluation σ ω} {f : UInt64 → Except Halt Run}
    (h : PerDraw evaluate f) (count first : Nat) (source : σ) :
    Gathers (fun i => f (drawAt source i)) first count (simulate evaluate count first source) := by
  -- Each run hands the next one a source that moved on, with the draws shifted by one.
  induction count generalizing first source with
  | zero => exact .completed [] rfl nofun
  | succ count ih =>
    have head := (h.toRun source).symm
    cases he : (evaluate source).damage with
    | error halt =>
      simp only [Evaluation.toRun, he] at head
      simp only [simulate, he]
      exact .stopped 0 halt (Nat.succ_pos count) nofun head
    | ok damage =>
      simp only [Evaluation.toRun, he] at head
      have tail := ih (first + 1) (advance source)
      have all := Gathers.cons (F := fun i => f (drawAt source i)) head tail
      rw [simulate_succ he, h.advances source damage he]
      exact all

namespace Scenario

variable (s : Scenario) (t : ParameterTable) (id : FormulaId)

def runOn (draw : UInt64) : Except Halt Run := (s.evaluate t id (ScriptedRolls.fixed draw)).toRun

def SameFight (s s' : Scenario) : Prop := s' = { s with seed := s'.seed, runs := s'.runs }

variable {s}

theorem validate_constants_of_validate {s' : Scenario} (h : s'.validate = .ok s) :
    s.constants.validate = .ok s.constants := by
  rw [validate] at h
  split at h
  · cases h
  · rename_i c valid
    obtain ⟨-, rfl⟩ := CombatConstants.validate_eq_ok_iff.1 valid
    split at h
    · cases h
    · cases h
      exact valid

theorem validate_constants_of_parse {text : String} (h : parse text = .ok s) :
    s.constants.validate = .ok s.constants := by
  rw [parse] at h
  split at h
  · cases h
  · split at h
    · cases h
    · exact validate_constants_of_validate h

theorem bounds_of_parse {text : String} (h : parse text = .ok s) :
    s.constants.hit.min ≤ s.constants.hit.max :=
  (CombatConstants.onScale_of_validate (validate_constants_of_parse h)).ordered

variable (bounds : s.constants.hit.min ≤ s.constants.hit.max)

include bounds

theorem perDraw [LawfulRandomSource σ] : PerDraw (σ := σ) (s.evaluate t id) (s.runOn t id) where
  toRun source := by
    have same : draw source = draw (ScriptedRolls.fixed (draw source)) :=
      (draw_fixed (drawAt_lt source 0)).symm
    obtain ⟨damage, context⟩ := s.dispatcher.evaluate_sameRoll (ω := Empty) rfl id (s.context t id)
      s.combatants s.initDamage same
    simp only [Evaluation.toRun, runOn, evaluate, damage, context]
  advances source damage h :=
    Dispatcher.source_evaluate_of_ok (d := s.dispatcher) rfl id _ _ _ bounds h

theorem runOn_ne_reversedBounds (draw : UInt64) : s.runOn t id draw ≠ .error .reversedBounds := by
  rw [runOn, ne_eq, Evaluation.toRun_eq_error_iff]
  exact s.dispatcher.damage_evaluate_ne_reversedBounds (ω := Empty) bounds id _ _ _ _

end Scenario

namespace CommandLine

def runAt (s : Scenario) (t : ParameterTable) (id : FormulaId) (seed : UInt64) (i : Nat) :
    Except Halt Run := s.runOn t id (drawAt (ChaCha8.ofSeed seed) i)

theorem runAt_of_sameFight {s s' : Scenario} (h : s.SameFight s') (t : ParameterTable)
    (id : FormulaId) (seed : UInt64) : runAt s' t id seed = runAt s t id seed := by
  rw [h]
  rfl

def seed (o : Options) (s : Scenario) : UInt64 := o.seed.getD s.seed

def gathered (o : Options) (s : Scenario) (t : ParameterTable) (id : FormulaId) :
    Except FailedRun (List Run) := s.simulate t id (runCount o s) (ChaCha8.ofSeed (seed o s))

structure Prepared (readText : String → Id (Except FileFault String)) (o : Options) (s : Scenario)
    (id : FormulaId) (t : ParameterTable) : Prop where
  loaded : scenarioOfFile o.scenario (readText o.scenario) = .ok s
  named : s.formulaId = .ok id
  table : (parameterTable readText o s).run = .ok t

variable {readText readText' : String → Id (Except FileFault String)} {o o' : Options}
  {s s' : Scenario} {id : FormulaId} {t : ParameterTable}

namespace Prepared

theorem bounds (h : Prepared readText o s id t) :
    s.constants.hit.min ≤ s.constants.hit.max := by
  cases hr : readText o.scenario with
  | error fault => cases hr ▸ h.loaded
  | ok text =>
    have loaded := h.loaded
    simp only [hr, scenarioOfFile] at loaded
    split at loaded
    · cases loaded
    · cases loaded
      exact Scenario.bounds_of_parse ‹_›

theorem gathers (h : Prepared readText o s id t) :
    Gathers (runAt s t id (seed o s)) 1 (runCount o s) (gathered o s t id) :=
  (Scenario.perDraw t id h.bounds).gathers (runCount o s) 1 (ChaCha8.ofSeed (seed o s))

theorem execute_eq (h : Prepared readText o s id t) : (execute readText o).run =
    match gathered o s t id with
    | .error failed => .error (.runFailed id failed)
    | .ok runs => .ok ⟨id, seed o s, runs⟩ := by
  have table := h.table
  simp only [Id.run] at table
  simp only [Id.run, execute, bind, pure, h.loaded, h.named, table]
  rfl

theorem execute_eq_ok_iff (h : Prepared readText o s id t) {r : Report} :
    (execute readText o).run = .ok r ↔
      ∃ runs, gathered o s t id = .ok runs ∧
        r = ⟨id, seed o s, runs⟩ := by
  rw [h.execute_eq]
  cases gathered o s t id <;> simp [eq_comm]

theorem execute_eq_error_iff (h : Prepared readText o s id t) {failure : Failure} :
    (execute readText o).run = .error failure ↔
      ∃ failed, gathered o s t id = .error failed ∧
        failure = .runFailed id failed := by
  rw [h.execute_eq]
  cases gathered o s t id <;> simp [eq_comm]

theorem exists_execute_iff (h : Prepared readText o s id t) :
    (∃ r, (execute readText o).run = .ok r) ↔
      ∀ i < runCount o s, ∃ r, runAt s t id (seed o s) i = .ok r := by
  rw [← h.gathers.exists_ok_iff]
  constructor
  · rintro ⟨r, hr⟩
    obtain ⟨runs, hs, -⟩ := h.execute_eq_ok_iff.1 hr
    exact ⟨runs, hs⟩
  · rintro ⟨runs, hs⟩
    exact ⟨_, h.execute_eq_ok_iff.2 ⟨runs, hs, rfl⟩⟩

theorem entries (h : Prepared readText o s id t) {r : Report}
    (hr : (execute readText o).run = .ok r) :
    r.runs.length = runCount o s ∧
      ∀ i (hi : i < r.runs.length), runAt s t id (seed o s) i = .ok r.runs[i] := by
  obtain ⟨runs, hs, rfl⟩ := h.execute_eq_ok_iff.1 hr
  have gathers := h.gathers
  rw [hs] at gathers
  cases gathers with
  | completed _ length entries => exact ⟨length, entries⟩

theorem failure (h : Prepared readText o s id t) {failure : Failure}
    (hf : (execute readText o).run = .error failure) :
    ∃ i < runCount o s, ∃ e, runAt s t id (seed o s) i = .error (.failed e) ∧
      (∀ j < i, ∃ r, runAt s t id (seed o s) j = .ok r) ∧
      failure = .runFailed id ⟨i + 1, .failed e⟩ := by
  obtain ⟨failed, hs, rfl⟩ := h.execute_eq_error_iff.1 hf
  have gathers := h.gathers
  rw [hs] at gathers
  cases gathers with
  | stopped i halt lt earlier fails =>
    cases halt with
    | failed e => exact ⟨i, lt, e, fails, earlier, by rw [Nat.add_comm]⟩
    | reversedBounds => exact absurd fails (Scenario.runOn_ne_reversedBounds t id h.bounds _)

section Fewer

variable (h : Prepared readText o s id t) (h' : Prepared readText' o' s' id t)
  (same : s.SameFight s') (seeds : seed o' s' = seed o s)

include h' same seeds

theorem gathered_eq {x : Except FailedRun (List Run)}
    (hx : Gathers (runAt s t id (seed o s)) 1 (runCount o' s') x) :
    gathered o' s' t id = x := by
  have runs : runAt s' t id (seed o' s') = runAt s t id (seed o s) := by
    rw [runAt_of_sameFight same, seeds]
  exact h'.gathers.unique (runs ▸ hx)

include h

theorem execute_take (fewer : runCount o' s' ≤ runCount o s) {r : Report}
    (hr : (execute readText o).run = .ok r) :
    (execute readText' o').run = .ok { r with runs := r.runs.take (runCount o' s') } := by
  obtain ⟨runs, hs, rfl⟩ := h.execute_eq_ok_iff.1 hr
  have gathers := h.gathers
  rw [hs] at gathers
  exact h'.execute_eq_ok_iff.2 ⟨_, h'.gathered_eq same seeds (gathers.take fewer), by rw [seeds]⟩

theorem execute_stop {failed : FailedRun}
    (hf : (execute readText o).run = .error (.runFailed id failed))
    (reached : failed.number ≤ runCount o' s') :
    (execute readText' o').run = .error (.runFailed id failed) := by
  obtain ⟨_, hs, e⟩ := h.execute_eq_error_iff.1 hf
  cases e
  have gathers := h.gathers
  rw [hs] at gathers
  have stops := gathers.stop (Nat.lt_one_add_iff.2 reached)
  exact h'.execute_eq_error_iff.2 ⟨failed, h'.gathered_eq same seeds stops, rfl⟩

end Fewer

end Prepared

theorem scenarioOfFile_ne_runFailed (path : String) (file : Except FileFault String)
    {failed : FailedRun} : scenarioOfFile path file ≠ .error (.runFailed id failed) := by
  intro h
  rw [scenarioOfFile.eq_def] at h
  split at h
  · cases h
  · split at h <;> cases h

theorem parameterTable_ne_runFailed (s : Scenario) {failed : FailedRun} :
    (parameterTable readText o s).run ≠ .error (.runFailed id failed) := by
  intro h
  simp only [Id.run, parameterTable, bind, pure] at h
  split at h
  · cases h
  · split at h <;> cases h

theorem prepared_or_fails (readText : String → Id (Except FileFault String)) (o : Options) :
    (∃ s id t, Prepared readText o s id t) ∨
      ∃ failure, (execute readText o).run = .error failure ∧
        ∀ id failed, failure ≠ .runFailed id failed := by
  cases loaded : scenarioOfFile o.scenario (readText o.scenario) with
  | error e =>
    refine .inr ⟨e, ?_, ?_⟩
    · simp only [Id.run, execute, bind, pure, loaded]
    · rintro id failed rfl
      exact scenarioOfFile_ne_runFailed _ _ loaded
  | ok s =>
    cases named : s.formulaId with
    | error e =>
      refine .inr ⟨.formulaUnknown e, ?_, nofun⟩
      simp only [Id.run, execute, bind, pure, loaded, named]
    | ok id =>
      cases table : parameterTable readText o s with
      | error e =>
        refine .inr ⟨e, ?_, ?_⟩
        · simp only [Id.run, execute, bind, pure, loaded, named, table]
        · rintro id failed rfl
          exact parameterTable_ne_runFailed s table
      | ok t => exact .inl ⟨s, id, t, loaded, named, table⟩

/-- A call reports the evaluations of the generator's successive draws if they all succeed, and else
fails with the first one that does not. Fewer runs of the same fight are the first of the many. -/
theorem execute_runs_by_draw (h : Prepared readText o s id t) :
    let seed := o.seed.getD s.seed
    let n := max 1 (o.runs.getD s.runs).toNat
    let evaluation (i : Nat) : Evaluation ScriptedRolls Empty :=
      ({ constants := s.constants } : Dispatcher Empty).evaluate id (s.context t id) s.combatants
        (ScriptedRolls.fixed (drawAt (ChaCha8.ofSeed seed) i)) s.initDamage
    ((∃ r, (execute readText o).run = .ok r) ↔
        ∀ i < n, ∃ damage, (evaluation i).damage = .ok damage) ∧
      (∀ r, (execute readText o).run = .ok r → r.formula = id ∧ r.seed = seed ∧
        r.runs.length = n ∧ ∀ i (hi : i < r.runs.length), r.runs[i].Tells (evaluation i)) ∧
      (∀ failure, (execute readText o).run = .error failure →
        ∃ i < n, ∃ e, (evaluation i).damage = .error (.failed e) ∧
          (∀ j < i, ∃ damage, (evaluation j).damage = .ok damage) ∧
          failure = .runFailed id ⟨i + 1, .failed e⟩ ∧
          failure.text = Failure.tell s!"Run {i + 1} of formula {id} failed" [e.message]) ∧
      ∀ readText' o' s', Prepared readText' o' s' id t → s.SameFight s' →
        o'.seed.getD s'.seed = seed →
        let m := max 1 (o'.runs.getD s'.runs).toNat
        m ≤ n →
        (∀ r, (execute readText o).run = .ok r →
          (execute readText' o').run = .ok { r with runs := r.runs.take m }) ∧
        ∀ failed, (execute readText o).run = .error (.runFailed id failed) → failed.number ≤ m →
          (execute readText' o').run = .error (.runFailed id failed) := by
  intro seed n evaluation
  have succeeds (i : Nat) : (∃ r, runAt s t id seed i = .ok r) ↔
      ∃ damage, (evaluation i).damage = .ok damage := Evaluation.exists_toRun_iff
  refine ⟨?complete, ?entries, ?failing, ?fewer⟩
  case complete => exact h.exists_execute_iff.trans (forall₂_congr fun i _ => succeeds i)
  case entries =>
    intro r hr
    obtain ⟨_, _, rfl⟩ := h.execute_eq_ok_iff.1 hr
    obtain ⟨length, entries⟩ := h.entries hr
    exact ⟨rfl, rfl, length, fun i hi => Evaluation.toRun_eq_ok_iff.1 (entries i hi)⟩
  case failing =>
    intro failure hf
    obtain ⟨i, lt, e, fails, earlier, rfl⟩ := h.failure hf
    exact ⟨i, lt, e, Evaluation.toRun_eq_error_iff.1 fails,
      fun j before => (succeeds j).1 (earlier j before), rfl, rfl⟩
  case fewer =>
    intro readText' o' s' h' same seeds m fewer
    exact ⟨fun r => h.execute_take h' same seeds fewer, fun failed => h.execute_stop h' same seeds⟩

def exchange : Scenario where
  formula := some 10002
  runs := 2
  attacker := some (.pet { state := { attributes := .ofList [(.attack, 200)] } })
  target := some (.pet { state := { attributes := .ofList [(.evasion, 4000)] } })

def exchangeText : String :=
  "formula = 10002\nruns = 2\nattacker = \x7b kind = 'pet', attributes.10007 = 200 \x7d\n" ++
    "target = \x7b kind = 'pet', attributes.10065 = 4000 \x7d\n"

theorem parse_exchange : Scenario.parse exchangeText = .ok exchange := by decide +kernel

def readExchange : String → Id (Except FileFault String) := fun _ => .ok exchangeText

theorem prepared_exchange (runs : Option UInt32) :
    Prepared readExchange { scenario := "exchange.toml", runs } exchange 10002 .bundled where
  loaded := by rw [readExchange, scenarioOfFile, parse_exchange]
  named := rfl
  table := rfl

def exchangeRuns : List Run := [
  { damage := 103
    damageByType := .ofList [(.primary, 103)]
    finalType := none
    trace := ["formula 10002: hit rate 6000 -> hit", "formula 10002: 103 damage -> type 10001"] },
  { damage := 0
    damageByType := .ofList [(.primary, 0)]
    finalType := none
    trace := ["formula 10002: hit rate 6000 -> miss", "formula 10002: 0 damage -> type 10001"] }]

theorem runAt_exchange : ∀ i (hi : i < exchangeRuns.length),
    runAt exchange .bundled 10002 42 i = .ok exchangeRuns[i] := by
  have draws : [drawAt (ChaCha8.ofSeed 42) 0, drawAt (ChaCha8.ofSeed 42) 1] = [4275, 6273] := by
    decide +kernel
  obtain ⟨first, rest⟩ := List.cons.inj draws
  obtain ⟨second, -⟩ := List.cons.inj rest
  have hits : exchange.runOn .bundled 10002 4275 = .ok exchangeRuns[0] := by decide +kernel
  have misses : exchange.runOn .bundled 10002 6273 = .ok exchangeRuns[1] := by decide +kernel
  intro i hi
  match i with
  | 0 =>
    rw [runAt, first]
    exact hits
  | 1 =>
    rw [runAt, second]
    exact misses

theorem execute_exchange :
    let report : Report := { formula := 10002, seed := 42, runs := exchangeRuns }
    (execute readExchange { scenario := "exchange.toml" }).run = .ok report ∧
      (execute readExchange { scenario := "exchange.toml", runs := some 0 }).run =
        .ok { report with runs := exchangeRuns.take 1 } := by
  intro report
  obtain ⟨complete, entries, -, fewer⟩ := execute_runs_by_draw (prepared_exchange none)
  obtain ⟨⟨formula, seed, runs⟩, hr⟩ := complete.2 fun i hi =>
    Evaluation.exists_toRun_iff.1 ⟨_, runAt_exchange i hi⟩
  obtain ⟨rfl, rfl, length, tells⟩ := entries _ hr
  have same : runs = exchangeRuns := by
    apply List.ext_getElem length
    intro i hi hi'
    have told := Evaluation.toRun_eq_ok_iff.2 (tells i hi)
    exact Except.ok.inj (told.symm.trans (runAt_exchange i hi'))
  subst same
  exact ⟨hr, (fewer _ _ _ (prepared_exchange (some 0)) rfl rfl (by decide)).1 _ hr⟩

end CommandLine

end Skirmish

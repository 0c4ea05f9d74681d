import Skirmish.Proofs.Likeness
import Skirmish.Proofs.Simulation

namespace Skirmish

variable {σ ω : Type}

def Evaluation.untraced (e : Evaluation σ ω) : Evaluation σ ω :=
  { e with context := e.context.withoutTrace }

@[simp] theorem Evaluation.damage_untraced (e : Evaluation σ ω) :
    e.untraced.damage = e.damage := rfl

@[simp] theorem Evaluation.source_untraced (e : Evaluation σ ω) :
    e.untraced.source = e.source := rfl

def Scenario.untraced (s : Scenario) : Scenario :=
  { s with constants := { s.constants with traced := false } }

def Run.untraced (r : Run) : Run := { r with trace := [] }

def Report.untraced (r : Report) : Report := { r with runs := r.runs.map Run.untraced }

namespace Context

theorem withoutTrace_appendTrace (c : Context) (line : String) :
    (c.appendTrace line).withoutTrace = c.withoutTrace.appendTrace line := by
  rw [appendTrace, appendTrace]
  split <;> rfl

theorem withoutTrace_write (c : Context) (id : FormulaId) (w : Write) :
    (c.write id w).withoutTrace = c.withoutTrace.write id w := by
  cases w with
  | damage type amount => exact withoutTrace_appendTrace (c.storeDamage type amount) _
  | finalType | fight => rfl
  | line text => exact withoutTrace_appendTrace c text

theorem withoutTrace_setParams (c : Context) (l : List (String × Float)) :
    l.foldl (fun c (name, value) => c.setParam name value) c.withoutTrace =
      (l.foldl (fun c (name, value) => c.setParam name value) c).withoutTrace :=
  List.foldl_hom withoutTrace fun _ _ => rfl

theorem ofConstants_untraced (constants : CombatConstants) :
    ofConstants { constants with traced := false } = (ofConstants constants).withoutTrace := rfl

end Context

def Likeness.untraced : Likeness where
  combatants := Eq
  context a b := b = a.withoutTrace
  params h := by rw [h]; rfl
  write id w h := by rw [h, Context.withoutTrace_write]

theorem Evaluation.eq_untraced_of_like {e e' : Evaluation σ ω} (h : e.Like .untraced e') :
    e' = e.untraced := by
  have context : e'.context = e.context.withoutTrace := h.context
  rw [h.eq_with, context]
  rfl

theorem Builtin.respects_untraced {id : FormulaId} {f : Formula ω} (h : (id, f) ∈ formulas) :
    f.Respects .untraced := by
  apply respects _ h
  rintro a _ rfl
  exact ⟨rfl, rfl⟩

namespace Dispatcher

variable [RandomSource σ] {d : Dispatcher ω} {id : FormulaId}

theorem evaluate_withoutTrace (blind : ∀ f, d.registry.get id = .ok f → f.Respects .untraced)
    (context : Context) (c : Combatants) (source : σ) (init : Amount) :
    d.evaluate id context.withoutTrace c source init =
      (d.evaluate id context c source init).untraced := by
  cases hf : d.registry.get id with
  | error e => rw [evaluate_unknown hf, evaluate_unknown hf]; rfl
  | ok f => exact Evaluation.eq_untraced_of_like (evaluate_like hf (blind f hf) rfl rfl rfl source)

end Dispatcher

theorem ParameterEntry.applyTo_withoutTrace (e : ParameterEntry) (c : Context) :
    e.applyTo c.withoutTrace = (e.applyTo c).withoutTrace := by
  rw [applyTo, applyTo, ← Context.withoutTrace_setParams]
  cases e.damageRate <;> cases e.damageExt <;> rfl

theorem ParameterTable.contextFor_untraced (t : ParameterTable) (id : FormulaId)
    (constants : CombatConstants) :
    t.contextFor id { constants with traced := false } =
      (t.contextFor id constants).withoutTrace := by
  rw [contextFor, contextFor, applyTo, applyTo, Context.ofConstants_untraced]
  cases t.get? id with
  | none => rfl
  | some e => exact e.applyTo_withoutTrace _

theorem simulate_untraced {evaluate evaluate' : σ → Evaluation σ ω}
    (h : ∀ source, evaluate' source = (evaluate source).untraced) (count number : Nat)
    (source : σ) :
    simulate evaluate' count number source =
      (simulate evaluate count number source).map (List.map Run.untraced) := by
  induction count generalizing number source with
  | zero => rfl
  | succ count ih =>
    have same : (evaluate' source).damage = (evaluate source).damage := by
      rw [h, Evaluation.damage_untraced]
    cases hd : (evaluate source).damage with
    | error halt =>
      simp only [simulate, same, hd]
      rfl
    | ok damage =>
      rw [simulate_succ hd, simulate_succ (same.trans hd), ih, h, Evaluation.source_untraced]
      cases simulate evaluate count (number + 1) (evaluate source).source <;> rfl

variable [RandomSource σ]

namespace Scenario

theorem context_untraced (s : Scenario) (t : ParameterTable) (id : FormulaId) :
    s.untraced.context t id = (s.context t id).withoutTrace := by
  simp only [context, untraced, ParameterTable.contextFor_untraced, Context.withoutTrace_setParams]
  cases s.targetCount <;> rfl

theorem evaluate_untraced (s : Scenario) (t : ParameterTable) (id : FormulaId) (source : σ) :
    s.untraced.evaluate t id source = (s.evaluate t id source).untraced := by
  have blind : ∀ f, (s.dispatcher (ω := Empty)).registry.get id = .ok f → f.Respects .untraced :=
    fun f hf => Builtin.respects_untraced (Registry.mem_of_get_builtin hf)
  rw [evaluate, context_untraced]
  exact Dispatcher.evaluate_withoutTrace blind _ _ _ _

end Scenario

namespace Report

@[simp] theorem damagingRuns_untraced (r : Report) : r.untraced.damagingRuns = r.damagingRuns := by
  simp only [damagingRuns, untraced, List.countP_map]
  rfl

@[simp] theorem totalDamage_untraced (r : Report) : r.untraced.totalDamage = r.totalDamage := by
  simp only [totalDamage, untraced, List.map_map]
  rfl

end Report

namespace CommandLine

variable {o o' : Options} {s : Scenario}

theorem report_untraced (seeds : o'.seed.getD s.seed = o.seed.getD s.seed)
    (runs : runCount o' s = runCount o s) (id : FormulaId) (t : ParameterTable) :
    report o' s.untraced id t = (report o s id t).map Report.untraced := by
  have simulated := simulate_untraced (s.evaluate_untraced t id) (runCount o s) 1
    (ChaCha8.ofSeed (o.seed.getD s.seed))
  have count : runCount o' s.untraced = runCount o s := runs
  have seed : o'.seed.getD s.untraced.seed = o.seed.getD s.seed := seeds
  simp only [report, count, seed, Scenario.simulate, simulated]
  cases simulate (s.evaluate t id) (runCount o s) 1 (ChaCha8.ofSeed (o.seed.getD s.seed)) <;> rfl

theorem execute_untraced {readText readText' : String → Id (Except FileFault String)}
    (loaded : scenarioOfFile o.scenario (readText o.scenario) = .ok s)
    (loaded' : scenarioOfFile o'.scenario (readText' o'.scenario) = .ok s.untraced)
    (tables : parameterTable readText' o' s.untraced = parameterTable readText o s)
    (seeds : o'.seed.getD s.seed = o.seed.getD s.seed) (runs : runCount o' s = runCount o s) :
    (execute readText' o').run = (execute readText o).run.map Report.untraced := by
  have named : s.untraced.formulaId = s.formulaId := rfl
  simp only [Id.run, execute, bind, pure, loaded, loaded', named, tables]
  cases s.formulaId with
  | error e => rfl
  | ok id =>
    cases parameterTable readText o s with
    | error e => rfl
    | ok t => exact report_untraced seeds runs id t

/-- Tracing changes no result: not of a formula that is blind to it, as the built-in ones are, and
not of a simulation, whose report loses its lines and nothing else. -/
theorem tracing_changes_no_result :
    (∀ (d : Dispatcher ω) (id : FormulaId) (f : Formula ω),
      d.registry.get id = .ok f → f.Respects .untraced →
      ∀ (context : Context) (c : Combatants) (source : σ) (init : Amount),
        let e := d.evaluate id context c source init
        d.evaluate id context.withoutTrace c source init =
          { e with context := { e.context with trace := none } }) ∧
    (∀ (id : FormulaId) (f : Formula ω), (id, f) ∈ Builtin.formulas → f.Respects .untraced) ∧
    (∀ (readText readText' : String → Id (Except FileFault String)) (o o' : Options) (s : Scenario),
      scenarioOfFile o.scenario (readText o.scenario) = .ok s →
      scenarioOfFile o'.scenario (readText' o'.scenario) = .ok s.untraced →
      parameterTable readText' o' s.untraced = parameterTable readText o s →
      o'.seed.getD s.seed = o.seed.getD s.seed → runCount o' s = runCount o s →
      (execute readText' o').run = (execute readText o).run.map Report.untraced) ∧
    ∀ r : Report, r.untraced.damagingRuns = r.damagingRuns ∧
      r.untraced.totalDamage = r.totalDamage := by
  refine ⟨?_, fun _ _ => Builtin.respects_untraced, ?_, ?_⟩
  · intro d id f registered respects context c source init
    apply Dispatcher.evaluate_withoutTrace
    intro g hg
    cases registered.symm.trans hg
    exact respects
  · intro readText readText' o o' s loaded loaded' tables seeds runs
    exact execute_untraced loaded loaded' tables seeds runs
  · exact fun r => ⟨r.damagingRuns_untraced, r.totalDamage_untraced⟩

def duel : Scenario := { formula := some 10001, runs := 3 }

theorem parse_duel : Scenario.parse "formula = 10001\nruns = 3\n" = .ok duel := by decide +kernel

def readDuel : String → Id (Except FileFault String) := fun _ => .ok "formula = 10001\nruns = 3\n"

def readQuietDuel : String → Id (Except FileFault String) := fun _ =>
  .ok "formula = 10001\nruns = 3\nconstants.trace.enabled = false\n"

theorem parse_quietDuel :
    Scenario.parse "formula = 10001\nruns = 3\nconstants.trace.enabled = false\n" =
      .ok duel.untraced := by decide +kernel

theorem tracing_gambler_duel :
    let context : Context := { trace := some ["kept"] }
    let e := Dispatcher.gambler.evaluate 7 context {} (ScriptedRolls.fixed 0) 5
    Dispatcher.gambler.evaluate 7 context.withoutTrace {} (ScriptedRolls.fixed 0) 5 =
        { e with context := { e.context with trace := none } } ∧
      (execute readQuietDuel { scenario := "duel.toml" }).run =
        (execute readDuel { scenario := "duel.toml" }).run.map Report.untraced := by
  obtain ⟨evaluations, -, simulations, -⟩ :=
    tracing_changes_no_result (σ := ScriptedRolls) (ω := Empty)
  have blind : Dispatcher.gambler.gamble.Respects .untraced :=
    ⟨by rintro a _ c _ rfl rfl; rfl, fun _ _ _ _ _ => trivial⟩
  constructor
  · exact evaluations Dispatcher.gambler 7 Dispatcher.gambler.gamble rfl blind _ _ _ _
  · apply simulations readDuel readQuietDuel _ _ duel
    · rw [readDuel, scenarioOfFile, parse_duel]
    · rw [readQuietDuel, scenarioOfFile, parse_quietDuel]
    · rfl
    · rfl
    · rfl

end CommandLine

end Skirmish

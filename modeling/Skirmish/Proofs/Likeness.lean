import Skirmish.Proofs.Builtin
import Skirmish.Proofs.Rollback

/-!
What formulas cannot tell apart. A likeness relates the combatants and the contexts that two runs of
one program may differ in. A program that goes on alike wherever it reads related things runs alike:
the results and the sources are the same, and the contexts stay related.
-/

namespace Skirmish

variable {σ ω α β : Type}

/-- Related contexts have the same parameters, and the same write keeps them related. -/
structure Likeness where
  combatants : Combatants → Combatants → Prop
  context : Context → Context → Prop
  params : ∀ {a b}, context a b → a.params = b.params
  write : ∀ {a b} id w, context a b → context (a.write id w) (b.write id w)

def Likeness.ofCombatants (related : Combatants → Combatants → Prop) : Likeness where
  combatants := related
  context := Eq
  params := congrArg Context.params
  write id w h := congrArg (Context.write · id w) h

/-- Whatever the program reads, it goes on in the same way from related answers. -/
def Program.Respects (L : Likeness) : Program ω α → Prop
  | .done _ => True
  | .fail _ => True
  | .readId k => ∀ id, (k id).Respects L
  | .readContext k => (∀ a b, L.context a b → k a = k b) ∧ ∀ c, (k c).Respects L
  | .readCombatants k => (∀ a b, L.combatants a b → k a = k b) ∧ ∀ c, (k c).Respects L
  | .hitRate k => ∀ rate, (k rate).Respects L
  | .damageHit k => ∀ hit, (k hit).Respects L
  | .hitOutcome k => ∀ o, (k o).Respects L
  | .randomInt _ _ k => ∀ n, (k n).Respects L
  | .write _ p => p.Respects L
  | .emit _ p => p.Respects L

structure Formula.Respects (L : Likeness) (f : Formula ω) : Prop where
  hitRate : ∀ {a b c c'}, L.context a b → L.combatants c c' → f.hitRate a c = f.hitRate b c'
  damage : ∀ init, (f.damage init).Respects L

structure Setting.Like (L : Likeness) (s s' : Setting) : Prop where
  id : s'.id = s.id
  combatants : L.combatants s.combatants s'.combatants
  rate : ∀ {a b}, L.context a b → s'.rate? b = s.rate? a

structure Scope.Like (L : Likeness) (a b : Scope σ ω) : Prop where
  context : L.context a.context b.context
  source : b.source = a.source
  outcome : b.outcome = a.outcome
  observed : b.observed = a.observed

structure Evaluation.Like (L : Likeness) (e e' : Evaluation σ ω) : Prop where
  damage : e'.damage = e.damage
  context : L.context e.context e'.context
  source : e'.source = e.source
  observed : e'.observed = e.observed

theorem Evaluation.Like.eq_with {L : Likeness} {e e' : Evaluation σ ω} (h : e.Like L e') :
    e' = { e with context := e'.context } := by
  obtain ⟨damage, -, source, observed⟩ := h
  rw [← damage, ← source, ← observed]

namespace Program

variable {L : Likeness}

theorem Respects.bind {p : Program ω α} {f : α → Program ω β} (hp : p.Respects L)
    (hf : ∀ a, (f a).Respects L) : (p.bind f).Respects L := by
  induction p with
  | done a => exact hf a
  | fail e => trivial
  | readId k ih => exact fun id => ih id (hp id)
  | readContext k ih =>
    refine ⟨fun a b h => ?_, fun c => ih c (hp.2 c)⟩
    exact congrArg (·.bind f) (hp.1 a b h)
  | readCombatants k ih =>
    refine ⟨fun a b h => ?_, fun c => ih c (hp.2 c)⟩
    exact congrArg (·.bind f) (hp.1 a b h)
  | hitRate k ih => exact fun rate => ih rate (hp rate)
  | damageHit k ih => exact fun hit => ih hit (hp hit)
  | hitOutcome k ih => exact fun o => ih o (hp o)
  | randomInt min max k ih => exact fun n => ih n (hp n)
  | write w p ih => exact ih hp
  | emit o p ih => exact ih hp

theorem respects_param (L : Likeness) (name : String) : (param (ω := ω) name).Respects L := by
  constructor
  · intro a b h
    simp only [Context.param?, L.params h]
  · intro c
    cases h : c.param? name with
    | none =>
      simp only [h]
      exact fun _ => trivial
    | some v =>
      simp only [h]
      trivial

end Program

variable [RandomSource σ] {L : Likeness}

theorem Scope.Like.roll {s s' : Setting} {a b : Scope σ ω} (settings : s.Like L s')
    (h : a.Like L b) (rate : Int64) :
    (b.roll s' rate).1 = (a.roll s rate).1 ∧ (a.roll s rate).2.Like L (b.roll s' rate).2 := by
  have hit : (b.roll s' rate).1 = (a.roll s rate).1 := by
    rw [Scope.roll, Scope.roll, h.source]
  refine ⟨hit, ?_, ?_, congrArg some hit, h.observed⟩
  · rw [context_roll, context_roll, settings.id, h.source]
    exact L.write s.id (.line _) h.context
  · rw [source_roll, source_roll, h.source]

theorem Program.run_like {s s' : Setting} (settings : s.Like L s') (p : Program ω α)
    (respects : p.Respects L) {a b : Scope σ ω} (h : a.Like L b) :
    (p.run s' b).1 = (p.run s a).1 ∧ (p.run s a).2.Like L (p.run s' b).2 := by
  -- The scopes are alike at every call, so both runs take the same continuation.
  induction p generalizing a b with
  | done | fail => exact ⟨rfl, h⟩
  | readId k ih =>
    simp only [run, settings.id]
    exact ih s.id (respects s.id) h
  | readContext k ih =>
    simp only [run, ← respects.1 _ _ h.context]
    exact ih a.context (respects.2 a.context) h
  | readCombatants k ih =>
    simp only [run, ← respects.1 _ _ settings.combatants]
    exact ih s.combatants (respects.2 s.combatants) h
  | hitRate k ih =>
    simp only [run, settings.rate h.context]
    cases s.rate? a.context with
    | none => exact ⟨rfl, h⟩
    | some rate => exact ih rate (respects rate) h
  | damageHit k ih =>
    simp only [run, settings.rate h.context, h.outcome]
    cases a.outcome with
    | some hit => exact ih hit (respects hit) h
    | none =>
      cases s.rate? a.context with
      | none => exact ⟨rfl, h⟩
      | some rate =>
        obtain ⟨hit, after⟩ := h.roll settings rate
        simp only [hit]
        exact ih _ (respects _) after
  | hitOutcome k ih =>
    simp only [run, h.outcome]
    exact ih a.outcome (respects a.outcome) h
  | randomInt min max k ih =>
    simp only [run, h.source]
    exact ih _ (respects _) { h with source := rfl }
  | write w p ih =>
    simp only [run, settings.id]
    exact ih respects { h with context := L.write s.id w h.context }
  | emit o p ih =>
    simp only [run, h.observed]
    exact ih respects { h with observed := rfl }

namespace Dispatcher

variable {d : Dispatcher ω} {id : FormulaId} {f : Formula ω}

theorem evaluate_like (registered : d.registry.get id = .ok f) (respects : f.Respects L)
    {context context' : Context} {c c' : Combatants} (contexts : L.context context context')
    (combatants : L.combatants c c') {init init' : Amount} (damage : f.damage init' = f.damage init)
    (source : σ) :
    (d.evaluate id context c source init).Like L (d.evaluate id context' c' source init') := by
  let a : Scope σ ω := { context, source }
  let b : Scope σ ω := { context := context', source }
  have settings : (d.setting id f c).Like L (d.setting id f c') :=
    ⟨rfl, combatants, fun h => congrArg d.constants.hit.clamp (respects.hitRate h combatants).symm⟩
  have start : a.Like L b := ⟨contexts, rfl, rfl, rfl⟩
  obtain ⟨result, final⟩ := (f.damage init).run_like settings (respects.damage init) start
  have same : (d.evaluate id context' c' source init').damage =
      (d.evaluate id context c source init).damage := by
    rw [damage_evaluate registered, damage_evaluate registered, damage, result]
  refine ⟨same, ?_, ?_, ?_⟩
  · rw [context_evaluate registered, context_evaluate registered, same, damage]
    split
    · exact contexts
    · exact final.context
  · rw [source_evaluate registered, source_evaluate registered, damage]
    exact final.source
  · simp only [evaluate, registered, damage]
    exact final.observed

theorem evaluate_of_related {related : Combatants → Combatants → Prop}
    (registered : d.registry.get id = .ok f) (respects : f.Respects (.ofCombatants related))
    {c c' : Combatants} (combatants : related c c') {init init' : Amount}
    (damage : f.damage init' = f.damage init) (context : Context) (source : σ) :
    d.evaluate id context c source init = d.evaluate id context c' source init' := by
  have alike : (d.evaluate id context c source init).Like (.ofCombatants related)
      (d.evaluate id context c' source init') :=
    evaluate_like registered respects rfl combatants damage source
  have same : (d.evaluate id context c source init).context =
      (d.evaluate id context c' source init').context := alike.context
  rw [alike.eq_with, ← same]

end Dispatcher

structure Combatants.SameReads (c c' : Combatants) : Prop where
  attack : attributeValue c.attacker .attack = attributeValue c'.attacker .attack
  evasion : attributeValue c.target .evasion = attributeValue c'.target .evasion

namespace Builtin

theorem respects_attack (reads : ∀ a b, L.combatants a b → a.SameReads b) :
    (attack (ω := ω)).Respects L := by
  refine ⟨fun a b h => ?_, fun _ => trivial⟩
  exact congrArg Program.done (reads a b h).attack

theorem respects (reads : ∀ a b, L.combatants a b → a.SameReads b) {id : FormulaId}
    {f : Formula ω} (h : (id, f) ∈ formulas) : f.Respects L := by
  obtain rfl | rfl | rfl := cases_of_mem h
  · exact ⟨fun _ _ => rfl, fun _ _ => trivial⟩
  · refine ⟨fun _ hc => congrArg evadableRate (reads _ _ hc).evasion, fun _ => ?_⟩
    apply (respects_attack reads).bind
    intro attack hit
    cases hit with
    | false => trivial
    | true =>
      apply (Program.respects_param L _).bind
      intro ratio
      apply (Program.respects_param L _).bind
      intro flat
      trivial
  · refine ⟨fun _ _ => rfl, fun _ => ?_⟩
    apply (respects_attack reads).bind
    intro attack hit
    cases hit with
    | false => trivial
    | true =>
      apply (Program.respects_param L _).bind
      intro rate
      trivial

theorem damage_eq {id : FormulaId} {f : Formula ω} (h : (id, f) ∈ formulas)
    (init init' : Amount) : f.damage init' = f.damage init := by
  obtain rfl | rfl | rfl := cases_of_mem h <;> rfl

end Builtin

end Skirmish

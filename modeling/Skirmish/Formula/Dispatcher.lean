import Skirmish.Formula.Builtin

namespace Skirmish

variable {σ ω : Type}

structure Dispatcher (ω : Type) where
  registry : Registry ω := .builtin
  constants : CombatConstants := {}

structure Evaluation (σ ω : Type) where
  damage : Except Halt Amount
  context : Context
  source : σ
  observed : List ω

namespace Dispatcher

def newContext (d : Dispatcher ω) : Context := .ofConstants d.constants

def setting (d : Dispatcher ω) (id : FormulaId) (f : Formula ω) (c : Combatants) : Setting where
  id := id
  rawRate := f.hitRate
  bounds := d.constants.hit
  combatants := c

def hitRate (d : Dispatcher ω) (id : FormulaId) (context : Context) (c : Combatants) :
    Except Halt Int64 :=
  match d.registry.get id with
  | .error e => .error (.failed e)
  | .ok f =>
    match (d.setting id f c).rate? context with
    | some rate => .ok rate
    | none => .error .reversedBounds

/-- What a context becomes when a program that started from it ends: a failure rolls it back. -/
def settle (before after : Context) : Except Halt Amount → Context
  | .error (.failed _) => after.rollback before.checkpoint
  | _ => after

def evaluate [RandomSource σ] (d : Dispatcher ω) (id : FormulaId) (context : Context)
    (c : Combatants) (source : σ) (init : Amount) : Evaluation σ ω :=
  match d.registry.get id with
  | .error e => ⟨.error (.failed e), context, source, []⟩
  | .ok f =>
    let (damage, scope) := (f.damage init).run (d.setting id f c) { context, source }
    ⟨damage, settle context scope.context damage, scope.source, scope.observed⟩

def evaluateByName [RandomSource σ] (d : Dispatcher ω) (name : String) (context : Context)
    (c : Combatants) (source : σ) (init : Amount) : Evaluation σ ω :=
  match FormulaId.ofName name with
  | .error e => ⟨.error (.failed e), context, source, []⟩
  | .ok id => d.evaluate id context c source init

end Dispatcher

end Skirmish

import Skirmish.Formula.Dispatcher
import Skirmish.Scenario

namespace Skirmish

variable {σ ω : Type}

structure Run where
  damage : Amount
  damageByType : Table CombatType Amount
  finalType : Option CombatType
  trace : List String
  deriving DecidableEq

namespace Run

def ofContext (damage : Amount) (c : Context) : Run := ⟨damage, c.damage, c.finalType, c.traceLines⟩

def isDamaging (r : Run) : Bool := r.damageByType.values.any (0 < ·)

end Run

structure Report where
  formula : FormulaId
  seed : UInt64
  runs : List Run
  deriving DecidableEq

namespace Report

def damagingRuns (r : Report) : Nat := r.runs.countP Run.isDamaging

def totalDamage (r : Report) : Amount := (r.runs.map (·.damage)).foldl Amount.saturatingAdd 0

end Report

structure FailedRun where
  number : Nat
  halt : Halt
  deriving DecidableEq

def simulate (evaluate : σ → Evaluation σ ω) : Nat → Nat → σ → Except FailedRun (List Run)
  | 0, _, _ => .ok []
  | count + 1, number, source =>
    let e := evaluate source
    match e.damage with
    | .error halt => .error ⟨number, halt⟩
    | .ok damage =>
      match simulate evaluate count (number + 1) e.source with
      | .error failed => .error failed
      | .ok runs => .ok (Run.ofContext damage e.context :: runs)

namespace Scenario

def dispatcher (s : Scenario) : Dispatcher ω where
  constants := s.constants

def evaluate [RandomSource σ] (s : Scenario) (t : ParameterTable) (id : FormulaId) (source : σ) :
    Evaluation σ Empty :=
  s.dispatcher.evaluate id (s.context t id) s.combatants source s.initDamage

def simulate [RandomSource σ] (s : Scenario) (t : ParameterTable) (id : FormulaId) (count : Nat)
    (source : σ) : Except FailedRun (List Run) :=
  Skirmish.simulate (s.evaluate t id) count 1 source

end Scenario

end Skirmish

import Skirmish.Combat.Context
import Skirmish.Formula.Combatants
import Skirmish.Formula.Error
import Skirmish.Formula.Trace
import Skirmish.Random

/-!
Formulas as data. A program is what a damage formula does with its surroundings: it reads, rolls,
writes and at last returns an amount or fails. Running one threads the context and the random
source; the first roll decides the hit for the whole evaluation.
-/

namespace Skirmish

inductive Write
  | damage : CombatType → Amount → Write
  | finalType : CombatType → Write
  | fight : FightInfo → Write
  | line : String → Write

/-- A program that returns an `α` and lets observers see values of `ω` on its way. -/
inductive Program (ω α : Type)
  | done : α → Program ω α
  | fail : FormulaError → Program ω α
  | readId : (FormulaId → Program ω α) → Program ω α
  | readContext : (Context → Program ω α) → Program ω α
  | readCombatants : (Combatants → Program ω α) → Program ω α
  | hitRate : (Int64 → Program ω α) → Program ω α
  /-- Whether the evaluation hits; the first time this rolls. -/
  | damageHit : (Bool → Program ω α) → Program ω α
  | hitOutcome : (Option Bool → Program ω α) → Program ω α
  | randomInt : Int64 → Int64 → (Int64 → Program ω α) → Program ω α
  | write : Write → Program ω α → Program ω α
  | emit : ω → Program ω α → Program ω α

variable {σ ω α β : Type}

namespace Program

def bind : Program ω α → (α → Program ω β) → Program ω β
  | done a, f => f a
  | fail e, _ => fail e
  | readId k, f => readId fun id => (k id).bind f
  | readContext k, f => readContext fun c => (k c).bind f
  | readCombatants k, f => readCombatants fun c => (k c).bind f
  | hitRate k, f => hitRate fun r => (k r).bind f
  | damageHit k, f => damageHit fun hit => (k hit).bind f
  | hitOutcome k, f => hitOutcome fun o => (k o).bind f
  | randomInt min max k, f => randomInt min max fun n => (k n).bind f
  | write w p, f => write w (p.bind f)
  | emit o p, f => emit o (p.bind f)

instance : Monad (Program ω) where
  pure := done
  bind := bind

def combatants : Program ω Combatants := readCombatants done

def hit : Program ω Bool := damageHit done

def param (name : String) : Program ω Float :=
  readContext fun c =>
    match c.param? name with
    | some v => done v
    | none => readId fun id => fail (.missingParameter id name)

def damageRate : Program ω Float := param Context.damageRateName

def damageExt : Program ω Float := param Context.damageExtName

def storeDamage (type : CombatType) (amount : Amount) : Program ω Unit :=
  write (.damage type amount) (done ())

end Program

def Context.write (c : Context) (id : FormulaId) : Write → Context
  | .damage type amount => (c.storeDamage type amount).appendTrace (damageLine id type amount)
  | .finalType type => c.setFinalType type
  | .fight f => c.addFight f
  | .line text => c.appendTrace text

structure Setting where
  id : FormulaId
  rawRate : Context → Combatants → Int64
  bounds : HitBounds
  combatants : Combatants

def Setting.rate? (s : Setting) (c : Context) : Option Int64 :=
  s.bounds.clamp (s.rawRate c s.combatants)

structure Scope (σ ω : Type) where
  context : Context
  source : σ
  outcome : Option Bool := none
  observed : List ω := []

def Scope.roll [RandomSource σ] (scope : Scope σ ω) (s : Setting) (rate : Int64) :
    Bool × Scope σ ω :=
  let (hit, source) := resolveHit scope.source rate
  (hit, { scope with
    context := scope.context.appendTrace (hitLine s.id rate hit)
    source := source
    outcome := some hit })

def Program.run [RandomSource σ] (s : Setting) : Program ω α → Scope σ ω → Except Halt α × Scope σ ω
  | .done a, scope => (.ok a, scope)
  | .fail e, scope => (.error (.failed e), scope)
  | .readId k, scope => (k s.id).run s scope
  | .readContext k, scope => (k scope.context).run s scope
  | .readCombatants k, scope => (k s.combatants).run s scope
  | .hitRate k, scope =>
    match s.rate? scope.context with
    | some rate => (k rate).run s scope
    | none => (.error .reversedBounds, scope)
  | .damageHit k, scope =>
    match scope.outcome with
    | some hit => (k hit).run s scope
    | none =>
      match s.rate? scope.context with
      | some rate =>
        let (hit, scope) := scope.roll s rate
        (k hit).run s scope
      | none => (.error .reversedBounds, scope)
  | .hitOutcome k, scope => (k scope.outcome).run s scope
  | .randomInt min max k, scope =>
    let (n, source) := boundedInt scope.source min max
    (k n).run s { scope with source := source }
  | .write w p, scope => p.run s { scope with context := scope.context.write s.id w }
  | .emit o p, scope => p.run s { scope with observed := scope.observed ++ [o] }

namespace Program

theorem run_bind [RandomSource σ] (s : Setting) (p : Program ω α) (f : α → Program ω β)
    (scope : Scope σ ω) :
    (p.bind f).run s scope =
      match p.run s scope with
      | (.ok a, scope) => (f a).run s scope
      | (.error halt, scope) => (.error halt, scope) := by
  induction p generalizing scope with
  | done | fail => rfl
  | readId k ih => exact ih s.id scope
  | readContext k ih => exact ih scope.context scope
  | readCombatants k ih => exact ih s.combatants scope
  | hitRate k ih =>
    simp only [bind, run]
    split
    · exact ih _ scope
    · rfl
  | damageHit k ih =>
    simp only [bind, run]
    split
    · exact ih _ scope
    · split
      · exact ih _ _
      · rfl
  | hitOutcome k ih => exact ih scope.outcome scope
  | randomInt min max k ih => exact ih _ _
  | write w p ih => exact ih _
  | emit o p ih => exact ih _

end Program

end Skirmish

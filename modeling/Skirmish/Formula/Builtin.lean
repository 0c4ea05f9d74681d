import Skirmish.Formula.Registry

namespace Skirmish

namespace Builtin

variable {ω : Type}

def fixedStrikeId : FormulaId := 10001

def scaledStrikeId : FormulaId := 10002

def skillStrikeId : FormulaId := 10003

def fixedStrikeDamage : Amount := 100

def evadableRate (evasion : Float) : Int64 :=
  truncate (roundDown (larger (10000 - evasion) 0))

def scaledDamage (attack ratio flat : Float) : Amount :=
  truncate (larger (roundDown (attack * ratio / 10000) + flat) 1)

def skillDamage (attack rate : Float) : Amount :=
  truncate (roundUp (attack * rate / 10000))

def alwaysHits (_ : Context) (_ : Combatants) : Int64 := basisPoints

def evadable (_ : Context) (c : Combatants) : Int64 :=
  evadableRate (attributeValue c.target .evasion)

def attack : Program ω Float := do
  let c ← Program.combatants
  return attributeValue c.attacker .attack

def fixedStrike (_ : Amount) : Program ω Amount := do
  let stored := if ← Program.hit then fixedStrikeDamage else 0
  Program.storeDamage .primary stored
  return 0

def scaledStrike (_ : Amount) : Program ω Amount := do
  let attack ← attack
  let damage ←
    if ← Program.hit then do
      let ratio ← Program.param "par001"
      let flat ← Program.param "par002"
      pure (scaledDamage attack ratio flat)
    else pure 0
  Program.storeDamage .primary damage
  return damage

def skillStrike (_ : Amount) : Program ω Amount := do
  let attack ← attack
  let damage ←
    if ← Program.hit then do
      let rate ← Program.damageRate
      pure (skillDamage attack rate)
    else pure 0
  Program.storeDamage .primary damage
  return damage

def formulas : List (FormulaId × Formula ω) :=
  [(fixedStrikeId, ⟨alwaysHits, fixedStrike⟩),
    (scaledStrikeId, ⟨evadable, scaledStrike⟩),
    (skillStrikeId, ⟨alwaysHits, skillStrike⟩)]

end Builtin

def Registry.builtin {ω : Type} : Registry ω := ⟨.ofList Builtin.formulas⟩

end Skirmish

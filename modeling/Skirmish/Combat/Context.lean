import Skirmish.Combat.Constants
import Skirmish.Table

namespace Skirmish

structure FightInfo where
  id : UInt32
  success : Bool
  value : Float
  deriving DecidableEq, BEq

structure Context where
  damage : Table CombatType Amount := .empty
  trace : Option (List String) := some []
  params : Table String Float := .empty
  finalType : Option CombatType := none
  fights : List FightInfo := []
  targetCount : Int64 := 1
  deriving DecidableEq, BEq

namespace Context

instance : Inhabited Context := ⟨{}⟩

def ofConstants (c : CombatConstants) : Context where
  trace := if c.traced then some [] else none
  targetCount := c.targetCount

def withoutTrace (c : Context) : Context := { c with trace := none }

def traceLines (c : Context) : List String := c.trace.getD []

def hasSink (c : Context) : Bool := c.trace.isSome

/-- Adds a line to the trace if there is a sink; an empty line is none. -/
def appendTrace (c : Context) (line : String) : Context :=
  if line.isEmpty then c else { c with trace := c.trace.map (· ++ [line]) }

def setParam (c : Context) (name : String) (value : Float) : Context :=
  { c with params := c.params.insert name value }

def param? (c : Context) (name : String) : Option Float := c.params.get? name

def damageRateName : String := "damageRate"

def damageExtName : String := "damageExt"

def damageRate? (c : Context) : Option Float := c.param? damageRateName

def damageExt? (c : Context) : Option Float := c.param? damageExtName

def withTargetCount (c : Context) (n : Int64) : Context := { c with targetCount := n }

def storeDamage (c : Context) (type : CombatType) (amount : Amount) : Context :=
  { c with damage := c.damage.insert type amount }

def damageOf? (c : Context) (type : CombatType) : Option Amount := c.damage.get? type

def setFinalType (c : Context) (type : CombatType) : Context := { c with finalType := some type }

def addFight (c : Context) (f : FightInfo) : Context := { c with fights := c.fights ++ [f] }

/-- The amounts in ascending order of their types, added up within the range of amounts. -/
def totalDamage (c : Context) : Amount := c.damage.values.foldl Amount.saturatingAdd 0

def summary (c : Context) : String :=
  if c.damage.isEmpty then "No damage"
  else
    let parts := c.damage.toList.map fun (type, amount) => s!"{amount} damage (type {type})"
    ", ".intercalate parts ++
      match c.finalType with
      | some type => s!", final type {type}"
      | none => ""

structure Checkpoint where
  damage : Table CombatType Amount
  traceLength : Nat
  finalType : Option CombatType
  fightCount : Nat

def checkpoint (c : Context) : Checkpoint where
  damage := c.damage
  traceLength := c.traceLines.length
  finalType := c.finalType
  fightCount := c.fights.length

/-- Restores the damage and the final type, and cuts the trace and the fights to their length. -/
def rollback (c : Context) (p : Checkpoint) : Context :=
  { c with
    damage := p.damage
    trace := c.trace.map (·.take p.traceLength)
    finalType := p.finalType
    fights := c.fights.take p.fightCount }

end Context

end Skirmish

import Skirmish.Entity.Query
import Skirmish.Formula.Registry

namespace Skirmish

namespace Script

inductive Rate
  | fixed : Int64 → Rate
  | param : String → Rate
  | attributeValue : Role → AttributeId → Rate

def Rate.value : Rate → Context → Combatants → Int64
  | fixed n, _, _ => n
  | param name, c, _ => truncate ((c.param? name).getD 0)
  | attributeValue role id, _, cs => truncate (Skirmish.attributeValue (cs.get role) id)

inductive Instruction
  | id : Instruction
  | hit : Instruction
  | outcome : Instruction
  | hitRate : Instruction
  | param : String → Instruction
  | tryParam : String → Instruction
  | targetCount : Instruction
  | randomInt : Int64 → Int64 → Instruction
  | query : Role → Query → Instruction
  | context : Instruction
  | damage : CombatType → Option Amount → Instruction
  | finalType : CombatType → Instruction
  | fight : FightInfo → Instruction
  | line : String → Instruction

inductive Reading
  | id : FormulaId → Reading
  | flag : Bool → Reading
  | outcome : Option Bool → Reading
  | integer : Int64 → Reading
  | number : Float → Reading
  | failure : FormulaError → Reading
  | answer : Query.Answer → Reading
  | context : Context → Reading
  | nothing : Reading

open Program in
def Instruction.perform (init : Amount) (k : Reading → Program Reading Amount) :
    Instruction → Program Reading Amount
  | id => readId fun id => k (.id id)
  | hit => damageHit fun hit => k (.flag hit)
  | outcome => hitOutcome fun o => k (.outcome o)
  | hitRate => Program.hitRate fun rate => k (.integer rate)
  | param name => (Program.param name).bind fun v => k (.number v)
  | tryParam name =>
    readContext fun c =>
      match c.param? name with
      | some v => k (.number v)
      | none => readId fun id => k (.failure (.missingParameter id name))
  | targetCount => readContext fun c => k (.integer c.targetCount)
  | randomInt min max => Program.randomInt min max fun n => k (.integer n)
  | query role q => readCombatants fun c => k (.answer (q.answer (c.get role) c.target))
  | context => readContext fun c => k (.context c)
  | damage type amount =>
    let amount := amount.getD init
    write (.damage type amount) (k (.integer amount))
  | finalType type => write (.finalType type) (k .nothing)
  | fight f => write (.fight f) (k .nothing)
  | line text => write (.line text) (k .nothing)

end Script

inductive Script
  | finish : Script
  | step : Script.Instruction → Script → Script
  | ifHit : Script → Script → Script → Script
  | fail : String → Script
  | give : Amount → Script
  | giveTotal : Script

namespace Script

def program (init : Amount) : Script → Program Reading Amount → Program Reading Amount
  | finish, next => next
  | step i rest, next => i.perform init fun r => .emit r (rest.program init next)
  | ifHit yes no rest, next =>
    let next := rest.program init next
    .damageHit fun hit => if hit then yes.program init next else no.program init next
  | fail text, _ => .fail (.unknownName text)
  | give n, _ => .done n
  | giveTotal, _ => .readContext fun c => .done c.totalDamage

def formula (rate : Rate) (script : Script) : Formula Reading where
  hitRate := rate.value
  damage := fun init => script.program init (.done init)

end Script

end Skirmish

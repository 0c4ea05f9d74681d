import Skirmish.Entity

namespace Skirmish

structure Combatants where
  attacker : Option Entity := none
  target : Option Entity := none
  user : Option Entity := none

inductive Role
  | attacker
  | target
  | user
  deriving DecidableEq, Repr

namespace Combatants

def get (c : Combatants) : Role → Option Entity
  | .attacker => c.attacker
  | .target => c.target
  | .user => c.user

def description (c : Combatants) : String :=
  "Combatants \x7b attacker: " ++ one c.attacker ++ ", target: " ++ one c.target ++ ", user: " ++
    one c.user ++ " \x7d"
where
  kindName : EntityKind → String
    | .none => "None"
    | .player => "Player"
    | .monster => "Monster"
    | .pet => "Pet"
  one : Option Entity → String
    | some e => "Some(" ++ kindName e.kind ++ ")"
    | none => "None"

end Combatants

end Skirmish

import Skirmish.Random

namespace Skirmish

structure ScriptedRolls where
  draws : List UInt64
  consumed : Nat
  deriving DecidableEq, Repr

namespace ScriptedRolls

def ofList (draws : List UInt64) : ScriptedRolls := ⟨draws, 0⟩

def fixed (draw : UInt64) : ScriptedRolls := ofList [draw]

def answer (draws : List UInt64) (call : Nat) (bound : UInt64) : UInt64 :=
  match draws[call % draws.length]? with
  | none => 0
  | some draw => if bound = 0 then 0 else min draw (bound - 1)

instance : RandomSource ScriptedRolls where
  nextBelow rolls bound :=
    (answer rolls.draws rolls.consumed bound, { rolls with consumed := rolls.consumed + 1 })

theorem answer_lt (draws : List UInt64) (call : Nat) {bound : UInt64} (h : 0 < bound) :
    answer draws call bound < bound := by
  have below : bound - 1 < bound := by
    have pos : 0 < bound.toNat := UInt64.lt_iff_toNat_lt.1 h
    rw [UInt64.lt_iff_toNat_lt, UInt64.toNat_sub_of_le bound 1 (UInt64.le_iff_toNat_le.2 pos)]
    exact Nat.sub_lt pos (by decide)
  unfold answer
  split
  · exact h
  · split
    · simp_all
    · exact Std.lt_of_le_of_lt (Std.min_le_right ..) below

instance : LawfulRandomSource ScriptedRolls where
  nextBelow_lt rolls _ := answer_lt rolls.draws rolls.consumed

@[simp] theorem consumed_nextBelow (rolls : ScriptedRolls) (bound : UInt64) :
    (nextBelow rolls bound).2.consumed = rolls.consumed + 1 := rfl

@[simp] theorem draws_nextBelow (rolls : ScriptedRolls) (bound : UInt64) :
    (nextBelow rolls bound).2.draws = rolls.draws := rfl

end ScriptedRolls

end Skirmish

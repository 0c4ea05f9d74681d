import Skirmish.Basic
import Skirmish.Decimal
import Skirmish.Table
import Skirmish.Text

namespace Skirmish

def hitLine (id : FormulaId) (rate : Int64) (hit : Bool) : String :=
  "formula " ++ toString id ++ ": hit rate " ++ toString rate ++ " -> " ++
    if hit then "hit" else "miss"

def damageLine (id : FormulaId) (type : CombatType) (amount : Amount) : String :=
  "formula " ++ toString id ++ ": " ++ toString amount ++ " damage -> type " ++ toString type

def readDamageLine? (line : String) : Option (CombatType × Amount) := do
  let rest ← Text.dropStart? "formula ".toList line.toList
  let (id, rest) := Text.splitWhile Char.isDigit rest
  let rest ← Text.dropStart? ": ".toList rest
  let (amount, rest) := Text.splitWhile Decimal.isIntegerChar rest
  let type ← Text.dropStart? " damage -> type ".toList rest
  let id := (← Decimal.read? id).toUInt32
  let amount := Int64.ofInt (← Decimal.readInt? amount)
  let type := Int32.ofInt (← Decimal.readInt? type)
  if damageLine id type amount = line then some (type, amount) else none

/-- The damage after the amounts of the damage lines are stored in order. -/
def replay (lines : List String) (damage : Table CombatType Amount) : Table CombatType Amount :=
  damage.insertMany (lines.filterMap readDamageLine?)

theorem toList_damageLine (id : FormulaId) (type : CombatType) (amount : Amount) :
    (damageLine id type amount).toList =
      "formula ".toList ++ (Nat.toDigits 10 id.toNat ++ (": ".toList ++
        (Decimal.ofInt amount.toInt ++ (" damage -> type ".toList ++
          Decimal.ofInt type.toInt)))) := by
  simp [damageLine, String.toList_append, show toString id = toString id.toNat from rfl,
    show toString amount = toString amount.toInt from rfl,
    show toString type = toString type.toInt from rfl]

theorem toList_hitLine (id : FormulaId) (rate : Int64) (hit : Bool) :
    (hitLine id rate hit).toList =
      "formula ".toList ++ (Nat.toDigits 10 id.toNat ++ (": ".toList ++ ("hit rate ".toList ++
        (Decimal.ofInt rate.toInt ++ (" -> ".toList ++
          (if hit then "hit" else "miss").toList))))) := by
  simp [hitLine, String.toList_append, show toString id = toString id.toNat from rfl,
    show toString rate = toString rate.toInt from rfl]

@[simp] theorem readDamageLine?_damageLine (id : FormulaId) (type : CombatType) (amount : Amount) :
    readDamageLine? (damageLine id type amount) = some (type, amount) := by
  have hid (rest) := Text.splitWhile_append (Decimal.all_toDigits id.toNat) (c := ':') rfl rest
  have ham (rest) := Text.splitWhile_append (Decimal.all_ofInt amount.toInt) (c := ' ') rfl rest
  unfold readDamageLine?
  simp only [toList_damageLine, Text.dropStart?_append]
  simp [hid, ham, Text.dropStart?]

@[simp] theorem readDamageLine?_hitLine (id : FormulaId) (rate : Int64) (hit : Bool) :
    readDamageLine? (hitLine id rate hit) = none := by
  have hid (rest) := Text.splitWhile_append (Decimal.all_toDigits id.toNat) (c := ':') rfl rest
  unfold readDamageLine?
  simp only [toList_hitLine, Text.dropStart?_append]
  simp [hid, Text.dropStart?]
  simp [Text.splitWhile, Decimal.isIntegerChar, Text.dropStart?]

theorem readDamageLine?_eq_some_iff {line : String} {type : CombatType} {amount : Amount} :
    readDamageLine? line = some (type, amount) ↔ ∃ id, line = damageLine id type amount := by
  refine ⟨fun h => ?_, fun ⟨id, h⟩ => h ▸ readDamageLine?_damageLine id type amount⟩
  simp only [readDamageLine?, Option.bind_eq_bind, Option.bind_eq_some_iff] at h
  obtain ⟨_, _, _, _, _, _, id, _, _, _, _, _, h⟩ := h
  split at h
  · rename_i he
    simp only [Option.some.injEq, Prod.mk.injEq] at h
    exact ⟨id.toUInt32, by rw [← h.1, ← h.2, he]⟩
  · simp at h

@[simp] theorem isEmpty_hitLine (id : FormulaId) (rate : Int64) (hit : Bool) :
    (hitLine id rate hit).isEmpty = false := by
  rw [← Bool.not_eq_true, String.isEmpty_iff]
  exact fun e => by simpa [e] using toList_hitLine id rate hit

@[simp] theorem isEmpty_damageLine (id : FormulaId) (type : CombatType) (amount : Amount) :
    (damageLine id type amount).isEmpty = false := by
  rw [← Bool.not_eq_true, String.isEmpty_iff]
  exact fun e => by simpa [e] using toList_damageLine id type amount

end Skirmish

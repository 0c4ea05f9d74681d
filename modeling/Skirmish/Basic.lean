namespace Skirmish

abbrev FormulaId := UInt32

abbrev CombatType := Int32

abbrev AttributeId := UInt32

abbrev BuffId := UInt32

abbrev BuffTag := UInt32

abbrev SkillBarId := UInt32

abbrev SkillId := UInt32

abbrev Amount := Int64

def basisPoints : Int64 := 10000

theorem toInt_word_of_le {word : UInt64} (h : (word.toNat : Int) ≤ Int64.maxValue.toInt) :
    word.toInt64.toInt = word.toNat := by
  have most : Int64.maxValue.toInt = 9223372036854775807 := rfl
  rw [Int64.toInt, UInt64.toBitVec_toInt64, BitVec.toInt_eq_toNat_of_lt, UInt64.toNat_toBitVec]
  rw [UInt64.toNat_toBitVec]
  omega

theorem toInt_of_lt_basisPoints {word : UInt64} (h : word < basisPoints.toUInt64) :
    word.toInt64.toInt = word.toNat ∧ word.toNat < 10000 := by
  have below : word.toNat < 10000 := UInt64.lt_iff_toNat_lt.1 h
  have most : Int64.maxValue.toInt = 9223372036854775807 := rfl
  exact ⟨toInt_word_of_le (by omega), below⟩

namespace Amount

def saturatingAdd (a b : Amount) : Amount := Int64.ofIntClamp (a.toInt + b.toInt)

theorem toInt_ofIntClamp (n : Int) :
    (Int64.ofIntClamp n).toInt = max Int64.minValue.toInt (min Int64.maxValue.toInt n) := by
  have least : Int64.minValue.toInt = -9223372036854775808 := rfl
  have most : Int64.maxValue.toInt = 9223372036854775807 := rfl
  unfold Int64.ofIntClamp
  split
  · split
    · rw [Int64.toInt_ofIntLE]
      omega
    · omega
  · omega

theorem toInt_saturatingAdd (a b : Amount) :
    (saturatingAdd a b).toInt =
      max Int64.minValue.toInt (min Int64.maxValue.toInt (a.toInt + b.toInt)) :=
  toInt_ofIntClamp _

end Amount

namespace AttributeId

def attack : AttributeId := 10007

def evasion : AttributeId := 10065

end AttributeId

def CombatType.primary : CombatType := 10001

end Skirmish

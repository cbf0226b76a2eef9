import Mathlib.Tactic.Linarith
import Mathlib.Tactic.SplitIfs

/-!
# 32-bit words as numbers

C computes with `unsigned int` and `int` modulo 2^32 and converts between the two. The lemmas below say
when a sum or a conversion has the value it has for numbers without bounds.
-/

namespace Word

variable {a b : UInt32} {i j : Int32}

theorem toNat_add_of_lt (h : a.toNat + b.toNat < 2 ^ 32) : (a + b).toNat = a.toNat + b.toNat := by
  rw [UInt32.toNat_add, Nat.mod_eq_of_lt h]

theorem toNat_min (a b : UInt32) : (min a b).toNat = min a.toNat b.toNat := by
  have hmin : min a b = if a ≤ b then a else b := rfl
  rw [hmin]
  split_ifs with hle
  · rw [UInt32.le_iff_toNat_le] at hle
    omega
  · rw [UInt32.le_iff_toNat_le] at hle
    omega

/-- A signed sum that stays in the range of the type. -/
theorem toInt_add_of_mem (hlow : -2 ^ 31 ≤ i.toInt + j.toInt) (hhigh : i.toInt + j.toInt < 2 ^ 31) :
    (i + j).toInt = i.toInt + j.toInt := by
  rw [Int32.toInt_add]
  exact Int.bmod_eq_of_le (by omega) (by omega)

/-- An `unsigned int` passed for an `int`. -/
theorem toInt_toInt32 (a : UInt32) :
    a.toInt32.toInt = if a.toNat < 2 ^ 31 then (a.toNat : Int) else a.toNat - 2 ^ 32 := by
  have hword : a.toInt32.toInt = a.toBitVec.toInt := rfl
  have hnat : a.toBitVec.toNat = a.toNat := rfl
  rw [hword, BitVec.toInt_eq_toNat_cond, hnat]
  split_ifs
  · rfl
  · omega
  · omega
  · rfl

/-- An `int` passed for an `unsigned int`. -/
theorem toNat_toUInt32 (i : Int32) :
    (i.toUInt32.toNat : Int) = if i.toInt < 0 then i.toInt + 2 ^ 32 else i.toInt := by
  have hback := toInt_toInt32 i.toUInt32
  have hsame : i.toUInt32.toInt32 = i := rfl
  have hlt := i.toUInt32.toNat_lt
  rw [hsame] at hback
  split_ifs at hback ⊢ <;> omega

end Word

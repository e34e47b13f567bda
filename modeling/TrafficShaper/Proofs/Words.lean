/-
Signed words read as integers: sums, differences, products and negations that stay inside the
word are exact.
-/

import TrafficShaper.Ticks
import Mathlib

namespace TrafficShaper

theorem toInt_ofIntClamp_eq (value : Int) :
    (Int64.ofIntClamp value).toInt = max (-2 ^ 63) (min (2 ^ 63 - 1) value) := by
  rw [Int64.ofIntClamp]
  split
  · split
    · rw [Int64.toInt_ofIntLE]
      have := Int64.toInt_maxValue
      have := Int64.toInt_minValue
      omega
    · have := Int64.toInt_maxValue
      have := Int64.toInt_minValue
      omega
  · have := Int64.toInt_minValue
    omega

theorem toInt_ofIntClamp_half (value : Int) :
    (Int32.ofIntClamp value).toInt = max (-2 ^ 31) (min (2 ^ 31 - 1) value) := by
  have upper := Int32.toInt_maxValue
  have lower := Int32.toInt_minValue
  rw [Int32.ofIntClamp]
  split
  · split
    · rw [Int32.toInt_ofIntLE]
      omega
    · omega
  · omega

theorem signedWord_toInt (value : UInt64) :
    (signedWord value).toInt = (value.toNat : Int).bmod (2 ^ 64) := by
  rw [signedWord, Int64.toInt_ofNat']
  norm_num [Int64.size]

theorem saturatingAdd_toInt (left right : Int64) :
    (saturatingAdd left right).toInt =
      max (-2 ^ 63) (min (2 ^ 63 - 1) (left.toInt + right.toInt)) :=
  toInt_ofIntClamp_eq _

theorem saturatingSub_toInt (left right : Int64) :
    (saturatingSub left right).toInt =
      max (-2 ^ 63) (min (2 ^ 63 - 1) (left.toInt - right.toInt)) :=
  toInt_ofIntClamp_eq _

theorem saturatingMul_toInt (left right : Int64) :
    (saturatingMul left right).toInt =
      max (-2 ^ 63) (min (2 ^ 63 - 1) (left.toInt * right.toInt)) :=
  toInt_ofIntClamp_eq _

/-- A difference that fits in the word is exact. -/
theorem sub_toInt {left right : Int64} (above : -2 ^ 63 ≤ left.toInt - right.toInt)
    (below : left.toInt - right.toInt < 2 ^ 63) :
    (left - right).toInt = left.toInt - right.toInt := by
  rw [Int64.toInt_sub]
  exact Int.bmod_eq_of_le (by omega) (by omega)

/-- A sum that fits in the word is exact. -/
theorem add_toInt {left right : Int64} (above : -2 ^ 63 ≤ left.toInt + right.toInt)
    (below : left.toInt + right.toInt < 2 ^ 63) :
    (left + right).toInt = left.toInt + right.toInt := by
  rw [Int64.toInt_add]
  exact Int.bmod_eq_of_le (by omega) (by omega)

/-- A product that fits in the word is exact. -/
theorem mul_toInt {left right : Int64} (above : -2 ^ 63 ≤ left.toInt * right.toInt)
    (below : left.toInt * right.toInt < 2 ^ 63) :
    (left * right).toInt = left.toInt * right.toInt := by
  rw [Int64.toInt_mul]
  exact Int.bmod_eq_of_le (by omega) (by omega)

/-- Only the least word has no negation. -/
theorem neg_toInt {value : Int64} (notLeast : -2 ^ 63 < value.toInt) :
    (-value).toInt = -value.toInt := by
  have upper := value.toInt_lt
  rw [Int64.toInt_neg]
  exact Int.bmod_eq_of_le (by omega) (by omega)

theorem min_toInt (left right : Int64) :
    (min left right).toInt = min left.toInt right.toInt := by
  by_cases order : left ≤ right
  · rw [show min left right = left from if_pos order, Int.min_eq_left]
    exact Int64.le_iff_toInt_le.mp order
  · rw [show min left right = right from if_neg order, Int.min_eq_right]
    exact Int.le_of_lt (Int64.lt_iff_toInt_lt.mp (Int64.not_le.mp order))

theorem max_toInt (left right : Int64) :
    (max left right).toInt = max left.toInt right.toInt := by
  by_cases order : left ≤ right
  · rw [show max left right = right from if_pos order, Int.max_eq_right]
    exact Int64.le_iff_toInt_le.mp order
  · rw [show max left right = left from if_neg order, Int.max_eq_left]
    exact Int.le_of_lt (Int64.lt_iff_toInt_lt.mp (Int64.not_le.mp order))

theorem max_toNat (left right : UInt64) :
    (max left right).toNat = max left.toNat right.toNat := by
  by_cases order : left ≤ right
  · rw [show max left right = right from if_pos order, Nat.max_eq_right]
    exact UInt64.le_iff_toNat_le.mp order
  · rw [show max left right = left from if_neg order, Nat.max_eq_left]
    exact Nat.le_of_lt (UInt64.lt_iff_toNat_lt.mp (UInt64.not_le.mp order))

/-- A half word fits in a signed word. -/
theorem halfWord_toInt (value : UInt32) : (Int64.ofNat value.toNat).toInt = value.toNat := by
  have bound := value.toNat_lt
  exact Int64.toInt_ofNat_of_lt (by omega)

/-- A shift divides a word that is not negative by a power of two. -/
theorem shiftDown_toInt {value : Int64} (nonneg : 0 ≤ value.toInt) (amount : UInt8) :
    (shiftDown value amount).toInt = value.toInt / 2 ^ (amount.toNat % 64) := by
  have bound := value.toInt_lt
  have less := Int.ediv_le_self (2 ^ (amount.toNat % 64) : Nat) nonneg
  have positive := Int.ediv_nonneg nonneg (Int.natCast_nonneg (2 ^ (amount.toNat % 64)))
  rw [shiftDown, Int.shiftRight_eq_div_pow, Int64.toInt_ofInt_of_le]
  · norm_cast
  · omega
  · omega

end TrafficShaper

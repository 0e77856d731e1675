import Mathlib.Data.Int.Log
import Mathlib.Data.Rat.Floor
import Mathlib.Algebra.Order.Archimedean.Basic

/-! # Rounding to binary64

The double nearest a rational number, ties to even, with subnormals and overflow.
A double has fifty-three significant bits, so it holds every natural number that
fits in fifty-three.
-/

namespace Binary64

/-- The nearest integer, and the even one of two that are equally near. -/
def roundHalfEven (q : ℚ) : ℤ :=
  if q - ⌊q⌋ < 1 / 2 then ⌊q⌋
  else if 1 / 2 < q - ⌊q⌋ then ⌊q⌋ + 1
  else if ⌊q⌋ % 2 = 0 then ⌊q⌋ else ⌊q⌋ + 1

/-- The power of two that the last of the fifty-three bits counts. -/
def unitExponent (q : ℚ) : ℤ := max (Int.log 2 |q| - 52) (-1074)

/-- The value of the nearest double, unless that is an infinity. -/
def round? (q : ℚ) : Option ℚ :=
  let value := roundHalfEven (q / 2 ^ unitExponent q) * (2 : ℚ) ^ unitExponent q
  if |value| < 2 ^ 1024 then some value else none

theorem roundHalfEven_intCast (n : ℤ) : roundHalfEven n = n := by
  have h : (n : ℚ) - ⌊(n : ℚ)⌋ < 1 / 2 := by
    rw [Int.floor_intCast, sub_self]
    exact one_half_pos
  rw [roundHalfEven, if_pos h, Int.floor_intCast]

theorem unitExponent_natCast_nonpos {n : ℕ} (h : n < 2 ^ 53) : unitExponent n ≤ 0 := by
  have hlog : Nat.log 2 n < 53 := by
    rcases Nat.eq_zero_or_pos n with rfl | hpos
    · exact Nat.log_zero_right 2 ▸ Nat.succ_pos 52
    · exact Nat.log_lt_of_lt_pow hpos.ne' h
  have habs : |(n : ℚ)| = n := Nat.abs_cast n
  rw [unitExponent, habs, Int.log_natCast]
  omega

theorem round?_natCast {n : ℕ} (h : n < 2 ^ 53) : round? n = some (n : ℚ) := by
  obtain ⟨k, hk⟩ := Int.eq_ofNat_of_zero_le (neg_nonneg.mpr (unitExponent_natCast_nonpos h))
  have hunit : unitExponent n = -(k : ℤ) := by
    rw [← hk, neg_neg]
  have hquot : (n : ℚ) / 2 ^ unitExponent n = ((n * 2 ^ k : ℤ) : ℚ) := by
    rw [hunit, zpow_neg, zpow_natCast, div_inv_eq_mul]
    push_cast
    rfl
  have hvalue : roundHalfEven ((n : ℚ) / 2 ^ unitExponent n) * (2 : ℚ) ^ unitExponent n = n := by
    rw [hquot, roundHalfEven_intCast, ← hquot]
    exact div_mul_cancel₀ _ (zpow_ne_zero _ two_ne_zero)
  have hsmall : |(n : ℚ)| < 2 ^ 1024 := by
    calc |(n : ℚ)| = n := Nat.abs_cast n
      _ < 2 ^ 53 := mod_cast h
      _ ≤ 2 ^ 1024 := pow_le_pow_right₀ one_le_two (by decide)
  rw [round?, hvalue]
  exact if_pos hsmall

end Binary64

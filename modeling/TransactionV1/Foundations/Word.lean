import TransactionV1.Foundations.Accumulation

/-! # Saturating machine words

Arithmetic on fixed-width words that stops at the largest word instead of
wrapping, and division of words rounding up. Each operation is described by the
number its result denotes.
-/

namespace Word

def max32 : UInt32 := 0xFFFFFFFF

def max64 : UInt64 := 0xFFFFFFFFFFFFFFFF

def saturatingMul32 (a b : UInt32) : UInt32 :=
  if a.toNat * b.toNat ≤ max32.toNat then a * b else max32

def saturatingMul64 (a b : UInt64) : UInt64 :=
  if a.toNat * b.toNat ≤ max64.toNat then a * b else max64

def saturatingAdd64 (a b : UInt64) : UInt64 :=
  if a.toNat + b.toNat ≤ max64.toNat then a + b else max64

/-- The quotient, one higher when the division leaves a remainder. -/
def divCeil64 (a b : UInt64) : UInt64 :=
  if 0 < a % b then a / b + 1 else a / b

@[simp] theorem toNat_max32 : max32.toNat = 2 ^ 32 - 1 := rfl

@[simp] theorem toNat_max64 : max64.toNat = 2 ^ 64 - 1 := rfl

theorem toNat_saturatingMul32 (a b : UInt32) :
    (saturatingMul32 a b).toNat = min (a.toNat * b.toNat) (2 ^ 32 - 1) := by
  unfold saturatingMul32
  split_ifs with h
  · rw [toNat_max32] at h
    rw [UInt32.toNat_mul, Nat.mod_eq_of_lt (by omega), min_eq_left h]
  · rw [toNat_max32] at h ⊢
    omega

theorem toNat_saturatingMul64 (a b : UInt64) :
    (saturatingMul64 a b).toNat = min (a.toNat * b.toNat) (2 ^ 64 - 1) := by
  unfold saturatingMul64
  split_ifs with h
  · rw [toNat_max64] at h
    rw [UInt64.toNat_mul, Nat.mod_eq_of_lt (by omega), min_eq_left h]
  · rw [toNat_max64] at h ⊢
    omega

theorem toNat_saturatingAdd64 (a b : UInt64) :
    (saturatingAdd64 a b).toNat = min (a.toNat + b.toNat) (2 ^ 64 - 1) := by
  unfold saturatingAdd64
  split_ifs with h
  · rw [toNat_max64] at h
    rw [UInt64.toNat_add, Nat.mod_eq_of_lt (by omega), min_eq_left h]
  · rw [toNat_max64] at h ⊢
    omega

theorem toNat_div_add_one {a b : UInt64} (hb : 0 < b.toNat) (h : a.toNat % b.toNat ≠ 0) :
    (a / b + 1).toNat = a.toNat / b.toNat + 1 := by
  have ha := a.toNat_lt
  have hb1 : b.toNat ≠ 1 := fun h1 => h (by rw [h1, Nat.mod_one])
  have hq : a.toNat / b.toNat * 2 ≤ a.toNat :=
    (Nat.mul_le_mul_left _ (by omega)).trans (Nat.div_mul_le_self a.toNat b.toNat)
  rw [UInt64.toNat_add, UInt64.toNat_div, UInt64.toNat_one]
  exact Nat.mod_eq_of_lt (by omega)

theorem toNat_divCeil64 (a : UInt64) {b : UInt64} (hb : 0 < b.toNat) :
    (divCeil64 a b).toNat = a.toNat ⌈/⌉ b.toNat := by
  rw [Accumulation.ceilDiv_eq_div_add _ hb]
  have hr : (0 < a % b) ↔ a.toNat % b.toNat ≠ 0 := by
    rw [UInt64.lt_iff_toNat_lt, UInt64.toNat_mod, UInt64.toNat_zero, Nat.pos_iff_ne_zero]
  unfold divCeil64
  split_ifs with h h0 h0
  · exact absurd h0 (hr.mp h)
  · exact toNat_div_add_one hb h0
  · rw [UInt64.toNat_div, Nat.add_zero]
  · exact absurd (hr.mpr h0) h

end Word

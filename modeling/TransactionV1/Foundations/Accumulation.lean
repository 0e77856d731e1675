import Mathlib.Algebra.BigOperators.Group.List.Basic
import Mathlib.Algebra.Order.Floor.Div
import Mathlib.Algebra.Order.Monoid.Canonical.Defs

/-! # Bounded accumulation and rounding

A running total is cut off at a cap, or wraps at a modulus. The capped total is
the exact sum cut off once and the wrapped total is the exact sum reduced once,
so neither depends on the order of the summands. Division rounding up agrees
with a quotient that is incremented when a remainder is left.
-/

namespace Accumulation

section Capped

variable {α : Type*} [AddCommMonoid α] [LinearOrder α] [CanonicallyOrderedAdd α]

/-- Add up a list, cutting the running total off at the cap after every summand. -/
def cappedSum (cap : α) (xs : List α) : α := xs.foldl (fun total x => min (total + x) cap) 0

theorem min_min_add (cap a x : α) : min (min a cap + x) cap = min (a + x) cap := by
  rcases le_total a cap with h | h
  · rw [min_eq_left h]
  · have hx : cap ≤ a + x := h.trans le_self_add
    rw [min_eq_right h, min_eq_right le_self_add, min_eq_right hx]

theorem foldl_capped (cap a : α) (xs : List α) :
    xs.foldl (fun total x => min (total + x) cap) (min a cap) = min (a + xs.sum) cap := by
  induction xs generalizing a with
  | nil => simp
  | cons x xs ih => rw [List.foldl_cons, min_min_add, ih, List.sum_cons, add_assoc]

theorem cappedSum_eq (cap : α) (xs : List α) : cappedSum cap xs = min xs.sum cap := by
  simpa [cappedSum] using foldl_capped cap 0 xs

theorem cappedSum_perm (cap : α) {xs ys : List α} (h : xs.Perm ys) :
    cappedSum cap xs = cappedSum cap ys := by
  rw [cappedSum_eq, cappedSum_eq, h.sum_eq]

end Capped

/-- Add up a list, reducing the running total modulo the given number after every summand. -/
def wrappedSum (m : ℕ) (xs : List ℕ) : ℕ := xs.foldl (fun total x => (total + x) % m) 0

theorem foldl_wrapped (m a : ℕ) (xs : List ℕ) :
    xs.foldl (fun total x => (total + x) % m) (a % m) = (a + xs.sum) % m := by
  induction xs generalizing a with
  | nil => simp
  | cons x xs ih => rw [List.foldl_cons, Nat.mod_add_mod, ih, List.sum_cons, Nat.add_assoc]

theorem wrappedSum_eq (m : ℕ) (xs : List ℕ) : wrappedSum m xs = xs.sum % m := by
  simpa [wrappedSum] using foldl_wrapped m 0 xs

/-- A wrapped and a capped total over the same word agree exactly when the sum
fits, or when it wraps to the very value it would have been cut off at. -/
theorem wrappedSum_eq_cappedSum_iff (c : ℕ) (xs : List ℕ) :
    wrappedSum (c + 1) xs = cappedSum c xs ↔ xs.sum ≤ c ∨ xs.sum % (c + 1) = c := by
  rw [wrappedSum_eq, cappedSum_eq]
  rcases Nat.lt_or_ge c xs.sum with h | h
  · rw [min_eq_right h.le]
    simp [Nat.not_le.mpr h]
  · rw [min_eq_left h, Nat.mod_eq_of_lt (Nat.lt_succ_of_le h)]
    simp [h]

/-- The quotient, incremented when there is a remainder, is the quotient rounded up. -/
theorem ceilDiv_eq_div_add (a : ℕ) {b : ℕ} (hb : 0 < b) :
    a ⌈/⌉ b = a / b + if a % b = 0 then 0 else 1 := by
  rw [Nat.ceilDiv_eq_add_pred_div]
  have hm := Nat.div_add_mod a b
  split_ifs with h
  · have ha : a = b * (a / b) := by omega
    rw [show a + b - 1 = b - 1 + b * (a / b) by omega, Nat.add_mul_div_left _ _ hb,
      Nat.div_eq_of_lt (by omega)]
    omega
  · have hr : a % b < b := Nat.mod_lt a hb
    rw [show a + b - 1 = (a % b - 1) + b * (a / b + 1) by rw [Nat.mul_succ]; omega,
      Nat.add_mul_div_left _ _ hb, Nat.div_eq_of_lt (by omega)]
    omega

theorem ceilDiv_le_self (a : ℕ) {b : ℕ} (hb : 0 < b) : a ⌈/⌉ b ≤ a := by
  rw [ceilDiv_le_iff_le_mul hb]
  exact Nat.le_mul_of_pos_left a hb

theorem ceilDiv_mul_div_le (a c : ℕ) {b : ℕ} (hb : 0 < b) : (c * (a * b / c)) ⌈/⌉ b ≤ a := by
  rw [ceilDiv_le_iff_le_mul hb, Nat.mul_comm b]
  exact Nat.mul_div_le (a * b) c

theorem le_ceilDiv_mul_div_add (a : ℕ) {b c : ℕ} (hb : 0 < b) (hc : 0 < c) :
    a ≤ (c * (a * b / c)) ⌈/⌉ b + (c - 1) / b := by
  have hq : a * b < c * (a * b / c) + c := by
    rw [← Nat.mul_succ]
    exact Nat.lt_mul_div_succ (a * b) hc
  have hr : c * (a * b / c) ≤ b * ((c * (a * b / c)) ⌈/⌉ b) :=
    (ceilDiv_le_iff_le_mul hb).mp le_rfl
  calc a ≤ (b * ((c * (a * b / c)) ⌈/⌉ b) + (c - 1)) / b :=
        (Nat.le_div_iff_mul_le hb).mpr (by omega)
    _ = (c * (a * b / c)) ⌈/⌉ b + (c - 1) / b := Nat.mul_add_div hb _ _

end Accumulation

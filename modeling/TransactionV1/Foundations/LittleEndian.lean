import Mathlib.Data.Nat.Digits.Defs
import Mathlib.Data.Nat.Digits.Lemmas

/-! # Little-endian fields

Fixed-width natural numbers at the front of a byte string, least significant
byte first. Reading a field back from its encoding returns the number, whatever
bytes follow; a field that does not fit is not read.
-/

namespace LittleEndian

/-- The number a byte string denotes, least significant byte first. -/
def value (bs : List UInt8) : ℕ := Nat.ofDigits 256 (bs.map UInt8.toNat)

/-- The given number of bytes of a natural number, least significant first. -/
def encode : ℕ → ℕ → List UInt8
  | 0, _ => []
  | w + 1, n => UInt8.ofNat n :: encode w (n / 256)

/-- The number in the first bytes, when the string is long enough to hold it. -/
def read? (w : ℕ) (bs : List UInt8) : Option ℕ :=
  if w ≤ bs.length then some (value (bs.take w)) else none

@[simp] theorem value_cons (b : UInt8) (bs : List UInt8) :
    value (b :: bs) = b.toNat + 256 * value bs := by
  simp [value, Nat.ofDigits_cons]

@[simp] theorem length_encode (w n : ℕ) : (encode w n).length = w := by
  induction w generalizing n with
  | zero => rfl
  | succ w ih => rw [encode, List.length_cons, ih]

theorem value_lt (bs : List UInt8) : value bs < 256 ^ bs.length := by
  have hb : ∀ d ∈ bs.map UInt8.toNat, d < 256 := by
    simp only [List.mem_map]
    rintro _ ⟨b, -, rfl⟩
    exact b.toNat_lt
  simpa only [value, List.length_map] using Nat.ofDigits_lt_base_pow_length (by norm_num) hb

theorem value_inj {bs bs' : List UInt8} (hl : bs.length = bs'.length)
    (h : value bs = value bs') : bs = bs' := by
  induction bs generalizing bs' with
  | nil => exact (List.length_eq_zero_iff.mp hl.symm).symm
  | cons b bs ih =>
    cases bs' with
    | nil => simp at hl
    | cons b' bs' =>
      rw [value_cons, value_cons] at h
      have hb := b.toNat_lt
      have hb' := b'.toNat_lt
      have he : b = b' := UInt8.toNat_inj.mp (by omega)
      rw [he, ih (by simpa using hl) (by omega)]

theorem value_encode {w n : ℕ} (h : n < 256 ^ w) : value (encode w n) = n := by
  induction w generalizing n with
  | zero => exact (Nat.lt_one_iff.mp h).symm
  | succ w ih =>
    have hq : n / 256 < 256 ^ w := Nat.div_lt_of_lt_mul (by rwa [pow_succ'] at h)
    rw [encode, value_cons, ih hq, UInt8.toNat_ofNat']
    omega

theorem read?_of_le {w : ℕ} {bs : List UInt8} (h : w ≤ bs.length) :
    read? w bs = some (value (bs.take w)) := if_pos h

theorem read?_eq_none_iff {w : ℕ} {bs : List UInt8} : read? w bs = none ↔ bs.length < w := by
  simp [read?]

theorem map_map_read? {α : Type*} {w : ℕ} {ofNat : ℕ → α} {toNat : α → ℕ}
    (h : ∀ n < 256 ^ w, toNat (ofNat n) = n) (bs : List UInt8) :
    ((read? w bs).map ofNat).map toNat = read? w bs := by
  rcases Nat.lt_or_ge bs.length w with hl | hl
  · rw [read?_eq_none_iff.mpr hl, Option.map_none, Option.map_none]
  · have hv := value_lt (bs.take w)
    rw [List.length_take_of_le hl] at hv
    rw [read?_of_le hl, Option.map_some, Option.map_some, h _ hv]

theorem read?_encode_append {w n : ℕ} (h : n < 256 ^ w) (trailing : List UInt8) :
    read? w (encode w n ++ trailing) = some n := by
  rw [read?_of_le (by simp), List.take_left' (length_encode w n), value_encode h]

end LittleEndian

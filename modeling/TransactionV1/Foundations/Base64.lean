import Mathlib.Data.List.Basic
import Mathlib.Data.List.GetD

/-! # Base64

Three bytes as four characters, the last group padded. The decoder is the
lenient one: it skips characters outside the alphabet and stops at the padding.
It reads back what was encoded.
-/

namespace Base64

def alphabet : List Char :=
  "ABCDEFGHIJKLMNOPQRSTUVWXYZabcdefghijklmnopqrstuvwxyz0123456789+/".toList

def digitChar (d : ℕ) : Char := alphabet.getD d '='

def digit? (c : Char) : Option ℕ := if c ∈ alphabet then some (alphabet.idxOf c) else none

def encode : List UInt8 → List Char
  | [] => []
  | [a] => [digitChar (a.toNat / 4), digitChar (a.toNat % 4 * 16), '=', '=']
  | [a, b] =>
    [digitChar (a.toNat / 4), digitChar (a.toNat % 4 * 16 + b.toNat / 16),
      digitChar (b.toNat % 16 * 4), '=']
  | a :: b :: c :: bs =>
    digitChar (a.toNat / 4) :: digitChar (a.toNat % 4 * 16 + b.toNat / 16) ::
      digitChar (b.toNat % 16 * 4 + c.toNat / 64) :: digitChar (c.toNat % 64) :: encode bs

/-- Where a decoder is within a group of four characters: how many it has read,
the bits it has not used yet, and the padding since the last of them. -/
structure Group where
  quad : ℕ := 0
  left : ℕ := 0
  pads : ℕ := 0

def Group.push (g : Group) (d : ℕ) : Option UInt8 × Group :=
  match g.quad with
  | 0 => (none, ⟨1, d, 0⟩)
  | 1 => (some (UInt8.ofNat (g.left * 4 + d / 16)), ⟨2, d % 16, 0⟩)
  | 2 => (some (UInt8.ofNat (g.left * 16 + d / 4)), ⟨3, d % 4, 0⟩)
  | _ => (some (UInt8.ofNat (g.left * 64 + d)), ⟨0, 0, 0⟩)

/-- Decode the rest of a text. A text that ends within a group is rejected. -/
def scan : Group → List Char → Option (List UInt8)
  | g, [] => if g.quad = 0 then some [] else none
  | g, c :: cs =>
    if c = '=' then
      if g.quad < 2 then scan g cs
      else if 4 ≤ g.quad + (g.pads + 1) then some []
      else scan { g with pads := g.pads + 1 } cs
    else
      match digit? c with
      | none => scan g cs
      | some d =>
        match g.push d with
        | (none, g') => scan g' cs
        | (some byte, g') => (scan g' cs).map (byte :: ·)

def decode (cs : List Char) : Option (List UInt8) := scan {} cs

theorem digitChar_ne_pad : ∀ d < 64, digitChar d ≠ '=' := by decide +kernel

theorem digit?_digitChar : ∀ d < 64, digit? (digitChar d) = some d := by decide +kernel

theorem scan_digitChar (g : Group) {d : ℕ} (hd : d < 64) (cs : List Char) :
    scan g (digitChar d :: cs) =
      match g.push d with
      | (none, g') => scan g' cs
      | (some byte, g') => (scan g' cs).map (byte :: ·) := by
  rw [scan, if_neg (digitChar_ne_pad d hd), digit?_digitChar d hd]

/-! The four characters of a group. -/

section Group

variable {d l : ℕ} (hd : d < 64) (cs : List Char)

include hd

theorem scan_first : scan {} (digitChar d :: cs) = scan ⟨1, d, 0⟩ cs := scan_digitChar {} hd cs

theorem scan_second : scan ⟨1, l, 0⟩ (digitChar d :: cs) =
    (scan ⟨2, d % 16, 0⟩ cs).map (UInt8.ofNat (l * 4 + d / 16) :: ·) := scan_digitChar _ hd cs

theorem scan_third : scan ⟨2, l, 0⟩ (digitChar d :: cs) =
    (scan ⟨3, d % 4, 0⟩ cs).map (UInt8.ofNat (l * 16 + d / 4) :: ·) := scan_digitChar _ hd cs

theorem scan_fourth : scan ⟨3, l, 0⟩ (digitChar d :: cs) =
    (scan {} cs).map (UInt8.ofNat (l * 64 + d) :: ·) := scan_digitChar _ hd cs

end Group

theorem ofNat_join {n k m : ℕ} {b : UInt8} (hb : n * k + m = b.toNat) :
    UInt8.ofNat (n * k + m) = b := by
  rw [hb, UInt8.ofNat_toNat]

theorem toNat_digitChar_lt (d : ℕ) : (digitChar d).toNat < 128 := by
  rcases Nat.lt_or_ge d 64 with hd | hd
  · exact (by decide +kernel : ∀ d < 64, (digitChar d).toNat < 128) d hd
  · have hl : alphabet.length ≤ d := by
      have h64 : alphabet.length = 64 := by decide +kernel
      omega
    have hpad : digitChar d = '=' := List.getD_eq_default _ _ hl
    rw [hpad]
    decide

theorem toNat_lt_of_mem_encode {bs : List UInt8} {c : Char} (h : c ∈ encode bs) :
    c.toNat < 128 := by
  have hpad : '='.toNat < 128 := by decide
  induction bs using encode.induct with
  | case1 => simp [encode] at h
  | case2 a =>
    simp only [encode, List.mem_cons, List.not_mem_nil, or_false] at h
    rcases h with rfl | rfl | rfl | rfl <;> first | exact toNat_digitChar_lt _ | exact hpad
  | case3 a b =>
    simp only [encode, List.mem_cons, List.not_mem_nil, or_false] at h
    rcases h with rfl | rfl | rfl | rfl <;> first | exact toNat_digitChar_lt _ | exact hpad
  | case4 a b c bs ih =>
    simp only [encode, List.mem_cons] at h
    rcases h with rfl | rfl | rfl | rfl | h
    · exact toNat_digitChar_lt _
    · exact toNat_digitChar_lt _
    · exact toNat_digitChar_lt _
    · exact toNat_digitChar_lt _
    · exact ih h

theorem decode_encode (bs : List UInt8) : decode (encode bs) = some bs := by
  unfold decode
  induction bs using encode.induct with
  | case1 => rfl
  | case2 a =>
    have ha := a.toNat_lt
    rw [encode, scan_first (by omega), scan_second (by omega), ofNat_join (b := a) (by omega)]
    rfl
  | case3 a b =>
    have ha := a.toNat_lt
    have hb := b.toNat_lt
    rw [encode, scan_first (by omega), scan_second (by omega), scan_third (by omega),
      ofNat_join (b := a) (by omega), ofNat_join (b := b) (by omega)]
    rfl
  | case4 a b c bs ih =>
    have ha := a.toNat_lt
    have hb := b.toNat_lt
    have hc := c.toNat_lt
    rw [encode, scan_first (by omega), scan_second (by omega), scan_third (by omega),
      scan_fourth (by omega), ofNat_join (b := a) (by omega), ofNat_join (b := b) (by omega),
      ofNat_join (b := c) (by omega), ih]
    rfl

end Base64

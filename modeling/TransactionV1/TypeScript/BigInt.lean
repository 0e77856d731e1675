import TransactionV1.Foundations.Numeral
import Mathlib.Data.Int.Notation
import Mathlib.Data.List.DropRight

/-! # BigInt of a string

ECMAScript's conversion of a string to a bigint: white space around the literal
is ignored, an empty string is zero, a decimal literal may have a sign and one in
another base may not. It reads back every decimal string.
-/

namespace TransactionV1.TypeScript

/-- Why a call threw: `BigInt` on a string that is no literal, a package, or an
error the code throws itself. -/
inductive JsError where
  | syntaxError
  | packageError
  | error (message : String)
  deriving DecidableEq

def isWhiteSpace (c : Char) : Bool :=
  c.toNat ∈ [0x9, 0xA, 0xB, 0xC, 0xD, 0x20, 0xA0, 0x1680, 0x2000, 0x2001, 0x2002, 0x2003, 0x2004,
    0x2005, 0x2006, 0x2007, 0x2008, 0x2009, 0x200A, 0x2028, 0x2029, 0x202F, 0x205F, 0x3000, 0xFEFF]

def trim (cs : List Char) : List Char := (cs.dropWhile isWhiteSpace).rdropWhile isWhiteSpace

/-- The base a literal names by its prefix, and the digits after it. -/
def radixPrefix? : List Char → Option (ℕ × List Char)
  | '0' :: 'x' :: ds => some (16, ds)
  | '0' :: 'X' :: ds => some (16, ds)
  | '0' :: 'o' :: ds => some (8, ds)
  | '0' :: 'O' :: ds => some (8, ds)
  | '0' :: 'b' :: ds => some (2, ds)
  | '0' :: 'B' :: ds => some (2, ds)
  | _ => none

/-- `StringToBigInt` on the trimmed string. -/
def stringToBigInt (cs : List Char) : Option ℤ :=
  match radixPrefix? cs with
  | some (base, ds) => (Numeral.parse? base ds).map Int.ofNat
  | none =>
    match cs with
    | [] => some 0
    | '+' :: ds => (Numeral.parse? 10 ds).map Int.ofNat
    | '-' :: ds => (Numeral.parse? 10 ds).map fun n => -Int.ofNat n
    | ds => (Numeral.parse? 10 ds).map Int.ofNat

/-- `BigInt(s)`. -/
def bigInt (s : String) : Except JsError ℤ :=
  match stringToBigInt (trim s.toList) with
  | some n => .ok n
  | none => .error .syntaxError

section Digits

variable {cs : List Char} (hd : ∀ c ∈ cs, c.isDigit = true)

include hd

theorem isWhiteSpace_of_digits {c : Char} (hc : c ∈ cs) : ¬ isWhiteSpace c = true := by
  have h : 48 ≤ c.toNat ∧ c.toNat ≤ 57 := Char.isDigit_iff_toNat.mp (hd c hc)
  simp only [isWhiteSpace, List.mem_cons, List.not_mem_nil, or_false, decide_eq_true_eq]
  omega

theorem trim_of_digits : trim cs = cs := by
  have hl : cs.dropWhile isWhiteSpace = cs :=
    List.dropWhile_eq_self_iff.mpr fun hl => isWhiteSpace_of_digits hd (List.getElem_mem hl)
  rw [trim, hl, List.rdropWhile_eq_self_iff]
  exact fun hne => isWhiteSpace_of_digits hd (List.getLast_mem hne)

theorem radixPrefix?_of_digits : radixPrefix? cs = none := by
  unfold radixPrefix?
  split
  case _ => exact absurd (hd 'x' (by simp)) (by decide)
  case _ => exact absurd (hd 'X' (by simp)) (by decide)
  case _ => exact absurd (hd 'o' (by simp)) (by decide)
  case _ => exact absurd (hd 'O' (by simp)) (by decide)
  case _ => exact absurd (hd 'b' (by simp)) (by decide)
  case _ => exact absurd (hd 'B' (by simp)) (by decide)
  case _ => rfl

theorem stringToBigInt_of_digits (hne : cs ≠ []) :
    stringToBigInt cs = (Numeral.parse? 10 cs).map Int.ofNat := by
  unfold stringToBigInt
  simp only [radixPrefix?_of_digits hd]
  split
  case _ => exact absurd rfl hne
  case _ => exact absurd (hd '+' (by simp)) (by decide)
  case _ => exact absurd (hd '-' (by simp)) (by decide)
  case _ => rfl

end Digits

theorem bigInt_toString (n : ℕ) : bigInt (toString n) = .ok n := by
  have hd : ∀ c ∈ Nat.toDigits 10 n, c.isDigit = true :=
    fun c hc => Nat.isDigit_of_mem_toDigits (by decide) (by decide) hc
  have hl : (toString n).toList = Nat.toDigits 10 n := Nat.toList_repr
  rw [bigInt, hl, trim_of_digits hd, stringToBigInt_of_digits hd Nat.toDigits_ne_nil,
    Numeral.parse?_toDigits]
  rfl

end TransactionV1.TypeScript

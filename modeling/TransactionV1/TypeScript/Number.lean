import TransactionV1.Foundations.Binary64
import TransactionV1.TypeScript.BigInt

/-! # Number of a string

ECMAScript's conversion of a string to a number. It reads more than digits: white
space alone is zero, a decimal literal may have a sign, a fraction and an exponent,
and literals in other bases are read too. The literal's exact value is then rounded.
-/

namespace TransactionV1.TypeScript

/-- A number. Zero has no sign here: nothing that reads a number looks at it. -/
inductive JsNumber where
  | nan
  | infinity (negative : Bool)
  | finite (value : ℚ)
  deriving DecidableEq

/-- `Number.isInteger`. -/
def JsNumber.isInteger : JsNumber → Bool
  | .finite value => value.isInt
  | _ => false

/-- `value < 0`. -/
def JsNumber.isNegative : JsNumber → Bool
  | .nan => false
  | .infinity negative => negative
  | .finite value => value < 0

def JsNumber.ofExact (value : ℚ) : JsNumber :=
  match Binary64.round? value with
  | some rounded => .finite rounded
  | none => .infinity (value < 0)

/-- The digits after a decimal point, if there is one, and what follows them. -/
def fractionDigits : List Char → List Char × List Char
  | '.' :: cs => (cs.takeWhile Char.isDigit, cs.dropWhile Char.isDigit)
  | cs => ([], cs)

def signedInteger? : List Char → Option ℤ
  | '+' :: ds => (Numeral.parse? 10 ds).map Int.ofNat
  | '-' :: ds => (Numeral.parse? 10 ds).map fun n => -Int.ofNat n
  | ds => (Numeral.parse? 10 ds).map Int.ofNat

/-- The exponent part, if there is one, has to end the literal. -/
def exponent? : List Char → Option ℤ
  | [] => some 0
  | 'e' :: cs => signedInteger? cs
  | 'E' :: cs => signedInteger? cs
  | _ => none

/-- The exact value of an unsigned decimal literal, which needs a digit before or
after the point. -/
def decimal? (cs : List Char) : Option ℚ :=
  let whole := cs.takeWhile Char.isDigit
  let (fraction, rest) := fractionDigits (cs.dropWhile Char.isDigit)
  (Numeral.parse? 10 (whole ++ fraction)).bind fun n =>
    (exponent? rest).map fun e => n * (10 : ℚ) ^ (e - fraction.length : ℤ)

/-- The exact value of a trimmed string that denotes a finite value. -/
def literal? (cs : List Char) : Option ℚ :=
  match radixPrefix? cs with
  | some (base, ds) => (Numeral.parse? base ds).map Nat.cast
  | none =>
    match cs with
    | [] => some 0
    | '+' :: cs => decimal? cs
    | '-' :: cs => (decimal? cs).map Neg.neg
    | cs => decimal? cs

/-- `Number(s)`. -/
def number (s : String) : JsNumber :=
  let cs := trim s.toList
  match literal? cs with
  | some value => .ofExact value
  | none =>
    if cs = "Infinity".toList ∨ cs = "+Infinity".toList then .infinity false
    else if cs = "-Infinity".toList then .infinity true
    else .nan

theorem JsNumber.ofExact_eq_finite_iff {value q : ℚ} :
    ofExact value = .finite q ↔ Binary64.round? value = some q := by
  unfold ofExact
  cases Binary64.round? value with
  | none => exact iff_of_false JsNumber.noConfusion (Option.some_ne_none q).symm
  | some r => exact (JsNumber.finite.injEq r q).to_iff.trans (Option.some_inj).symm

/-- `Number` reads a finite number where there is a literal whose value rounds to it. -/
theorem number_eq_finite_iff {s : String} {q : ℚ} : number s = .finite q ↔
    ∃ value ∈ literal? (trim s.toList), Binary64.round? value = some q := by
  simp only [number]
  cases literal? (trim s.toList) with
  | none =>
    constructor
    · intro h
      split_ifs at h
    · rintro ⟨_, h, _⟩
      cases h
  | some value =>
    simp only [Option.mem_def, Option.some.injEq, exists_eq_left']
    exact JsNumber.ofExact_eq_finite_iff

theorem JsNumber.ofExact_natCast {n : ℕ} (h : n < 2 ^ 53) : ofExact n = .finite n :=
  ofExact_eq_finite_iff.mpr (Binary64.round?_natCast h)

section Digits

variable {cs : List Char}

theorem decimal?_of_digits (hd : ∀ c ∈ cs, c.isDigit = true) :
    decimal? cs = (Numeral.parse? 10 cs).map Nat.cast := by
  have htake : cs.takeWhile Char.isDigit = cs := List.takeWhile_eq_self_iff.mpr hd
  have hdrop : cs.dropWhile Char.isDigit = [] := List.dropWhile_eq_nil_iff.mpr hd
  simp only [decimal?, htake, hdrop, fractionDigits, List.append_nil, exponent?]
  cases Numeral.parse? 10 cs <;> simp

theorem literal?_of_digits (hne : cs ≠ []) (hd : ∀ c ∈ cs, c.isDigit = true) :
    literal? cs = (Numeral.parse? 10 cs).map Nat.cast := by
  unfold literal?
  simp only [radixPrefix?_of_digits hd]
  split
  case _ => exact absurd rfl hne
  case _ => exact absurd (hd '+' (by simp)) (by decide)
  case _ => exact absurd (hd '-' (by simp)) (by decide)
  case _ => exact decimal?_of_digits hd

end Digits

theorem number_of_digits {s : String} {n : ℕ} (hs : Numeral.parse? 10 s.toList = some n)
    (h : n < 2 ^ 53) : number s = .finite n := by
  have hd := Numeral.isDigit_of_parse? hs
  have hl := literal?_of_digits (Numeral.ne_nil_of_parse? hs) hd
  rw [hs, Option.map_some] at hl
  simp only [number, trim_of_digits hd, hl]
  exact JsNumber.ofExact_natCast h

end TransactionV1.TypeScript

import TransactionV1.TypeScript.Number
import Mathlib.Data.Rat.Lemmas

/-! # Reading the limit from the environment

Both indexers take the number of hits to stop at from an environment variable, and
both promise to reject a typo. Go reads decimal digits. TypeScript reads whatever
`Number` reads as a non-negative integer, so it takes some typos for limits.
-/

namespace TransactionV1

/-- The error both readers report, given the value as quoted by their language. -/
def limitMessage (name quoted : String) : String :=
  name ++ " must be a non-negative integer, got " ++ quoted

/-- `readEnvLimit` over `process.env`, quoting with `JSON.stringify`. -/
def TypeScript.readEnvLimit (stringify : String → String) (env : String → Option String)
    (name : String) : Except JsError JsNumber :=
  match env name with
  | none => .ok (.finite 0)
  | some raw =>
    if raw = "" then .ok (.finite 0)
    else
      let value := number raw
      if !value.isInteger || value.isNegative then
        .error (.error (limitMessage name (stringify raw)))
      else .ok value

namespace Go

/-- `strconv.ParseUint(s, 10, 64)`, which takes digits only. -/
def parseUint (s : String) : Option UInt64 :=
  (Numeral.parse? 10 s.toList).bind fun n =>
    if n < UInt64.size then some (UInt64.ofNat n) else none

/-- `ReadEnvLimit` over `os.Getenv`, quoting with `%q`. -/
def readEnvLimit (quote : String → String) (env : String → Option String) (name : String) :
    Except String UInt64 :=
  let raw := (env name).getD ""
  if raw = "" then .ok 0
  else
    match parseUint raw with
    | none => .error (limitMessage name (quote raw))
    | some value => .ok value

end Go

/-- The limit a value states: none at all, which is zero, or its decimal digits. -/
def statedLimit? (raw : String) : Option ℕ :=
  if raw = "" then some 0 else Numeral.parse? 10 raw.toList

/-- Both readers return the limit the value states, and reject a value that states none. -/
def ReadsStatedLimit (raw : String) (ts : Except TypeScript.JsError TypeScript.JsNumber)
    (go : Except String UInt64) : Prop :=
  match statedLimit? raw with
  | some n => ts = .ok (.finite n) ∧ go.map UInt64.toNat = .ok n
  | none => (∃ e, ts = .error e) ∧ ∃ e, go = .error e

/-- Without the white space around it, the value is a literal whose exact value rounds
to a natural number. -/
def DenotesNatural (raw : String) : Prop :=
  ∃ q ∈ TypeScript.literal? (TypeScript.trim raw.toList), ∃ n : ℕ, Binary64.round? q = some ↑n

section Readers

variable {stringify quote : String → String} {env : String → Option String} {name raw : String}

namespace TypeScript

theorem JsNumber.passes_iff (value : JsNumber) :
    (value.isInteger = true ∧ value.isNegative = false) ↔ ∃ n : ℕ, value = .finite n := by
  constructor
  · rintro ⟨hint, hneg⟩
    cases value with
    | nan => cases hint
    | infinity _ => cases hint
    | finite q =>
      have hden : q.den = 1 := by simpa [isInteger, Rat.isInt] using hint
      have hpos : 0 ≤ q := not_lt.mp (of_decide_eq_false hneg)
      have hnum : (q.num.toNat : ℤ) = q.num := Int.toNat_of_nonneg (Rat.num_nonneg.mpr hpos)
      refine ⟨q.num.toNat, congrArg finite ?_⟩
      rw [← Int.cast_natCast, hnum]
      exact (Rat.coe_int_num_of_den_eq_one hden).symm
  · rintro ⟨n, rfl⟩
    exact ⟨rfl, decide_eq_false (not_lt.mpr n.cast_nonneg)⟩

theorem readEnvLimit_of_passes (henv : env name = some raw) (hne : raw ≠ "")
    (h : (number raw).isInteger = true ∧ (number raw).isNegative = false) :
    readEnvLimit stringify env name = .ok (number raw) := by
  simp only [readEnvLimit, henv, if_neg hne, h.1, h.2]
  rfl

theorem readEnvLimit_of_not_passes (henv : env name = some raw) (hne : raw ≠ "")
    (h : ¬ ((number raw).isInteger = true ∧ (number raw).isNegative = false)) :
    readEnvLimit stringify env name = .error (.error (limitMessage name (stringify raw))) := by
  simp only [readEnvLimit, henv, if_neg hne]
  refine if_pos ?_
  rw [Bool.or_eq_true, Bool.not_eq_true']
  by_contra hc
  obtain ⟨hint, hneg⟩ := not_or.mp hc
  exact h ⟨Bool.eq_true_of_not_eq_false hint, Bool.eq_false_of_not_eq_true hneg⟩

theorem exists_number_eq_iff : (∃ n : ℕ, number raw = .finite n) ↔ DenotesNatural raw := by
  simp only [number_eq_finite_iff]
  constructor
  · rintro ⟨n, q, hq, hn⟩
    exact ⟨q, hq, n, hn⟩
  · rintro ⟨q, hq, n, hn⟩
    exact ⟨n, q, hq, hn⟩

/-- A value that is set is rejected exactly when it does not denote a natural number. -/
theorem readEnvLimit_fails_iff (henv : env name = some raw) (hne : raw ≠ "") :
    (∃ e, readEnvLimit stringify env name = .error e) ↔ ¬ DenotesNatural raw := by
  rw [← exists_number_eq_iff, ← JsNumber.passes_iff]
  constructor
  · rintro ⟨e, he⟩ hpass
    rw [readEnvLimit_of_passes henv hne hpass] at he
    cases he
  · intro hpass
    exact ⟨_, readEnvLimit_of_not_passes henv hne hpass⟩

theorem readEnvLimit_of_digits (henv : env name = some raw) {n : ℕ}
    (hn : Numeral.parse? 10 raw.toList = some n) (h : n < 2 ^ 53) :
    readEnvLimit stringify env name = .ok (.finite n) := by
  have hne : raw ≠ "" := by
    rintro rfl
    exact Numeral.ne_nil_of_parse? hn rfl
  have hnumber := number_of_digits hn h
  rw [readEnvLimit_of_passes henv hne ((JsNumber.passes_iff _).mpr ⟨n, hnumber⟩), hnumber]

end TypeScript

namespace Go

theorem readEnvLimit_of_digits (henv : env name = some raw) {n : ℕ}
    (hn : Numeral.parse? 10 raw.toList = some n) (h : n < 2 ^ 53) :
    readEnvLimit quote env name = .ok (UInt64.ofNat n) := by
  have hne : raw ≠ "" := by
    rintro rfl
    exact Numeral.ne_nil_of_parse? hn rfl
  have hsize : n < UInt64.size := h.trans (by decide)
  simp only [readEnvLimit, henv, Option.getD_some, if_neg hne, parseUint, hn, Option.bind_some,
    if_pos hsize]

theorem readEnvLimit_of_not_digits (henv : env name = some raw) (hne : raw ≠ "")
    (hn : Numeral.parse? 10 raw.toList = none) :
    readEnvLimit quote env name = .error (limitMessage name (quote raw)) := by
  simp only [readEnvLimit, henv, Option.getD_some, if_neg hne, parseUint, hn, Option.bind_none]

end Go

/-- The readers treat a value as promised exactly when it consists of decimal digits or,
read as a literal, denotes no natural number. -/
theorem readsStatedLimit_iff (henv : env name = some raw)
    (hsmall : ∀ n, Numeral.parse? 10 raw.toList = some n → n < 2 ^ 53) :
    ReadsStatedLimit raw (TypeScript.readEnvLimit stringify env name)
        (Go.readEnvLimit quote env name) ↔
      (∀ c ∈ raw.toList, c.isDigit = true) ∨ ¬ DenotesNatural raw := by
  unfold ReadsStatedLimit statedLimit?
  by_cases hempty : raw = ""
  · subst hempty
    have hts : TypeScript.readEnvLimit stringify env name = .ok (.finite (0 : ℕ)) := by
      simp only [TypeScript.readEnvLimit, henv, if_true, Nat.cast_zero]
    have hgo : Go.readEnvLimit quote env name = .ok 0 := by
      simp only [Go.readEnvLimit, henv, Option.getD_some, if_true]
    rw [hts, hgo]
    exact iff_of_true ⟨rfl, rfl⟩ (Or.inl fun c hc => absurd hc List.not_mem_nil)
  · simp only [if_neg hempty]
    cases hp : Numeral.parse? 10 raw.toList with
    | some n =>
      have hn := hsmall n hp
      rw [TypeScript.readEnvLimit_of_digits henv hp hn, Go.readEnvLimit_of_digits henv hp hn]
      refine iff_of_true ⟨rfl, ?_⟩ (Or.inl (Numeral.isDigit_of_parse? hp))
      exact congrArg Except.ok (UInt64.toNat_ofNat_of_lt (h := hn.trans (by decide)))
    | none =>
      have hdigits : ¬ ∀ c ∈ raw.toList, c.isDigit = true := by
        intro hd
        obtain ⟨n, hn⟩ := Numeral.exists_parse?_of_digits (by simpa using hempty) hd
        rw [hp] at hn
        cases hn
      rw [TypeScript.readEnvLimit_fails_iff henv hempty,
        Go.readEnvLimit_of_not_digits henv hempty hp]
      constructor
      · rintro ⟨hts, -⟩
        exact Or.inr hts
      · rintro (hd | hts)
        · exact absurd hd hdigits
        · exact ⟨hts, _, rfl⟩

theorem not_readsStatedLimit_of_literal (henv : env name = some raw) (hne : raw ≠ "")
    (hdigits : Numeral.parse? 10 raw.toList = none) {n : ℕ} (hn : n < 2 ^ 53)
    (hl : TypeScript.literal? (TypeScript.trim raw.toList) = some (n : ℚ)) :
    ¬ ReadsStatedLimit raw (TypeScript.readEnvLimit stringify env name)
      (Go.readEnvLimit quote env name) := by
  have hnatural : DenotesNatural raw := ⟨n, hl, n, Binary64.round?_natCast hn⟩
  unfold ReadsStatedLimit statedLimit?
  simp only [if_neg hne, hdigits]
  rintro ⟨hts, -⟩
  exact (TypeScript.readEnvLimit_fails_iff henv hne).mp hts hnatural

end Readers

/-- Both readers take a string of digits for the limit it states. -/
theorem readsStatedLimit_iff_of_digits :
    ReadsStatedLimit "0250"
      (TypeScript.readEnvLimit id (fun _ => some "0250") "TXV1_EXIT_AFTER_V1")
      (Go.readEnvLimit id (fun _ => some "0250") "TXV1_EXIT_AFTER_V1") := by
  have hsmall : ∀ n, Numeral.parse? 10 "0250".toList = some n → n < 2 ^ 53 := by
    rintro n ⟨⟩
    decide
  exact Iff.mpr (readsStatedLimit_iff rfl hsmall) (Or.inl (Numeral.isDigit_of_parse? rfl))

/-- Blank text, a sign, an exponent and a literal in another base are typos that
TypeScript takes for limits. -/
theorem typos_read_as_limits :
    let reads (raw : String) := ReadsStatedLimit raw
      (TypeScript.readEnvLimit id (fun _ => some raw) "TXV1_EXIT_AFTER_V1")
      (Go.readEnvLimit id (fun _ => some raw) "TXV1_EXIT_AFTER_V1")
    ¬ reads " " ∧ ¬ reads "+5" ∧ ¬ reads " 5 " ∧ ¬ reads "5.0" ∧ ¬ reads "1e3" ∧
      ¬ reads "0x10" := by
  intro reads
  have hreads : ∀ raw, raw ≠ "" → Numeral.parse? 10 raw.toList = none → ∀ n : ℕ, n < 2 ^ 53 →
      TypeScript.literal? (TypeScript.trim raw.toList) = some (n : ℚ) → ¬ reads raw :=
    fun _ hne hdigits _ hn hl => not_readsStatedLimit_of_literal rfl hne hdigits hn hl
  refine ⟨hreads _ (by decide) rfl 0 (by decide) ?_, hreads _ (by decide) rfl 5 (by decide) ?_,
    hreads _ (by decide) rfl 5 (by decide) ?_, hreads _ (by decide) rfl 5 (by decide) ?_,
    hreads _ (by decide) rfl 1000 (by decide) ?_, hreads _ (by decide) rfl 16 (by decide) ?_⟩
  all_goals decide +kernel

end TransactionV1

import Mathlib.Data.Nat.Init

/-! # Positional numerals

Numerals in bases up to thirty-six, most significant digit first. Parsing
accepts nonempty strings of digits of the base and inverts the decimal printing
of natural numbers.
-/

namespace Numeral

/-- The value of a letter or decimal digit, when it is a digit of the base. -/
def digit? (base : ℕ) (c : Char) : Option ℕ :=
  let d :=
    if '0' ≤ c ∧ c ≤ '9' then c.toNat - 48
    else if 'a' ≤ c ∧ c ≤ 'z' then c.toNat - 87
    else if 'A' ≤ c ∧ c ≤ 'Z' then c.toNat - 55
    else base
  if d < base then some d else none

/-- The value of a string of digits, continuing from the digits before it. -/
def valueFrom? (base : ℕ) : ℕ → List Char → Option ℕ
  | n, [] => some n
  | n, c :: cs => (digit? base c).bind fun d => valueFrom? base (base * n + d) cs

def parse? (base : ℕ) (cs : List Char) : Option ℕ :=
  if cs = [] then none else valueFrom? base 0 cs

theorem ne_nil_of_parse? {base n : ℕ} {cs : List Char} (h : parse? base cs = some n) :
    cs ≠ [] := by
  rintro rfl
  cases h

theorem isDigit_of_digit? {c : Char} {d : ℕ} (h : digit? 10 c = some d) : c.isDigit = true := by
  have h9 : 'a'.toNat ≤ c.toNat → ¬ c.toNat - 87 < 10 := fun ha : 97 ≤ c.toNat => by omega
  have hZ : 'A'.toNat ≤ c.toNat → ¬ c.toNat - 55 < 10 := fun hA : 65 ≤ c.toNat => by omega
  simp only [digit?] at h
  by_cases hdigit : '0' ≤ c ∧ c ≤ '9'
  · exact Char.isDigit_iff_toNat.mpr hdigit
  · -- a letter counts ten at least
    rw [if_neg hdigit] at h
    by_cases hlower : 'a' ≤ c ∧ c ≤ 'z'
    · rw [if_pos hlower, if_neg (h9 hlower.1)] at h
      cases h
    · rw [if_neg hlower] at h
      by_cases hupper : 'A' ≤ c ∧ c ≤ 'Z'
      · rw [if_pos hupper, if_neg (hZ hupper.1)] at h
        cases h
      · rw [if_neg hupper, if_neg (Nat.lt_irrefl 10)] at h
        cases h

theorem digit?_of_isDigit {c : Char} (h : c.isDigit = true) :
    digit? 10 c = some (c.toNat - 48) := by
  have hr : 48 ≤ c.toNat ∧ c.toNat ≤ 57 := Char.isDigit_iff_toNat.mp h
  have hdigit : '0' ≤ c ∧ c ≤ '9' := hr
  have hlt : c.toNat - 48 < 10 := by omega
  rw [digit?, if_pos hdigit, if_pos hlt]

theorem isDigit_of_valueFrom? {n m : ℕ} {cs : List Char} (h : valueFrom? 10 n cs = some m) :
    ∀ c ∈ cs, c.isDigit = true := by
  induction cs generalizing n with
  | nil => exact fun c hc => absurd hc List.not_mem_nil
  | cons c cs ih =>
    obtain ⟨d, hd, hv⟩ := Option.bind_eq_some_iff.mp h
    exact List.forall_mem_cons.mpr ⟨isDigit_of_digit? hd, ih hv⟩

theorem exists_valueFrom? {cs : List Char} (h : ∀ c ∈ cs, c.isDigit = true) (n : ℕ) :
    ∃ m, valueFrom? 10 n cs = some m := by
  induction cs generalizing n with
  | nil => exact ⟨n, rfl⟩
  | cons c cs ih =>
    obtain ⟨hc, hcs⟩ := List.forall_mem_cons.mp h
    obtain ⟨m, hm⟩ := ih hcs (10 * n + (c.toNat - 48))
    exact ⟨m, by rw [valueFrom?, digit?_of_isDigit hc, Option.bind_some, hm]⟩

theorem isDigit_of_parse? {n : ℕ} {cs : List Char} (h : parse? 10 cs = some n) :
    ∀ c ∈ cs, c.isDigit = true := by
  rw [parse?, if_neg (ne_nil_of_parse? h)] at h
  exact isDigit_of_valueFrom? h

theorem exists_parse?_of_digits {cs : List Char} (hne : cs ≠ [])
    (h : ∀ c ∈ cs, c.isDigit = true) : ∃ n, parse? 10 cs = some n := by
  rw [parse?, if_neg hne]
  exact exists_valueFrom? h 0

theorem digit?_digitChar {base d : ℕ} (hd : d < base) (hb : base ≤ 10) :
    digit? base d.digitChar = some d := by
  have h10 : ∀ k < 10, ('0' ≤ k.digitChar ∧ k.digitChar ≤ '9') ∧ k.digitChar.toNat - 48 = k := by
    decide
  obtain ⟨hr, hv⟩ := h10 d (by omega)
  rw [digit?, if_pos hr, hv, if_pos hd]

theorem valueFrom?_append {base n m : ℕ} {cs : List Char} (h : valueFrom? base n cs = some m)
    (ds : List Char) : valueFrom? base n (cs ++ ds) = valueFrom? base m ds := by
  induction cs generalizing n with
  | nil =>
    rw [valueFrom?, Option.some.injEq] at h
    rw [List.nil_append, h]
  | cons c cs ih =>
    obtain ⟨d, hd, hv⟩ := Option.bind_eq_some_iff.mp h
    rw [List.cons_append, valueFrom?, hd, Option.bind_some, ih hv]

theorem valueFrom?_toDigits {base : ℕ} (h1 : 1 < base) (hb : base ≤ 10) (n : ℕ) :
    valueFrom? base 0 (Nat.toDigits base n) = some n := by
  induction n using Nat.strongRecOn with
  | ind n ih =>
    rcases Nat.lt_or_ge n base with hn | hle
    · simp [Nat.toDigits_of_lt_base hn, valueFrom?, digit?_digitChar hn hb]
    · have hr : n % base < base := Nat.mod_lt n (by omega)
      have hq : n / base < n := Nat.div_lt_self (by omega) h1
      rw [Nat.toDigits_of_base_le h1 hle, valueFrom?_append (ih _ hq), valueFrom?,
        digit?_digitChar hr hb, Option.bind_some, valueFrom?, Nat.div_add_mod]

theorem parse?_toDigits (n : ℕ) : parse? 10 (Nat.toDigits 10 n) = some n := by
  rw [parse?, if_neg Nat.toDigits_ne_nil, valueFrom?_toDigits (by decide) (by decide)]

theorem toString_inj {m n : ℕ} : toString m = toString n ↔ m = n := by
  constructor
  · intro h
    have hd : Nat.toDigits 10 m = Nat.toDigits 10 n := by
      rw [← Nat.toList_repr, ← Nat.toList_repr]
      exact congrArg String.toList h
    exact Option.some.inj (parse?_toDigits m ▸ parse?_toDigits n ▸ congrArg (parse? 10) hd)
  · rintro rfl
    rfl

end Numeral

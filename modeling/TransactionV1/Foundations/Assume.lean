import TransactionV1.Foundations.Dialogue

/-! # What a program guarantees to a trusted environment

A program may be right only if its environment keeps a promise about every answer it
gives. Under the promise, one judgment says what each of the program's exchanges is like
and what a returned value leaves behind, and another that there is a value at all, if the
environment is not slow in more exchanges than the program has rounds for.
-/

namespace Dialogue

variable {Q : Type} {A : Q → Type} {ε α β : Type} {P R : Exchange A → Prop}
  {S : α → List (Exchange A) → Prop} {S' : β → List (Exchange A) → Prop}
  {d : Dialogue Q A ε α} {f : α → Dialogue Q A ε β}

/-- As long as every exchange keeps the promise `P`, every exchange has the property `R`,
and a conversation that returns a value has the property `S` of it. -/
def Meets (P R : Exchange A → Prop) (S : α → List (Exchange A) → Prop)
    (d : Dialogue Q A ε α) : Prop :=
  Ensures d fun t e => (∀ x ∈ t, P x) → (∀ x ∈ t, R x) ∧ ∀ a, e = .returned a → S a t

theorem Meets.returned {a : α} (h : S a []) :
    Meets P R S (Dialogue.returned a : Dialogue Q A ε α) := by
  refine ensures_returned.mpr fun _ => ⟨List.forall_mem_nil R, ?_⟩
  rintro _ ⟨⟩
  exact h

theorem Meets.threw {e : ε} : Meets P R S (Dialogue.threw e : Dialogue Q A ε α) :=
  ensures_threw.mpr fun _ => ⟨List.forall_mem_nil R, fun _ he => nomatch he⟩

theorem Meets.weaken {T : α → List (Exchange A) → Prop} (h : Meets P R S d)
    (hST : ∀ a t, S a t → T a t) : Meets P R T d := by
  refine Ensures.mono h fun t e he hP => ⟨(he hP).1, fun a ha => hST a t ((he hP).2 a ha)⟩

theorem Meets.bind (h : Meets P R S d)
    (hf : ∀ a t, S a t → Meets P R (fun b t' => S' b (t ++ t')) (f a)) :
    Meets P R S' (d >>= f) := by
  refine ensures_monad_bind.mpr fun t e hc => ?_
  cases e with
  | returned a =>
    -- the promise for the whole conversation is one for each of its parts
    intro t' e' hc' hP
    obtain ⟨hPt, hPt'⟩ := List.forall_mem_append.mp hP
    obtain ⟨hR, hS⟩ := h t _ hc hPt
    obtain ⟨hR', hS'⟩ := hf a t (hS a rfl) t' e' hc' hPt'
    exact ⟨List.forall_mem_append.mpr ⟨hR, hR'⟩, hS'⟩
  | threw e => exact fun hP => ⟨(h t _ hc hP).1, fun _ he => nomatch he⟩
  | pending => exact fun hP => ⟨(h t _ hc hP).1, fun _ he => nomatch he⟩

theorem Meets.right {T : α → List (Exchange A) → Prop}
    (hS : ∀ b t t', S' b t' → S' b (t ++ t')) (h : Meets P R T d)
    (hf : ∀ a, Meets P R S' (f a)) : Meets P R S' (d >>= f) :=
  h.bind fun a t _ => (hf a).weaken fun b t' hb => hS b t t' hb

/-- What holds of the value alone is not concerned with the steps before. -/
theorem Meets.after {T : α → List (Exchange A) → Prop} {value : β → Prop} (h : Meets P R T d)
    (hf : ∀ a, Meets P R (fun b _ => value b) (f a)) :
    Meets P R (fun b _ => value b) (d >>= f) :=
  .right (fun _ _ _ hb => hb) h hf

theorem Meets.query {q : Q} {T : A q → List (Exchange A) → Prop}
    (h : ∀ answer, P ⟨q, answer⟩ → R ⟨q, answer⟩ ∧ T answer [⟨q, answer⟩]) :
    Meets P R T (Dialogue.query q : Dialogue Q A ε (A q)) := by
  refine ensures_query.mpr fun answer hP => ?_
  obtain ⟨hR, hT⟩ := h answer (List.forall_mem_singleton.mp hP)
  refine ⟨List.forall_mem_singleton.mpr hR, ?_⟩
  rintro _ ⟨⟩
  exact hT

theorem Meets.request {q : Q} {g : A q → Dialogue Q A ε β}
    (h : ∀ answer, P ⟨q, answer⟩ → R ⟨q, answer⟩ ∧
      Meets P R (fun b t => S' b (⟨q, answer⟩ :: t)) (g answer)) :
    Meets P R S' (Dialogue.query q >>= g) := by
  let T : A q → List (Exchange A) → Prop := fun answer t => t = [⟨q, answer⟩] ∧ P ⟨q, answer⟩
  have hq : Meets P R T (Dialogue.query q : Dialogue Q A ε (A q)) :=
    .query fun answer hP => ⟨(h answer hP).1, rfl, hP⟩
  refine hq.bind fun answer t ht => ?_
  obtain ⟨rfl, hP⟩ := ht
  exact (h answer hP).2

section Completes

variable {slow : Exchange A → Bool} {rounds : ℕ}

def neverSlow : Exchange A → Bool := fun _ => false

/-- The program returns as long as every exchange keeps the promise `P` and fewer than so
many of them are `slow`. -/
def Completes (P : Exchange A → Prop) (slow : Exchange A → Bool) (rounds : ℕ)
    (d : Dialogue Q A ε α) : Prop :=
  Ensures d fun t e => (∀ x ∈ t, P x) → t.countP slow < rounds → ∃ a, e = .returned a

/-- A round under the promise comes back, and only without a value if it is late or has a
slow exchange. -/
def ComesBack (P : Exchange A → Prop) (slow : Exchange A → Bool) (late : Prop)
    (body : Dialogue Q A ε (Option α)) : Prop :=
  Ensures body fun t e => (∀ x ∈ t, P x) →
    ∃ r, e = .returned r ∧ (r = none → late ∨ ∃ x ∈ t, slow x = true)

variable {late : Prop}

end Completes

end Dialogue

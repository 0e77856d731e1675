import TransactionV1.Foundations.Dialogue

/-! # Protocols

A protocol says how each exchange of a conversation changes a state. A program follows
it when every conversation it can have runs along the steps, to a state that fits how
the conversation ends.
-/

namespace Protocol

open Dialogue

universe u v

section Runs

variable {σ : Type u} {X : Type v} {Step : σ → X → σ → Prop} {p q r : σ} {x : X} {t t' : List X}

/-- What a conversation does to a state, one step for each exchange. -/
inductive Runs (Step : σ → X → σ → Prop) : σ → List X → σ → Prop where
  | nil {p : σ} : Runs Step p [] p
  | cons {p q r : σ} {x : X} {t : List X} : Step p x q → Runs Step q t r → Runs Step p (x :: t) r

theorem Runs.append (h : Runs Step p t q) (h' : Runs Step q t' r) : Runs Step p (t ++ t') r := by
  induction h with
  | nil => exact h'
  | cons hs _ ih => exact .cons hs (ih h')

theorem Runs.concat (h : Runs Step p t q) (hs : Step q x r) : Runs Step p (t ++ [x]) r :=
  h.append (.cons hs .nil)

theorem Runs.split (h : Runs Step p (t ++ t') r) : ∃ q, Runs Step p t q ∧ Runs Step q t' r := by
  induction t generalizing p with
  | nil => exact ⟨p, .nil, h⟩
  | cons x t ih =>
    cases h with
    | cons hs hr =>
      obtain ⟨q, hq, hr⟩ := ih hr
      exact ⟨q, .cons hs hq, hr⟩

theorem Runs.unique (h : Runs Step p t q) (hs : ∀ p x q r, Step p x q → Step p x r → q = r)
    (h' : Runs Step p t r) : q = r := by
  induction h with
  | nil =>
    cases h'
    rfl
  | cons hq _ ih =>
    cases h' with
    | cons hq' hr' =>
      obtain rfl := hs _ _ _ _ hq hq'
      exact ih hr'

theorem Runs.of_forall (h : ∀ x ∈ t, Step p x p) : Runs Step p t p := by
  induction t with
  | nil => exact .nil
  | cons x t ih =>
    obtain ⟨hx, ht⟩ := List.forall_mem_cons.mp h
    exact .cons hx (ih ht)

theorem Runs.preserves (h : Runs Step p t q) {I : σ → List X → Prop}
    (hs : ∀ p x q past, Step p x q → I p past → I q (past ++ [x])) {past : List X}
    (hp : I p past) : I q (past ++ t) := by
  induction h generalizing past with
  | nil => rwa [List.append_nil]
  | cons hx _ ih =>
    rw [List.append_cons]
    exact ih (hs _ _ _ _ hx hp)

/-- Exchanges of a kind are at most as many as the potential that each of them uses up. -/
theorem Runs.countP_add_le (h : Runs Step p t q) {kind : X → Bool} {potential : σ → ℕ}
    (hs : ∀ p x q, Step p x q → (if kind x then 1 else 0) + potential q ≤ potential p) :
    t.countP kind + potential q ≤ potential p := by
  induction h with
  | nil => exact Nat.le_of_eq (Nat.zero_add _)
  | cons hx _ ih =>
    have hle := hs _ _ _ hx
    rw [List.countP_cons]
    omega

theorem Runs.countP_add_eq (h : Runs Step p t q) {kind : X → Bool} {amount : σ → ℕ}
    (hs : ∀ p x q, Step p x q → (if kind x then 1 else 0) + amount p = amount q) :
    t.countP kind + amount p = amount q := by
  induction h with
  | nil => exact Nat.zero_add _
  | cons hx _ ih =>
    have he := hs _ _ _ hx
    rw [List.countP_cons]
    omega

end Runs

section Then

variable {X : Type v} {P R : List X → Prop} {t : List X}

/-- One property holds of a beginning of a conversation, and another of what follows it. -/
def Then (P R : List X → Prop) (t : List X) : Prop :=
  ∃ first later, t = first ++ later ∧ P first ∧ R later

theorem Then.append (h : Then P R t) (hR : ∀ t t', R t → R (t ++ t')) (t' : List X) :
    Then P R (t ++ t') := by
  obtain ⟨first, later, rfl, hP, hl⟩ := h
  exact ⟨first, later ++ t', List.append_assoc first later t', hP, hR later t' hl⟩

end Then

section Follows

variable {σ : Type u} {Q : Type} {A : Q → Type} {ε α β : Type} {Step : σ → Exchange A → σ → Prop}
  {p : σ} {d : Dialogue Q A ε α} {reaches reaches' : Ending ε α → σ → Prop}

/-- Whatever the answers, a program takes the protocol on from a state, and reaches one
that fits how it ends. -/
def Follows (Step : σ → Exchange A → σ → Prop) (p : σ) (d : Dialogue Q A ε α)
    (reaches : Ending ε α → σ → Prop) : Prop :=
  Ensures d fun t e => ∃ q, Runs Step p t q ∧ reaches e q

theorem Follows.returned {a : α} (h : reaches (.returned a) p) :
    Follows Step p (Dialogue.returned a : Dialogue Q A ε α) reaches :=
  ensures_returned.mpr ⟨p, .nil, h⟩

theorem Follows.threw {x : ε} (h : reaches (.threw x) p) :
    Follows Step p (Dialogue.threw x : Dialogue Q A ε α) reaches :=
  ensures_threw.mpr ⟨p, .nil, h⟩

theorem Follows.bind {f : α → Dialogue Q A ε β} {final : Ending ε β → σ → Prop}
    (h : Follows Step p d reaches)
    (hf : ∀ e q, reaches e q →
      e.continue (fun a => Follows Step q (f a) final) (fun e' => final e' q)) :
    Follows Step p (d >>= f) final := by
  refine ensures_monad_bind.mpr (Ensures.mono h fun t e he => ?_)
  obtain ⟨q, hq, he⟩ := he
  have hn := hf e q he
  cases e with
  | returned a =>
    refine Ensures.mono hn fun t' e' he' => ?_
    obtain ⟨r, hr, he'⟩ := he'
    exact ⟨r, hq.append hr, he'⟩
  | threw x => exact ⟨q, hq, hn⟩
  | pending => exact ⟨q, hq, hn⟩

/-- A request takes one step, whatever its answer, and the rest goes on from there. -/
theorem Follows.request {f : α → Dialogue Q A ε β} {final : Ending ε β → σ → Prop}
    {x : α → Exchange A} (hd : ∀ post, Ensures d post ↔ ∀ a, post [x a] (.returned a))
    (h : ∀ a, ∃ q, Step p (x a) q ∧ Follows Step q (f a) final) :
    Follows Step p (d >>= f) final := by
  refine ensures_monad_bind.mpr ((hd _).mpr fun a => ?_)
  obtain ⟨q, hs, hf⟩ := h a
  refine Ensures.mono hf fun t e he => ?_
  obtain ⟨r, hr, he⟩ := he
  exact ⟨r, .cons hs hr, he⟩

/-- A return reaches a state that fits its value, and what ends otherwise one that is fit
for that. -/
def Reaching (onReturn : α → σ → Prop) (otherwise : σ → Prop) : Ending ε α → σ → Prop
  | .returned a, q => onReturn a q
  | .threw _, q | .pending, q => otherwise q

theorem Follows.andThen {f : α → Dialogue Q A ε β} {onReturn : α → σ → Prop}
    {onReturn' : β → σ → Prop} {otherwise : σ → Prop}
    (h : Follows Step p d (Reaching onReturn otherwise))
    (hf : ∀ a q, onReturn a q → Follows Step q (f a) (Reaching onReturn' otherwise)) :
    Follows Step p (d >>= f) (Reaching onReturn' otherwise) := by
  refine h.bind fun e q he => ?_
  cases e with
  | returned a => exact hf a q he
  | threw x => exact he
  | pending => exact he

theorem Follows.attempt {V : Q → Type} {Step : σ → Exchange (fun q => Except ε (V q)) → σ → Prop}
    {q : Q} {onReturn : V q → σ → Prop} {otherwise : σ → Prop}
    (hok : ∀ a, ∃ r, Step p ⟨q, .ok a⟩ r ∧ onReturn a r)
    (herror : ∀ e, ∃ r, Step p ⟨q, .error e⟩ r ∧ otherwise r) :
    Follows Step p (Dialogue.attempt q) (Reaching onReturn otherwise) := by
  refine .request (fun _ => ensures_query) fun answer => ?_
  cases answer with
  | error e =>
    obtain ⟨r, hs, hr⟩ := herror e
    exact ⟨r, hs, .threw hr⟩
  | ok a =>
    obtain ⟨r, hs, hr⟩ := hok a
    exact ⟨r, hs, .returned hr⟩

theorem Follows.ofExcept {x : Except ε α} {f : α → Dialogue Q A ε β} {onReturn : β → σ → Prop}
    {otherwise : σ → Prop} (herror : otherwise p)
    (hf : ∀ a, x = .ok a → Follows Step p (f a) (Reaching onReturn otherwise)) :
    Follows Step p (ofExcept x >>= f) (Reaching onReturn otherwise) := by
  cases x with
  | error e => exact .threw herror
  | ok a => exact hf a rfl

theorem Follows.mapError {ε' : Type} {f : ε → ε'} {final : Ending ε' α → σ → Prop}
    (h : Follows Step p d reaches) (hf : ∀ e q, reaches e q → final (e.mapError f) q) :
    Follows Step p (d.mapError f) final := by
  refine ensures_mapError.mpr (Ensures.mono h fun t e he => ?_)
  obtain ⟨q, hq, he⟩ := he
  exact ⟨q, hq, hf e q he⟩

/-- The invariant of a loop relates its state and the state of the protocol after so many
rounds, and what is to be reached follows wherever a round ends the loop. -/
theorem Follows.iterate {τ : Type} {body : τ → Dialogue Q A ε (τ ⊕ α)} (inv : ℕ → τ → σ → Prop)
    (hbody : ∀ k s q, inv k s q → Follows Step q (body s) fun e r =>
      e.continue (fun a => a.elim (inv (k + 1) · r) fun a => reaches (.returned a) r)
        fun e' => reaches e' r) {n : ℕ}
    (hpending : ∀ s q, inv n s q → reaches .pending q) {s : τ} (h0 : inv 0 s p) :
    Follows Step p (Dialogue.iterate body n s) reaches := by
  have hn : ∀ m k s p, k + m = n → inv k s p →
      Follows Step p (Dialogue.iterate body m s) reaches := by
    intro m
    induction m with
    | zero =>
      rintro k s p rfl h
      exact ensures_pending.mpr ⟨p, .nil, hpending s p h⟩
    | succ m ih =>
      intro k s p hk h
      refine Follows.bind (hbody k s p h) fun e q he => ?_
      cases e with
      | returned r =>
        cases r with
        | inl s' => exact ih (k + 1) s' q (by omega) he
        | inr a => exact .returned he
      | threw e => exact he
      | pending => exact he
  exact hn n 0 s p (Nat.zero_add n) h0

theorem Follows.of_only {P : Exchange A → Prop} (h : Only P d) (hP : ∀ x, P x → Step p x p)
    (hr : ∀ e, reaches e p) : Follows Step p d reaches :=
  Ensures.mono h fun _ e ht => ⟨p, .of_forall fun x hx => hP x (ht x hx), hr e⟩

end Follows

end Protocol

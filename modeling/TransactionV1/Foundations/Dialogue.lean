import Mathlib.Data.List.Basic

/-! # Dialogues with an environment

A program that asks its environment one question after another and goes on with the
answers, which may be any. A conversation is one such run: the questions with their
answers, and how the program ended. A postcondition that holds of every conversation
is reached through one rule for each way a program is put together, a loop with an
invariant of the conversation so far.
-/

/-- A program that asks questions. It returns, throws, is still going on after the
rounds it was given, or asks a question and goes on with the answer. -/
inductive Dialogue (Q : Type) (A : Q → Type) (ε α : Type) : Type where
  | returned (a : α)
  | threw (e : ε)
  | pending
  | ask (q : Q) (next : A q → Dialogue Q A ε α)

namespace Dialogue

variable {ε α : Type}

inductive Ending (ε α : Type) where
  | returned (a : α)
  | threw (e : ε)
  | pending
  deriving DecidableEq

def Ending.ofExcept : Except ε α → Ending ε α
  | .ok a => .returned a
  | .error e => .threw e

abbrev Exchange {Q : Type} (A : Q → Type) := (q : Q) × A q

variable {Q : Type} {A : Q → Type} {β : Type}

def bind (d : Dialogue Q A ε α) (f : α → Dialogue Q A ε β) : Dialogue Q A ε β :=
  match d with
  | returned a => f a
  | threw e => threw e
  | pending => pending
  | ask q next => ask q fun answer => (next answer).bind f

instance : Monad (Dialogue Q A ε) where
  pure := returned
  bind := bind

def query (q : Q) : Dialogue Q A ε (A q) := ask q returned

def ofExcept : Except ε α → Dialogue Q A ε α
  | .ok a => returned a
  | .error e => threw e

section Attempts

variable {V : Q → Type}

def attempt (q : Q) : Dialogue Q (fun q => Except ε (V q)) ε (V q) := query q >>= ofExcept

/-- Ask two questions that may fail, and throw a failure when both are answered. -/
def attemptBoth (q r : Q) : Dialogue Q (fun q => Except ε (V q)) ε (V q × V r) := do
  let a ← query q
  let b ← query r
  ofExcept (do return (← a, ← b))

end Attempts

def mapError {ε' : Type} (f : ε → ε') : Dialogue Q A ε α → Dialogue Q A ε' α
  | returned a => returned a
  | threw e => threw (f e)
  | pending => pending
  | ask q next => ask q fun answer => (next answer).mapError f

/-- Repeat a body on a state until it returns a value, for so many rounds at most. -/
def iterate {σ : Type} (body : σ → Dialogue Q A ε (σ ⊕ α)) : ℕ → σ → Dialogue Q A ε α
  | 0, _ => pending
  | n + 1, s => (body s).bind fun
    | .inl s' => iterate body n s'
    | .inr a => returned a

def loop (body : Dialogue Q A ε (Option α)) (n : ℕ) : Dialogue Q A ε α :=
  iterate (fun _ : Unit => body.bind fun r => returned (r.elim (.inl ()) .inr)) n ()

/-- The questions and answers of a run of a dialogue, and how it ends. -/
inductive Conversation : Dialogue Q A ε α → List (Exchange A) → Ending ε α → Prop where
  | returned (a : α) : Conversation (.returned a) [] (.returned a)
  | threw (e : ε) : Conversation (.threw e) [] (.threw e)
  | pending : Conversation .pending [] .pending
  | ask {q : Q} {next : A q → Dialogue Q A ε α} {answer : A q} {t : List (Exchange A)}
      {e : Ending ε α} : Conversation (next answer) t e →
      Conversation (.ask q next) (⟨q, answer⟩ :: t) e

/-- The conversation with an environment that answers by what was said before. -/
def run (answer : List (Exchange A) → (q : Q) → A q) (past : List (Exchange A)) :
    Dialogue Q A ε α → List (Exchange A) × Ending ε α
  | .returned a => ([], .returned a)
  | .threw e => ([], .threw e)
  | .pending => ([], .pending)
  | .ask q next =>
    let exchange : Exchange A := ⟨q, answer past q⟩
    let rest := run answer (past ++ [exchange]) (next (answer past q))
    (exchange :: rest.1, rest.2)

/-- Every conversation ends as the postcondition says. -/
def Ensures (d : Dialogue Q A ε α) (post : List (Exchange A) → Ending ε α → Prop) : Prop :=
  ∀ t e, Conversation d t e → post t e

def Ending.mapError {ε' : Type} (f : ε → ε') : Ending ε α → Ending ε' α
  | .returned a => .returned a
  | .threw e => .threw (f e)
  | .pending => .pending

/-- What is left to show of a dialogue that goes on with a value. -/
def Ending.continue (e : Ending ε α) (onValue : α → Prop) (post : Ending ε β → Prop) : Prop :=
  match e with
  | .returned a => onValue a
  | .threw e => post (.threw e)
  | .pending => post .pending

section Rules

variable {post post' : List (Exchange A) → Ending ε α → Prop}

theorem Ensures.mono {d : Dialogue Q A ε α} (h : Ensures d post)
    (hp : ∀ t e, post t e → post' t e) : Ensures d post' := fun t e hc => hp t e (h t e hc)

theorem Ensures.and {d : Dialogue Q A ε α} (h : Ensures d post) (h' : Ensures d post') :
    Ensures d fun t e => post t e ∧ post' t e := fun t e hc => ⟨h t e hc, h' t e hc⟩

@[simp] theorem ensures_returned {a : α} :
    Ensures (returned a : Dialogue Q A ε α) post ↔ post [] (.returned a) := by
  constructor
  · exact fun h => h _ _ (.returned a)
  · rintro h _ _ ⟨⟩
    exact h

@[simp] theorem ensures_pure {a : α} :
    Ensures (pure a : Dialogue Q A ε α) post ↔ post [] (.returned a) := ensures_returned

@[simp] theorem ensures_threw {e : ε} :
    Ensures (threw e : Dialogue Q A ε α) post ↔ post [] (.threw e) := by
  constructor
  · exact fun h => h _ _ (.threw e)
  · rintro h _ _ ⟨⟩
    exact h

@[simp] theorem ensures_pending :
    Ensures (pending : Dialogue Q A ε α) post ↔ post [] .pending := by
  constructor
  · exact fun h => h _ _ .pending
  · rintro h _ _ ⟨⟩
    exact h

@[simp] theorem ensures_ask {q : Q} {next : A q → Dialogue Q A ε α} :
    Ensures (ask q next) post ↔
      ∀ answer, Ensures (next answer) fun t e => post (⟨q, answer⟩ :: t) e := by
  constructor
  · exact fun h answer t e hc => h _ _ (.ask hc)
  · intro h t e hc
    cases hc with
    | ask hc => exact h _ _ _ hc

@[simp] theorem ensures_query {q : Q} {post : List (Exchange A) → Ending ε (A q) → Prop} :
    Ensures (query q : Dialogue Q A ε (A q)) post ↔
      ∀ answer, post [⟨q, answer⟩] (.returned answer) := by
  simp [query]

/-- A sequence ensures what its second part ensures after each return of the first. -/
theorem ensures_bind {d : Dialogue Q A ε α} {f : α → Dialogue Q A ε β}
    {post : List (Exchange A) → Ending ε β → Prop} :
    Ensures (d.bind f) post ↔ Ensures d fun t e =>
      e.continue (fun a => Ensures (f a) fun t' e' => post (t ++ t') e') (post t) := by
  induction d generalizing post with
  | returned a =>
    rw [bind, ensures_returned]
    rfl
  | threw e =>
    rw [bind, ensures_threw, ensures_threw]
    rfl
  | pending =>
    rw [bind, ensures_pending, ensures_pending]
    rfl
  | ask q next ih =>
    rw [bind, ensures_ask, ensures_ask]
    exact forall_congr' fun answer => ih answer

@[simp] theorem ensures_monad_bind {d : Dialogue Q A ε α} {f : α → Dialogue Q A ε β}
    {post : List (Exchange A) → Ending ε β → Prop} :
    Ensures (d >>= f) post ↔ Ensures d fun t e =>
      e.continue (fun a => Ensures (f a) fun t' e' => post (t ++ t') e') (post t) := ensures_bind

@[simp] theorem ensures_ofExcept {x : Except ε α} :
    Ensures (ofExcept x : Dialogue Q A ε α) post ↔ post [] (Ending.ofExcept x) := by
  cases x with
  | ok a => exact ensures_returned
  | error e => exact ensures_threw

@[simp] theorem ensures_mapError {ε' : Type} {f : ε → ε'} {d : Dialogue Q A ε α}
    {post : List (Exchange A) → Ending ε' α → Prop} :
    Ensures (d.mapError f) post ↔ Ensures d fun t e => post t (e.mapError f) := by
  induction d generalizing post with
  | returned a =>
    rw [mapError, ensures_returned, ensures_returned]
    rfl
  | threw e =>
    rw [mapError, ensures_threw, ensures_threw]
    rfl
  | pending =>
    rw [mapError, ensures_pending, ensures_pending]
    rfl
  | ask q next ih =>
    rw [mapError, ensures_ask, ensures_ask]
    exact forall_congr' fun answer => ih answer

/-! Programs that only have exchanges of some kind. -/

def Only (P : Exchange A → Prop) (d : Dialogue Q A ε α) : Prop :=
  Ensures d fun t _ => ∀ x ∈ t, P x

section Only

variable {P : Exchange A → Prop}

theorem Only.pure (a : α) : Only P (pure a : Dialogue Q A ε α) :=
  ensures_pure.mpr (List.forall_mem_nil P)

theorem Only.threw (e : ε) : Only P (Dialogue.threw e : Dialogue Q A ε α) :=
  ensures_threw.mpr (List.forall_mem_nil P)

theorem Only.query {q : Q} (h : ∀ answer, P ⟨q, answer⟩) :
    Only P (Dialogue.query q : Dialogue Q A ε (A q)) :=
  ensures_query.mpr fun answer => List.forall_mem_singleton.mpr (h answer)

theorem Only.bind {d : Dialogue Q A ε α} {f : α → Dialogue Q A ε β} (h : Only P d)
    (hf : ∀ a, Only P (f a)) : Only P (d >>= f) := by
  refine ensures_monad_bind.mpr (Ensures.mono h fun t e ht => ?_)
  cases e with
  | returned a => exact Ensures.mono (hf a) fun t' _ ht' => List.forall_mem_append.mpr ⟨ht, ht'⟩
  | threw e => exact ht
  | pending => exact ht

theorem Only.ofExcept (x : Except ε α) : Only P (Dialogue.ofExcept x : Dialogue Q A ε α) :=
  ensures_ofExcept.mpr (List.forall_mem_nil P)

section Attempts

variable {V : Q → Type} {P : Exchange (fun q => Except ε (V q)) → Prop} {q r : Q}

theorem Only.attempt (h : ∀ answer, P ⟨q, answer⟩) : Only P (Dialogue.attempt q) :=
  .bind (.query h) .ofExcept

theorem Only.attemptBoth (hq : ∀ answer, P ⟨q, answer⟩) (hr : ∀ answer, P ⟨r, answer⟩) :
    Only P (Dialogue.attemptBoth q r) :=
  .bind (.query hq) fun _ => .bind (.query hr) fun _ => .ofExcept _

end Attempts

end Only

section Returns

variable {P : α → List (Exchange A) → Prop} {R : β → List (Exchange A) → Prop}
  {d : Dialogue Q A ε α} {f : α → Dialogue Q A ε β}

/-- The conversations that return have the property of the value. -/
def Returning (P : α → List (Exchange A) → Prop) (d : Dialogue Q A ε α) : Prop :=
  Ensures d fun t e => ∀ a, e = .returned a → P a t

theorem Returning.bind (h : Returning P d)
    (hf : ∀ a t, P a t → Returning (fun b t' => R b (t ++ t')) (f a)) :
    Returning R (d >>= f) := by
  refine ensures_monad_bind.mpr (Ensures.mono h fun t e ht => ?_)
  cases e with
  | returned a => exact hf a t (ht a rfl)
  | threw e => exact fun _ he => nomatch he
  | pending => exact fun _ he => nomatch he

theorem Returning.right (hR : ∀ b t t', R b t' → R b (t ++ t')) (hf : ∀ a, Returning R (f a)) :
    Returning R (d >>= f) := by
  have hd : Returning (fun _ _ => True) d := fun _ _ _ _ _ => trivial
  exact hd.bind fun a t _ => Ensures.mono (hf a) fun t' e ht b hb => hR b t t' (ht b hb)

theorem Returning.after {value : β → Prop} (hf : ∀ a, Returning (fun b _ => value b) (f a)) :
    Returning (fun b _ => value b) (d >>= f) :=
  .right (fun _ _ _ hb => hb) hf

theorem Returning.threw {e : ε} : Returning P (Dialogue.threw e : Dialogue Q A ε α) :=
  ensures_threw.mpr fun _ he => nomatch he

theorem Returning.returned {a : α} (h : P a []) :
    Returning P (Dialogue.returned a : Dialogue Q A ε α) := by
  refine ensures_returned.mpr ?_
  rintro b ⟨⟩
  exact h

theorem Returning.ofExcept {x : Except ε α} (hf : ∀ a, x = .ok a → Returning R (f a)) :
    Returning R (ofExcept x >>= f) := by
  cases x with
  | error e => exact Returning.threw
  | ok a => exact hf a rfl

theorem Returning.of_forall (h : ∀ a t, P a t) : Returning P d := fun t _ _ a _ => h a t

theorem Returning.of_never (h : Returning (fun _ _ => False) d) : Returning P d :=
  Ensures.mono h fun _ _ ht a ha => (ht a ha).elim

section Attempts

variable {V : Q → Type} {q r : Q}

theorem Returning.attempt :
    Returning (fun a t => t = [⟨q, .ok a⟩])
      (Dialogue.attempt q : Dialogue Q (fun q => Except ε (V q)) ε (V q)) := by
  refine ensures_monad_bind.mpr (ensures_query.mpr ?_)
  rintro (e | a)
  · exact Returning.threw
  · exact Returning.returned rfl

theorem Returning.attemptBoth :
    Returning (fun a t => t = [⟨q, .ok a.1⟩, ⟨r, .ok a.2⟩])
      (Dialogue.attemptBoth q r : Dialogue Q (fun q => Except ε (V q)) ε (V q × V r)) := by
  refine ensures_monad_bind.mpr (ensures_query.mpr fun x => ?_)
  refine ensures_monad_bind.mpr (ensures_query.mpr fun y => ?_)
  refine ensures_ofExcept.mpr ?_
  rintro ⟨a, b⟩ h
  cases x with
  | error e => cases h
  | ok a' =>
    cases y with
    | error e => cases h
    | ok b' =>
      cases h
      rfl

end Attempts

end Returns

/-- The invariant of a loop holds of the state and of the conversation before every
round, and what is to be shown follows wherever a round ends the loop. -/
theorem Ensures.iterate {σ : Type} {body : σ → Dialogue Q A ε (σ ⊕ α)}
    (inv : σ → List (Exchange A) → Prop)
    (hbody : ∀ s before, inv s before → Ensures (body s) fun t e =>
      e.continue (fun r => r.elim (inv · (before ++ t)) fun a => post (before ++ t) (.returned a))
        (post (before ++ t)))
    (hpending : ∀ s t, inv s t → post t .pending) {s : σ} (h0 : inv s []) (n : ℕ) :
    Ensures (Dialogue.iterate body n s) post := by
  have hn : ∀ s before, inv s before →
      Ensures (Dialogue.iterate body n s) fun t e => post (before ++ t) e := by
    induction n with
    | zero =>
      intro s before hb
      rw [Dialogue.iterate, ensures_pending, List.append_nil]
      exact hpending s before hb
    | succ n ih =>
      intro s before hb
      rw [Dialogue.iterate, ensures_bind]
      refine (hbody s before hb).mono fun t e he => ?_
      cases e with
      | returned r =>
        cases r with
        | inl s' =>
          have hi := ih s' (before ++ t) he
          simp only [List.append_assoc] at hi
          exact hi
        | inr a =>
          refine ensures_returned.mpr ?_
          rw [List.append_nil]
          exact he
      | threw e => exact he
      | pending => exact he
  exact hn s [] h0

theorem Ensures.loop {body : Dialogue Q A ε (Option α)} (inv : List (Exchange A) → Prop)
    (hbody : ∀ before, inv before → Ensures body fun t e =>
      e.continue (fun r => r.elim (inv (before ++ t)) fun a => post (before ++ t) (.returned a))
        (post (before ++ t)))
    (hpending : ∀ t, inv t → post t .pending) (h0 : inv []) (n : ℕ) :
    Ensures (Dialogue.loop body n) post := by
  refine Ensures.iterate (fun _ => inv) (fun _ before hb => ?_) (fun _ => hpending) h0 n
  refine ensures_bind.mpr ((hbody before hb).mono fun t e he => ?_)
  cases e with
  | returned r =>
    refine ensures_returned.mpr ?_
    rw [List.append_nil]
    cases r with
    | none => exact he
    | some a => exact he
  | threw e => exact he
  | pending => exact he

end Rules

end Dialogue

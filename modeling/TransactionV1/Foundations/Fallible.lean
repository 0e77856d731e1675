import Mathlib.Data.List.Basic

/-! # Loops that may fail

A loop over a list whose body may fail ends with the first failure. When the
body fails on the elements of some kind only, whatever state it is in, the loop
succeeds exactly on lists without them, and then computes a plain fold. The fold
may run on states of another type, through a view of them.
-/

namespace Fallible

universe u v w x

variable {σ α β : Type u} {ε : Type v} {γ : Type w} {τ : Type x}

@[simp] theorem ok_bind (a : α) (f : α → Except ε β) : (Except.ok a >>= f) = f a := rfl

@[simp] theorem error_bind (e : ε) (f : α → Except ε β) :
    ((Except.error e : Except ε α) >>= f) = .error e := rfl

@[simp] theorem pure_eq_ok (a : α) : (pure a : Except ε α) = .ok a := rfl

theorem bind_eq_ok_iff {x : Except ε α} {f : α → Except ε β} {b : β} :
    (x >>= f) = .ok b ↔ ∃ a, x = .ok a ∧ f a = .ok b := by
  cases x with
  | ok a => simp
  | error e => simp

def Succeeds (x : Except ε α) : Prop := ∃ a, x = .ok a

@[simp] theorem succeeds_ok (a : α) : Succeeds (.ok a : Except ε α) := ⟨a, rfl⟩

@[simp] theorem not_succeeds_error (e : ε) : ¬ Succeeds (.error e : Except ε α) := by
  rintro ⟨a, h⟩
  cases h

theorem not_succeeds_iff {x : Except ε α} : ¬ Succeeds x ↔ ∃ e, x = .error e := by
  cases x with
  | ok a => simp
  | error e => simp

theorem succeeds_map_iff {f : α → β} {x : Except ε α} : Succeeds (x.map f) ↔ Succeeds x := by
  cases x with
  | ok a => simp [Except.map]
  | error e => simp [Except.map]

theorem Succeeds.bind {x : Except ε α} {f : α → Except ε β} (hx : Succeeds x)
    (hf : ∀ a, Succeeds (f a)) : Succeeds (x >>= f) := by
  obtain ⟨a, rfl⟩ := hx
  exact hf a

theorem succeeds_foldlM {body : σ → γ → Except ε σ} (h : ∀ s a, Succeeds (body s a))
    (xs : List γ) (s : σ) : Succeeds (xs.foldlM body s) := by
  induction xs generalizing s with
  | nil => exact succeeds_ok s
  | cons a xs ih => rw [List.foldlM_cons]; exact (h s a).bind ih

/-- The value a computation returns, or the given one when it fails. -/
def valueD (d : α) : Except ε α → α
  | .ok a => a
  | .error _ => d

@[simp] theorem valueD_ok (d a : α) : valueD d (.ok a : Except ε α) = a := rfl

theorem Succeeds.eq_ok_valueD {x : Except ε α} (h : Succeeds x) (d : α) : x = .ok (valueD d x) := by
  obtain ⟨a, rfl⟩ := h
  rfl

/-- The body of a loop succeeds on the elements that satisfy `fine`, in any
state that is viewed, and there it updates the viewed state by `update`. -/
structure Body (view : τ → σ) (body : σ → γ → Except ε σ) (update : τ → γ → τ)
    (fine : γ → Prop) : Prop where
  of_fine : ∀ t a, fine a → body (view t) a = .ok (view (update t a))
  of_not_fine : ∀ t a, ¬ fine a → ∃ e, body (view t) a = .error e

namespace Body

variable {view : τ → σ} {body : σ → γ → Except ε σ} {update : τ → γ → τ} {fine : γ → Prop}

theorem foldlM_eq (h : Body view body update fine) {xs : List γ} (hx : ∀ a ∈ xs, fine a) (t : τ) :
    xs.foldlM body (view t) = .ok (view (xs.foldl update t)) := by
  induction xs generalizing t with
  | nil => rfl
  | cons a xs ih =>
    rw [List.foldlM_cons, h.of_fine t a (hx a List.mem_cons_self), ok_bind,
      ih (fun b hb => hx b (List.mem_cons_of_mem _ hb)), List.foldl_cons]

theorem foldlM_error (h : Body view body update fine) {xs : List γ} (hx : ∃ a ∈ xs, ¬ fine a)
    (t : τ) : ∃ e, xs.foldlM body (view t) = .error e := by
  induction xs generalizing t with
  | nil => simp at hx
  | cons a xs ih =>
    by_cases ha : fine a
    · rw [List.foldlM_cons, h.of_fine t a ha, ok_bind]
      exact ih (by simpa [ha] using hx) (update t a)
    · obtain ⟨e, he⟩ := h.of_not_fine t a ha
      exact ⟨e, by rw [List.foldlM_cons, he, error_bind]⟩

end Body

theorem foldlM_of_ok (view : τ → σ) {body : σ → γ → Except ε σ} {update : τ → γ → τ}
    (h : ∀ t a, body (view t) a = .ok (view (update t a))) (xs : List γ) (t : τ) :
    xs.foldlM body (view t) = .ok (view (xs.foldl update t)) := by
  have hb : Body view body update fun _ => True :=
    ⟨fun t a _ => h t a, fun _ _ hn => absurd trivial hn⟩
  exact hb.foldlM_eq (fun _ _ => trivial) t

end Fallible

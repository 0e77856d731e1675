import Mathlib.Data.List.Basic

/-! # Labelled lines

A text lists fields, each behind a label of its own and apart from the next by a
separator. Fields that do not hold the separator are determined by the text,
whatever the labels hold.
-/

namespace Labelled

variable {α : Type*} {sep : α}

theorem append_cons_inj {xs xs' ys ys' : List α} (h : sep ∉ xs) (h' : sep ∉ xs')
    (he : xs ++ sep :: ys = xs' ++ sep :: ys') : xs = xs' ∧ ys = ys' := by
  induction xs generalizing xs' with
  | nil =>
    cases xs' with
    | nil => exact ⟨rfl, List.tail_eq_of_cons_eq he⟩
    | cons x xs' => exact absurd (List.head_eq_of_cons_eq he ▸ List.mem_cons_self) h'
  | cons x xs ih =>
    cases xs' with
    | nil => exact absurd (List.head_eq_of_cons_eq he ▸ List.mem_cons_self) h
    | cons x' xs' =>
      obtain ⟨rfl, ht⟩ := List.cons_eq_cons.mp he
      obtain ⟨rfl, hy⟩ := ih (List.not_mem_of_not_mem_cons h) (List.not_mem_of_not_mem_cons h') ht
      exact ⟨rfl, hy⟩

theorem intercalate_zipWith_inj {labels fields fields' : List (List α)}
    (hl : fields.length = labels.length) (hl' : fields'.length = labels.length)
    (h : ∀ field ∈ fields, sep ∉ field) (h' : ∀ field ∈ fields', sep ∉ field)
    (he : [sep].intercalate (List.zipWith (· ++ ·) labels fields) =
      [sep].intercalate (List.zipWith (· ++ ·) labels fields')) : fields = fields' := by
  induction labels generalizing fields fields' with
  | nil => rw [List.length_eq_zero_iff.mp hl, List.length_eq_zero_iff.mp hl']
  | cons label labels ih =>
    obtain ⟨field, fields, rfl⟩ := List.exists_cons_of_length_eq_add_one hl
    obtain ⟨field', fields', rfl⟩ := List.exists_cons_of_length_eq_add_one hl'
    rw [List.length_cons, List.length_cons, Nat.add_right_cancel_iff] at hl hl'
    cases labels with
    | nil =>
      rw [List.length_eq_zero_iff.mp hl, List.length_eq_zero_iff.mp hl'] at he ⊢
      have hf : field = field' := by simpa using he
      rw [hf]
    | cons next labels =>
      obtain ⟨g, gs, rfl⟩ := List.exists_cons_of_length_eq_add_one hl
      obtain ⟨g', gs', rfl⟩ := List.exists_cons_of_length_eq_add_one hl'
      simp only [List.zipWith_cons_cons, List.intercalate_cons_cons, List.append_assoc,
        List.singleton_append, List.append_cancel_left_eq] at he
      obtain ⟨rfl, hrest⟩ := append_cons_inj (h field List.mem_cons_self)
        (h' field' List.mem_cons_self) he
      rw [ih hl hl' (fun f hf => h f (List.mem_cons_of_mem _ hf))
        (fun f hf => h' f (List.mem_cons_of_mem _ hf)) hrest]

end Labelled

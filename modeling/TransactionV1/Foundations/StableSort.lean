import Mathlib.Data.List.Basic
import Mathlib.Data.Bool.Basic

/-! # Stable sorts

The place of a new first element in a stable sort, and sorts by a class first and by an
order second: the classes are sorted apart and put one after the other.
-/

namespace StableSort

variable {α : Type*}

/-- A list splits in one way only into elements that fail a predicate and elements
that satisfy it. -/
theorem append_inj_of_forall {q : α → Prop} {l₁ l₂ m₁ m₂ : List α} (h : l₁ ++ l₂ = m₁ ++ m₂)
    (hl₁ : ∀ a ∈ l₁, ¬ q a) (hl₂ : ∀ a ∈ l₂, q a) (hm₁ : ∀ a ∈ m₁, ¬ q a)
    (hm₂ : ∀ a ∈ m₂, q a) : l₁ = m₁ ∧ l₂ = m₂ := by
  induction l₁ generalizing m₁ with
  | nil =>
    cases m₁ with
    | nil => exact ⟨rfl, h⟩
    | cons a m₁ =>
      rw [List.nil_append] at h
      subst h
      exact absurd (hl₂ a List.mem_cons_self) (hm₁ a List.mem_cons_self)
  | cons b l₁ ih =>
    cases m₁ with
    | nil =>
      rw [List.nil_append] at h
      subst h
      exact absurd (hm₂ b List.mem_cons_self) (hl₁ b List.mem_cons_self)
    | cons a m₁ =>
      rw [List.cons_append, List.cons_append, List.cons.injEq] at h
      obtain ⟨rfl, h⟩ := h
      obtain ⟨rfl, rfl⟩ := ih h (List.forall_mem_cons.mp hl₁).2 (List.forall_mem_cons.mp hm₁).2
      exact ⟨rfl, rfl⟩

section Splitting

variable {le : α → α → Bool} (trans : ∀ a b c, le a b → le b c → le a c)
  (total : ∀ a b, le a b || le b a)
include trans total

/-- A new first element splits the sorted list into what comes strictly before it and
what it comes before. -/
theorem exists_split (a : α) (l : List α) : ∃ l₁ l₂, l.mergeSort le = l₁ ++ l₂ ∧
    (a :: l).mergeSort le = l₁ ++ a :: l₂ ∧ (∀ b ∈ l₁, ¬ le a b) ∧ ∀ b ∈ l₂, le a b := by
  obtain ⟨l₁, l₂, hcons, hsort, hl₁⟩ := List.mergeSort_cons trans total a l
  have hp := List.pairwise_mergeSort trans total (a :: l)
  rw [hcons, List.pairwise_append, List.pairwise_cons] at hp
  exact ⟨l₁, l₂, hsort, hcons, fun b hb => by simpa using hl₁ b hb, hp.2.1.1⟩

theorem mergeSort_cons_of_split {a : α} {l l₁ l₂ : List α} (h : l.mergeSort le = l₁ ++ l₂)
    (h₁ : ∀ b ∈ l₁, ¬ le a b) (h₂ : ∀ b ∈ l₂, le a b) :
    (a :: l).mergeSort le = l₁ ++ a :: l₂ := by
  obtain ⟨m₁, m₂, hsort, hcons, hm₁, hm₂⟩ := exists_split trans total a l
  obtain ⟨rfl, rfl⟩ := append_inj_of_forall (h.symm.trans hsort) h₁ h₂ hm₁ hm₂
  exact hcons

/-- A list in order, with the elements of another, in which elements already in order
keep their order. -/
structure IsStableSort (le : α → α → Bool) (l sorted : List α) : Prop where
  perm : sorted.Perm l
  pairwise : sorted.Pairwise (le · ·)
  stable : ∀ l' : List α, l'.Pairwise (le · ·) → l'.Sublist l → l'.Sublist sorted

theorem isStableSort_mergeSort (l : List α) : IsStableSort le l (l.mergeSort le) where
  perm := List.mergeSort_perm l le
  pairwise := List.pairwise_mergeSort trans total l
  stable _ hp hs := List.sublist_mergeSort trans total hp hs

end Splitting

section Classes

/-- Compare by a class, the elements in it first, and within a class by an order. -/
def byClass (p : α → Bool) (le : α → α → Bool) (a b : α) : Bool :=
  if p a = p b then le a b else p a

variable {p : α → Bool} {le : α → α → Bool}

theorem byClass_trans (trans : ∀ a b c, le a b → le b c → le a c) (a b c : α)
    (hab : byClass p le a b) (hbc : byClass p le b c) : byClass p le a c := by
  unfold byClass at *
  cases ha : p a <;> cases hb : p b <;> cases hc : p c <;> simp_all
  · exact trans a b c hab hbc
  · exact trans a b c hab hbc

theorem byClass_total (total : ∀ a b, le a b || le b a) (a b : α) :
    byClass p le a b || byClass p le b a := by
  have h := total a b
  unfold byClass
  cases ha : p a <;> cases hb : p b <;> simp_all

/-- Sorted by class first, the elements of the class come first, sorted, and then the
others, sorted. -/
theorem mergeSort_byClass (trans : ∀ a b c, le a b → le b c → le a c)
    (total : ∀ a b, le a b || le b a) (l : List α) :
    l.mergeSort (byClass p le) =
      (l.filter p).mergeSort le ++ (l.filter (! p ·)).mergeSort le := by
  induction l with
  | nil => simp
  | cons a l ih =>
    have hin : ∀ b ∈ (l.filter p).mergeSort le, p b = true := fun b hb =>
      (List.mem_filter.mp (List.mem_mergeSort.mp hb)).2
    have hout : ∀ b ∈ (l.filter (! p ·)).mergeSort le, p b = false := fun b hb => by
      simpa using (List.mem_filter.mp (List.mem_mergeSort.mp hb)).2
    cases ha : p a with
    | true =>
      obtain ⟨l₁, l₂, hsort, hcons, h₁, h₂⟩ := exists_split trans total a (l.filter p)
      rw [hsort] at ih hin
      rw [List.append_assoc] at ih
      rw [List.filter_cons_of_pos ha, List.filter_cons_of_neg (by simp [ha]), hcons,
        List.append_assoc]
      refine mergeSort_cons_of_split (byClass_trans trans) (byClass_total total) ih ?_ ?_
      · intro b hb
        simpa [byClass, ha, hin b (List.mem_append_left l₂ hb)] using h₁ b hb
      · intro b hb
        rcases List.mem_append.mp hb with hb | hb
        · simpa [byClass, ha, hin b (List.mem_append_right l₁ hb)] using h₂ b hb
        · simp [byClass, ha, hout b hb]
    | false =>
      obtain ⟨l₁, l₂, hsort, hcons, h₁, h₂⟩ := exists_split trans total a (l.filter (! p ·))
      rw [hsort] at ih hout
      rw [← List.append_assoc] at ih
      rw [List.filter_cons_of_neg (by simp [ha]), List.filter_cons_of_pos (by simp [ha]), hcons,
        ← List.append_assoc]
      refine mergeSort_cons_of_split (byClass_trans trans) (byClass_total total) ih ?_ ?_
      · intro b hb
        rcases List.mem_append.mp hb with hb | hb
        · simp [byClass, ha, hin b hb]
        · simpa [byClass, ha, hout b (List.mem_append_left l₂ hb)] using h₁ b hb
      · intro b hb
        simpa [byClass, ha, hout b (List.mem_append_right l₁ hb)] using h₂ b hb

end Classes

end StableSort

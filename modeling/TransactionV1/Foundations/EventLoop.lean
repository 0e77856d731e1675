import Mathlib.Data.List.Basic
import Mathlib.Data.List.TakeDrop

/-! # Event loops with a stop rule

A loop reads events from a stream; after each one its body continues, stops or
fails. A limit on the events of interest asks the loop to stop right after the
one that reaches it, and to keep reading when there is no limit or it has not
been reached. A body that counts those events and compares the count with the
limit obeys it exactly when it can handle every event up to the stop.
-/

namespace EventLoop

variable {σ α ε : Type*}

/-- What the body of a loop decides after one event. -/
inductive Verdict (σ : Type*) where
  | next (s : σ)
  | stop (s : σ)

/-- Where a loop is once the events received so far are read. A loop that has
ended records how many events it read. -/
inductive Outcome (σ ε : Type*) where
  | reading (s : σ)
  | stopped (read : ℕ) (s : σ)
  | failed (read : ℕ) (e : ε)

def Outcome.later : Outcome σ ε → Outcome σ ε
  | .reading s => .reading s
  | .stopped n s => .stopped (n + 1) s
  | .failed n e => .failed (n + 1) e

/-- Feed the received events to the body of a loop. -/
def run (body : σ → α → Except ε (Verdict σ)) (s : σ) : List α → Outcome σ ε
  | [] => .reading s
  | a :: as =>
    match body s a with
    | .ok (.next s') => (run body s' as).later
    | .ok (.stop s') => .stopped 1 s'
    | .error e => .failed 1 e

def afterVerdict (read : ℕ) : Except ε (Verdict σ) → Outcome σ ε
  | .ok (.next s) => .reading s
  | .ok (.stop s) => .stopped read s
  | .error e => .failed read e

theorem run_concat {body : σ → α → Except ε (Verdict σ)} {s s' : σ} {as : List α}
    (h : run body s as = .reading s') (a : α) :
    run body s (as ++ [a]) = afterVerdict (as.length + 1) (body s' a) := by
  induction as generalizing s with
  | nil =>
    obtain rfl := Outcome.reading.inj h
    rw [List.nil_append, run]
    rcases body s a with e | (s' | s') <;> rfl
  | cons b as ih =>
    rw [run] at h
    rw [List.cons_append, run]
    rcases hb : body s b with e | (t | t)
    · rw [hb] at h
      cases h
    · rw [hb] at h
      simp only at h ⊢
      cases ht : run body t as with
      | reading u =>
        rw [ht] at h
        obtain rfl := Outcome.reading.inj h
        rw [ih ht]
        rcases body u a with e | (v | v) <;> rfl
      | stopped k u =>
        rw [ht] at h
        cases h
      | failed k e =>
        rw [ht] at h
        cases h
    · rw [hb] at h
      cases h

section Window

variable (hit : α → Bool)

/-- The events up to the one that brings the number of hits to the limit, or
all of them when there is no such event or the limit is zero. -/
def window : ℕ → List α → List α
  | _, [] => []
  | n, a :: as =>
    if hit a then if n = 1 then [a] else a :: window (n - 1) as
    else a :: window n as

/-- The first so many events are the shortest run of events with that many hits. -/
structure IsNth (n : ℕ) (as : List α) (k : ℕ) : Prop where
  le_length : k ≤ as.length
  countP_take : (as.take k).countP hit = n
  countP_lt : ∀ j < k, (as.take j).countP hit < n

variable {hit}

theorem window_zero (as : List α) : window hit 0 as = as := by
  induction as with
  | nil => rfl
  | cons a as ih => by_cases ha : hit a <;> simp [window, ha, ih]

theorem window_of_countP_lt {n : ℕ} {as : List α} (h : as.countP hit < n) :
    window hit n as = as := by
  induction as generalizing n with
  | nil => rfl
  | cons a as ih =>
    by_cases ha : hit a
    · rw [List.countP_cons_of_pos ha] at h
      rw [window, if_pos ha, if_neg (by omega), ih (by omega)]
    · rw [List.countP_cons_of_neg ha] at h
      rw [window, if_neg ha, ih h]

theorem window_isPrefixOf (n : ℕ) (as : List α) : window hit n as <+: as := by
  induction as generalizing n with
  | nil => exact List.prefix_rfl
  | cons a as ih =>
    rw [window]
    split_ifs
    · exact List.prefix_append [a] as
    · exact List.cons_prefix_cons.mpr ⟨rfl, ih _⟩
    · exact List.cons_prefix_cons.mpr ⟨rfl, ih _⟩

theorem take_length_window (n : ℕ) (as : List α) :
    as.take (window hit n as).length = window hit n as :=
  (List.prefix_iff_eq_take.mp (window_isPrefixOf n as)).symm

theorem countP_window {n : ℕ} {as : List α} (h : n ≤ as.countP hit) (hn : 0 < n) :
    (window hit n as).countP hit = n := by
  induction as generalizing n with
  | nil => simp at h; omega
  | cons a as ih =>
    by_cases ha : hit a
    · rw [List.countP_cons_of_pos ha] at h
      rcases eq_or_ne n 1 with rfl | h1
      · simp [window, ha]
      · rw [window, if_pos ha, if_neg h1, List.countP_cons_of_pos ha, ih (by omega) (by omega)]
        omega
    · rw [List.countP_cons_of_neg ha] at h
      rw [window, if_neg ha, List.countP_cons_of_neg ha, ih h hn]

theorem countP_take_lt {n j : ℕ} {as : List α} (hn : 0 < n)
    (hj : j < (window hit n as).length) : (as.take j).countP hit < n := by
  induction as generalizing n j with
  | nil => simp [window] at hj
  | cons a as ih =>
    cases j with
    | zero => simpa using hn
    | succ j =>
      rw [List.take_succ_cons]
      by_cases ha : hit a
      · rcases eq_or_ne n 1 with rfl | h1
        · simp [window, ha] at hj
        · rw [window, if_pos ha, if_neg h1, List.length_cons] at hj
          have := ih (n := n - 1) (j := j) (by omega) (by omega)
          rw [List.countP_cons_of_pos ha]
          omega
      · rw [window, if_neg ha, List.length_cons] at hj
        rw [List.countP_cons_of_neg ha]
        exact ih hn (by omega)

theorem isNth_length_window {n : ℕ} {as : List α} (hn : 0 < n) (h : n ≤ as.countP hit) :
    IsNth hit n as (window hit n as).length where
  le_length := (window_isPrefixOf n as).length_le
  countP_take := by rw [take_length_window, countP_window h hn]
  countP_lt _ hj := countP_take_lt hn hj

end Window

/-- The loop has not failed, and its state is good for the events it has read. -/
def Reads (good : List α → σ → Prop) (as : List α) : Outcome σ ε → Prop
  | .reading s => good as s
  | .stopped k s => good (as.take k) s
  | .failed _ _ => False

/-- The outcome a limit on hits asks for: the loop has stopped right after the
hit that reaches the limit, or it is still reading and no limit was reached.
`good` relates the events read to the state they leave. -/
def Obeys (hit : α → Bool) (limit : ℕ) (good : List α → σ → Prop) (as : List α) :
    Outcome σ ε → Prop
  | .reading s => (limit = 0 ∨ as.countP hit < limit) ∧ good as s
  | .stopped k s => 0 < limit ∧ IsNth hit limit as k ∧ good (as.take k) s
  | .failed _ _ => False

theorem Reads.mono {good good' : List α → σ → Prop} {as : List α} {outcome : Outcome σ ε}
    (h : Reads good as outcome) (hg : ∀ read s, good read s → good' read s) :
    Reads good' as outcome := by
  cases outcome with
  | reading s => exact hg as s h
  | stopped k s => exact hg (as.take k) s h
  | failed k e => exact h

theorem Obeys.reads {hit : α → Bool} {limit : ℕ} {good : List α → σ → Prop} {as : List α}
    {outcome : Outcome σ ε} (h : Obeys hit limit good as outcome) : Reads good as outcome := by
  cases outcome with
  | reading s => exact h.2
  | stopped k s => exact h.2.2
  | failed k e => exact h

/-- Stop in the given state when asked to, otherwise go on from it. -/
def Verdict.stopIf (stop : Prop) [Decidable stop] (s : σ) : Verdict σ :=
  if stop then .stop s else .next s

/-- A loop body that updates its state at every event it can handle, counts
hits, and stops at a hit once a positive limit is reached. -/
structure Counting (body : σ → α → Except ε (Verdict σ)) (update : σ → α → σ)
    (hit : α → Bool) (count : σ → ℕ) (limit : ℕ) (fine : α → Prop) : Prop where
  count_update : ∀ s a, count (update s a) = count s + if hit a then 1 else 0
  body_fine : ∀ s a, fine a → body s a = .ok (.stopIf
    (hit a = true ∧ 0 < limit ∧ limit ≤ count (update s a)) (update s a))
  body_error : ∀ s a, ¬ fine a → ∃ e, body s a = .error e

namespace Counting

variable {body : σ → α → Except ε (Verdict σ)} {update : σ → α → σ} {hit : α → Bool}
  {count : σ → ℕ} {limit : ℕ} {fine : α → Prop}

theorem comap {β : Type*} (h : Counting body update hit count limit fine) (g : β → α) :
    Counting (fun s b => body s (g b)) (fun s b => update s (g b)) (fun b => hit (g b)) count limit
      (fun b => fine (g b)) where
  count_update s b := h.count_update s (g b)
  body_fine s b := h.body_fine s (g b)
  body_error s b := h.body_error s (g b)

theorem body_stop (h : Counting body update hit count limit fine) {s : σ} {a : α} (ha : fine a)
    (hh : hit a = true) (hpos : 0 < limit) (hle : limit ≤ count (update s a)) :
    body s a = .ok (.stop (update s a)) := by
  rw [h.body_fine s a ha, Verdict.stopIf, if_pos ⟨hh, hpos, hle⟩]

theorem body_next (h : Counting body update hit count limit fine) {s : σ} {a : α} (ha : fine a)
    (hn : ¬(hit a = true ∧ 0 < limit ∧ limit ≤ count (update s a))) :
    body s a = .ok (.next (update s a)) := by
  rw [h.body_fine s a ha, Verdict.stopIf, if_neg hn]

theorem run_reading (h : Counting body update hit count limit fine) {s : σ} {as : List α}
    (hf : ∀ a ∈ as, fine a) (hl : limit = 0 ∨ count s + as.countP hit < limit) :
    run body s as = .reading (as.foldl update s) := by
  induction as generalizing s with
  | nil => rfl
  | cons a as ih =>
    have hc := h.count_update s a
    have hn : body s a = .ok (.next (update s a)) := by
      apply h.body_next (hf a List.mem_cons_self)
      rintro ⟨ha, hpos, hle⟩
      rw [List.countP_cons, if_pos ha] at hl
      rw [if_pos ha] at hc
      omega
    rw [run, hn]
    simp only
    rw [ih (fun b hb => hf b (List.mem_cons_of_mem _ hb)), Outcome.later, List.foldl_cons]
    rw [List.countP_cons] at hl
    omega

theorem run_stopped (h : Counting body update hit count limit fine) {s : σ} {as : List α}
    (hf : ∀ a ∈ window hit (limit - count s) as, fine a) (hs : count s < limit)
    (hl : limit ≤ count s + as.countP hit) :
    run body s as = .stopped (window hit (limit - count s) as).length
      ((window hit (limit - count s) as).foldl update s) := by
  induction as generalizing s with
  | nil => simp at hl; omega
  | cons a as ih =>
    have hc := h.count_update s a
    have ha : fine a := hf a (by rw [window]; split_ifs <;> simp)
    by_cases hh : hit a = true
    · rw [if_pos hh] at hc
      rw [List.countP_cons_of_pos hh] at hl
      rcases eq_or_ne (limit - count s) 1 with h1 | h1
      · rw [run, h.body_stop ha hh (by omega) (by omega)]
        simp [window, hh, h1]
      · have he : limit - count s - 1 = limit - count (update s a) := by omega
        have hw : window hit (limit - count s) (a :: as) =
            a :: window hit (limit - count (update s a)) as := by
          rw [window, if_pos hh, if_neg h1, he]
        rw [hw] at hf ⊢
        rw [run, h.body_next ha (by omega)]
        simp only
        rw [ih (fun b hb => hf b (List.mem_cons_of_mem _ hb)) (by omega) (by omega),
          Outcome.later, List.length_cons, List.foldl_cons]
    · rw [if_neg hh] at hc
      rw [List.countP_cons_of_neg hh] at hl
      have hw : window hit (limit - count s) (a :: as) =
          a :: window hit (limit - count (update s a)) as := by
        rw [window, if_neg hh, hc, Nat.add_zero]
      rw [hw] at hf ⊢
      rw [run, h.body_next ha (fun hp => hh hp.1)]
      simp only
      rw [ih (fun b hb => hf b (List.mem_cons_of_mem _ hb)) (by omega) (by omega),
        Outcome.later, List.length_cons, List.foldl_cons]

theorem run_failed (h : Counting body update hit count limit fine) {s : σ} {as : List α}
    (hs : limit = 0 ∨ count s < limit)
    (hf : ¬ ∀ a ∈ window hit (limit - count s) as, fine a) :
    ∃ k e, run body s as = .failed k e := by
  induction as generalizing s with
  | nil => simp [window] at hf
  | cons a as ih =>
    have hc := h.count_update s a
    by_cases ha : fine a
    · by_cases hh : hit a = true
      · rw [if_pos hh] at hc
        rcases eq_or_ne (limit - count s) 1 with h1 | h1
        · simp [window, hh, h1, ha] at hf
        · have he : limit - count s - 1 = limit - count (update s a) := by omega
          rw [window, if_pos hh, if_neg h1, he, List.forall_mem_cons] at hf
          obtain ⟨k, e, hk⟩ := ih (by omega) (fun hw => hf ⟨ha, hw⟩)
          exact ⟨k + 1, e, by rw [run, h.body_next ha (by omega)]; simp [hk, Outcome.later]⟩
      · rw [if_neg hh, Nat.add_zero] at hc
        rw [window, if_neg hh, ← hc, List.forall_mem_cons] at hf
        obtain ⟨k, e, hk⟩ := ih (by omega) (fun hw => hf ⟨ha, hw⟩)
        exact ⟨k + 1, e, by
          rw [run, h.body_next ha (fun hp => hh hp.1)]; simp [hk, Outcome.later]⟩
    · obtain ⟨e, he⟩ := h.body_error s a ha
      exact ⟨1, e, by rw [run, he]⟩

/-- A counting loop whose count starts at zero reads on below its limit, stops where it
reaches it, or fails at an event before that. -/
theorem run_cases (h : Counting body update hit count limit fine) {s : σ} (hs : count s = 0)
    (as : List α) :
    (∃ s', run body s as = .reading s' ∧ (limit = 0 ∨ as.countP hit < limit) ∧
        ∀ a ∈ as, fine a) ∨
      (∃ k s', run body s as = .stopped k s' ∧ (0 < limit ∧ limit ≤ as.countP hit) ∧
        ∀ a ∈ window hit limit as, fine a) ∨
      ∃ k e, run body s as = .failed k e ∧ ¬ ∀ a ∈ window hit limit as, fine a := by
  have hw : window hit (limit - count s) as = window hit limit as := by rw [hs, Nat.sub_zero]
  by_cases hf : ∀ a ∈ window hit limit as, fine a
  · by_cases hl : limit = 0 ∨ as.countP hit < limit
    · have hall : window hit limit as = as := by
        rcases hl with rfl | hl
        · exact window_zero as
        · exact window_of_countP_lt hl
      rw [hall] at hf
      exact Or.inl ⟨_, h.run_reading hf (by omega), hl, hf⟩
    · exact Or.inr (Or.inl ⟨_, _, h.run_stopped (by rwa [hw]) (by omega) (by omega), by omega, hf⟩)
  · have hpos : limit = 0 ∨ count s < limit := by omega
    obtain ⟨k, e, hk⟩ := h.run_failed hpos (by rwa [hw])
    exact Or.inr (Or.inr ⟨k, e, hk, hf⟩)

variable {good : List α → σ → Prop}

theorem fine_of_reads (h : Counting body update hit count limit fine) {s : σ} (hs : count s = 0)
    {as : List α} (hr : Reads good as (run body s as)) : ∀ a ∈ window hit limit as, fine a := by
  by_contra hf
  have hlt : limit = 0 ∨ count s < limit := by omega
  obtain ⟨k, e, hk⟩ := h.run_failed hlt (by rwa [hs, Nat.sub_zero])
  rw [hk] at hr
  exact hr

/-- A counting loop obeys its limit exactly when it can handle every event up to the stop. -/
theorem obeys_iff (h : Counting body update hit count limit fine) {s : σ} (hs : count s = 0)
    (hg : ∀ read, (∀ a ∈ read, fine a) → good read (read.foldl update s)) (as : List α) :
    Obeys hit limit good as (run body s as) ↔ ∀ a ∈ window hit limit as, fine a := by
  constructor
  · exact fun ho => h.fine_of_reads hs ho.reads
  · intro hf
    by_cases hl : limit = 0 ∨ as.countP hit < limit
    · have hw : window hit limit as = as := by
        rcases hl with rfl | hl
        · exact window_zero as
        · exact window_of_countP_lt hl
      rw [hw] at hf
      rw [h.run_reading hf (by omega)]
      exact ⟨hl, hg as hf⟩
    · rw [h.run_stopped (by rwa [hs, Nat.sub_zero]) (by omega) (by omega), hs, Nat.sub_zero]
      refine ⟨by omega, isNth_length_window (by omega) (by omega), ?_⟩
      rw [take_length_window]
      exact hg _ hf

/-- A loop that counts to a positive limit and can handle every event never stops
on account of a limit exactly when there are too few hits to reach its own. -/
theorem obeys_zero_iff (h : Counting body update hit count limit fine) (hl : 0 < limit) {s : σ}
    (hs : count s = 0) {as : List α} (hf : ∀ a ∈ as, fine a) (hg : good as (as.foldl update s)) :
    Obeys hit 0 good as (run body s as) ↔ as.countP hit < limit := by
  rcases Nat.lt_or_ge (as.countP hit) limit with hc | hc
  · rw [h.run_reading hf (by omega)]
    exact iff_of_true ⟨Or.inl rfl, hg⟩ hc
  · have hw : ∀ a ∈ window hit limit as, fine a :=
      fun a ha => hf a ((window_isPrefixOf limit as).subset ha)
    rw [h.run_stopped (by rwa [hs, Nat.sub_zero]) (by omega) (by omega)]
    exact iff_of_false (fun ho => absurd ho.1 (Nat.lt_irrefl 0)) (Nat.not_lt_of_le hc)

end Counting

end EventLoop

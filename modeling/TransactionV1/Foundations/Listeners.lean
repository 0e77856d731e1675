import Mathlib.Data.List.Nodup
import Mathlib.Logic.Function.Basic

/-! # Listeners on a changing set of sources

A callback is attached to sources of events, one registration on each, and the
functions that detach it are kept in a ledger. The ledger tracks the sources when
the callback has one live registration on every source in the ledger that emits,
and none anywhere else. Attaching, detaching and the loops over them keep it so.
-/

namespace Listeners

/-- A source of events. Attaching a callback does not call it, and what is returned
detaches the callback attached. -/
structure EventSource (κ : Type*) where
  State : Type
  Off : Type
  /-- How many live registrations a callback has. -/
  count : State → κ → ℕ
  Live : State → Off → κ → Prop
  on : State → κ → State × Off
  off : State → Off → State
  count_on : ∀ s k, count (on s k).1 k = count s k + 1
  live_on : ∀ s k, Live (on s k).1 (on s k).2 k
  count_off : ∀ s o k, Live s o k → count s k = 1 → count (off s o) k = 0

/-- A list of callbacks, from which detaching removes every registration of the callback. -/
def EventSource.list (κ : Type) [DecidableEq κ] : EventSource κ where
  State := List κ
  Off := κ
  count callbacks k := callbacks.count k
  Live callbacks o k := o = k ∧ k ∈ callbacks
  on callbacks k := (callbacks ++ [k], k)
  off callbacks o := callbacks.filter (· ≠ o)
  count_on callbacks k := by simp
  live_on callbacks k := by simp
  count_off callbacks o k h _ := by simp [h.1, List.count_eq_zero]

variable {ω κ : Type*} [DecidableEq ω] (E : EventSource κ)

/-- The states of the sources, and for each source a callback was attached to, in
order, the function that detaches it. A source that emits nothing has none. -/
structure Ledger (ω : Type*) {κ : Type*} (E : EventSource κ) where
  states : ω → E.State
  offs : List (ω × Option E.Off)

variable {E}

namespace Ledger

def keys (l : Ledger ω E) : List ω := l.offs.map Prod.fst

/-- Attach the callback to a source, if it emits at all, and enter it. -/
def attach (k : κ) (emits : ω → Bool) (l : Ledger ω E) (w : ω) : Ledger ω E :=
  if emits w then
    { states := Function.update l.states w (E.on (l.states w) k).1
      offs := l.offs ++ [(w, some (E.on (l.states w) k).2)] }
  else { l with offs := l.offs ++ [(w, none)] }

/-- Call the function that detaches the callback from a source. -/
def release (l : Ledger ω E) (entry : ω × Option E.Off) : Ledger ω E :=
  match entry.2 with
  | none => l
  | some o => { l with states := Function.update l.states entry.1 (E.off (l.states entry.1) o) }

/-- Detach the callback from a source and strike the source out. -/
def detach (l : Ledger ω E) (entry : ω × Option E.Off) : Ledger ω E :=
  { l.release entry with offs := l.offs.filter (·.1 ≠ entry.1) }

/-- One live registration on each source of the ledger that emits, none elsewhere. -/
structure Tracks (k : κ) (emits : ω → Bool) (l : Ledger ω E) : Prop where
  nodup : l.keys.Nodup
  count_eq : ∀ w, E.count (l.states w) k = if w ∈ l.keys ∧ emits w = true then 1 else 0
  live : ∀ w o, (w, some o) ∈ l.offs → E.Live (l.states w) o k
  isSome_eq : ∀ entry ∈ l.offs, entry.2.isSome = emits entry.1

variable {k : κ} {emits : ω → Bool} {l : Ledger ω E}

omit [DecidableEq ω] in
theorem mem_keys_of_mem {entry : ω × Option E.Off} (h : entry ∈ l.offs) : entry.1 ∈ l.keys :=
  List.mem_map_of_mem h

theorem offs_attach (w : ω) : (l.attach k emits w).offs =
    l.offs ++ [(w, if emits w then some (E.on (l.states w) k).2 else none)] := by
  unfold attach
  split_ifs <;> rfl

theorem states_attach_of_ne {w v : ω} (h : v ≠ w) :
    (l.attach k emits w).states v = l.states v := by
  unfold attach
  split_ifs
  · exact Function.update_of_ne h ..
  · rfl

theorem states_attach_self {w : ω} (h : emits w = true) :
    (l.attach k emits w).states w = (E.on (l.states w) k).1 := by
  rw [attach, if_pos h]
  exact Function.update_self ..

theorem states_attach_of_not_emits {w : ω} (h : ¬ emits w = true) :
    (l.attach k emits w).states = l.states := by rw [attach, if_neg h]

@[simp] theorem keys_attach (w : ω) : (l.attach k emits w).keys = l.keys ++ [w] := by
  rw [keys, offs_attach, List.map_append]
  rfl

theorem states_detach (entry : ω × Option E.Off) :
    (l.detach entry).states = (l.release entry).states := rfl

@[simp] theorem mem_keys_detach {entry : ω × Option E.Off} {w : ω} :
    w ∈ (l.detach entry).keys ↔ w ∈ l.keys ∧ w ≠ entry.1 := by
  simp only [keys, detach, List.mem_map, List.mem_filter, decide_eq_true_eq]
  constructor
  · rintro ⟨e, ⟨he, hne⟩, rfl⟩
    exact ⟨⟨e, he, rfl⟩, hne⟩
  · rintro ⟨⟨e, he, rfl⟩, hne⟩
    exact ⟨e, ⟨he, hne⟩, rfl⟩

theorem states_release_of_ne (entry : ω × Option E.Off) {w : ω} (h : w ≠ entry.1) :
    (l.release entry).states w = l.states w := by
  unfold release
  split
  · rfl
  · exact Function.update_of_ne h ..

theorem Tracks.count_release (h : l.Tracks k emits) {entry : ω × Option E.Off}
    (he : entry ∈ l.offs) : E.count ((l.release entry).states entry.1) k = 0 := by
  obtain ⟨w, o⟩ := entry
  have hw := mem_keys_of_mem he
  have hs := h.isSome_eq _ he
  have hc := h.count_eq w
  cases o with
  | none =>
    rw [Option.isSome_none] at hs
    rw [if_neg fun hx => by simp [← hs] at hx] at hc
    exact hc
  | some o =>
    rw [Option.isSome_some] at hs
    rw [if_pos ⟨hw, hs.symm⟩] at hc
    simp only [release, Function.update_self]
    exact E.count_off _ o k (h.live w o he) hc

theorem Tracks.attach (h : l.Tracks k emits) {w : ω} (hw : w ∉ l.keys) :
    (l.attach k emits w).Tracks k emits where
  nodup := by
    rw [keys_attach, ← List.concat_eq_append]
    exact h.nodup.concat hw
  count_eq v := by
    have hc := h.count_eq v
    simp only [keys_attach, List.mem_append, List.mem_singleton]
    rcases eq_or_ne v w with rfl | hne
    · by_cases he : emits v = true
      · rw [states_attach_self he, E.count_on, hc]
        simp [hw, he]
      · rw [states_attach_of_not_emits he, hc]
        simp [he]
    · rw [states_attach_of_ne hne, hc]
      simp [hne]
  live v o hvo := by
    rw [offs_attach] at hvo
    rcases List.mem_append.mp hvo with hm | hm
    · have hne : v ≠ w := by
        rintro rfl
        exact hw (mem_keys_of_mem hm)
      rw [states_attach_of_ne hne]
      exact h.live v o hm
    · obtain ⟨rfl, ho⟩ := Prod.mk.inj (List.mem_singleton.mp hm)
      split_ifs at ho with he
      rw [states_attach_self he, Option.some.inj ho]
      exact E.live_on (l.states v) k
  isSome_eq entry he := by
    rw [offs_attach] at he
    rcases List.mem_append.mp he with hm | hm
    · exact h.isSome_eq entry hm
    · rw [List.mem_singleton.mp hm]
      cases emits w <;> rfl

theorem Tracks.detach (h : l.Tracks k emits) {entry : ω × Option E.Off} (he : entry ∈ l.offs) :
    (l.detach entry).Tracks k emits where
  nodup := (List.filter_sublist.map Prod.fst).nodup h.nodup
  count_eq w := by
    simp only [mem_keys_detach]
    rcases eq_or_ne w entry.1 with rfl | hne
    · rw [if_neg fun hx => hx.1.2 rfl]
      exact h.count_release he
    · have hc := h.count_eq w
      rw [← states_release_of_ne entry hne, ← states_detach] at hc
      simpa [hne] using hc
  live w o hwo := by
    obtain ⟨hm, hne⟩ := List.mem_filter.mp hwo
    rw [states_detach, states_release_of_ne entry (of_decide_eq_true hne)]
    exact h.live w o hm
  isSome_eq e hm := h.isSome_eq e (List.mem_filter.mp hm).1

section Loops

theorem Tracks.foldl_detach (keep : ω → Prop) [DecidablePred keep]
    {entries : List (ω × Option E.Off)} (h : l.Tracks k emits) (hm : ∀ e ∈ entries, e ∈ l.offs)
    (hn : (entries.map Prod.fst).Nodup) :
    (entries.foldl (fun l e => if keep e.1 then l else l.detach e) l).Tracks k emits ∧
      ∀ w, w ∈ (entries.foldl (fun l e => if keep e.1 then l else l.detach e) l).keys ↔
        w ∈ l.keys ∧ (w ∈ entries.map Prod.fst → keep w) := by
  induction entries generalizing l with
  | nil => exact ⟨h, fun w => by simp⟩
  | cons e entries ih =>
    rw [List.map_cons, List.nodup_cons] at hn
    obtain ⟨he, hm⟩ := List.forall_mem_cons.mp hm
    rw [List.foldl_cons]
    split_ifs with hk
    · obtain ⟨ht, hkeys⟩ := ih h hm hn.2
      refine ⟨ht, fun w => ?_⟩
      rw [hkeys, List.map_cons, List.mem_cons]
      refine and_congr_right fun _ => ⟨?_, fun hx hw => hx (Or.inr hw)⟩
      rintro hx (rfl | hw)
      · exact hk
      · exact hx hw
    · have hm' : ∀ e' ∈ entries, e' ∈ (l.detach e).offs := by
        intro e' he'
        refine List.mem_filter.mpr ⟨hm e' he', decide_eq_true fun heq => hn.1 ?_⟩
        exact heq ▸ List.mem_map_of_mem he'
      obtain ⟨ht, hkeys⟩ := ih (h.detach he) hm' hn.2
      refine ⟨ht, fun w => ?_⟩
      rw [hkeys, mem_keys_detach, List.map_cons, List.mem_cons, and_assoc]
      refine and_congr_right fun _ => ⟨?_, fun hx => ⟨?_, fun hw => hx (Or.inr hw)⟩⟩
      · rintro ⟨hne, hx⟩ (rfl | hw)
        · exact absurd rfl hne
        · exact hx hw
      · rintro rfl
        exact hk (hx (Or.inl rfl))

theorem Tracks.foldl_attach (h : l.Tracks k emits) (ws : List ω) :
    (ws.foldl (fun l w => if w ∈ l.keys then l else l.attach k emits w) l).Tracks k emits ∧
      ∀ w, w ∈ (ws.foldl (fun l w => if w ∈ l.keys then l else l.attach k emits w) l).keys ↔
        w ∈ l.keys ∨ w ∈ ws := by
  induction ws generalizing l with
  | nil => exact ⟨h, fun w => by simp⟩
  | cons v ws ih =>
    rw [List.foldl_cons]
    split_ifs with hv
    · obtain ⟨ht, hkeys⟩ := ih h
      refine ⟨ht, fun w => ?_⟩
      rw [hkeys, List.mem_cons]
      constructor
      · exact Or.imp_right Or.inr
      · rintro (hw | rfl | hw)
        · exact Or.inl hw
        · exact Or.inl hv
        · exact Or.inr hw
    · obtain ⟨ht, hkeys⟩ := ih (h.attach hv)
      refine ⟨ht, fun w => ?_⟩
      rw [hkeys, keys_attach, List.mem_append, List.mem_singleton, List.mem_cons, or_assoc]

theorem states_foldl_release_congr {l' : Ledger ω E} (h : l.states = l'.states)
    (entries : List (ω × Option E.Off)) :
    (entries.foldl release l).states = (entries.foldl detach l').states := by
  induction entries generalizing l l' with
  | nil => exact h
  | cons e entries ih =>
    apply ih
    rw [states_detach]
    unfold release
    split
    · exact h
    · simp only [h]

theorem Tracks.count_foldl_release (h : l.Tracks k emits) (w : ω) :
    E.count ((l.offs.foldl release l).states w) k = 0 := by
  obtain ⟨ht, hkeys⟩ := h.foldl_detach (fun _ => False) (fun _ he => he) h.nodup
  simp only [if_false] at ht hkeys
  have hnil : w ∉ (l.offs.foldl Ledger.detach l).keys := by
    intro hw
    obtain ⟨hkey, hkeep⟩ := (hkeys w).mp hw
    exact hkeep hkey
  rw [states_foldl_release_congr rfl]
  exact (ht.count_eq w).trans (if_neg fun hx => hnil hx.1)

end Loops

end Ledger

end Listeners

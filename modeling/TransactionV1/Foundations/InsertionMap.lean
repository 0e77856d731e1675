import TransactionV1.Foundations.LastWrite

/-! # Maps in insertion order

A map that remembers the order in which its keys came first. A write to a key it holds
leaves the order as it is and takes the place of the earlier value.
-/

/-- Entries with pairwise different keys, in the order of their first writes. -/
structure InsertionMap (ι α : Type*) where
  entries : List (ι × α)
  nodup_keys : (entries.map Prod.fst).Nodup

namespace InsertionMap

variable {ι α : Type*} [DecidableEq ι]

/-- Write to an entry in its place, or at the end when there is none. -/
def insertEntry (i : ι) (a : α) : List (ι × α) → List (ι × α)
  | [] => [(i, a)]
  | e :: es => if e.1 = i then (i, a) :: es else e :: insertEntry i a es

theorem map_fst_insertEntry (i : ι) (a : α) (es : List (ι × α)) :
    (insertEntry i a es).map Prod.fst =
      if i ∈ es.map Prod.fst then es.map Prod.fst else es.map Prod.fst ++ [i] := by
  induction es with
  | nil => rfl
  | cons e es ih =>
    rw [insertEntry]
    by_cases he : e.1 = i
    · simp [he]
    · have hm : i ∈ (e :: es).map Prod.fst ↔ i ∈ es.map Prod.fst := by
        rw [List.map_cons, List.mem_cons]
        exact or_iff_right fun h => he h.symm
      rw [if_neg he, List.map_cons, ih]
      by_cases hi : i ∈ es.map Prod.fst
      · rw [if_pos hi, if_pos (hm.mpr hi), List.map_cons]
      · rw [if_neg hi, if_neg (hm.not.mpr hi), List.map_cons, List.cons_append]

theorem nodup_insertEntry (i : ι) (a : α) {es : List (ι × α)} (h : (es.map Prod.fst).Nodup) :
    ((insertEntry i a es).map Prod.fst).Nodup := by
  rw [map_fst_insertEntry]
  split_ifs with hi
  · exact h
  · exact List.nodup_append.mpr ⟨h, List.nodup_singleton i, by grind⟩

theorem mem_insertEntry {i j : ι} {a b : α} {es : List (ι × α)} (h : (es.map Prod.fst).Nodup) :
    (j, b) ∈ insertEntry i a es ↔ if i = j then b = a else (j, b) ∈ es := by
  induction es with
  | nil => grind [insertEntry]
  | cons e es ih =>
    obtain ⟨he, hes⟩ := List.nodup_cons.mp h
    rw [insertEntry]
    split_ifs with hi hj hj
    · subst hi hj
      constructor
      · rintro (_ | ⟨_, hm⟩)
        · rfl
        · exact absurd (List.mem_map_of_mem hm) he
      · rintro rfl
        exact List.mem_cons_self
    · subst hi
      grind
    · grind
    · grind

def empty : InsertionMap ι α := ⟨[], List.nodup_nil⟩

def set (m : InsertionMap ι α) (i : ι) (a : α) : InsertionMap ι α :=
  ⟨insertEntry i a m.entries, nodup_insertEntry i a m.nodup_keys⟩

def write (m : InsertionMap ι α) (ws : List (ι × α)) : InsertionMap ι α :=
  ws.foldl (fun m w => m.set w.1 w.2) m

def values (m : InsertionMap ι α) : List α := m.entries.map Prod.snd

theorem write_append (m : InsertionMap ι α) (ws ws' : List (ι × α)) :
    m.write (ws ++ ws') = (m.write ws).write ws' := List.foldl_append

theorem entries_write_singleton (m : InsertionMap ι α) (w : ι × α) :
    (m.write [w]).entries = insertEntry w.1 w.2 m.entries := rfl

theorem mem_entries_write {i : ι} {a : α} (ws : List (ι × α)) :
    (i, a) ∈ (empty.write ws : InsertionMap ι α).entries ↔ LastWrite.last? i ws = some a := by
  induction ws using List.reverseRecOn with
  | nil => simp [write, empty, LastWrite.last?]
  | append_singleton ws w ih =>
    rw [write_append, entries_write_singleton, mem_insertEntry (nodup_keys _),
      LastWrite.last?_append_singleton]
    split_ifs with hw
    · rw [Option.some_inj]
      exact eq_comm
    · exact ih

theorem keys_write (ws : List (ι × α)) :
    (empty.write ws : InsertionMap ι α).entries.map Prod.fst = (ws.map Prod.fst).eraseDups := by
  induction ws using List.reverseRecOn with
  | nil => rfl
  | append_singleton ws w ih =>
    rw [write_append, entries_write_singleton, map_fst_insertEntry, ih, List.map_append,
      List.eraseDups_append]
    by_cases hw : w.1 ∈ ws.map Prod.fst
    · rw [if_pos (List.mem_eraseDups.mpr hw)]
      simp [List.removeAll, hw]
    · rw [if_neg (List.mem_eraseDups.not.mpr hw)]
      simp [List.removeAll, hw, List.eraseDups_cons]

section Keyed

variable (key : α → ι)

def keyed (as : List α) : List (ι × α) := as.map fun a => (key a, a)

theorem last?_keyed (i : ι) (as : List α) :
    LastWrite.last? i (keyed key as) = (as.filter (key · = i)).getLast? := by
  rw [LastWrite.last?, keyed, List.filter_map, List.getLast?_map, Option.map_map]
  exact Option.map_id'

theorem eq_key_of_mem {as : List α} {e : ι × α}
    (h : e ∈ (empty.write (keyed key as) : InsertionMap ι α).entries) : e.1 = key e.2 := by
  rw [mem_entries_write, last?_keyed] at h
  have hm := List.mem_of_getLast? h
  simp only [List.mem_filter, decide_eq_true_eq] at hm
  exact hm.2.symm

theorem map_key_values (as : List α) :
    (empty.write (keyed key as) : InsertionMap ι α).values.map key = (as.map key).eraseDups := by
  have hk : (keyed key as).map Prod.fst = as.map key := List.map_map
  rw [← hk, ← keys_write, values, List.map_map]
  exact List.map_congr_left fun e he => (eq_key_of_mem key he).symm

theorem mem_values {a : α} (as : List α) :
    a ∈ (empty.write (keyed key as) : InsertionMap ι α).values ↔
      (as.filter (key · = key a)).getLast? = some a := by
  rw [← last?_keyed, ← mem_entries_write, values, List.mem_map]
  constructor
  · rintro ⟨e, he, rfl⟩
    rwa [← eq_key_of_mem key he]
  · exact fun h => ⟨_, h, rfl⟩

end Keyed

end InsertionMap

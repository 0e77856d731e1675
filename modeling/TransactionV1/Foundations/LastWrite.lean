import Mathlib.Data.List.Induction
import Mathlib.Data.List.Nodup
import Mathlib.Data.List.Perm.Basic
import Mathlib.Logic.Function.Basic

/-! # Last write wins

A bank of registers is updated by a list of writes. After a run each register
holds what the last write to it left, so a run depends only on the writes to
each register, in order, and not on how writes to different registers
interleave.
-/

namespace LastWrite

variable {ι α : Type*} [DecidableEq ι]

def write (regs : ι → α) (w : ι × α) : ι → α := Function.update regs w.1 w.2

def run (regs : ι → α) (ws : List (ι × α)) : ι → α := ws.foldl write regs

def last? (i : ι) (ws : List (ι × α)) : Option α :=
  ((ws.filter (·.1 = i)).getLast?).map Prod.snd

@[simp] theorem write_apply (regs : ι → α) (w : ι × α) (i : ι) :
    write regs w i = if i = w.1 then w.2 else regs i := by
  simp [write, Function.update_apply]

@[simp] theorem run_nil (regs : ι → α) : run regs [] = regs := rfl

@[simp] theorem run_cons (regs : ι → α) (w : ι × α) (ws : List (ι × α)) :
    run regs (w :: ws) = run (write regs w) ws := rfl

theorem run_append (regs : ι → α) (ws ws' : List (ι × α)) :
    run regs (ws ++ ws') = run (run regs ws) ws' := by
  simp [run]

theorem last?_append_singleton (i : ι) (ws : List (ι × α)) (w : ι × α) :
    last? i (ws ++ [w]) = if w.1 = i then some w.2 else last? i ws := by
  rcases eq_or_ne w.1 i with h | h <;> simp [last?, List.filter_append, h]

/-- A register holds the value of the last write to it, or what it held at the start. -/
theorem run_apply (regs : ι → α) (ws : List (ι × α)) (i : ι) :
    run regs ws i = (last? i ws).getD (regs i) := by
  induction ws using List.reverseRecOn with
  | nil => rfl
  | append_singleton ws w ih =>
    rw [run_append, run_cons, run_nil, write_apply, last?_append_singleton, ih]
    rcases eq_or_ne w.1 i with h | h
    · simp [h]
    · rw [if_neg h, if_neg h.symm]

theorem run_congr {ws ws' : List (ι × α)} (regs : ι → α)
    (h : ∀ i, ws.filter (·.1 = i) = ws'.filter (·.1 = i)) : run regs ws = run regs ws' := by
  ext i
  rw [run_apply, run_apply, last?, last?, h i]

theorem run_perm {ws ws' : List (ι × α)} (regs : ι → α) (hp : ws.Perm ws')
    (hn : (ws.map Prod.fst).Nodup) : run regs ws = run regs ws' := by
  apply hp.foldl_eq'
  intro v hv w hw regs
  rcases eq_or_ne v.1 w.1 with h | h
  · have he : v = w := List.inj_on_of_nodup_map hn hv hw h
    rw [he]
  · exact Function.update_comm h v.2 w.2 regs

section Store

/-- The writes that store a partial function at the given registers. -/
def store (f : ι → Option α) (is : List ι) : List (ι × α) :=
  is.filterMap fun i => (f i).map (Prod.mk i)

omit [DecidableEq ι] in
theorem store_append (f : ι → Option α) (is js : List ι) :
    store f (is ++ js) = store f is ++ store f js := List.filterMap_append

omit [DecidableEq ι] in
theorem store_singleton (f : ι → Option α) (i : ι) :
    store f [i] = ((f i).map (Prod.mk i)).toList := by
  cases h : f i <;> simp [store, h]

theorem run_store_apply (regs : ι → α) (f : ι → Option α) (is : List ι) (i : ι) :
    run regs (store f is) i = if i ∈ is then (f i).getD (regs i) else regs i := by
  induction is using List.reverseRecOn with
  | nil => rfl
  | append_singleton is j ih =>
    rw [store_append, run_append, store_singleton]
    rcases eq_or_ne i j with rfl | hij
    · cases hf : f i <;> simp [hf, ih]
    · cases hf : f j <;> simp [ih, hij]

omit [DecidableEq ι] in
theorem map_fst_store (f : ι → Option α) (is : List ι) :
    (store f is).map Prod.fst = is.filter fun i => (f i).isSome := by
  induction is with
  | nil => rfl
  | cons i is ih =>
    rw [store] at ih
    cases hf : f i <;> simp [store, hf, ih]

omit [DecidableEq ι] in
theorem nodup_store (f : ι → Option α) {is : List ι} (h : is.Nodup) :
    ((store f is).map Prod.fst).Nodup := by
  rw [map_fst_store]
  exact h.filter _

end Store

section Loop

variable {σ ε : Type*}

theorem view_foldl (view : σ → ι → α) (step : σ → ε → σ) (writeOf : ε → Option (ι × α))
    (h : ∀ s e, view (step s e) = (writeOf e).elim (view s) (write (view s)))
    (s : σ) (es : List ε) :
    view (es.foldl step s) = run (view s) (es.filterMap writeOf) := by
  induction es generalizing s with
  | nil => rfl
  | cons e es ih =>
    rw [List.foldl_cons, ih, h]
    cases hw : writeOf e with
    | none => rw [List.filterMap_cons_none hw, Option.elim_none]
    | some w => rw [List.filterMap_cons_some hw, Option.elim_some, run_cons]

end Loop

end LastWrite

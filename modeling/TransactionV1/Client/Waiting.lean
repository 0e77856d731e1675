import TransactionV1.Client.Rpc

/-! # Waiting for a signature

The sending examples ask for the status of a signature until an answer settles what
became of its transaction. Reading a status and the loop around it are each client's
own. How such a wait may end is the same for all of them.
-/

namespace TransactionV1.Client

open Dialogue

variable {ω ρ φ κ ε τ χ α : Type}

/-- The commitment levels at which a transaction counts as confirmed. -/
def confirmedStatuses : List String := ["confirmed", "finalized"]

/-- What a status settles: that the transaction failed, with its error, or that it is
confirmed. -/
def SignatureStatus.verdict (status : SignatureStatus) : Option (Except String SignatureStatus) :=
  match status.err with
  | some err => some (.error err)
  | none =>
    if ∃ level ∈ status.confirmationStatus, level ∈ confirmedStatuses then some (.ok status)
    else none

/-- The status a client looks at: the first one, when the call succeeded and the
cluster has seen the transaction. -/
def firstStatus : Except ε (List (Option SignatureStatus)) → Option SignatureStatus
  | .ok (some status :: _) => some status
  | _ => none

def verdict (answer : Except ε (List (Option SignatureStatus))) :
    Option (Except String SignatureStatus) :=
  (firstStatus answer).bind (·.verdict)

/-- An exchange of a wait for a signature that settles nothing. -/
def Undecided (signature : Signature) :
    Call ω ρ φ κ ε τ → Prop
  | ⟨.getSignatureStatuses s _, answer⟩ => s = signature ∧ verdict answer = none
  | ⟨.ctxErr, _⟩ | ⟨.select, _⟩ | ⟨.now, _⟩ | ⟨.sleep, _⟩ => True
  | _ => False

/-- A conversation that waits for a signature and ends with the answer that settles it. -/
def Settles (signature : Signature) (v : Except String SignatureStatus)
    (t : Transcript ω ρ φ κ ε τ) : Prop :=
  ∃ before history answer, t = before ++ [⟨.getSignatureStatuses signature history, answer⟩] ∧
    (∀ x ∈ before, Undecided signature x) ∧ verdict answer = some v

/-- What a client makes of a wait: the value of a confirmed status, the words for a
failed transaction, and what it may throw when nothing is settled. -/
structure Report (χ α : Type) where
  value : SignatureStatus → α
  failed : String → χ
  gaveUp : χ → Prop

/-- How a wait for a signature ends. A value and a failure are those of the answer that
settles the signature, and whatever else is thrown comes of nothing settled. -/
def Waited (report : Report χ α) (signature : Signature)
    (t : Transcript ω ρ φ κ ε τ) : Ending χ α → Prop
  | .returned a => ∃ status, Settles signature (.ok status) t ∧ report.value status = a
  | .threw x => (∃ err, Settles signature (.error err) t ∧ report.failed err = x) ∨
      (∀ x ∈ t, Undecided signature x) ∧ report.gaveUp x
  | .pending => ∀ x ∈ t, Undecided signature x

def Polled (report : Report χ α) (signature : Signature)
    (t : Transcript ω ρ φ κ ε τ) : Ending χ (Option α) → Prop
  | .returned none => ∀ x ∈ t, Undecided signature x
  | .returned (some a) => Waited report signature t (.returned a)
  | .threw x => Waited report signature t (.threw x)
  | .pending => Waited report signature t .pending

section Rounds

variable {report : Report χ α} {signature : Signature}
  {before t : Transcript ω ρ φ κ ε τ}

theorem Undecided.concat {x : Call ω ρ φ κ ε τ}
    (hb : ∀ y ∈ before, Undecided signature y) (hx : Undecided signature x) :
    ∀ y ∈ before ++ [x], Undecided signature y :=
  List.forall_mem_append.mpr ⟨hb, List.forall_mem_singleton.mpr hx⟩

theorem Settles.prepend {v : Except String SignatureStatus}
    (hb : ∀ x ∈ before, Undecided signature x) (h : Settles signature v t) :
    Settles signature v (before ++ t) := by
  obtain ⟨first, history, answer, rfl, hf, hv⟩ := h
  refine ⟨before ++ first, history, answer, (List.append_assoc _ _ _).symm, ?_, hv⟩
  exact List.forall_mem_append.mpr ⟨hb, hf⟩

theorem Waited.prepend {e : Ending χ α} (hb : ∀ x ∈ before, Undecided signature x)
    (h : Waited report signature t e) : Waited report signature (before ++ t) e := by
  cases e with
  | returned a =>
    obtain ⟨status, hs, ha⟩ := h
    exact ⟨status, hs.prepend hb, ha⟩
  | threw x =>
    rcases h with ⟨err, hs, hx⟩ | ⟨ht, hx⟩
    · exact Or.inl ⟨err, hs.prepend hb, hx⟩
    · exact Or.inr ⟨List.forall_mem_append.mpr ⟨hb, ht⟩, hx⟩
  | pending => exact List.forall_mem_append.mpr ⟨hb, h⟩

theorem ensures_loop_waited {poll : Session ω ρ φ κ ε τ χ (Option α)}
    (h : Ensures poll (Polled report signature)) (rounds : ℕ) :
    Ensures (loop poll rounds) (Waited report signature) := by
  refine Ensures.loop (∀ x ∈ ·, Undecided signature x) ?_ (fun t ht => ht) (by simp) rounds
  intro before hb
  refine h.mono fun t e he => ?_
  cases e with
  | returned r =>
    cases r with
    | none => exact List.forall_mem_append.mpr ⟨hb, he⟩
    | some a => exact Waited.prepend (e := .returned a) hb he
  | threw x => exact Waited.prepend (e := .threw x) hb he
  | pending => exact List.forall_mem_append.mpr ⟨hb, he⟩

end Rounds

end TransactionV1.Client

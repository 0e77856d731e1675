import TransactionV1.Indexer.StopRule

/-! # How the indexers exit

`scripts/demo-indexers.sh` sends one transaction to each indexer and takes an exit with
status zero for a sign that the indexer has seen it. The indexers differ in how they exit
when the stream ends before that: Rust and Go return from `main`, and TypeScript takes it
for a failure in `exitOnStreamClose`. Only Go returns from `main` on an interrupt too.
-/

namespace TransactionV1

open EventLoop

inductive Interrupt where
  | int
  | term
  deriving DecidableEq

/-- The status a shell gives a process that the signal has ended. -/
def Interrupt.status : Interrupt → ℕ
  | .int => 128 + 2
  | .term => 128 + 15

/-- How a stream goes on after the updates handled so far. -/
inductive Finish where
  | waiting
  | ended
  | failed
  | interrupted (signal : Interrupt)
  deriving DecidableEq

variable {σ : Type}

/-- The status a Rust indexer exits with: `Ok` from `main`, or the error of `update?`. -/
def Rust.exitStatus : Outcome σ Empty → Finish → Option ℕ
  | .stopped _ _, _ => some 0
  | .reading _, .waiting => none
  | .reading _, .ended => some 0
  | .reading _, .failed => some 1
  | .reading _, .interrupted signal => some signal.status

/-- The status a Go indexer exits with: a return from `main`, `log.Fatal`, or a panic. An
interrupt ends its context, and then it returns. -/
def Go.exitStatus : Outcome σ Panic → Finish → Option ℕ
  | .stopped _ _, _ => some 0
  | .failed _ _, _ => some 2
  | .reading _, .waiting => none
  | .reading _, .ended => some 0
  | .reading _, .failed => some 1
  | .reading _, .interrupted _ => some 0

/-- The status a TypeScript indexer exits with: what a handler gives `process.exit`, or
that of an error no one catches. -/
def TypeScript.exitStatus : Outcome σ JsError → Finish → Option ℕ
  | .stopped _ _, _ => some 0
  | .failed _ _, _ => some 1
  | .reading _, .waiting => none
  | .reading _, .ended => some 1
  | .reading _, .failed => some 1
  | .reading _, .interrupted signal => some signal.status

section Counting

variable {α : Type} {update : σ → α → σ} {hit : α → Bool} {count : σ → ℕ} {limit : ℕ} {s : σ}
  {as : List α} {finish : Finish}

def Reached (hit : α → Bool) (limit : ℕ) (as : List α) : Prop :=
  0 < limit ∧ limit ≤ as.countP hit

theorem not_reached_iff : ¬ Reached hit limit as ↔ limit = 0 ∨ as.countP hit < limit := by
  unfold Reached
  omega

theorem Rust.exitStatus_eq_zero_iff {body : σ → α → Except Empty (Verdict σ)}
    (h : Counting body update hit count limit fun _ => True) (hs : count s = 0) :
    Rust.exitStatus (run body s as) finish = some 0 ↔ Reached hit limit as ∨ finish = .ended := by
  rcases h.run_cases hs as with ⟨s', hr, hl, _⟩ | ⟨k, s', hr, hl, _⟩ | ⟨k, e, hr, hf⟩
  · rw [hr, or_iff_right (not_reached_iff.mpr hl)]
    cases finish with
    | interrupted signal => cases signal <;> simp [exitStatus, Interrupt.status]
    | _ => simp [exitStatus]
  · rw [hr]
    exact iff_of_true rfl (Or.inl hl)
  · exact e.elim

theorem Go.exitStatus_eq_zero_iff {body : σ → α → Except Panic (Verdict σ)}
    (h : Counting body update hit count limit fun _ => True) (hs : count s = 0) :
    Go.exitStatus (run body s as) finish = some 0 ↔
      Reached hit limit as ∨ finish = .ended ∨ ∃ signal, finish = .interrupted signal := by
  rcases h.run_cases hs as with ⟨s', hr, hl, _⟩ | ⟨k, s', hr, hl, _⟩ | ⟨k, e, hr, hf⟩
  · rw [hr, or_iff_right (not_reached_iff.mpr hl)]
    cases finish <;> simp [exitStatus]
  · rw [hr]
    exact iff_of_true rfl (Or.inl hl)
  · exact absurd (fun _ _ => trivial) hf

theorem TypeScript.exitStatus_eq_zero_iff {body : σ → α → Except JsError (Verdict σ)}
    {fine : α → Prop} (h : Counting body update hit count limit fine) (hs : count s = 0) :
    TypeScript.exitStatus (run body s as) finish = some 0 ↔
      Reached hit limit as ∧ ∀ a ∈ window hit limit as, fine a := by
  rcases h.run_cases hs as with ⟨s', hr, hl, _⟩ | ⟨k, s', hr, hl, hf⟩ | ⟨k, e, hr, hf⟩
  · rw [hr, iff_false_right fun hp => not_reached_iff.mpr hl hp.1]
    cases finish with
    | interrupted signal => cases signal <;> simp [exitStatus, Interrupt.status]
    | _ => simp [exitStatus]
  · rw [hr]
    exact iff_of_true rfl ⟨hl, hf⟩
  · rw [hr, iff_false_right fun hp => hf hp.2]
    simp [exitStatus]

end Counting

/-- Given the same limit, updates and end of the stream, an indexer exits with status zero
in TypeScript exactly when it has reached its limit and could read every update up to there.
In Rust and Go it does so without any hit too, when the stream ends, and in Go when it is
interrupted. -/
theorem exits_cleanly_iff {computeBudgetId : Address} (bs58Encode : Bytes → String)
    (sdk : Go.SolanaGo) (pkg : TypeScript.Packages computeBudgetId) (limit : UInt64)
    (updates : List (SubscribeUpdate Message)) (finish : Finish) :
    ((Rust.exitStatus (Rust.txRun bs58Encode computeBudgetId limit updates) finish = some 0 ↔
        Reached isV1Update (max limit.toNat 1) updates ∨ finish = .ended) ∧
      (Go.exitStatus (Go.txRun sdk computeBudgetId limit updates) finish = some 0 ↔
        Reached isV1Update limit.toNat updates ∨ finish = .ended ∨
          ∃ signal, finish = .interrupted signal) ∧
      (TypeScript.exitStatus (TypeScript.txRun pkg limit updates) finish = some 0 ↔
        Reached isV1Update limit.toNat updates ∧
          ∀ update ∈ window isV1Update limit.toNat updates,
            TypeScript.CanPrint computeBudgetId update)) ∧
    ((Rust.exitStatus (Rust.blockRun bs58Encode computeBudgetId limit updates) finish = some 0 ↔
        Reached isV1BlockUpdate (max limit.toNat 1) updates ∨ finish = .ended) ∧
      (Go.exitStatus (Go.blockRun sdk computeBudgetId limit updates) finish = some 0 ↔
        Reached isV1BlockUpdate limit.toNat updates ∨ finish = .ended ∨
          ∃ signal, finish = .interrupted signal) ∧
      (TypeScript.exitStatus (TypeScript.blockRun pkg limit updates) finish = some 0 ↔
        Reached isV1BlockUpdate limit.toNat updates ∧
          ∀ update ∈ window isV1BlockUpdate limit.toNat updates,
            TypeScript.CanReport computeBudgetId update)) := by
  constructor
  · refine ⟨?_, ?_, ?_⟩
    · exact Rust.exitStatus_eq_zero_iff (Rust.txBody_counting bs58Encode computeBudgetId _) rfl
    · exact Go.exitStatus_eq_zero_iff (Go.txBody_counting sdk computeBudgetId limit) rfl
    · exact TypeScript.exitStatus_eq_zero_iff (TypeScript.txRun_counting pkg limit.toNat) rfl
  · refine ⟨?_, ?_, ?_⟩
    · exact Rust.exitStatus_eq_zero_iff (Rust.blockBody_counting bs58Encode computeBudgetId _) rfl
    · exact Go.exitStatus_eq_zero_iff (Go.blockBody_counting sdk computeBudgetId limit) rfl
    · exact TypeScript.exitStatus_eq_zero_iff (TypeScript.blockRun_counting pkg limit.toNat) rfl

end TransactionV1

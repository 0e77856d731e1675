import TransactionV1.Indexer.Go
import TransactionV1.Indexer.Rust
import Mathlib.Algebra.Order.BigOperators.Group.List

/-! # What a block report adds up to

The Rust report of a block is exact up to one cut-off of the fee total, and does
not depend on the order of the transactions. The Go report has the same tally,
and the same fee total unless the sum of the fees wraps.
-/

namespace TransactionV1

open Accumulation

section Fees

variable (computeBudgetId : Address)

/-- The fee of a message in the Rust reader, zero when absent. -/
def feeOf (message : Message) : ℕ :=
  ((Rust.ComputeBudget.ofMessage computeBudgetId message).priorityFeeLamports.getD 0).toNat

def feeSum (block : SubscribeUpdateBlock Message) : ℕ :=
  (block.messages.map (feeOf computeBudgetId)).sum

theorem feeOf_lt (message : Message) : feeOf computeBudgetId message < 2 ^ 64 :=
  UInt64.toNat_lt _

theorem feeOf_le_feeSum {block : SubscribeUpdateBlock Message} {message : Message}
    (h : message ∈ block.messages) : feeOf computeBudgetId message ≤ feeSum computeBudgetId block :=
  List.single_le_sum (fun _ _ => Nat.zero_le _) _ (List.mem_map_of_mem h)

theorem Rust.toNat_foldl_addFee (messages : List Message) :
    (messages.foldl (Rust.addFee computeBudgetId) 0).toNat =
      cappedSum (2 ^ 64 - 1) (messages.map (feeOf computeBudgetId)) := by
  have hh : messages.foldl (fun total message =>
        min (total + feeOf computeBudgetId message) (2 ^ 64 - 1)) (UInt64.toNat 0) =
      (messages.foldl (Rust.addFee computeBudgetId) 0).toNat :=
    List.foldl_hom UInt64.toNat fun total message => by
      rw [Rust.addFee, Word.toNat_saturatingAdd64, feeOf]
  rw [← hh, cappedSum, List.foldl_map]
  rfl

theorem Go.toNat_fee (sdk : Go.SolanaGo) {message : Message} (h : message.Bounded) :
    ((Go.budget sdk computeBudgetId message).priorityFee.getD 0).toNat =
      feeOf computeBudgetId message := by
  rw [Go.budget, Go.budgetOfMessage_eq sdk computeBudgetId h, Fallible.valueD_ok]
  rfl

theorem Go.toNat_foldl_addFee (sdk : Go.SolanaGo) {messages : List Message}
    (h : ∀ message ∈ messages, message.Bounded) :
    (messages.foldl (Go.addFee sdk computeBudgetId) 0).toNat =
      wrappedSum (2 ^ 64) (messages.map (feeOf computeBudgetId)) := by
  have hh : messages.foldl (fun total message =>
        (total + ((Go.budget sdk computeBudgetId message).priorityFee.getD 0).toNat) % 2 ^ 64)
        (UInt64.toNat 0) =
      (messages.foldl (Go.addFee sdk computeBudgetId) 0).toNat :=
    List.foldl_hom UInt64.toNat fun total message => by
      rw [Go.addFee, UInt64.toNat_add]
  have hm : messages.map (feeOf computeBudgetId) = messages.map fun message =>
      ((Go.budget sdk computeBudgetId message).priorityFee.getD 0).toNat :=
    List.map_congr_left fun message hm => (Go.toNat_fee computeBudgetId sdk (h message hm)).symm
  rw [← hh, hm, wrappedSum, List.foldl_map]
  rfl

end Fees

section Exact

variable (bs58Encode : Bytes → String) (computeBudgetId : Address)

def isV1Transaction (transaction : SubscribeUpdateTransactionInfo Message) : Bool :=
  transaction.message?.any fun message => Rust.messageVersion message = .v1

theorem messages_perm {block block' : SubscribeUpdateBlock Message}
    (h : block'.transactions.Perm block.transactions) : block'.messages.Perm block.messages :=
  h.filterMap _

theorem filterMap_v1Entry_eq_map (transactions : List (SubscribeUpdateTransactionInfo Message)) :
    transactions.filterMap (v1Entry (Rust.v1Transaction bs58Encode)) =
      (transactions.filter isV1Transaction).map fun transaction =>
        (bs58Encode transaction.signature, transaction.message?.bind (·.config)) := by
  induction transactions with
  | nil => rfl
  | cons transaction transactions ih =>
    cases hm : transaction.message? with
    | none => simp [v1Entry, isV1Transaction, hm, ih]
    | some message =>
      by_cases hc : message.config.isSome = true <;>
        simp [v1Entry, isV1Transaction, hm, hc, ih, Rust.v1Transaction,
          Rust.messageVersion_eq_v1_iff]

/-- The report of a block, and of the same transactions in another order: the fee
total and the tally do not depend on the order and are exact, up to one cut-off of
the total, and the v1 list is that of the block. -/
theorem rust_blockReport_exact {block block' : SubscribeUpdateBlock Message}
    (h : block'.transactions.Perm block.transactions) :
    let report := Rust.blockReport bs58Encode computeBudgetId block
    let report' := Rust.blockReport bs58Encode computeBudgetId block'
    report.priorityFeeLamports.toNat = min (feeSum computeBudgetId block) (2 ^ 64 - 1) ∧
      report'.priorityFeeLamports = report.priorityFeeLamports ∧
      report.tally.legacy = block.messages.countP (Rust.messageVersion · = .legacy) ∧
      report.tally.v0 = block.messages.countP (Rust.messageVersion · = .v0) ∧
      report.tally.v1 = block.messages.countP (Rust.messageVersion · = .v1) ∧
      report'.tally = report.tally ∧
      report.tally.total = (block.transactions.filter (·.message?.isSome)).length ∧
      report.v1Transactions = (block.transactions.filter isV1Transaction).map (fun transaction =>
        (bs58Encode transaction.signature, transaction.message?.bind (·.config))) ∧
      report.v1Transactions.length = report.tally.v1 := by
  have hp := messages_perm h
  have hv : ∀ version, (block.messages.map Rust.messageVersion).count version =
      block.messages.countP (Rust.messageVersion · = version) := fun version => by
    rw [List.count, List.countP_map]
    rfl
  simp only [Rust.blockReport_eq]
  refine ⟨?_, ?_, hv _, hv _, hv _, ?_, ?_, ?_, ?_⟩
  · rw [Rust.toNat_foldl_addFee, cappedSum_eq, feeSum]
  · rw [← UInt64.toNat_inj, Rust.toNat_foldl_addFee, Rust.toNat_foldl_addFee,
      cappedSum_perm _ (hp.map (feeOf computeBudgetId))]
  · simp only [SubscribeUpdateBlock.tally, VersionTally.ofVersions,
      (hp.map Rust.messageVersion).count_eq]
  · rw [SubscribeUpdateBlock.tally, VersionTally.total_ofVersions, List.length_map,
      SubscribeUpdateBlock.messages, List.length_filterMap_eq_countP,
      ← List.countP_eq_length_filter]
  · exact filterMap_v1Entry_eq_map bs58Encode _
  · rw [length_filterMap_v1Entry]
    exact (count_v1_versions block.messages).symm

/-- At a block of a v0 and a v1 transaction, with one without a message between them. -/
theorem rust_blockReport_exact_of_swapped :
    let v0 : SubscribeUpdateTransactionInfo Message := ⟨[7], some ⟨some
      { accountKeys := [Address.computeBudget.bytes]
        instructions := [⟨0, [], [3, 64, 66, 15, 0, 0, 0, 0, 0]⟩]
        versioned := true }⟩⟩
    let bare : SubscribeUpdateTransactionInfo Message := ⟨[8], some ⟨none⟩⟩
    let v1 : SubscribeUpdateTransactionInfo Message := ⟨[9], some ⟨some
      { versioned := true, config := some ⟨some 5000, none, none, none⟩ }⟩⟩
    let block : SubscribeUpdateBlock Message := ⟨1, 3, [v0, bare, v1]⟩
    let block' : SubscribeUpdateBlock Message := ⟨1, 3, [v1, bare, v0]⟩
    let report := Rust.blockReport Base58.encode .computeBudget block
    let report' := Rust.blockReport Base58.encode .computeBudget block'
    report.priorityFeeLamports.toNat = min (feeSum .computeBudget block) (2 ^ 64 - 1) ∧
      report'.priorityFeeLamports = report.priorityFeeLamports ∧
      report.tally.legacy = block.messages.countP (Rust.messageVersion · = .legacy) ∧
      report.tally.v0 = block.messages.countP (Rust.messageVersion · = .v0) ∧
      report.tally.v1 = block.messages.countP (Rust.messageVersion · = .v1) ∧
      report'.tally = report.tally ∧
      report.tally.total = (block.transactions.filter (·.message?.isSome)).length ∧
      report.v1Transactions = (block.transactions.filter isV1Transaction).map (fun transaction =>
        (Base58.encode transaction.signature, transaction.message?.bind (·.config))) ∧
      report.v1Transactions.length = report.tally.v1 :=
  rust_blockReport_exact Base58.encode .computeBudget (List.reverse_perm [_, _, _])

end Exact

section Wrapping

variable (sdk : Go.SolanaGo) (bs58Encode : Bytes → String) (computeBudgetId : Address)

/-- The Go report of a block agrees with the Rust report on tally and fee total, and
its total is no smaller than any single fee. -/
def ReportsAgree (block : SubscribeUpdateBlock Message) : Prop :=
  ∃ report, Go.blockReport sdk computeBudgetId block = .ok report ∧
    report.tally = (Rust.blockReport bs58Encode computeBudgetId block).tally ∧
    report.priorityFeeLamports =
      (Rust.blockReport bs58Encode computeBudgetId block).priorityFeeLamports ∧
    ∀ message ∈ block.messages,
      feeOf computeBudgetId message ≤ report.priorityFeeLamports.toNat

/-- The reports agree exactly when the fees add up to at most the largest word, or
wrap around to it. -/
theorem reportsAgree_iff {block : SubscribeUpdateBlock Message}
    (h : ∀ message ∈ block.messages, message.Bounded) :
    ReportsAgree sdk bs58Encode computeBudgetId block ↔
      feeSum computeBudgetId block < 2 ^ 64 ∨
        feeSum computeBudgetId block % 2 ^ 64 = 2 ^ 64 - 1 := by
  have hiff := wrappedSum_eq_cappedSum_iff (2 ^ 64 - 1) (block.messages.map (feeOf computeBudgetId))
  simp only [ReportsAgree, Go.blockReport_eq, Rust.blockReport_eq, Except.ok.injEq,
    exists_eq_left', true_and, ← UInt64.toNat_inj, Go.toNat_foldl_addFee computeBudgetId sdk h,
    Rust.toNat_foldl_addFee]
  constructor
  · rintro ⟨he, -⟩
    exact (hiff.mp he).imp_left Nat.lt_succ_of_le
  · intro hs
    have he : wrappedSum (2 ^ 64) (block.messages.map (feeOf computeBudgetId)) =
        cappedSum (2 ^ 64 - 1) (block.messages.map (feeOf computeBudgetId)) :=
      hiff.mpr (hs.imp_left Nat.le_of_lt_succ)
    refine ⟨he, fun message hm => ?_⟩
    rw [he, cappedSum_eq]
    exact le_min (feeOf_le_feeSum computeBudgetId hm)
      (Nat.le_of_lt_succ (feeOf_lt computeBudgetId message))

end Wrapping

/-- Two v1 transactions whose fees add up to `2 ^ 64`. -/
def wrappingBlock : SubscribeUpdateBlock Message where
  slot := 1
  executedTransactionCount := 2
  transactions := [
    ⟨[1], some ⟨some { versioned := true, config := some ⟨some Word.max64, none, none, none⟩ }⟩⟩,
    ⟨[2], some ⟨some { versioned := true, config := some ⟨some 1, none, none, none⟩ }⟩⟩]

/-- The Go total wraps to zero, below either fee, where the Rust total saturates. -/
theorem not_reportsAgree_wrappingBlock :
    (∃ report, Go.blockReport .copying .computeBudget wrappingBlock = .ok report ∧
      report.priorityFeeLamports = 0) ∧
      (Rust.blockReport Base58.encode .computeBudget wrappingBlock).priorityFeeLamports =
        Word.max64 ∧
      ¬ ReportsAgree .copying Base58.encode .computeBudget wrappingBlock := by
  refine ⟨⟨_, Go.blockReport_eq .., by decide⟩, by decide, ?_⟩
  rintro ⟨report, hg, -, hf, -⟩
  rw [Go.blockReport_eq, Except.ok.injEq] at hg
  subst hg
  revert hf
  decide

theorem reportsAgree_iff_of_wrappingBlock :
    ReportsAgree .copying Base58.encode .computeBudget wrappingBlock ↔
      feeSum .computeBudget wrappingBlock < 2 ^ 64 ∨
        feeSum .computeBudget wrappingBlock % 2 ^ 64 = 2 ^ 64 - 1 :=
  reportsAgree_iff .copying Base58.encode .computeBudget (by
    intro message hm
    simp only [wrappingBlock, SubscribeUpdateBlock.messages,
      SubscribeUpdateTransactionInfo.message?, List.filterMap_cons, Option.bind_some,
      List.filterMap_nil, List.mem_cons, List.not_mem_nil, or_false] at hm
    rcases hm with rfl | rfl <;> exact ⟨by decide, by decide⟩)

end TransactionV1

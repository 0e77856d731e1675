import TransactionV1.Budget.Go
import TransactionV1.Indexer.Report
import TransactionV1.Message.Text

/-! # The Go indexers

The loops of `go/cmd/grpc-tx-indexer/main.go` and
`go/cmd/grpc-block-indexer/main.go`. A limit of zero is no limit, and the fees of
a block are added up with wrapping.
-/

namespace TransactionV1.Go

open EventLoop Fallible

variable (sdk : SolanaGo) (computeBudgetId : Address)

section Transactions

def txBody (exitAfterV1 : UInt64) (s : TxState UInt32 UInt64) (update : SubscribeUpdate Message) :
    Except Panic (Verdict (TxState UInt32 UInt64)) :=
  match update.transaction? with
  | none => return .next s
  | some transaction =>
    match transaction.transaction with
    | none => return .next s
    | some info =>
      match info.transaction.bind (·.message) with
      | none => return .next s
      | some message => do
        let version := messageVersionOf message
        let tally := record s.tally version
        let budget ← budgetOfMessage sdk computeBudgetId message
        let line : TxReport UInt32 UInt64 :=
          { slot := transaction.slot
            version := version
            computeUnitLimit := budget.computeUnitLimit
            priorityFee := budget.priorityFee
            signature := sdk.toBase58 (sdk.signatureFromBytes info.signature)
            v1 := none }
        if version ≠ .v1 then
          return .next ⟨tally, s.reports ++ [line]⟩
        let config ← deref message.config
        let details : V1Report :=
          { config := some (formatGRPCConfig config "  ")
            lifetimeSpecifier := sdk.toBase58 (sdk.hashFromBytes message.recentBlockhash)
            addressTableLookups := message.addressTableLookups.length
            tally := tally }
        let s : TxState UInt32 UInt64 := ⟨tally, s.reports ++ [{ line with v1 := some details }]⟩
        if exitAfterV1 > 0 ∧ exitAfterV1.toNat ≤ tally.v1 then
          return .stop s
        return .next s

/-- The budget the accessor returns, which it does for every message. -/
def budget (message : Message) : TransactionConfig :=
  valueD ⟨none, none, none, none⟩ (budgetOfMessage sdk computeBudgetId message)

def txReport (update : SubscribeUpdateTransaction Message)
    (info : SubscribeUpdateTransactionInfo Message) (message : Message) (tally : VersionTally) :
    TxReport UInt32 UInt64 where
  slot := update.slot
  version := Rust.messageVersion message
  computeUnitLimit := (budget sdk computeBudgetId message).computeUnitLimit
  priorityFee := (budget sdk computeBudgetId message).priorityFee
  signature := sdk.toBase58 (sdk.signatureFromBytes info.signature)
  v1 := message.config.map fun config =>
    { config := some (formatGRPCConfig config "  ")
      lifetimeSpecifier := sdk.toBase58 (sdk.hashFromBytes message.recentBlockhash)
      addressTableLookups := message.addressTableLookups.length
      tally := tally }

end Transactions

section Blocks

/-- `v1Transaction`: its signature, as printed, and its config. -/
abbrev V1Transaction := String × Option TransactionConfig

def BlockScan.step (s : BlockScan UInt64 V1Transaction)
    (transaction : SubscribeUpdateTransactionInfo Message) :
    Except Panic (BlockScan UInt64 V1Transaction) :=
  match transaction.transaction.bind (·.message) with
  | none => return s
  | some message => do
    let version := messageVersionOf message
    let tally := record s.tally version
    let budget ← budgetOfMessage sdk computeBudgetId message
    let priorityFeeLamports := match budget.priorityFee with
      | some fee => s.priorityFeeLamports + fee
      | none => s.priorityFeeLamports
    let v1Transactions :=
      if version = .v1 then
        s.v1Transactions ++
          [(sdk.toBase58 (sdk.signatureFromBytes transaction.signature), message.config)]
      else s.v1Transactions
    return ⟨tally, v1Transactions, priorityFeeLamports⟩

/-- What the block indexer computes from a block and prints. -/
def blockReport (block : SubscribeUpdateBlock Message) :
    Except Panic (BlockReport UInt64 V1Transaction) := do
  let scan ← block.transactions.foldlM (BlockScan.step sdk computeBudgetId) ⟨{}, [], 0⟩
  return {
    slot := block.slot
    executedTransactionCount := block.executedTransactionCount
    tally := scan.tally
    priorityFeeLamports := scan.priorityFeeLamports
    v1Transactions := scan.v1Transactions }

def blockBody (exitAfterV1Blocks : UInt64) (s : BlockState UInt64 V1Transaction)
    (update : SubscribeUpdate Message) :
    Except Panic (Verdict (BlockState UInt64 V1Transaction)) :=
  match update.block? with
  | none => return .next s
  | some block => do
    let report ← blockReport sdk computeBudgetId block
    let reports := s.reports ++ [report]
    if report.v1Transactions.length > 0 then
      let blocksWithV1 := s.blocksWithV1 + 1
      if exitAfterV1Blocks > 0 ∧ exitAfterV1Blocks.toNat ≤ blocksWithV1 then
        return .stop ⟨blocksWithV1, reports⟩
      return .next ⟨blocksWithV1, reports⟩
    return .next ⟨s.blocksWithV1, reports⟩

end Blocks

theorem budgetOfMessage_eq_ok (message : Message) :
    budgetOfMessage sdk computeBudgetId message = .ok (budget sdk computeBudgetId message) :=
  (budgetOfMessage_succeeds sdk computeBudgetId message).eq_ok_valueD _

theorem pos_and_le_iff {limit : UInt64} {count : ℕ} :
    (limit > 0 ∧ limit.toNat ≤ count) ↔ 0 < limit.toNat ∧ limit.toNat ≤ count := by
  rw [gt_iff_lt, UInt64.lt_iff_toNat_lt, UInt64.toNat_zero]

theorem txBody_counting (exitAfterV1 : UInt64) :
    Counting (txBody sdk computeBudgetId exitAfterV1)
      (TxState.record (txReport sdk computeBudgetId)) isV1Update (·.tally.v1)
      exitAfterV1.toNat (fun _ => True) where
  count_update := TxState.v1_record _
  body_fine s update _ := by
    rw [txBody, TxState.record, isV1Update, SubscribeUpdate.message?]
    cases update.transaction? with
    | none => rfl
    | some transaction =>
      cases hi : transaction.transaction with
      | none => simp [hi, Verdict.stopIf]
      | some info =>
        have hb : info.transaction.bind (·.message) = info.message? := rfl
        cases hm : info.message? with
        | none => simp [hi, hb, hm, Verdict.stopIf]
        | some message =>
          cases hc : message.config with
          | some config =>
            have hv : Rust.messageVersion message = .v1 :=
              Rust.messageVersion_eq_v1_iff.mpr (by rw [hc]; rfl)
            simp only [hi, hb, hm, hv, hc, budgetOfMessage_eq_ok, messageVersionOf_eq, record_eq,
              deref, Option.bind_some, Option.any_some, ne_eq, not_true_eq_false, if_false, ok_bind,
              pure_eq_ok, pos_and_le_iff, Verdict.stopIf, txReport, true_and, Option.isSome_some,
              Option.map_some]
            split_ifs <;> rfl
          | none =>
            have hv : Rust.messageVersion message ≠ .v1 := by
              simp [Rust.messageVersion_eq_v1_iff, hc]
            simp [hi, hb, hm, hv, hc, budgetOfMessage_eq_ok, Verdict.stopIf, txReport]
  body_error _ _ h := absurd trivial h

def v1Transaction (info : SubscribeUpdateTransactionInfo Message) (message : Message) :
    V1Transaction :=
  (sdk.toBase58 (sdk.signatureFromBytes info.signature), message.config)

/-- Add the fee of a message, when it has one, to a total that wraps. -/
def addFee (total : UInt64) (message : Message) : UInt64 :=
  total + (budget sdk computeBudgetId message).priorityFee.getD 0

theorem BlockScan.step_eq (s : BlockScan UInt64 V1Transaction)
    (transaction : SubscribeUpdateTransactionInfo Message) :
    BlockScan.step sdk computeBudgetId s transaction =
      .ok (BlockScan.count (v1Transaction sdk) (addFee sdk computeBudgetId) s transaction) := by
  have hb : transaction.transaction.bind (·.message) = transaction.message? := rfl
  rw [BlockScan.step, BlockScan.count, hb]
  cases transaction.message? with
  | none => rfl
  | some message =>
    cases hf : (budget sdk computeBudgetId message).priorityFee <;>
      simp [budgetOfMessage_eq_ok, Rust.messageVersion_eq_v1_iff, v1Transaction, addFee, hf]

/-- What the block indexer reports: the tally of the block, its fees added up with
wrapping, and its v1 transactions in order. -/
theorem blockReport_eq (block : SubscribeUpdateBlock Message) :
    blockReport sdk computeBudgetId block = .ok
      { slot := block.slot
        executedTransactionCount := block.executedTransactionCount
        tally := block.tally
        priorityFeeLamports := block.messages.foldl (addFee sdk computeBudgetId) 0
        v1Transactions := block.transactions.filterMap (v1Entry (v1Transaction sdk)) } := by
  have hs : block.transactions.foldlM (BlockScan.step sdk computeBudgetId) ⟨{}, [], 0⟩ =
      .ok (block.transactions.foldl
        (BlockScan.count (v1Transaction sdk) (addFee sdk computeBudgetId)) ⟨{}, [], 0⟩) :=
    foldlM_of_ok id (BlockScan.step_eq sdk computeBudgetId) _ _
  rw [blockReport, hs, BlockScan.foldl_count_block]
  rfl

theorem blockBody_counting (exitAfterV1Blocks : UInt64) :
    Counting (blockBody sdk computeBudgetId exitAfterV1Blocks)
      (BlockState.record fun block => valueD ⟨0, 0, {}, 0, []⟩
        (blockReport sdk computeBudgetId block))
      isV1BlockUpdate (·.blocksWithV1) exitAfterV1Blocks.toNat (fun _ => True) where
  count_update := BlockState.blocksWithV1_record _
  body_fine s update _ := by
    rw [blockBody, BlockState.record, isV1BlockUpdate]
    cases update.block? with
    | none => rfl
    | some block =>
      have hl : 0 < (block.transactions.filterMap (v1Entry (v1Transaction sdk))).length ↔
          block.hasV1 = true := by
        rw [List.length_pos_iff_ne_nil, ne_eq, ← List.isEmpty_iff, isEmpty_filterMap_v1Entry]
        simp
      simp only [blockReport_eq, ok_bind, pure_eq_ok, gt_iff_lt, hl, valueD_ok, Option.any_some]
      by_cases hv : block.hasV1 = true
      · simp only [hv, if_true, ← gt_iff_lt, pos_and_le_iff, Verdict.stopIf, true_and]
        split_ifs <;> rfl
      · simp [hv, Verdict.stopIf]
  body_error _ _ h := absurd trivial h

end TransactionV1.Go

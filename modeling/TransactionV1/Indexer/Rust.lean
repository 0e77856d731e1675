import TransactionV1.Budget.Rust
import TransactionV1.Indexer.Report
import TransactionV1.Message.Text

/-! # The Rust indexers

The loops of `rust/src/bin/grpc-tx-indexer.rs` and
`rust/src/bin/grpc-block-indexer.rs`. Neither body can fail. The limit is
optional, and a limit of zero is reached at the first hit.
-/

namespace TransactionV1.Rust

open EventLoop

variable (bs58Encode : Bytes → String) (computeBudgetId : Address)

section Transactions

/-- The body of the transaction indexer's loop. The line that announces the stop
is the verdict. -/
def txBody (exitAfterV1 : Option UInt64) (s : TxState UInt32 UInt64)
    (update : SubscribeUpdate Message) : Except Empty (Verdict (TxState UInt32 UInt64)) :=
  match update.transaction? with
  | none => .ok (.next s)
  | some update =>
    match update.transaction with
    | none => .ok (.next s)
    | some info =>
      let signature := bs58Encode info.signature
      match info.transaction.bind (·.message) with
      | none => .ok (.next s)
      | some message =>
        let version := messageVersion message
        let tally := record s.tally version
        let budget := ComputeBudget.ofMessage computeBudgetId message
        let line : TxReport UInt32 UInt64 :=
          { slot := update.slot
            version := version
            computeUnitLimit := budget.computeUnitLimit
            priorityFee := budget.priorityFeeLamports
            signature := signature
            v1 := none }
        if version ≠ .v1 then .ok (.next ⟨tally, s.reports ++ [line]⟩)
        else
          let details : V1Report :=
            { config := message.config.map fun config => describeConfig config "  "
              lifetimeSpecifier := bs58Encode message.recentBlockhash
              addressTableLookups := message.addressTableLookups.length
              tally := tally }
          let s : TxState UInt32 UInt64 := ⟨tally, s.reports ++ [{ line with v1 := some details }]⟩
          if exitAfterV1.any fun limit => decide (limit.toNat ≤ tally.v1) then .ok (.stop s)
          else .ok (.next s)

def txReport (update : SubscribeUpdateTransaction Message)
    (info : SubscribeUpdateTransactionInfo Message) (message : Message) (tally : VersionTally) :
    TxReport UInt32 UInt64 where
  slot := update.slot
  version := messageVersion message
  computeUnitLimit := (ComputeBudget.ofMessage computeBudgetId message).computeUnitLimit
  priorityFee := (ComputeBudget.ofMessage computeBudgetId message).priorityFeeLamports
  signature := bs58Encode info.signature
  v1 := if message.config.isSome then
      some
        { config := message.config.map fun config => describeConfig config "  "
          lifetimeSpecifier := bs58Encode message.recentBlockhash
          addressTableLookups := message.addressTableLookups.length
          tally := tally }
    else none

end Transactions

section Blocks

def BlockScan.step (s : BlockScan UInt64 (String × Option TransactionConfig))
    (transaction : SubscribeUpdateTransactionInfo Message) :
    BlockScan UInt64 (String × Option TransactionConfig) :=
  match transaction.transaction.bind (·.message) with
  | none => s
  | some message =>
    let version := messageVersion message
    { tally := record s.tally version
      priorityFeeLamports := Word.saturatingAdd64 s.priorityFeeLamports
        ((ComputeBudget.ofMessage computeBudgetId message).priorityFeeLamports.getD 0)
      v1Transactions :=
        if version = .v1 then
          s.v1Transactions ++ [(bs58Encode transaction.signature, message.config)]
        else s.v1Transactions }

/-- What the block indexer computes from a block and prints. -/
def blockReport (block : SubscribeUpdateBlock Message) :
    BlockReport UInt64 (String × Option TransactionConfig) :=
  let scan := block.transactions.foldl (BlockScan.step bs58Encode computeBudgetId) ⟨{}, [], 0⟩
  { slot := block.slot
    executedTransactionCount := block.executedTransactionCount
    tally := scan.tally
    priorityFeeLamports := scan.priorityFeeLamports
    v1Transactions := scan.v1Transactions }

def blockBody (exitAfterV1Blocks : Option UInt64)
    (s : BlockState UInt64 (String × Option TransactionConfig))
    (update : SubscribeUpdate Message) :
    Except Empty (Verdict (BlockState UInt64 (String × Option TransactionConfig))) :=
  match update.block? with
  | none => .ok (.next s)
  | some block =>
    let report := blockReport bs58Encode computeBudgetId block
    let reports := s.reports ++ [report]
    if !report.v1Transactions.isEmpty then
      let blocksWithV1 := s.blocksWithV1 + 1
      if exitAfterV1Blocks.any fun limit => decide (limit.toNat ≤ blocksWithV1) then
        .ok (.stop ⟨blocksWithV1, reports⟩)
      else .ok (.next ⟨blocksWithV1, reports⟩)
    else .ok (.next ⟨s.blocksWithV1, reports⟩)

end Blocks

/-- The number of hits an optional limit stops at, or zero for none. -/
def stopsAt (limit : Option UInt64) : ℕ := limit.elim 0 fun limit => max limit.toNat 1

theorem any_le_iff {limit : Option UInt64} {count : ℕ} (h : 0 < count) :
    (limit.any fun limit => decide (limit.toNat ≤ count)) = true ↔
      0 < stopsAt limit ∧ stopsAt limit ≤ count := by
  cases limit with
  | none => simp [stopsAt]
  | some limit =>
    simp only [Option.any_some, decide_eq_true_eq, stopsAt, Option.elim_some]
    omega

theorem txBody_counting (exitAfterV1 : Option UInt64) :
    Counting (txBody bs58Encode computeBudgetId exitAfterV1)
      (TxState.record (txReport bs58Encode computeBudgetId)) isV1Update (·.tally.v1)
      (stopsAt exitAfterV1) (fun _ => True) where
  count_update := TxState.v1_record _
  body_fine s update _ := by
    rw [txBody, TxState.record, isV1Update, SubscribeUpdate.message?]
    cases update.transaction? with
    | none => rfl
    | some transaction =>
      cases hi : transaction.transaction with
      | none => simp [hi, Verdict.stopIf]
      | some info =>
        have hb : info.transaction.bind (·.message) = info.message? := rfl
        cases hm : info.message? with
        | none => simp [hi, hb, hm, Verdict.stopIf]
        | some message =>
          by_cases hc : message.config.isSome = true
          · have hv := messageVersion_eq_v1_iff.mpr hc
            have hpos : 0 < (record s.tally .v1).v1 := Nat.succ_pos _
            simp only [hi, hb, hm, hv, hc, Option.bind_some, Option.any_some, ne_eq,
              not_true_eq_false, if_false, any_le_iff hpos, Verdict.stopIf, txReport, true_and,
              if_true]
            split_ifs <;> rfl
          · have hv : messageVersion message ≠ .v1 := fun h => hc (messageVersion_eq_v1_iff.mp h)
            simp [hi, hb, hm, hv, hc, Verdict.stopIf, txReport]
  body_error _ _ h := absurd trivial h

def v1Transaction (info : SubscribeUpdateTransactionInfo Message) (message : Message) :
    String × Option TransactionConfig :=
  (bs58Encode info.signature, message.config)

def addFee (total : UInt64) (message : Message) : UInt64 :=
  Word.saturatingAdd64 total
    ((ComputeBudget.ofMessage computeBudgetId message).priorityFeeLamports.getD 0)

theorem BlockScan.step_eq (s : BlockScan UInt64 (String × Option TransactionConfig))
    (transaction : SubscribeUpdateTransactionInfo Message) :
    BlockScan.step bs58Encode computeBudgetId s transaction =
      BlockScan.count (v1Transaction bs58Encode) (addFee computeBudgetId) s transaction := by
  have hb : transaction.transaction.bind (·.message) = transaction.message? := rfl
  rw [BlockScan.step, BlockScan.count, hb]
  cases transaction.message? with
  | none => rfl
  | some message =>
    simp only [messageVersion_eq_v1_iff, v1Transaction, addFee]

/-- What the block indexer reports: the tally of the block, its fees added up with
saturation, and its v1 transactions in order. -/
theorem blockReport_eq (block : SubscribeUpdateBlock Message) :
    blockReport bs58Encode computeBudgetId block =
      { slot := block.slot
        executedTransactionCount := block.executedTransactionCount
        tally := block.tally
        priorityFeeLamports := block.messages.foldl (addFee computeBudgetId) 0
        v1Transactions := block.transactions.filterMap (v1Entry (v1Transaction bs58Encode)) } := by
  have hs : BlockScan.step bs58Encode computeBudgetId =
      BlockScan.count (v1Transaction bs58Encode) (addFee computeBudgetId) := by
    ext s transaction : 2
    exact BlockScan.step_eq bs58Encode computeBudgetId s transaction
  rw [blockReport, hs, BlockScan.foldl_count_block]

theorem blockBody_counting (exitAfterV1Blocks : Option UInt64) :
    Counting (blockBody bs58Encode computeBudgetId exitAfterV1Blocks)
      (BlockState.record (blockReport bs58Encode computeBudgetId)) isV1BlockUpdate
      (·.blocksWithV1) (stopsAt exitAfterV1Blocks) (fun _ => True) where
  count_update := BlockState.blocksWithV1_record _
  body_fine s update _ := by
    rw [blockBody, BlockState.record, isV1BlockUpdate]
    cases update.block? with
    | none => rfl
    | some block =>
      have he : (blockReport bs58Encode computeBudgetId block).v1Transactions.isEmpty =
          !block.hasV1 := by rw [blockReport_eq, isEmpty_filterMap_v1Entry]
      simp only [he, Bool.not_not, Option.any_some]
      by_cases hv : block.hasV1 = true
      · simp only [hv, if_true, any_le_iff (Nat.succ_pos _), Verdict.stopIf, true_and]
        split_ifs <;> rfl
      · simp [hv, Verdict.stopIf]
  body_error _ _ h := absurd trivial h

end TransactionV1.Rust

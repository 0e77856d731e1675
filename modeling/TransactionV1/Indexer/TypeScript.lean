import TransactionV1.Budget.TypeScript
import TransactionV1.Indexer.Report

/-! # The TypeScript indexers

The handlers of `ts/kit/src/grpc-tx-indexer.ts` and
`ts/kit/src/grpc-block-indexer.ts`. An error thrown in a handler ends the
process. A limit of zero is no limit, and the fees of a block are added up
exactly.
-/

namespace TransactionV1.TypeScript

open EventLoop Fallible

variable {computeBudgetId : Address} (pkg : Packages computeBudgetId)

section Transactions

def txBody (exitAfterV1 : ℕ) (s : TxState ℕ ℤ) (update : SubscribeUpdate GrpcMessage) :
    Except JsError (Verdict (TxState ℕ ℤ)) :=
  match update.transaction? with
  | none => return .next s
  | some transaction =>
    match transaction.transaction with
    | none => return .next s
    | some info =>
      match info.transaction.bind (·.message) with
      | none => return .next s
      | some message => do
        let version := messageVersion message
        let tally := record s.tally version
        let budget ← computeBudgetOfMessage pkg message
        let line : TxReport ℕ ℤ :=
          { slot := transaction.slot
            version := version
            computeUnitLimit := budget.computeUnitLimit
            priorityFee := budget.priorityFeeLamports
            signature := pkg.base58Decoder info.signature
            v1 := none }
        if version ≠ .v1 then
          return .next ⟨tally, s.reports ++ [line]⟩
        let lifetimeSpecifier ← pkg.blockhashDecoder message.recentBlockhash
        let details : V1Report :=
          { config := some (formatComputeBudget budget "  ")
            lifetimeSpecifier := lifetimeSpecifier
            addressTableLookups := message.addressTableLookups.length
            tally := tally }
        let s : TxState ℕ ℤ := ⟨tally, s.reports ++ [{ line with v1 := some details }]⟩
        if exitAfterV1 > 0 ∧ tally.v1 ≥ exitAfterV1 then
          return .stop s
        return .next s

def budget (message : GrpcMessage) : ComputeBudget :=
  valueD {} (computeBudgetOfMessage pkg message)

/-- What the transaction indexer prints about a message it can read. -/
def txReport (update : SubscribeUpdateTransaction GrpcMessage)
    (info : SubscribeUpdateTransactionInfo GrpcMessage) (message : GrpcMessage)
    (tally : VersionTally) : TxReport ℕ ℤ where
  slot := update.slot
  version := Rust.messageVersion message
  computeUnitLimit := (budget pkg message).computeUnitLimit
  priorityFee := (budget pkg message).priorityFeeLamports
  signature := pkg.base58Decoder info.signature
  v1 := if message.config.isSome then
      some
        { config := some (formatComputeBudget (budget pkg message) "  ")
          lifetimeSpecifier := valueD "" (pkg.blockhashDecoder message.recentBlockhash)
          addressTableLookups := message.addressTableLookups.length
          tally := tally }
    else none

/-- What the handler needs of a message: a budget, and on v1 a whole blockhash. -/
def Printable (message : GrpcMessage) : Prop :=
  Succeeds (computeBudgetOfMessage pkg message) ∧
    (message.config.isSome = true → Succeeds (pkg.blockhashDecoder message.recentBlockhash))

end Transactions

section Blocks

/-- An entry of `v1Transactions`: the config as text, and the signature. -/
structure V1Transaction where
  config : String
  signature : String

def BlockScan.step (s : BlockScan ℤ V1Transaction)
    (transaction : SubscribeUpdateTransactionInfo GrpcMessage) :
    Except JsError (BlockScan ℤ V1Transaction) :=
  match transaction.transaction.bind (·.message) with
  | none => return s
  | some message => do
    let version := messageVersion message
    let tally := record s.tally version
    let budget ← computeBudgetOfMessage pkg message
    let priorityFeeLamports := s.priorityFeeLamports + budget.priorityFeeLamports.getD 0
    let v1Transactions :=
      if version = .v1 then
        s.v1Transactions ++
          [⟨formatComputeBudget budget "    ", pkg.base58Decoder transaction.signature⟩]
      else s.v1Transactions
    return ⟨tally, v1Transactions, priorityFeeLamports⟩

/-- What the block indexer computes from a block and prints. -/
def blockReport (block : SubscribeUpdateBlock GrpcMessage) :
    Except JsError (BlockReport ℤ V1Transaction) := do
  let scan ← block.transactions.foldlM (BlockScan.step pkg) ⟨{}, [], 0⟩
  return {
    slot := block.slot
    executedTransactionCount := block.executedTransactionCount
    tally := scan.tally
    priorityFeeLamports := scan.priorityFeeLamports
    v1Transactions := scan.v1Transactions }

def blockBody (exitAfterV1Blocks : ℕ) (s : BlockState ℤ V1Transaction)
    (update : SubscribeUpdate GrpcMessage) :
    Except JsError (Verdict (BlockState ℤ V1Transaction)) :=
  match update.block? with
  | none => return .next s
  | some block => do
    let report ← blockReport pkg block
    let reports := s.reports ++ [report]
    if report.v1Transactions.length > 0 then
      let blocksWithV1 := s.blocksWithV1 + 1
      if exitAfterV1Blocks > 0 ∧ blocksWithV1 ≥ exitAfterV1Blocks then
        return .stop ⟨blocksWithV1, reports⟩
      return .next ⟨blocksWithV1, reports⟩
    return .next ⟨s.blocksWithV1, reports⟩

def v1Transaction (info : SubscribeUpdateTransactionInfo GrpcMessage) (message : GrpcMessage) :
    V1Transaction :=
  ⟨formatComputeBudget (budget pkg message) "    ", pkg.base58Decoder info.signature⟩

def addFee (total : ℤ) (message : GrpcMessage) : ℤ :=
  total + (budget pkg message).priorityFeeLamports.getD 0

end Blocks

/-- The transaction indexer counts v1 messages up to its limit, as long as it can
print them. -/
theorem txBody_counting (exitAfterV1 : ℕ) :
    Counting (txBody pkg exitAfterV1) (TxState.record (txReport pkg)) isV1Update (·.tally.v1)
      exitAfterV1 (fun update => ∀ message ∈ update.message?, Printable pkg message) where
  count_update := TxState.v1_record _
  body_fine s update hf := by
    rw [SubscribeUpdate.message?] at hf
    rw [txBody, TxState.record, isV1Update, SubscribeUpdate.message?]
    cases ht : update.transaction? with
    | none => rfl
    | some transaction =>
      cases hi : transaction.transaction with
      | none => simp [hi, Verdict.stopIf]
      | some info =>
        have hb : info.transaction.bind (·.message) = info.message? := rfl
        cases hm : info.message? with
        | none => simp [hi, hb, hm, Verdict.stopIf]
        | some message =>
          obtain ⟨⟨b, hs⟩, hh⟩ := hf message (by simp [ht, hi, hm])
          have hbud : budget pkg message = b := by rw [budget, hs, valueD_ok]
          by_cases hc : message.config.isSome = true
          · have hv := Rust.messageVersion_eq_v1_iff.mpr hc
            obtain ⟨hash, hl⟩ := hh hc
            simp only [hi, hb, hm, hs, hl, hv, hc, hbud, messageVersion_eq, record_eq,
              Option.bind_some, Option.any_some, ne_eq, not_true_eq_false, if_false, if_true,
              ok_bind, pure_eq_ok, valueD_ok, gt_iff_lt, ge_iff_le, Verdict.stopIf, txReport,
              true_and]
            split_ifs <;> rfl
          · have hv : Rust.messageVersion message ≠ .v1 := fun h =>
              hc (Rust.messageVersion_eq_v1_iff.mp h)
            simp [hi, hb, hm, hs, hv, hc, hbud, Verdict.stopIf, txReport]
  body_error s update hn := by
    rw [SubscribeUpdate.message?] at hn
    rw [txBody]
    cases ht : update.transaction? with
    | none => simp [ht] at hn
    | some transaction =>
      cases hi : transaction.transaction with
      | none => simp [ht, hi] at hn
      | some info =>
        have hb : info.transaction.bind (·.message) = info.message? := rfl
        cases hm : info.message? with
        | none => simp [ht, hi, hm] at hn
        | some message =>
          have hp : ¬ Printable pkg message := by simpa [ht, hi, hm] using hn
          simp only [hi, hb, hm, messageVersion_eq, record_eq]
          cases hs : computeBudgetOfMessage pkg message with
          | error e => exact ⟨e, by rw [error_bind]⟩
          | ok b =>
            simp only [Printable, hs, succeeds_ok, true_and, Classical.not_imp,
              not_succeeds_iff] at hp
            obtain ⟨hc, e, he⟩ := hp
            have hv := Rust.messageVersion_eq_v1_iff.mpr hc
            exact ⟨e, by simp [hv, he]⟩

/-- The loop over a block's transactions counts each that has a message, as long
as it has a budget. -/
theorem BlockScan.step_body :
    Body id (BlockScan.step pkg) (BlockScan.count (v1Transaction pkg) (addFee pkg))
      (fun info => ∀ message ∈ info.message?, Succeeds (computeBudgetOfMessage pkg message)) where
  of_fine s info hf := by
    have hb : info.transaction.bind (·.message) = info.message? := rfl
    rw [id_eq, id_eq, BlockScan.step, BlockScan.count, hb]
    cases hm : info.message? with
    | none => rfl
    | some message =>
      obtain ⟨b, hs⟩ := hf message hm
      have hbud : budget pkg message = b := by rw [budget, hs, valueD_ok]
      simp only [hs, hbud, ok_bind, pure_eq_ok, messageVersion_eq, record_eq,
        Rust.messageVersion_eq_v1_iff, v1Transaction, addFee]
  of_not_fine s info hn := by
    have hb : info.transaction.bind (·.message) = info.message? := rfl
    rw [id_eq, BlockScan.step, hb]
    cases hm : info.message? with
    | none => simp [hm] at hn
    | some message =>
      obtain ⟨e, he⟩ := not_succeeds_iff.mp (show ¬ Succeeds (computeBudgetOfMessage pkg message) by
        simpa [hm] using hn)
      exact ⟨e, by simp only [he, error_bind]⟩

theorem forall_messages_iff {P : GrpcMessage → Prop} (block : SubscribeUpdateBlock GrpcMessage) :
    (∀ info ∈ block.transactions, ∀ message ∈ info.message?, P message) ↔
      ∀ message ∈ block.messages, P message := by
  simp only [SubscribeUpdateBlock.messages, List.mem_filterMap, Option.mem_def]
  constructor
  · rintro h message ⟨info, hi, hm⟩
    exact h info hi message hm
  · intro h info hi message hm
    exact h message ⟨info, hi, hm⟩

/-- What the block indexer reports: the tally of the block, its fees added up
exactly, and its v1 transactions in order. -/
theorem blockReport_eq {block : SubscribeUpdateBlock GrpcMessage}
    (h : ∀ message ∈ block.messages, Succeeds (computeBudgetOfMessage pkg message)) :
    blockReport pkg block = .ok
      { slot := block.slot
        executedTransactionCount := block.executedTransactionCount
        tally := block.tally
        priorityFeeLamports := block.messages.foldl (addFee pkg) 0
        v1Transactions := block.transactions.filterMap (v1Entry (v1Transaction pkg)) } := by
  have hs := (BlockScan.step_body pkg).foldlM_eq ((forall_messages_iff block).mpr h) ⟨{}, [], 0⟩
  rw [id_eq, id_eq, BlockScan.foldl_count_block] at hs
  rw [blockReport, hs]
  rfl

theorem blockReport_error {block : SubscribeUpdateBlock GrpcMessage}
    (h : ¬ ∀ message ∈ block.messages, Succeeds (computeBudgetOfMessage pkg message)) :
    ∃ e, blockReport pkg block = .error e := by
  rw [← forall_messages_iff block] at h
  obtain ⟨e, hs⟩ := (BlockScan.step_body pkg).foldlM_error (by simpa using h) ⟨{}, [], 0⟩
  exact ⟨e, by rw [blockReport]; rw [id_eq] at hs; rw [hs, error_bind]⟩

/-- The block indexer counts blocks with v1 transactions up to its limit, as long
as every message of every block has a budget. -/
theorem blockBody_counting (exitAfterV1Blocks : ℕ) :
    Counting (blockBody pkg exitAfterV1Blocks)
      (BlockState.record fun block => valueD ⟨0, 0, {}, 0, []⟩ (blockReport pkg block))
      isV1BlockUpdate (·.blocksWithV1) exitAfterV1Blocks
      (fun update => ∀ block ∈ update.block?, ∀ message ∈ block.messages,
        Succeeds (computeBudgetOfMessage pkg message)) where
  count_update := BlockState.blocksWithV1_record _
  body_fine s update hf := by
    rw [blockBody, BlockState.record, isV1BlockUpdate]
    cases hb : update.block? with
    | none => rfl
    | some block =>
      have hl : 0 < (block.transactions.filterMap (v1Entry (v1Transaction pkg))).length ↔
          block.hasV1 = true := by
        rw [List.length_pos_iff_ne_nil, ne_eq, ← List.isEmpty_iff, isEmpty_filterMap_v1Entry]
        simp
      simp only [blockReport_eq pkg (hf block hb), ok_bind, pure_eq_ok, gt_iff_lt, ge_iff_le, hl,
        valueD_ok, Option.any_some]
      by_cases hv : block.hasV1 = true
      · simp only [hv, if_true, Verdict.stopIf, true_and]
        split_ifs <;> rfl
      · simp [hv, Verdict.stopIf]
  body_error s update hn := by
    rw [blockBody]
    cases hb : update.block? with
    | none => simp [hb] at hn
    | some block =>
      have hm : ¬ ∀ message ∈ block.messages, Succeeds (computeBudgetOfMessage pkg message) := by
        simpa [hb] using hn
      obtain ⟨e, he⟩ := blockReport_error pkg hm
      exact ⟨e, by simp only [he, error_bind]⟩

end TransactionV1.TypeScript

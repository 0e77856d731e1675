import TransactionV1.Foundations.EventLoop
import TransactionV1.Message.Version
import Mathlib.Data.List.Forall2

/-! # What the indexers keep and print

A transaction indexer keeps a tally and prints a line for every message. A block
indexer prints the tally, the total fee and the v1 transactions of every block,
and counts the blocks that have any. What is printed is kept here as the values
printed, in order; the words around them are left out.
-/

namespace TransactionV1

open EventLoop

/-- What a transaction indexer prints about a v1 message below its line. -/
structure V1Report where
  config : Option String
  lifetimeSpecifier : String
  addressTableLookups : ℕ
  tally : VersionTally

structure TxReport (L F : Type) where
  slot : UInt64
  version : MessageVersion
  computeUnitLimit : Option L
  priorityFee : Option F
  signature : String
  v1 : Option V1Report

structure TxState (L F : Type) where
  tally : VersionTally := {}
  reports : List (TxReport L F) := []

/-- What a block indexer prints about a block, with the entries of its v1 list. -/
structure BlockReport (F V : Type) where
  slot : UInt64
  executedTransactionCount : UInt64
  tally : VersionTally
  priorityFeeLamports : F
  v1Transactions : List V

structure BlockState (F V : Type) where
  blocksWithV1 : ℕ := 0
  reports : List (BlockReport F V) := []

section Hits

variable {κ : Type}

def isV1Update (update : SubscribeUpdate (MessageOf κ)) : Bool :=
  update.message?.any (·.config.isSome)

def SubscribeUpdateBlock.hasV1 (block : SubscribeUpdateBlock (MessageOf κ)) : Bool :=
  block.messages.any (·.config.isSome)

def isV1BlockUpdate (update : SubscribeUpdate (MessageOf κ)) : Bool :=
  update.block?.any (·.hasV1)

def tallyOf (updates : List (SubscribeUpdate (MessageOf κ))) : VersionTally :=
  .ofVersions ((updates.filterMap (·.message?)).map Rust.messageVersion)

def SubscribeUpdateBlock.tally (block : SubscribeUpdateBlock (MessageOf κ)) : VersionTally :=
  .ofVersions (block.messages.map Rust.messageVersion)

theorem count_v1_versions (messages : List (MessageOf κ)) :
    (messages.map Rust.messageVersion).count .v1 = messages.countP (·.config.isSome) := by
  rw [List.count, List.countP_map]
  refine List.countP_congr fun message _ => ?_
  rw [Function.comp_apply, beq_iff_eq, Rust.messageVersion_eq_v1_iff]

theorem tallyOf_v1 (updates : List (SubscribeUpdate (MessageOf κ))) :
    (tallyOf updates).v1 = updates.countP isV1Update := by
  change ((updates.filterMap (·.message?)).map Rust.messageVersion).count .v1 = _
  rw [count_v1_versions, List.countP_filterMap]
  refine List.countP_congr fun update _ => ?_
  rw [isV1Update]
  cases update.message? <;> rfl

section MapConfig

variable {κ' : Type} (f : κ → κ')

theorem isV1Update_mapConfig (update : SubscribeUpdate (MessageOf κ)) :
    isV1Update (update.map (MessageOf.mapConfig f)) = isV1Update update := by
  rw [isV1Update, isV1Update, updateMessage?_map]
  cases update.message? <;> simp [MessageOf.mapConfig]

theorem isV1BlockUpdate_mapConfig (update : SubscribeUpdate (MessageOf κ)) :
    isV1BlockUpdate (update.map (MessageOf.mapConfig f)) = isV1BlockUpdate update := by
  rw [isV1BlockUpdate, isV1BlockUpdate, block?_map]
  cases update.block? <;>
    simp [SubscribeUpdateBlock.hasV1, Function.comp_def, MessageOf.mapConfig]

theorem filterMap_block?_mapConfig (updates : List (SubscribeUpdate (MessageOf κ))) :
    (updates.map (·.map (MessageOf.mapConfig f))).filterMap (·.block?) =
      (updates.filterMap (·.block?)).map (·.map (MessageOf.mapConfig f)) := by
  rw [List.filterMap_map, List.map_filterMap]
  exact List.filterMap_congr fun update _ => block?_map (MessageOf.mapConfig f) update

theorem map_messageVersion_mapConfig (messages : List (MessageOf κ)) :
    (messages.map (MessageOf.mapConfig f)).map Rust.messageVersion =
      messages.map Rust.messageVersion := by
  rw [List.map_map]
  exact List.map_congr_left fun message _ => messageVersion_mapConfig f message

theorem tally_mapConfig (block : SubscribeUpdateBlock (MessageOf κ)) :
    (block.map (MessageOf.mapConfig f)).tally = block.tally := by
  rw [SubscribeUpdateBlock.tally, messages_map, map_messageVersion_mapConfig,
    SubscribeUpdateBlock.tally]

theorem tallyOf_mapConfig (updates : List (SubscribeUpdate (MessageOf κ))) :
    tallyOf (updates.map (·.map (MessageOf.mapConfig f))) = tallyOf updates := by
  have hm : (updates.map (·.map (MessageOf.mapConfig f))).filterMap (·.message?) =
      (updates.filterMap (·.message?)).map (MessageOf.mapConfig f) := by
    rw [List.filterMap_map, List.map_filterMap]
    exact List.filterMap_congr fun update _ => updateMessage?_map (MessageOf.mapConfig f) update
  rw [tallyOf, hm, map_messageVersion_mapConfig, tallyOf]

end MapConfig

end Hits

section Transactions

variable {κ L F : Type} (report : SubscribeUpdateTransaction (MessageOf κ) →
  SubscribeUpdateTransactionInfo (MessageOf κ) → MessageOf κ → VersionTally → TxReport L F)

def TxState.record (s : TxState L F) (update : SubscribeUpdate (MessageOf κ)) : TxState L F :=
  match update.transaction? with
  | none => s
  | some transaction =>
    match transaction.transaction with
    | none => s
    | some info =>
      match info.message? with
      | none => s
      | some message =>
        let tally := Rust.record s.tally (Rust.messageVersion message)
        ⟨tally, s.reports ++ [report transaction info message tally]⟩

theorem TxState.tally_record (s : TxState L F) (update : SubscribeUpdate (MessageOf κ)) :
    (s.record report update).tally =
      (update.message?.map Rust.messageVersion).elim s.tally (Rust.record s.tally) := by
  rw [TxState.record, SubscribeUpdate.message?]
  cases update.transaction? with
  | none => rfl
  | some transaction =>
    cases hi : transaction.transaction with
    | none => simp [hi]
    | some info => cases hm : info.message? <;> simp [hi, hm]

theorem TxState.tally_foldl_record (s : TxState L F)
    (updates : List (SubscribeUpdate (MessageOf κ))) :
    (updates.foldl (TxState.record report) s).tally =
      ((updates.filterMap (·.message?)).map Rust.messageVersion).foldl Rust.record s.tally := by
  induction updates generalizing s with
  | nil => rfl
  | cons update updates ih =>
    rw [List.foldl_cons, ih, TxState.tally_record]
    cases hm : update.message? <;> simp [hm]

theorem TxState.tally_run (updates : List (SubscribeUpdate (MessageOf κ))) :
    (updates.foldl (TxState.record report) {}).tally = tallyOf updates := by
  rw [TxState.tally_foldl_record, Rust.foldl_record_empty, tallyOf]

theorem TxState.v1_record (s : TxState L F) (update : SubscribeUpdate (MessageOf κ)) :
    (s.record report update).tally.v1 = s.tally.v1 + if isV1Update update then 1 else 0 := by
  rw [TxState.tally_record, isV1Update]
  cases hm : update.message? with
  | none => simp
  | some message =>
    by_cases hc : message.config.isSome = true
    · simp [hc, Rust.messageVersion_eq_v1_iff.mpr hc, Rust.record]
    · have hv : Rust.messageVersion message ≠ .v1 := fun h =>
        hc (Rust.messageVersion_eq_v1_iff.mp h)
      cases he : Rust.messageVersion message <;> simp_all [Rust.record]

end Transactions

section Blocks

variable {κ F V : Type}

/-- The accumulators of the loop over the transactions of a block. -/
structure BlockScan (F V : Type) where
  tally : VersionTally
  v1Transactions : List V
  priorityFeeLamports : F

variable (entry : SubscribeUpdateTransactionInfo (MessageOf κ) → MessageOf κ → V)
  (add : F → MessageOf κ → F)

def BlockScan.count (s : BlockScan F V) (info : SubscribeUpdateTransactionInfo (MessageOf κ)) :
    BlockScan F V :=
  match info.message? with
  | none => s
  | some message =>
    { tally := Rust.record s.tally (Rust.messageVersion message)
      v1Transactions :=
        if message.config.isSome then s.v1Transactions ++ [entry info message]
        else s.v1Transactions
      priorityFeeLamports := add s.priorityFeeLamports message }

/-- The entry of the v1 list for a transaction, when it is a v1 transaction. -/
def v1Entry (info : SubscribeUpdateTransactionInfo (MessageOf κ)) : Option V :=
  info.message?.bind fun message =>
    if message.config.isSome then some (entry info message) else none

theorem BlockScan.foldl_count (s : BlockScan F V)
    (transactions : List (SubscribeUpdateTransactionInfo (MessageOf κ))) :
    transactions.foldl (BlockScan.count entry add) s =
      { tally := ((transactions.filterMap (·.message?)).map Rust.messageVersion).foldl
          Rust.record s.tally
        v1Transactions := s.v1Transactions ++ transactions.filterMap (v1Entry entry)
        priorityFeeLamports :=
          (transactions.filterMap (·.message?)).foldl add s.priorityFeeLamports } := by
  induction transactions generalizing s with
  | nil => simp
  | cons info transactions ih =>
    rw [List.foldl_cons, ih, BlockScan.count]
    cases hm : info.message? with
    | none => simp [hm, v1Entry]
    | some message => by_cases hc : message.config.isSome <;> simp [hm, v1Entry, hc]

theorem BlockScan.foldl_count_block (zero : F) (block : SubscribeUpdateBlock (MessageOf κ)) :
    block.transactions.foldl (BlockScan.count entry add) ⟨{}, [], zero⟩ =
      { tally := block.tally
        v1Transactions := block.transactions.filterMap (v1Entry entry)
        priorityFeeLamports := block.messages.foldl add zero } := by
  rw [BlockScan.foldl_count, Rust.foldl_record_empty, List.nil_append]
  rfl

theorem length_filterMap_v1Entry
    (transactions : List (SubscribeUpdateTransactionInfo (MessageOf κ))) :
    (transactions.filterMap (v1Entry entry)).length =
      (transactions.filterMap (·.message?)).countP (·.config.isSome) := by
  induction transactions with
  | nil => rfl
  | cons info transactions ih =>
    cases hm : info.message? with
    | none => simp [hm, v1Entry, ih]
    | some message => by_cases hc : message.config.isSome <;> simp [hm, v1Entry, hc, ih]

theorem isEmpty_filterMap_v1Entry (block : SubscribeUpdateBlock (MessageOf κ)) :
    (block.transactions.filterMap (v1Entry entry)).isEmpty = !block.hasV1 := by
  rw [Bool.eq_iff_iff, List.isEmpty_iff_length_eq_zero, length_filterMap_v1Entry,
    List.countP_eq_zero, SubscribeUpdateBlock.hasV1, Bool.not_eq_true', List.any_eq_false]
  rfl

variable (report : SubscribeUpdateBlock (MessageOf κ) → BlockReport F V)

/-- Report the block of an update, and count it when it has v1 transactions. -/
def BlockState.record (s : BlockState F V) (update : SubscribeUpdate (MessageOf κ)) :
    BlockState F V :=
  match update.block? with
  | none => s
  | some block =>
    ⟨if block.hasV1 then s.blocksWithV1 + 1 else s.blocksWithV1, s.reports ++ [report block]⟩

theorem BlockState.blocksWithV1_record (s : BlockState F V)
    (update : SubscribeUpdate (MessageOf κ)) :
    (s.record report update).blocksWithV1 =
      s.blocksWithV1 + if isV1BlockUpdate update then 1 else 0 := by
  rw [BlockState.record, isV1BlockUpdate]
  cases hb : update.block? with
  | none => simp
  | some block => by_cases hv : block.hasV1 <;> simp [hv]

theorem BlockState.foldl_record (s : BlockState F V)
    (updates : List (SubscribeUpdate (MessageOf κ))) :
    updates.foldl (BlockState.record report) s =
      ⟨s.blocksWithV1 + updates.countP isV1BlockUpdate,
        s.reports ++ (updates.filterMap (·.block?)).map report⟩ := by
  induction updates generalizing s with
  | nil => simp
  | cons update updates ih =>
    have hc := BlockState.blocksWithV1_record report s update
    have hr : (s.record report update).reports =
        s.reports ++ (update.block?.map report).toList := by
      rw [BlockState.record]
      cases update.block? <;> simp
    rw [List.foldl_cons, ih, hc, hr, List.countP_cons]
    cases hb : update.block? <;> simp [hb, Nat.add_comm, Nat.add_left_comm]

end Blocks

end TransactionV1

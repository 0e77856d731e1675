import TransactionV1.Indexer.Go
import TransactionV1.Indexer.Rust
import TransactionV1.Indexer.TypeScript
import TransactionV1.TypeScript.Reference

/-! # When the indexers stop

Given a limit, an indexer is asked to stop right after the hit that reaches it,
with everything received so far counted, and to keep reading when the limit is
zero. Go always does so. Rust takes a limit of zero for a limit of one, and
TypeScript fails at the first message it cannot read.
-/

namespace TransactionV1

open EventLoop

/-- A transaction indexer obeys its limit on v1 messages: the tally has counted
every message it has read. -/
def TxObeys {L F ε : Type} (limit : UInt64) (updates : List (SubscribeUpdate Message))
    (outcome : Outcome (TxState L F) ε) : Prop :=
  Obeys isV1Update limit.toNat
    (fun read s => s.tally = tallyOf read ∧ s.tally.v1 = read.countP isV1Update) updates outcome

/-- A block indexer obeys its limit on blocks with v1 transactions: it has counted
them, and the tally it has printed for each block counts every message of it. -/
def BlockObeys {F V ε : Type} (limit : UInt64) (updates : List (SubscribeUpdate Message))
    (outcome : Outcome (BlockState F V) ε) : Prop :=
  Obeys isV1BlockUpdate limit.toNat
    (fun read s => s.blocksWithV1 = read.countP isV1BlockUpdate ∧
      s.reports.map (·.tally) = (read.filterMap (·.block?)).map (·.tally)) updates outcome

/-! The runs over the updates received so far, with the limit given. -/

def Rust.txRun (bs58Encode : Bytes → String) (computeBudgetId : Address) (limit : UInt64)
    (updates : List (SubscribeUpdate Message)) : Outcome (TxState UInt32 UInt64) Empty :=
  run (Rust.txBody bs58Encode computeBudgetId (some limit)) {} updates

def Rust.blockRun (bs58Encode : Bytes → String) (computeBudgetId : Address) (limit : UInt64)
    (updates : List (SubscribeUpdate Message)) :
    Outcome (BlockState UInt64 (String × Option TransactionConfig)) Empty :=
  run (Rust.blockBody bs58Encode computeBudgetId (some limit)) {} updates

def Go.txRun (sdk : SolanaGo) (computeBudgetId : Address) (limit : UInt64)
    (updates : List (SubscribeUpdate Message)) : Outcome (TxState UInt32 UInt64) Panic :=
  run (Go.txBody sdk computeBudgetId limit) {} updates

def Go.blockRun (sdk : SolanaGo) (computeBudgetId : Address) (limit : UInt64)
    (updates : List (SubscribeUpdate Message)) :
    Outcome (BlockState UInt64 V1Transaction) Panic :=
  run (Go.blockBody sdk computeBudgetId limit) {} updates

namespace TypeScript

variable {computeBudgetId : Address} (pkg : Packages computeBudgetId)

def txRun (limit : UInt64) (updates : List (SubscribeUpdate Message)) :
    Outcome (TxState ℕ ℤ) JsError :=
  run (fun s update => txBody pkg limit.toNat s (update.map grpcMessage)) {} updates

def blockRun (limit : UInt64) (updates : List (SubscribeUpdate Message)) :
    Outcome (BlockState ℤ V1Transaction) JsError :=
  run (fun s update => blockBody pkg limit.toNat s (update.map grpcMessage)) {} updates

/-- The transaction handler can print the message of the update: its budget is
readable, and a v1 message has a whole blockhash. -/
def CanPrint (computeBudgetId : Address) (update : SubscribeUpdate Message) : Prop :=
  ∀ message ∈ update.message?, ReadableMessage computeBudgetId message ∧
    (message.config.isSome = true → 32 ≤ message.recentBlockhash.length)

instance (computeBudgetId : Address) : DecidablePred (CanPrint computeBudgetId) :=
  fun update => inferInstanceAs (Decidable (∀ message ∈ update.message?, _))

/-- The block handler can report the block of the update: the budget of each of its
messages is readable. -/
def CanReport (computeBudgetId : Address) (update : SubscribeUpdate Message) : Prop :=
  ∀ block ∈ update.block?, ∀ message ∈ block.messages, ReadableMessage computeBudgetId message

instance (computeBudgetId : Address) : DecidablePred (CanReport computeBudgetId) :=
  fun update => inferInstanceAs (Decidable (∀ block ∈ update.block?, _))

end TypeScript

section Rust

/-- A Rust loop given a limit obeys it unless the limit is zero and there is a hit. -/
theorem Rust.obeys_iff_of_counting {σ α ε : Type} {body : σ → α → Except ε (Verdict σ)}
    {update : σ → α → σ} {hit : α → Bool} {count : σ → ℕ} {limit : UInt64}
    {good : List α → σ → Prop}
    (h : Counting body update hit count (Rust.stopsAt (some limit)) (fun _ => True)) {s : σ}
    (hs : count s = 0) (hg : ∀ read, good read (read.foldl update s)) (as : List α) :
    Obeys hit limit.toNat good as (run body s as) ↔ limit ≠ 0 ∨ ∀ a ∈ as, hit a = false := by
  rcases eq_or_ne limit 0 with rfl | h0
  · have h1 : Rust.stopsAt (some 0) = 1 := rfl
    rw [h1] at h
    rw [UInt64.toNat_zero, h.obeys_zero_iff Nat.one_pos hs (fun _ _ => trivial) (hg as),
      Nat.lt_one_iff, List.countP_eq_zero]
    simp
  · have hpos : limit.toNat ≠ 0 := fun h => h0 (UInt64.toNat_inj.mp h)
    have h1 : Rust.stopsAt (some limit) = limit.toNat := by
      simp only [Rust.stopsAt, Option.elim_some]
      omega
    rw [h1] at h
    rw [h.obeys_iff hs fun read _ => hg read]
    exact iff_of_true (fun _ _ => trivial) (Or.inl h0)

variable (bs58Encode : Bytes → String) (computeBudgetId : Address)

theorem Rust.txObeys_iff (limit : UInt64) (updates : List (SubscribeUpdate Message)) :
    TxObeys limit updates (Rust.txRun bs58Encode computeBudgetId limit updates) ↔
      limit ≠ 0 ∨ ∀ update ∈ updates, isV1Update update = false := by
  refine Rust.obeys_iff_of_counting (Rust.txBody_counting bs58Encode computeBudgetId _) rfl
    (fun read => ?_) updates
  rw [TxState.tally_run, tallyOf_v1]
  exact ⟨rfl, rfl⟩

theorem Rust.blockObeys_iff (limit : UInt64) (updates : List (SubscribeUpdate Message)) :
    BlockObeys limit updates (Rust.blockRun bs58Encode computeBudgetId limit updates) ↔
      limit ≠ 0 ∨ ∀ update ∈ updates, isV1BlockUpdate update = false := by
  refine Rust.obeys_iff_of_counting (Rust.blockBody_counting bs58Encode computeBudgetId _) rfl
    (fun read => ?_) updates
  rw [BlockState.foldl_record]
  refine ⟨Nat.zero_add _, ?_⟩
  simp [Function.comp_def, Rust.blockReport_eq]

end Rust

section Go

variable (sdk : Go.SolanaGo) (computeBudgetId : Address)

theorem Go.txObeys (limit : UInt64) (updates : List (SubscribeUpdate Message)) :
    TxObeys limit updates (Go.txRun sdk computeBudgetId limit updates) := by
  refine ((Go.txBody_counting sdk computeBudgetId limit).obeys_iff rfl
    (fun read _ => ?_) updates).mpr fun _ _ => trivial
  rw [TxState.tally_run, tallyOf_v1]
  exact ⟨rfl, rfl⟩

theorem Go.blockObeys (limit : UInt64) (updates : List (SubscribeUpdate Message)) :
    BlockObeys limit updates (Go.blockRun sdk computeBudgetId limit updates) := by
  refine ((Go.blockBody_counting sdk computeBudgetId limit).obeys_iff rfl
    (fun read _ => ?_) updates).mpr fun _ _ => trivial
  rw [BlockState.foldl_record]
  refine ⟨Nat.zero_add _, ?_⟩
  simp [Function.comp_def, Go.blockReport_eq]

end Go

namespace TypeScript

variable {computeBudgetId : Address} (pkg : Packages computeBudgetId)

theorem forall_printable_iff (update : SubscribeUpdate Message) :
    (∀ message ∈ (update.map grpcMessage).message?, Printable pkg message) ↔
      CanPrint computeBudgetId update := by
  rw [updateMessage?_map, CanPrint]
  cases update.message? with
  | none => simp
  | some message =>
    simp only [Option.map_some, Option.mem_def, Option.some.injEq, forall_eq', Printable,
      succeeds_computeBudgetOfMessage_iff, pkg.blockhashDecoder_succeeds_iff]
    rw [grpcMessage, MessageOf.mapConfig, Option.isSome_map]

theorem forall_succeeds_iff (update : SubscribeUpdate Message) :
    (∀ block ∈ (update.map grpcMessage).block?, ∀ message ∈ block.messages,
      Fallible.Succeeds (computeBudgetOfMessage pkg message)) ↔
      CanReport computeBudgetId update := by
  rw [block?_map, CanReport]
  cases update.block? with
  | none => simp
  | some block => simp [succeeds_computeBudgetOfMessage_iff]

theorem txRun_counting (limit : ℕ) :
    Counting (fun s update => txBody pkg limit s (update.map grpcMessage))
      (fun s update => s.record (txReport pkg) (update.map grpcMessage)) isV1Update (·.tally.v1)
      limit (CanPrint computeBudgetId) := by
  have hh : (fun update => isV1Update (SubscribeUpdate.map grpcMessage update)) = isV1Update :=
    funext (isV1Update_mapConfig grpcConfig)
  have hf := funext fun update => propext (forall_printable_iff pkg update)
  have hc := (txBody_counting pkg limit).comap (SubscribeUpdate.map grpcMessage)
  rwa [hh, hf] at hc

theorem blockRun_counting (limit : ℕ) :
    Counting (fun s update => blockBody pkg limit s (update.map grpcMessage))
      (fun s update => s.record (fun block => Fallible.valueD ⟨0, 0, {}, 0, []⟩
        (blockReport pkg block)) (update.map grpcMessage)) isV1BlockUpdate (·.blocksWithV1)
      limit (CanReport computeBudgetId) := by
  have hh : (fun update => isV1BlockUpdate (SubscribeUpdate.map grpcMessage update)) =
      isV1BlockUpdate := funext (isV1BlockUpdate_mapConfig grpcConfig)
  have hf := funext fun update => propext (forall_succeeds_iff pkg update)
  have hc := (blockBody_counting pkg limit).comap (SubscribeUpdate.map grpcMessage)
  rwa [hh, hf] at hc

/-- The TypeScript transaction indexer obeys its limit exactly when it can print
every message up to the stop. -/
theorem txObeys_iff (limit : UInt64) (updates : List (SubscribeUpdate Message)) :
    TxObeys limit updates (txRun pkg limit updates) ↔
      ∀ update ∈ window isV1Update limit.toNat updates, CanPrint computeBudgetId update := by
  refine (txRun_counting pkg limit.toNat).obeys_iff rfl (fun read _ => ?_) updates
  rw [← List.foldl_map, TxState.tally_run]
  exact ⟨tallyOf_mapConfig grpcConfig read,
    (congrArg (·.v1) (tallyOf_mapConfig grpcConfig read)).trans (tallyOf_v1 read)⟩

/-- The TypeScript block indexer obeys its limit exactly when it can report every
block up to the stop. -/
theorem blockObeys_iff (limit : UInt64) (updates : List (SubscribeUpdate Message)) :
    BlockObeys limit updates (blockRun pkg limit updates) ↔
      ∀ update ∈ window isV1BlockUpdate limit.toNat updates,
        CanReport computeBudgetId update := by
  refine (blockRun_counting pkg limit.toNat).obeys_iff rfl (fun read hr => ?_) updates
  have hh : (fun update => isV1BlockUpdate (SubscribeUpdate.map grpcMessage update)) =
      isV1BlockUpdate := funext (isV1BlockUpdate_mapConfig grpcConfig)
  have hb := filterMap_block?_mapConfig grpcConfig read
  rw [← List.foldl_map, BlockState.foldl_record]
  constructor
  · rw [Nat.zero_add, List.countP_map]
    exact congrArg (List.countP · read) hh
  · rw [List.nil_append, List.map_map]
    refine (congrArg (List.map _) hb).trans ?_
    rw [List.map_map]
    refine List.map_congr_left fun block hm => ?_
    obtain ⟨update, hu, hbu⟩ := List.mem_filterMap.mp hm
    have hs : ∀ message ∈ (block.map grpcMessage).messages,
        Fallible.Succeeds (computeBudgetOfMessage pkg message) := by
      simpa [succeeds_computeBudgetOfMessage_iff] using hr update hu block hbu
    have ht : (Fallible.valueD ⟨0, 0, {}, 0, []⟩ (blockReport pkg (block.map grpcMessage))).tally =
        block.tally := by
      rw [blockReport_eq pkg hs, Fallible.valueD_ok]
      exact tally_mapConfig grpcConfig block
    exact ht

end TypeScript

/-- All indexers obey their limits exactly when the limit is not zero, or there is
no hit, and TypeScript can read every update up to the stop. -/
theorem indexers_obey_iff {computeBudgetId : Address} (bs58Encode : Bytes → String)
    (sdk : Go.SolanaGo) (pkg : TypeScript.Packages computeBudgetId) (limit : UInt64)
    (updates : List (SubscribeUpdate Message)) :
    ((TxObeys limit updates (Rust.txRun bs58Encode computeBudgetId limit updates) ∧
        TxObeys limit updates (Go.txRun sdk computeBudgetId limit updates) ∧
        TxObeys limit updates (TypeScript.txRun pkg limit updates)) ↔
      (limit ≠ 0 ∨ ∀ update ∈ updates, isV1Update update = false) ∧
        ∀ update ∈ window isV1Update limit.toNat updates,
          TypeScript.CanPrint computeBudgetId update) ∧
    ((BlockObeys limit updates (Rust.blockRun bs58Encode computeBudgetId limit updates) ∧
        BlockObeys limit updates (Go.blockRun sdk computeBudgetId limit updates) ∧
        BlockObeys limit updates (TypeScript.blockRun pkg limit updates)) ↔
      (limit ≠ 0 ∨ ∀ update ∈ updates, isV1BlockUpdate update = false) ∧
        ∀ update ∈ window isV1BlockUpdate limit.toNat updates,
          TypeScript.CanReport computeBudgetId update) := by
  constructor
  · rw [Rust.txObeys_iff, TypeScript.txObeys_iff,
      and_iff_right (Go.txObeys sdk computeBudgetId limit updates)]
  · rw [Rust.blockObeys_iff, TypeScript.blockObeys_iff,
      and_iff_right (Go.blockObeys sdk computeBudgetId limit updates)]

def emptyV1Update : SubscribeUpdate Message :=
  ⟨some (.transaction ⟨some ⟨List.replicate 64 0, some ⟨some
    { recentBlockhash := List.replicate 32 0
      versioned := true
      config := some ⟨none, none, none, none⟩ }⟩⟩, 1⟩)⟩

/-- Without a limit to reach, Rust stops after the first v1 message, where Go and
TypeScript go on. -/
theorem not_indexers_obey_zero :
    ¬ TxObeys 0 [emptyV1Update] (Rust.txRun Base58.encode .computeBudget 0 [emptyV1Update]) ∧
      TxObeys 0 [emptyV1Update] (Go.txRun .copying .computeBudget 0 [emptyV1Update]) ∧
      TxObeys 0 [emptyV1Update]
        (TypeScript.txRun (.reference .computeBudget) 0 [emptyV1Update]) := by
  refine ⟨?_, Go.txObeys .copying .computeBudget 0 _, ?_⟩
  · rw [Rust.txObeys_iff]
    decide
  · rw [TypeScript.txObeys_iff]
    decide

end TransactionV1

import TransactionV1.Indexer.StopRule
import TransactionV1.Indexer.Totals

/-! # Indexers without the config field

A protobuf client discards the fields its schema does not know, so that an indexer whose
client was generated before field 7 sees the messages of a stream without their configs.
It never stops: it counts the v1 messages as v0, prints no v1 transaction, and leaves
their fees out of its totals.
-/

namespace TransactionV1

open EventLoop Accumulation

/-- The message as a client that does not know its config sees it. -/
def Message.withoutConfig (message : Message) : Message := { message with config := none }

/-- The version a reader without the config field takes a version for. -/
def MessageVersion.downgraded : MessageVersion → MessageVersion
  | .legacy => .legacy
  | .v0 | .v1 => .v0

def VersionTally.downgraded (tally : VersionTally) : VersionTally where
  legacy := tally.legacy
  v0 := tally.v0 + tally.v1
  v1 := 0

/-- Every v1 message has the `versioned` flag set, as on the wire. -/
def FlagsV1 (messages : List Message) : Prop :=
  ∀ message ∈ messages, message.config.isSome = true → message.versioned = true

instance : DecidablePred FlagsV1 := fun _ => inferInstanceAs (Decidable (∀ _ ∈ _, _))

section Downgrade

variable (computeBudgetId : Address)

end Downgrade

section Tally

end Tally

section Transactions

/-- The updates of a stream as a client without the config field decodes them. -/
def staleUpdates (updates : List (SubscribeUpdate Message)) : List (SubscribeUpdate Message) :=
  updates.map (·.map Message.withoutConfig)

variable {updates : List (SubscribeUpdate Message)}

section Reports

variable {L F ε : Type} (computeBudgetId : Address)

/-- What an indexer reports of a message it sees without a config: no v1 transaction, and
no budget unless there are ComputeBudget instructions. -/
structure Plain (report : TxReport L F) (message : Message) : Prop where
  version : report.version = Rust.messageVersion message
  v1 : message.config = none → report.v1 = none
  budget : message.Bounded → message.config = none →
    computeBudgetData computeBudgetId message = [] →
    report.computeUnitLimit = none ∧ report.priorityFee = none

/-- What is reported of a message whose config is not seen: the version its flag gives,
never a v1 transaction, and no budget of a v1 message without ComputeBudget instructions. -/
structure ReportedWithoutConfig (report : TxReport L F) (message : Message) : Prop where
  version : report.version = if message.versioned then .v0 else .legacy
  v1 : report.v1 = none
  budget : message.Bounded → message.config.isSome = true →
    computeBudgetData computeBudgetId message = [] →
    report.computeUnitLimit = none ∧ report.priorityFee = none

/-- A run is still reading, whatever the limit. It has reported each message as one without
a config and counted the v1 messages as v0. -/
def CountsAsV0 (updates : List (SubscribeUpdate Message)) (outcome : Outcome (TxState L F) ε) :
    Prop :=
  ∃ s, outcome = .reading s ∧ s.tally = (tallyOf updates).downgraded ∧
    List.Forall₂ (ReportedWithoutConfig computeBudgetId) s.reports (updates.filterMap (·.message?))

end Reports

def paidV1Message : Message :=
  { recentBlockhash := [7, 7]
    versioned := true
    config := some ⟨some 5000, some 20000, none, none⟩ }

def transactionUpdate (message : Message) : SubscribeUpdate Message :=
  ⟨some (.transaction ⟨some ⟨[9], some ⟨some message⟩⟩, 1⟩)⟩

/-- A stream with a message of each version and a ping. -/
def mixedStream : List (SubscribeUpdate Message) :=
  [transactionUpdate {}, transactionUpdate paidV1Message, ⟨some .ping⟩,
    transactionUpdate { versioned := true }, emptyV1Update]

end Transactions

section Blocks

variable (computeBudgetId : Address)

/-- The fees the configs of the v1 messages of a block state, added up. -/
def v1FeeSum (block : SubscribeUpdateBlock Message) : ℕ :=
  (block.messages.map fun message => ((message.config.bind (·.priorityFee)).getD 0).toNat).sum

/-- No v1 message of the block has an instruction for the ComputeBudget program. -/
def ConfigOnly (block : SubscribeUpdateBlock Message) : Prop :=
  ∀ message ∈ block.messages, message.config.isSome = true →
    computeBudgetData computeBudgetId message = []

instance : DecidablePred (ConfigOnly computeBudgetId) :=
  fun _ => inferInstanceAs (Decidable (∀ _ ∈ _, _))

/-- What a block indexer without the config field makes of the blocks of a stream: it
has stopped at none and found no v1 transaction, its tallies count v1 messages as
v0, and the fee total of a block is what `total` makes of its fees but for those of
the v1 messages. -/
structure MissesV1 {F V : Type} (computeBudgetId : Address) (toNat : F → ℕ) (total : ℕ → ℕ)
    (updates : List (SubscribeUpdate Message)) (s : BlockState F V) : Prop where
  blocksWithV1 : s.blocksWithV1 = 0
  v1Transactions : ∀ report ∈ s.reports, report.v1Transactions = []
  tally : s.reports.map (·.tally) = (updates.filterMap (·.block?)).map (·.tally.downgraded)
  priorityFeeLamports : s.reports.map (fun report => toNat report.priorityFeeLamports) =
    (updates.filterMap (·.block?)).map fun block =>
      total (feeSum computeBudgetId block - v1FeeSum block)

variable {computeBudgetId}

/-- A block with a legacy and a v1 message, which pays a fee. -/
def paidBlock : SubscribeUpdateBlock Message :=
  ⟨1, 2, [⟨[8], some ⟨some {}⟩⟩, ⟨[9], some ⟨some paidV1Message⟩⟩]⟩

end Blocks

end TransactionV1

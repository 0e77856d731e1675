import TransactionV1.Budget.ReadPaths
import TransactionV1.Indexer.StopRule

/-! # Malformed instructions in TypeScript

The package throws on the data of a ComputeBudget instruction that it cannot
read, nothing on the way catches it, and so one such instruction takes down the
block indexer. Rust and Go skip the instruction.
-/

namespace TransactionV1

open EventLoop Fallible

/-- A block indexer has not failed, and has printed the tally of every message of
every block it has read. -/
def TalliesBlocks {F V ε : Type} (updates : List (SubscribeUpdate Message))
    (outcome : Outcome (BlockState F V) ε) : Prop :=
  Reads (fun read s => s.reports.map (·.tally) = (read.filterMap (·.block?)).map (·.tally))
    updates outcome

namespace TypeScript

variable {computeBudgetId : Address} (pkg : Packages computeBudgetId)

theorem succeeds_computeBudgetOfBase64Transaction_iff {base64 : String}
    {compiled : CompiledTransactionMessage} (hs : compiledOfBase64 pkg base64 = .ok compiled)
    (hv : compiled.version = .legacy ∨ compiled.version = .number 0) :
    Succeeds (computeBudgetOfBase64Transaction pkg base64) ↔
      ∀ data ∈ (compiledData pkg compiled).reduceOption, Readable data := by
  have hm := map_fst_computeBudgetOfBase64Transaction pkg hs hv
  have hi := succeeds_map_iff (f := Prod.fst) (x := computeBudgetOfBase64Transaction pkg base64)
  rw [← hi, hm, succeeds_computeBudgetOfInstructionData_iff]

/-- The block indexer tallies what it receives exactly when it can report every
block up to the stop. -/
theorem talliesBlocks_iff (limit : UInt64) (updates : List (SubscribeUpdate Message)) :
    TalliesBlocks updates (blockRun pkg limit updates) ↔
      ∀ update ∈ window isV1BlockUpdate limit.toNat updates,
        CanReport computeBudgetId update := by
  constructor
  · exact (blockRun_counting pkg limit.toNat).fine_of_reads rfl
  · intro h
    exact ((blockObeys_iff pkg limit updates).mpr h).reads.mono fun _ _ hg => hg.2

/-- Reading a budget does not throw exactly when the data of every ComputeBudget
instruction is readable, on either path and in the block indexer. -/
theorem reading_succeeds_iff :
    (∀ message : Message, Succeeds (computeBudgetOfMessage pkg (grpcMessage message)) ↔
      ReadableMessage computeBudgetId message) ∧
    (∀ base64 compiled, compiledOfBase64 pkg base64 = .ok compiled →
      compiled.version = .legacy ∨ compiled.version = .number 0 →
        (Succeeds (computeBudgetOfBase64Transaction pkg base64) ↔
          ∀ data ∈ (compiledData pkg compiled).reduceOption, Readable data)) ∧
    ∀ (limit : UInt64) (updates : List (SubscribeUpdate Message)),
      TalliesBlocks updates (blockRun pkg limit updates) ↔
        ∀ update ∈ window isV1BlockUpdate limit.toNat updates,
          CanReport computeBudgetId update :=
  ⟨succeeds_computeBudgetOfMessage_iff pkg,
    fun _ _ hs hv => succeeds_computeBudgetOfBase64Transaction_iff pkg hs hv,
    talliesBlocks_iff pkg⟩

theorem reading_succeeds_iff_of_dataless :
    Succeeds (computeBudgetOfBase64Transaction (.reference .computeBudget) datalessBase64) ↔
      ∀ data ∈ (compiledData (.reference .computeBudget) datalessCompiled).reduceOption,
        Readable data :=
  (reading_succeeds_iff (.reference .computeBudget)).2.1 datalessBase64 datalessCompiled
    compiledOfBase64_dataless (Or.inl rfl)

/-- A legacy message with a ComputeBudget instruction of an unknown discriminant. -/
def unknownMessage : Message where
  accountKeys := [List.replicate 32 5, Address.computeBudget.bytes]
  recentBlockhash := List.replicate 32 0
  instructions := [⟨1, [], [9]⟩]

def unknownBlock : SubscribeUpdateBlock Message where
  slot := 1
  executedTransactionCount := 1
  transactions := [⟨List.replicate 64 0, some ⟨some unknownMessage⟩⟩]

/-- On an unknown discriminant TypeScript throws where Rust and Go read an empty
budget, and the block indexer fails on a block that has it. -/
theorem not_succeeds_unknownMessage :
    Rust.ComputeBudget.ofMessage .computeBudget unknownMessage = {} ∧
      Succeeds (Go.budgetOfMessage .copying .computeBudget unknownMessage) ∧
      ¬ Succeeds (computeBudgetOfMessage (.reference .computeBudget)
        (grpcMessage unknownMessage)) ∧
      ¬ TalliesBlocks [⟨some (.block unknownBlock)⟩]
        (blockRun (.reference .computeBudget) 0 [⟨some (.block unknownBlock)⟩]) := by
  refine ⟨rfl, Go.budgetOfMessage_succeeds .copying .computeBudget unknownMessage, ?_, ?_⟩
  · rw [succeeds_computeBudgetOfMessage_iff]
    decide
  · rw [talliesBlocks_iff]
    decide

end TypeScript

end TransactionV1

import TransactionV1.Foundations.Fallible
import TransactionV1.Foundations.LittleEndian
import TransactionV1.Message.Proto
import TransactionV1.TypeScript.BigInt

/-! # The packages the TypeScript code calls

`@solana/kit` and `@solana-program/compute-budget`, with what the code relies on:
addresses are text forms of keys, instruction data is identified by its first
byte, an operand is little-endian and what follows it is ignored, and an
instruction without data has none after decoding.
-/

namespace TransactionV1.TypeScript

inductive TransactionVersion where
  | legacy
  | number (n : ℕ)
  deriving DecidableEq

namespace CompiledTransactionMessage

structure Header where
  numSignerAccounts : ℕ
  numReadonlySignerAccounts : ℕ
  numReadonlyNonSignerAccounts : ℕ
  deriving DecidableEq

/-- An instruction of a compiled message. Its data may be undefined. -/
structure Instruction where
  programAddressIndex : ℕ
  accountIndices : List ℕ
  data : Option Bytes
  deriving DecidableEq

structure AddressTableLookup where
  lookupTableAddress : String
  writableIndexes : List ℕ
  readonlyIndexes : List ℕ
  deriving DecidableEq

inductive ConfigValue where
  | u32 (value : ℕ)
  | u64 (value : ℤ)
  deriving DecidableEq

end CompiledTransactionMessage

/-- A decoded message. Only v0 messages have lookups, and only v1 messages a config: a
mask that says which fields are set, and the values of these in the order of its bits. -/
structure CompiledTransactionMessage where
  version : TransactionVersion
  header : CompiledTransactionMessage.Header
  staticAccounts : List String
  lifetimeToken : String
  instructions : List CompiledTransactionMessage.Instruction
  addressTableLookups : List CompiledTransactionMessage.AddressTableLookup := []
  configMask : ℕ := 0
  configValues : List CompiledTransactionMessage.ConfigValue := []
  deriving DecidableEq

/-- `V1TransactionConfig`, which is also the result type `ComputeBudget`. -/
@[ext] structure ComputeBudget where
  computeUnitLimit : Option ℕ := none
  heapSize : Option ℕ := none
  loadedAccountsDataSizeLimit : Option ℕ := none
  priorityFeeLamports : Option ℤ := none
  deriving DecidableEq

inductive ComputeBudgetInstruction where
  | requestUnits
  | requestHeapFrame
  | setComputeUnitLimit
  | setComputeUnitPrice
  | setLoadedAccountsDataSizeLimit
  deriving DecidableEq

def ComputeBudgetInstruction.discriminator : ComputeBudgetInstruction → UInt8
  | requestUnits => 0
  | requestHeapFrame => 1
  | setComputeUnitLimit => 2
  | setComputeUnitPrice => 3
  | setLoadedAccountsDataSizeLimit => 4

/-- A decoder of instruction data skips the discriminator, reads a little-endian
operand and ignores what follows. It throws when the operand is too short. -/
structure ReadsOperand {α : Type} (width : ℕ) (ofNat : ℕ → α)
    (decode : Bytes → Except JsError α) : Prop where
  decode_of_some : ∀ d operand n, LittleEndian.read? width operand = some n →
    decode (d :: operand) = .ok (ofNat n)
  decode_of_none : ∀ d operand, LittleEndian.read? width operand = none →
    ∃ e, decode (d :: operand) = .error e

/-- The functions of the packages, named after the codecs they belong to. The
field decoders return the one field the code reads. -/
structure Packages (computeBudgetId : Address) where
  addressDecoder : Bytes → String
  addressDecoder_inj : ∀ key key' : Bytes, key.length = 32 → key'.length = 32 →
    addressDecoder key = addressDecoder key' → key = key'
  base58Decoder : Bytes → String
  blockhashDecoder : Bytes → Except JsError String
  blockhashDecoder_succeeds_iff : ∀ bytes,
    Fallible.Succeeds (blockhashDecoder bytes) ↔ 32 ≤ bytes.length
  base64Encoder : String → Except JsError Bytes
  /-- The message bytes of a wire transaction. -/
  transactionDecoder : Bytes → Except JsError Bytes
  compiledTransactionMessageDecoder : Bytes → Except JsError CompiledTransactionMessage
  data_ne_empty : ∀ bytes compiled, compiledTransactionMessageDecoder bytes = .ok compiled →
    compiled.version ≠ .number 1 →
    ∀ instruction ∈ compiled.instructions, instruction.data ≠ some []
  /-- The config of the decompiled message, which the mask and values of a v1 message state. -/
  decompileTransactionMessage : CompiledTransactionMessage → Except JsError (Option ComputeBudget)
  computeBudgetProgramAddress : String
  computeBudgetProgramAddress_eq :
    computeBudgetProgramAddress = addressDecoder computeBudgetId.bytes
  maxComputeUnitLimit : ℕ
  maxComputeUnitLimit_eq : maxComputeUnitLimit = 1400000
  identifyComputeBudgetInstruction : Bytes → Except JsError ComputeBudgetInstruction
  identify_discriminator : ∀ kind operand,
    identifyComputeBudgetInstruction (ComputeBudgetInstruction.discriminator kind :: operand) =
      .ok kind
  identify_nil : ∃ e, identifyComputeBudgetInstruction [] = .error e
  identify_unknown : ∀ d operand, (∀ kind, d ≠ ComputeBudgetInstruction.discriminator kind) →
    ∃ e, identifyComputeBudgetInstruction (d :: operand) = .error e
  requestHeapFrameDecoder : Bytes → Except JsError ℕ
  requestHeapFrameDecoder_reads : ReadsOperand 4 id requestHeapFrameDecoder
  setComputeUnitLimitDecoder : Bytes → Except JsError ℕ
  setComputeUnitLimitDecoder_reads : ReadsOperand 4 id setComputeUnitLimitDecoder
  setComputeUnitPriceDecoder : Bytes → Except JsError ℤ
  setComputeUnitPriceDecoder_reads : ReadsOperand 8 Int.ofNat setComputeUnitPriceDecoder
  setLoadedAccountsDataSizeLimitDecoder : Bytes → Except JsError ℕ
  setLoadedAccountsDataSizeLimitDecoder_reads :
    ReadsOperand 4 id setLoadedAccountsDataSizeLimitDecoder

section Grpc

structure GrpcTransactionConfig where
  priorityFee : Option String
  computeUnitLimit : Option ℕ
  loadedAccountsDataSizeLimit : Option ℕ
  heapSize : Option ℕ
  deriving DecidableEq

abbrev GrpcMessage := MessageOf GrpcTransactionConfig

/-- The client decodes 32-bit fields as numbers and a 64-bit field as a decimal string. -/
def grpcConfig (config : TransactionConfig) : GrpcTransactionConfig where
  priorityFee := config.priorityFee.map fun fee => toString fee.toNat
  computeUnitLimit := config.computeUnitLimit.map UInt32.toNat
  loadedAccountsDataSizeLimit := config.loadedAccountsDataSizeLimit.map UInt32.toNat
  heapSize := config.heapSize.map UInt32.toNat

/-- The message the gRPC client delivers for one on the wire. -/
def grpcMessage (message : Message) : GrpcMessage := message.mapConfig grpcConfig

end Grpc

end TransactionV1.TypeScript

import Mathlib.Algebra.Group.Nat.Defs
import Mathlib.Data.List.Basic

/-! # Messages on the gRPC wire

The protobuf messages the indexers receive. A transaction message is generic in
its config, which is the one part the generated clients decode differently; an
update is generic in the message it carries.
-/

namespace TransactionV1

/-- Raw protobuf `bytes`. -/
abbrev Bytes := List UInt8

@[ext] structure Address where
  bytes : Bytes
  length_bytes : bytes.length = 32
  deriving DecidableEq

/-- The ComputeBudget program, `ComputeBudget111111111111111111111111111111`. -/
def Address.computeBudget : Address where
  bytes := [3, 6, 70, 111, 229, 33, 23, 50, 255, 236, 173, 186, 114, 195, 155, 231,
    188, 140, 229, 187, 197, 247, 18, 107, 44, 67, 155, 58, 64, 0, 0, 0]
  length_bytes := rfl

structure MessageHeader where
  numRequiredSignatures : UInt32
  numReadonlySignedAccounts : UInt32
  numReadonlyUnsignedAccounts : UInt32
  deriving DecidableEq

structure MessageAddressTableLookup where
  accountKey : Bytes
  writableIndexes : Bytes
  readonlyIndexes : Bytes
  deriving DecidableEq

structure CompiledInstruction where
  programIdIndex : UInt32
  accounts : Bytes
  data : Bytes
  deriving DecidableEq

/-- The compute budget of a v1 message. Every field may be absent. -/
structure TransactionConfig where
  priorityFee : Option UInt64
  computeUnitLimit : Option UInt32
  loadedAccountsDataSizeLimit : Option UInt32
  heapSize : Option UInt32
  deriving DecidableEq

/-- A transaction message whose config has the given representation. -/
structure MessageOf (κ : Type) where
  header : Option MessageHeader := none
  accountKeys : List Bytes := []
  recentBlockhash : Bytes := []
  instructions : List CompiledInstruction := []
  versioned : Bool := false
  addressTableLookups : List MessageAddressTableLookup := []
  config : Option κ := none
  deriving DecidableEq

abbrev Message := MessageOf TransactionConfig

/-- Account keys and instructions are fewer than `2 ^ 32`, as they are in every
protobuf message. -/
structure Message.Bounded (message : Message) : Prop where
  accountKeys_lt : message.accountKeys.length < 2 ^ 32
  instructions_lt : message.instructions.length < 2 ^ 32

/-- Decode the config of a message into another representation. -/
def MessageOf.mapConfig {κ κ' : Type} (f : κ → κ') (message : MessageOf κ) : MessageOf κ' where
  header := message.header
  accountKeys := message.accountKeys
  recentBlockhash := message.recentBlockhash
  instructions := message.instructions
  versioned := message.versioned
  addressTableLookups := message.addressTableLookups
  config := message.config.map f

structure Transaction (μ : Type) where
  message : Option μ

structure SubscribeUpdateTransactionInfo (μ : Type) where
  signature : Bytes
  transaction : Option (Transaction μ)

structure SubscribeUpdateTransaction (μ : Type) where
  transaction : Option (SubscribeUpdateTransactionInfo μ)
  slot : UInt64

structure SubscribeUpdateBlock (μ : Type) where
  slot : UInt64
  executedTransactionCount : UInt64
  transactions : List (SubscribeUpdateTransactionInfo μ)

/-- The kinds of update a subscription may deliver. Those no indexer looks into
carry no payload here. -/
inductive UpdateOneof (μ : Type) where
  | account
  | slot
  | transaction (update : SubscribeUpdateTransaction μ)
  | transactionStatus
  | block (block : SubscribeUpdateBlock μ)
  | ping
  | pong
  | blockMeta
  | entry

structure SubscribeUpdate (μ : Type) where
  updateOneof : Option (UpdateOneof μ)

section Accessors

variable {μ ν : Type}

/-- The message of a transaction, when the update carries one. -/
def SubscribeUpdateTransactionInfo.message? (info : SubscribeUpdateTransactionInfo μ) : Option μ :=
  info.transaction.bind (·.message)

/-- The messages of the transactions of a block that carry one, in block order. -/
def SubscribeUpdateBlock.messages (block : SubscribeUpdateBlock μ) : List μ :=
  block.transactions.filterMap (·.message?)

/-- The update's transaction, when that is what it is about. -/
def SubscribeUpdate.transaction? (update : SubscribeUpdate μ) :
    Option (SubscribeUpdateTransaction μ) :=
  match update.updateOneof with
  | some (.transaction t) => some t
  | _ => none

def SubscribeUpdate.block? (update : SubscribeUpdate μ) : Option (SubscribeUpdateBlock μ) :=
  match update.updateOneof with
  | some (.block b) => some b
  | _ => none

/-- The message of a transaction update, through every optional layer. -/
def SubscribeUpdate.message? (update : SubscribeUpdate μ) : Option μ :=
  (update.transaction?.bind (·.transaction)).bind (·.message?)

def SubscribeUpdateTransactionInfo.map (f : μ → ν) (info : SubscribeUpdateTransactionInfo μ) :
    SubscribeUpdateTransactionInfo ν where
  signature := info.signature
  transaction := info.transaction.map fun transaction => ⟨transaction.message.map f⟩

def SubscribeUpdateBlock.map (f : μ → ν) (block : SubscribeUpdateBlock μ) :
    SubscribeUpdateBlock ν where
  slot := block.slot
  executedTransactionCount := block.executedTransactionCount
  transactions := block.transactions.map (·.map f)

def UpdateOneof.map (f : μ → ν) : UpdateOneof μ → UpdateOneof ν
  | .account => .account
  | .slot => .slot
  | .transaction t => .transaction ⟨t.transaction.map (·.map f), t.slot⟩
  | .transactionStatus => .transactionStatus
  | .block b => .block (b.map f)
  | .ping => .ping
  | .pong => .pong
  | .blockMeta => .blockMeta
  | .entry => .entry

/-- The same update with its messages in another representation. -/
def SubscribeUpdate.map (f : μ → ν) (update : SubscribeUpdate μ) : SubscribeUpdate ν :=
  ⟨update.updateOneof.map (·.map f)⟩

@[simp] theorem message?_map (f : μ → ν) (info : SubscribeUpdateTransactionInfo μ) :
    (info.map f).message? = info.message?.map f := by
  cases h : info.transaction <;>
    simp [SubscribeUpdateTransactionInfo.map, SubscribeUpdateTransactionInfo.message?, h]

@[simp] theorem messages_map (f : μ → ν) (block : SubscribeUpdateBlock μ) :
    (block.map f).messages = block.messages.map f := by
  simp only [SubscribeUpdateBlock.messages, SubscribeUpdateBlock.map, List.filterMap_map,
    List.map_filterMap]
  exact List.filterMap_congr fun info _ => message?_map f info

@[simp] theorem block?_map (f : μ → ν) (update : SubscribeUpdate μ) :
    (update.map f).block? = update.block?.map (·.map f) := by
  rcases update with ⟨_ | kind⟩
  · rfl
  · cases kind <;> rfl

@[simp] theorem updateMessage?_map (f : μ → ν) (update : SubscribeUpdate μ) :
    (update.map f).message? = update.message?.map f := by
  rcases update with ⟨_ | kind⟩
  · rfl
  · cases kind with
    | transaction t =>
      rcases t with ⟨_ | info, slot⟩
      · rfl
      · exact message?_map f info
    | _ => rfl

end Accessors

end TransactionV1

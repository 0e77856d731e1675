import TransactionV1.Foundations.Dialogue
import TransactionV1.Web3.Signers

/-! # Sending through a `Connection`

`ts/web3js-v3/src/lib/v1.ts`, and `send` of `ts/web3js-v3/src/lib/confidential.ts`. A
transaction lives on a blockhash up to a block height, and is confirmed under both.
-/

namespace TransactionV1.Web3

open Dialogue TypeScript

/-- A `V1TransactionConfig`. A member may be missing, and one that is there undefined. -/
structure V1TransactionConfig where
  computeUnitLimit : Option (Option ℕ) := none
  heapSize : Option (Option ℕ) := none
  loadedAccountsDataSizeLimit : Option (Option ℕ) := none
  priorityFeeLamports : Option (Option ℕ) := none

/-- `{ ...defaults, ...config }`. -/
def V1TransactionConfig.spread (defaults config : V1TransactionConfig) : V1TransactionConfig where
  computeUnitLimit := config.computeUnitLimit <|> defaults.computeUnitLimit
  heapSize := config.heapSize <|> defaults.heapSize
  loadedAccountsDataSizeLimit :=
    config.loadedAccountsDataSizeLimit <|> defaults.loadedAccountsDataSizeLimit
  priorityFeeLamports := config.priorityFeeLamports <|> defaults.priorityFeeLamports

/-- What `MessageV1.compile` is given. -/
structure CompileArgs (key plan : Type) where
  instructions : List plan
  payerKey : key
  recentBlockhash : String
  transactionConfig : V1TransactionConfig

/-- What `@solana/web3.js` supplies, and what it shows of its transactions. Only a fetched
transaction whose message is a `MessageV1` has a config. -/
structure Sdk extends Plans where
  Keypair : Type
  PublicKey : Type
  MessageV1 : Type
  Transaction : Type
  Fetched : Type
  publicKey : Keypair → PublicKey
  signer : Keypair → Signer
  compile : CompileArgs PublicKey InstructionPlan → Except JsError MessageV1
  versionedTransaction : MessageV1 → Transaction
  sign : Transaction → List Signer → Except JsError Transaction
  transfer : PublicKey → ℕ → PublicKey → InstructionPlan
  transactionVersion : Transaction → String
  instructionCount : Transaction → ℕ
  serializedSize : Transaction → ℕ
  envelopeVersion : Fetched → String
  messageVersion : Fetched → String
  transactionConfig : Fetched → Option V1TransactionConfig
  json : V1TransactionConfig → String
  fee : Fetched → String
  computeUnitsConsumed : Fetched → String
  deserialized : Transaction → Except JsError Transaction
  ownConfig : Transaction → Option V1TransactionConfig
  errorMessage : JsError → String

structure Lifetime where
  blockhash : String
  lastValidBlockHeight : ℕ
  deriving DecidableEq

/-- What a program asks of a connection, with requests `R` of other libraries. -/
inductive Question (sdk : Sdk) (R : Type) where
  | generate
  | requestAirdrop (recipient : sdk.PublicKey) (lamports : ℕ)
  | getLatestBlockhash
  | sendTransaction (transaction : sdk.Transaction)
  | confirmTransaction (lifetime : Lifetime) (signature : String)
  | getTransaction (signature : String) (maxSupportedTransactionVersion : ℕ)
  | println (text : String)
  | request (request : R)

/-- What each question resolves to. A confirmation holds the error of a transaction that
failed, and what is not found is null. -/
def Value (sdk : Sdk) {R : Type} (V : R → Type) : Question sdk R → Type
  | .generate => sdk.Keypair
  | .requestAirdrop _ _ => String
  | .getLatestBlockhash => Lifetime
  | .sendTransaction _ => String
  | .confirmTransaction _ _ => Option String
  | .getTransaction _ _ => Option sdk.Fetched
  | .println _ => Unit
  | .request r => V r

section Programs

variable (sdk : Sdk) {R : Type} (V : R → Type)

/-- The answer to a question is its value, or the error its promise is rejected with. -/
abbrev Answer (q : Question sdk R) := Except JsError (Value sdk V q)

abbrev Call := Exchange (Answer sdk V)

abbrev Transcript := List (Call sdk V)

abbrev Async (α : Type) := Dialogue (Question sdk R) (Answer sdk V) JsError α

variable {sdk V}

def println (text : String) : Async sdk V Unit := attempt (Question.println text)

/-- The defaults of `sendV1Transaction`. -/
def defaultConfig : V1TransactionConfig where
  computeUnitLimit := some (some 1400000)
  loadedAccountsDataSizeLimit := some (some (64 * 1024 * 1024))
  priorityFeeLamports := some (some 5000)

/-- Compile and sign the transaction of `sendV1Transaction`. -/
def buildV1Transaction (payer : sdk.Keypair) (instructions : List sdk.InstructionPlan)
    (signers : List sdk.Signer) (config : V1TransactionConfig) (blockhash : String) :
    Except JsError sdk.Transaction := do
  let message ← sdk.compile
    { instructions := instructions
      payerKey := sdk.publicKey payer
      recentBlockhash := blockhash
      transactionConfig := defaultConfig.spread config }
  sdk.sign (sdk.versionedTransaction message) (sdk.signer payer :: signers)

/-- `sendV1Transaction`. What the confirmation holds is dropped. -/
def sendV1Transaction (payer : sdk.Keypair) (instructions : List sdk.InstructionPlan)
    (signers : List sdk.Signer) (config : V1TransactionConfig) :
    Async sdk V (String × sdk.Transaction) := do
  let lifetime : Lifetime ← attempt Question.getLatestBlockhash
  let transaction ← ofExcept
    (buildV1Transaction payer instructions signers config lifetime.blockhash)
  let signature : String ← attempt (Question.sendTransaction transaction)
  let _ ← attempt (Question.confirmTransaction lifetime signature)
  return (signature, transaction)

def fundedKeypair (lamports : ℕ) : Async sdk V sdk.Keypair := do
  let keypair : sdk.Keypair ← attempt Question.generate
  let signature : String ← attempt (Question.requestAirdrop (sdk.publicKey keypair) lamports)
  let lifetime : Lifetime ← attempt Question.getLatestBlockhash
  let _ ← attempt (Question.confirmTransaction lifetime signature)
  return keypair

def send (payer : sdk.Keypair) (input : sdk.InstructionPlan) :
    Async sdk V (String × sdk.Transaction) := do
  let signers ← ofExcept (instructionSigners sdk.toPlans input)
  sendV1Transaction payer [input] signers {}

end Programs

end TransactionV1.Web3

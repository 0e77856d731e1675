import TransactionV1.Client.SendDecode.TypeScript

/-! # A durable nonce

`ts/kit/src/nonce.ts` sends two transactions. The first creates an account that holds a
nonce, and the second lives on that nonce instead of a blockhash. The program ends by
checking that the nonce has advanced.
-/

namespace TransactionV1.TypeScript

open Dialogue Client

/-- What `@solana/kit` and the system program supply for nonces. -/
structure NonceSdk extends Sdk where
  systemProgramAddress : Address
  getNonceSize : ℕ
  getCreateAccountInstruction : UInt64 → KeyPairSigner → KeyPairSigner → Address → ℕ → Instruction
  getInitializeNonceAccountInstruction : Address → Address → Instruction
  appendTransactionMessageInstructions : List Instruction → TransactionMessage → TransactionMessage
  setTransactionMessageLifetimeUsingDurableNonce : Hash → Address → Address →
    TransactionMessage → TransactionMessage
  assertIsTransactionWithDurableNonceLifetime : Transaction → Except JsError Unit
  instructionCount : TransactionMessage → ℕ
  recentBlockhash : Fetched → String

section Program

variable {sdk : NonceSdk} {computeBudgetId : Address} (pkg : Packages computeBudgetId)

def setupMessage (payer nonceAccount : sdk.KeyPairSigner) (rent : UInt64)
    (setupBlockhash : Hash) : sdk.TransactionMessage :=
  sdk.setTransactionMessageConfig
    { computeUnitLimit := some 20000, loadedAccountsDataSizeLimit := some (64 * 1024) }
    (sdk.appendTransactionMessageInstructions
      [sdk.getCreateAccountInstruction rent nonceAccount payer sdk.systemProgramAddress
          sdk.getNonceSize,
        sdk.getInitializeNonceAccountInstruction (sdk.address nonceAccount) (sdk.address payer)]
      (sdk.setTransactionMessageLifetimeUsingBlockhash setupBlockhash
        (sdk.setTransactionMessageFeePayerSigner payer (sdk.createTransactionMessage 1))))

/-- `message`. -/
def nonceMessage (payer nonceAccount recipient : sdk.KeyPairSigner) (nonce : Hash) :
    sdk.TransactionMessage :=
  sdk.setTransactionMessageConfig exampleConfig
    (sdk.appendTransactionMessageInstruction
      (sdk.getTransferSolInstruction 10000000 (sdk.address recipient) payer)
      (sdk.setTransactionMessageLifetimeUsingDurableNonce nonce (sdk.address nonceAccount)
        (sdk.address payer)
        (sdk.setTransactionMessageFeePayerSigner payer (sdk.createTransactionMessage 1))))

def signWithNonce (message : sdk.TransactionMessage) : Except JsError sdk.Transaction := do
  let transaction ← sdk.signTransactionMessageWithSigners message
  sdk.assertIsTransactionWithDurableNonceLifetime transaction
  return transaction

structure Parties (sdk : NonceSdk) where
  payer : sdk.KeyPairSigner
  nonceAccount : sdk.KeyPairSigner
  recipient : sdk.KeyPairSigner

/-- Fund the payer, and send the transaction that creates the nonce account. -/
def createNonceAccount : Rpc sdk.toSdk (Parties sdk) := do
  let payer ← newWallet
  let nonceAccount ← newWallet
  let recipient ← newWallet
  match ← airdrop (sdk.address payer) 1000000000 with
  | .error error => threw error
  | .ok _ =>
    match ← getMinimumBalanceForRentExemption sdk.getNonceSize with
    | .error error => threw error
    | .ok rent =>
      match ← getLatestBlockhash with
      | .error error => threw error
      | .ok setupBlockhash => do
        let setupTransaction ← ofExcept
          (signWithBlockhash (setupMessage payer nonceAccount rent setupBlockhash))
        let _ ← sendAndConfirm setupTransaction
        println ("== nonce account created ==\n  address: " ++
          Base58.encode (sdk.address nonceAccount).bytes)
        return ⟨payer, nonceAccount, recipient⟩

def nonceOf (account : Address) : Rpc sdk.toSdk Hash := do
  match ← fetchNonce account with
  | .error error => threw error
  | .ok nonce => return nonce

def decodeBase64 (encoded : String) : Except JsError (Option ComputeBudget × TransactionVersion) :=
  do
  let wireTransaction ← pkg.base64Encoder encoded
  decodeTransactionVersion pkg wireTransaction

/-- What the wire bytes of a transaction say before it is sent. -/
def decodeOwn (transaction : sdk.Transaction) :
    Except JsError (Option ComputeBudget × TransactionVersion) := do
  let wireTransaction ← sdk.getBase64EncodedWireTransaction transaction
  decodeBase64 pkg wireTransaction

def printOwn (message : sdk.TransactionMessage) (transaction : sdk.Transaction) :
    Rpc sdk.toSdk (Option ComputeBudget) := do
  let (config, version) ← ofExcept (decodeOwn pkg transaction)
  println "\n== compiled locally =="
  println ("  version:      " ++ version.toText)
  println ("  config:       " ++ sdk.json config)
  println ("  instructions: " ++ toString (sdk.instructionCount message) ++
    " (AdvanceNonceAccount, then the transfer)")
  return config

/-- Build, decode and send the transfer that lives on a nonce. -/
def sendNonceTransfer (parties : Parties sdk) (nonce : Hash) :
    Rpc sdk.toSdk (Signature × Option ComputeBudget) := do
  println ("  nonce:   " ++ nonce)
  let message := nonceMessage parties.payer parties.nonceAccount parties.recipient nonce
  let transaction ← ofExcept (signWithNonce message)
  let config ← printOwn pkg message transaction
  let signature ← sendAndConfirm transaction
  println ("\n== sent ==\n  signature: " ++ signature)
  return (signature, config)

def fetchNonceJson (signature : Signature) : Rpc sdk.toSdk Unit := do
  match ← getTransaction signature .json (some 1) with
  | .error error => threw error
  | .ok none => threw (.error "the transaction just sent was not found")
  | .ok (some fetched) => do
    println "\n== read back over JSON-RPC =="
    println ("  version:         " ++ sdk.fetchedVersion fetched)
    println ("  recentBlockhash: " ++ sdk.recentBlockhash fetched ++
      " (the nonce, not a blockhash)")

def fetchNonceBytes (signature : Signature) (config : Option ComputeBudget) :
    Rpc sdk.toSdk Unit := do
  match ← getTransaction signature .base64 (some 1) with
  | .error error => threw error
  | .ok none => threw (.error "the transaction just sent was not found")
  | .ok (some encoded) => do
    let (remote, _) ← ofExcept (decodeBase64 pkg (sdk.encodedTransaction encoded))
    println (formatTransactionConfig remote "  ")
    if survived sdk.toSdk config remote then println "  config round-tripped exactly"
    else threw (.error "the config did not survive the round trip")

def checkAdvanced (account : Address) (nonce : Hash) : Rpc sdk.toSdk Unit := do
  let advanced ← nonceOf account
  println "\n== nonce after the transaction =="
  println ("  before: " ++ nonce)
  println ("  after:  " ++ advanced)
  if advanced = nonce then threw (.error "the nonce did not advance")
  else return ()

def readNonceBack (account : Address) (nonce : Hash) (signature : Signature)
    (config : Option ComputeBudget) : Rpc sdk.toSdk Unit := do
  fetchNonceJson signature
  fetchNonceBytes pkg signature config
  checkAdvanced account nonce

def useNonce : Rpc sdk.toSdk Unit := do
  let parties ← createNonceAccount
  let nonce ← nonceOf (sdk.address parties.nonceAccount)
  let (signature, config) ← sendNonceTransfer pkg parties nonce
  readNonceBack pkg (sdk.address parties.nonceAccount) nonce signature config

def nonceProgram (codecs : FeatureCodecs) : Rpc sdk.toSdk Unit := do
  assertV1Active codecs
  useNonce pkg

end Program

section Stages

variable {ω ρ φ κ ε τ : Type}

/-- What is read before a nonce account is created: the rent of an account of so many
bytes, and a blockhash. -/
structure Preparation where
  airdrop : Airdrop
  space : ℕ
  rent : UInt64
  blockhash : Hash

/-- Where a program stands that creates a nonce account and lives on its nonce. -/
inductive Stage (τ : Type) where
  | unfunded
  | funded (airdrop : Airdrop)
  | priced (airdrop : Airdrop) (space : ℕ) (rent : UInt64)
  | ready (preparation : Preparation)
  | created (airdrop : Airdrop) (account : Address)
  | known (airdrop : Airdrop) (account : Address) (nonce : Hash)
  | spent (airdrop : Airdrop) (account : Address) (nonce : Hash) (transaction : τ)
  | advanced (airdrop : Airdrop) (account : Address) (nonce : Hash) (transaction : τ)
      (later : Hash)
  | stopped

/-- What one exchange does to a stage. `setup` relates an account to the transactions that
create it for a funded wallet, and `spend` a nonce of the account to those that live on it. -/
inductive Stage.Step (setup : Preparation → Address → τ → Prop)
    (spend : Airdrop → Address → Hash → τ → Prop) :
    Stage τ → Client.Call ω ρ φ κ ε τ → Stage τ → Prop where
  | idle {p : Stage τ} {x : Client.Call ω ρ φ κ ε τ} : IsLocal x → Step setup spend p x p
  | fund {recipient : Address} {lamports : UInt64} {signature : Signature} :
      Step setup spend .unfunded ⟨.airdrop recipient lamports, Except.ok signature⟩
        (.funded ⟨recipient, lamports⟩)
  | fundRefused {recipient : Address} {lamports : UInt64} {e : ε} :
      Step setup spend .unfunded ⟨.airdrop recipient lamports, Except.error e⟩ .stopped
  | price {airdrop : Airdrop} {space : ℕ} {rent : UInt64} :
      Step setup spend (.funded airdrop)
        ⟨.getMinimumBalanceForRentExemption space, Except.ok rent⟩ (.priced airdrop space rent)
  | priceRefused {airdrop : Airdrop} {space : ℕ} {e : ε} :
      Step setup spend (.funded airdrop)
        ⟨.getMinimumBalanceForRentExemption space, Except.error e⟩ .stopped
  | read {airdrop : Airdrop} {space : ℕ} {rent : UInt64} {blockhash : Hash} :
      Step setup spend (.priced airdrop space rent) ⟨.getLatestBlockhash, Except.ok blockhash⟩
        (.ready ⟨airdrop, space, rent, blockhash⟩)
  | readRefused {airdrop : Airdrop} {space : ℕ} {rent : UInt64} {e : ε} :
      Step setup spend (.priced airdrop space rent) ⟨.getLatestBlockhash, Except.error e⟩ .stopped
  | create {preparation : Preparation} {account : Address} {transaction : τ} :
      setup preparation account transaction → Step setup spend (.ready preparation)
        ⟨.deliverTransaction transaction, Except.ok ()⟩ (.created preparation.airdrop account)
  | createRefused {preparation : Preparation} {account : Address} {transaction : τ} {e : ε} :
      setup preparation account transaction → Step setup spend (.ready preparation)
        ⟨.deliverTransaction transaction, Except.error e⟩ .stopped
  | learn {airdrop : Airdrop} {account : Address} {nonce : Hash} :
      Step setup spend (.created airdrop account) ⟨.fetchNonce account, Except.ok nonce⟩
        (.known airdrop account nonce)
  | learnRefused {airdrop : Airdrop} {account : Address} {e : ε} :
      Step setup spend (.created airdrop account) ⟨.fetchNonce account, Except.error e⟩ .stopped
  | use {airdrop : Airdrop} {account : Address} {nonce : Hash} {transaction : τ} :
      spend airdrop account nonce transaction → Step setup spend (.known airdrop account nonce)
        ⟨.deliverTransaction transaction, Except.ok ()⟩ (.spent airdrop account nonce transaction)
  | useRefused {airdrop : Airdrop} {account : Address} {nonce : Hash} {transaction : τ} {e : ε} :
      spend airdrop account nonce transaction → Step setup spend (.known airdrop account nonce)
        ⟨.deliverTransaction transaction, Except.error e⟩ .stopped
  | fetch {airdrop : Airdrop} {account : Address} {nonce : Hash} {transaction : τ}
      {signature : Signature} {encoding : Encoding} {version : Option ℕ} {answer : Except ε φ} :
      Step setup spend (.spent airdrop account nonce transaction)
        ⟨.getTransaction signature encoding version, answer⟩
        (.spent airdrop account nonce transaction)
  | look {airdrop : Airdrop} {account : Address} {nonce later : Hash} {transaction : τ} :
      Step setup spend (.spent airdrop account nonce transaction)
        ⟨.fetchNonce account, Except.ok later⟩ (.advanced airdrop account nonce transaction later)
  | lookRefused {airdrop : Airdrop} {account : Address} {nonce : Hash} {transaction : τ} {e : ε} :
      Step setup spend (.spent airdrop account nonce transaction)
        ⟨.fetchNonce account, Except.error e⟩ .stopped

variable {setup : Preparation → Address → τ → Prop} {spend : Airdrop → Address → Hash → τ → Prop}
  {p q : Stage τ} {x : Client.Call ω ρ φ κ ε τ} {t : Client.Transcript ω ρ φ κ ε τ}

/-- The conversation has read the blockhash after the airdrop, and the rent. -/
def Prepared (preparation : Preparation) (t : Client.Transcript ω ρ φ κ ε τ) : Prop :=
  FundedThenRead preparation.airdrop preparation.blockhash t ∧
    ⟨.getMinimumBalanceForRentExemption preparation.space, Except.ok preparation.rent⟩ ∈ t

/-- The conversation has delivered a transaction of the funded wallet that creates the
account. -/
def Created (setup : Preparation → Address → τ → Prop) (airdrop : Airdrop) (account : Address)
    (t : Client.Transcript ω ρ φ κ ε τ) : Prop :=
  ∃ preparation transaction, preparation.airdrop = airdrop ∧
    setup preparation account transaction ∧ ⟨.deliverTransaction transaction, Except.ok ()⟩ ∈ t

/-- The nonce was read of the account after its creation was delivered. -/
def Learned (setup : Preparation → Address → τ → Prop) (airdrop : Airdrop) (account : Address)
    (nonce : Hash) : Client.Transcript ω ρ φ κ ε τ → Prop :=
  Protocol.Then (Created setup airdrop account) (⟨.fetchNonce account, Except.ok nonce⟩ ∈ ·)

/-- A transaction that lives on the nonce was delivered after the nonce was read. -/
def Spent (setup : Preparation → Address → τ → Prop) (spend : Airdrop → Address → Hash → τ → Prop)
    (airdrop : Airdrop) (account : Address) (nonce : Hash) (transaction : τ) :
    Client.Transcript ω ρ φ κ ε τ → Prop :=
  Protocol.Then (Learned setup airdrop account nonce) fun t =>
    spend airdrop account nonce transaction ∧ ⟨.deliverTransaction transaction, Except.ok ()⟩ ∈ t

/-- What a conversation has seen when it reaches a stage from the start. -/
def Stage.Seen (setup : Preparation → Address → τ → Prop)
    (spend : Airdrop → Address → Hash → τ → Prop) :
    Stage τ → Client.Transcript ω ρ φ κ ε τ → Prop
  | .unfunded, _ | .stopped, _ => True
  | .funded airdrop, t => Funded airdrop t
  | .priced airdrop space rent, t => Funded airdrop t ∧
      ⟨.getMinimumBalanceForRentExemption space, Except.ok rent⟩ ∈ t
  | .ready preparation, t => Prepared preparation t
  | .created airdrop account, t => Created setup airdrop account t
  | .known airdrop account nonce, t => Learned setup airdrop account nonce t
  | .spent airdrop account nonce transaction, t
  | .advanced airdrop account nonce transaction _, t =>
    Spent setup spend airdrop account nonce transaction t

section Left

variable {airdrop : Airdrop} {account : Address} {nonce : Hash} {transaction : τ}

end Left

/-- How many transactions were sent before a stage. What stopped may have sent any. -/
def Stage.sends? : Stage τ → Option ℕ
  | .unfunded | .funded _ | .priced _ _ _ | .ready _ => some 0
  | .created _ _ | .known _ _ _ => some 1
  | .spent _ _ _ _ | .advanced _ _ _ _ _ => some 2
  | .stopped => none

/-- Whatever a conversation sends is first a transaction that creates a nonce account, built
on a blockhash read after the airdrop to its wallet, and second one that lives on a nonce
read from the account after its creation was delivered. -/
def SpendsNonce (setup : Preparation → Address → τ → Prop)
    (spend : Airdrop → Address → Hash → τ → Prop) (t : Client.Transcript ω ρ φ κ ε τ) : Prop :=
  ∀ before x after, t = before ++ x :: after → isSend x = true →
    (before.countP isSend = 0 ∧ ∃ preparation account transaction,
      x.1.sent? = some transaction ∧ setup preparation account transaction ∧
        Prepared preparation before) ∨
    before.countP isSend = 1 ∧ ∃ airdrop account nonce transaction,
      x.1.sent? = some transaction ∧ spend airdrop account nonce transaction ∧
        Learned setup airdrop account nonce before

end Stages

section Following

variable {sdk : NonceSdk} {computeBudgetId : Address} {pkg : Packages computeBudgetId}

/-- A v1 transaction over the blockhash that creates the account with the rent that was
read, of a size the system program asks for, and makes it a nonce account of the signer
that was given 1000000000 lamports and pays for it. -/
def SetupBuilt (preparation : Preparation) (account : Address) (transaction : sdk.Transaction) :
    Prop :=
  ∃ payer nonceAccount, preparation.airdrop = ⟨sdk.address payer, 1000000000⟩ ∧
    preparation.space = sdk.getNonceSize ∧ account = sdk.address nonceAccount ∧
    sdk.signTransactionMessageWithSigners
      (sdk.setTransactionMessageConfig
        { computeUnitLimit := some 20000, loadedAccountsDataSizeLimit := some 65536 }
        (sdk.appendTransactionMessageInstructions
          [sdk.getCreateAccountInstruction preparation.rent nonceAccount payer
              sdk.systemProgramAddress sdk.getNonceSize,
            sdk.getInitializeNonceAccountInstruction account (sdk.address payer)]
          (sdk.setTransactionMessageLifetimeUsingBlockhash preparation.blockhash
            (sdk.setTransactionMessageFeePayerSigner payer (sdk.createTransactionMessage 1))))) =
        .ok transaction ∧
    sdk.assertIsTransactionWithBlockhashLifetime transaction = .ok ()

/-- A v1 transfer of 10000000 lamports whose lifetime is the nonce of the account, with the
funded signer as the authority of the nonce, and with the stated budget. -/
def NonceBuilt (airdrop : Airdrop) (account : Address) (nonce : Hash)
    (transaction : sdk.Transaction) : Prop :=
  ∃ payer recipient, airdrop = ⟨sdk.address payer, 1000000000⟩ ∧
    sdk.signTransactionMessageWithSigners
      (sdk.setTransactionMessageConfig
        { priorityFeeLamports := some 5000
          computeUnitLimit := some 20000
          loadedAccountsDataSizeLimit := some 65536
          heapSize := some 65536 }
        (sdk.appendTransactionMessageInstruction
          (sdk.getTransferSolInstruction 10000000 (sdk.address recipient) payer)
          (sdk.setTransactionMessageLifetimeUsingDurableNonce nonce account (sdk.address payer)
            (sdk.setTransactionMessageFeePayerSigner payer (sdk.createTransactionMessage 1))))) =
        .ok transaction ∧
    sdk.assertIsTransactionWithDurableNonceLifetime transaction = .ok ()

abbrev Advances {α : Type} (p : Stage sdk.Transaction) (d : Rpc sdk.toSdk α)
    (onReturn : α → Stage sdk.Transaction → Prop) : Prop :=
  Protocol.Follows (Stage.Step SetupBuilt NonceBuilt) p d
    (Protocol.Reaching onReturn fun _ => True)

/-- The transaction has the signature, and its own bytes say what the config is. -/
def Describes (pkg : Packages computeBudgetId) (transaction : sdk.Transaction)
    (signature : Signature) (config : Option ComputeBudget) : Prop :=
  sdk.getSignatureFromTransaction transaction = .ok signature ∧
    ∃ version, decodeOwn pkg transaction = .ok (config, version)

section ReadBack

variable {airdrop : Airdrop} {account : Address} {nonce : Hash} {signature : Signature}
  {config : Option ComputeBudget} {transaction : sdk.Transaction}

/-- The bytes fetched back under the signature decode to a config, which is the given one,
and after that the account held another nonce. -/
def ReadBack (pkg : Packages computeBudgetId) (account : Address) (nonce : Hash)
    (signature : Signature) (config : Option ComputeBudget) : Transcript sdk.toSdk → Prop :=
  Protocol.Then
    (fun t => ∃ fetched budget version,
      ⟨.getTransaction signature .base64 (some 1), Except.ok (some fetched)⟩ ∈ t ∧
      decodeBase64 pkg (sdk.encodedTransaction fetched) = .ok (some budget, version) ∧
      config = some budget)
    fun t => ∃ later, later ≠ nonce ∧ ⟨.fetchNonce account, Except.ok later⟩ ∈ t

end ReadBack

/-- A transaction was delivered that lives on the nonce of an account created before. After
that its bytes came back with the config of its own, and the account held another nonce. -/
def NonceUsed (pkg : Packages computeBudgetId) (t : Transcript sdk.toSdk) : Prop :=
  ∃ airdrop account nonce transaction signature config,
    Describes pkg transaction signature config ∧
    Protocol.Then (Spent SetupBuilt NonceBuilt airdrop account nonce transaction)
      (ReadBack pkg account nonce signature config) t

end Following

end TransactionV1.TypeScript

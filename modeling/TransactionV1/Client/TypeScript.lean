import TransactionV1.Block.Report
import TransactionV1.Client.Landing
import TransactionV1.Feature.Written

/-! # The TypeScript client

`ts/kit/src/lib/send.ts` and the gate of `feature.ts`. The library's airdrop and its
sending both wait until they are confirmed.
-/

namespace TransactionV1.TypeScript

open Dialogue Client

/-- What `@solana/kit` supplies to build, sign and name transactions, and what a fetched
one holds. -/
structure Sdk where
  KeyPairSigner : Type
  Instruction : Type
  TransactionMessage : Type
  Transaction : Type
  Fetched : Type
  Block : Type
  address : KeyPairSigner → Address
  createTransactionMessage : ℕ → TransactionMessage
  setTransactionMessageFeePayerSigner : KeyPairSigner → TransactionMessage → TransactionMessage
  setTransactionMessageLifetimeUsingBlockhash : Hash → TransactionMessage → TransactionMessage
  getTransferSolInstruction : ℕ → Address → KeyPairSigner → Instruction
  appendTransactionMessageInstruction : Instruction → TransactionMessage → TransactionMessage
  setTransactionMessageConfig : ComputeBudget → TransactionMessage → TransactionMessage
  signTransactionMessageWithSigners : TransactionMessage → Except JsError Transaction
  assertIsTransactionWithBlockhashLifetime : Transaction → Except JsError Unit
  getSignatureFromTransaction : Transaction → Except JsError Signature
  getBase64EncodedWireTransaction : Transaction → Except JsError String
  signatureOfWire : Bytes → Except JsError Signature
  areV1ConfigsEqual : ComputeBudget → ComputeBudget → Bool
  areV1ConfigsEqual_iff : ∀ a b, areV1ConfigsEqual a b = true ↔ a = b
  encodedTransaction : Fetched → String
  fetchedVersion : Fetched → String
  blockTransactions : Block → Option (List (BlockTransaction (Option JsonVersion) String))
  json : Option ComputeBudget → String
  message : JsError → String

/-- An SDK that builds nothing and reads blocks as they are. -/
def trivialSdk : Sdk where
  KeyPairSigner := Unit
  Instruction := Unit
  TransactionMessage := Unit
  Transaction := Unit
  Fetched := Unit
  Block := List (BlockTransaction (Option JsonVersion) String)
  address _ := .computeBudget
  createTransactionMessage _ := ()
  setTransactionMessageFeePayerSigner _ _ := ()
  setTransactionMessageLifetimeUsingBlockhash _ _ := ()
  getTransferSolInstruction _ _ _ := ()
  appendTransactionMessageInstruction _ _ := ()
  setTransactionMessageConfig _ _ := ()
  signTransactionMessageWithSigners _ := .ok ()
  assertIsTransactionWithBlockhashLifetime _ := .ok ()
  getSignatureFromTransaction _ := .ok ""
  getBase64EncodedWireTransaction _ := .ok ""
  signatureOfWire _ := .ok ""
  areV1ConfigsEqual a b := decide (a = b)
  areV1ConfigsEqual_iff _ _ := decide_eq_true_iff
  encodedTransaction _ := ""
  fetchedVersion _ := ""
  blockTransactions := some
  json _ := ""
  message _ := "refused"

variable (sdk : Sdk)

/-- An asynchronous function that calls a cluster. What is not found is null. -/
abbrev Rpc := Session sdk.KeyPairSigner (Option RpcAccount) (Option sdk.Fetched)
  (Option sdk.Block) JsError sdk.Transaction JsError

abbrev Call := Client.Call sdk.KeyPairSigner (Option RpcAccount) (Option sdk.Fetched)
  (Option sdk.Block) JsError sdk.Transaction

abbrev Transcript := List (Call sdk)

variable {sdk}

def exampleConfig : ComputeBudget where
  computeUnitLimit := some 20000
  heapSize := some (64 * 1024)
  loadedAccountsDataSizeLimit := some (64 * 1024)
  priorityFeeLamports := some 5000

/-- The message of `buildV1Transfer`. -/
def transferMessage (payer : sdk.KeyPairSigner) (recipient : Address) (latestBlockhash : Hash) :
    sdk.TransactionMessage :=
  sdk.setTransactionMessageConfig exampleConfig
    (sdk.appendTransactionMessageInstruction
      (sdk.getTransferSolInstruction 10000000 recipient payer)
      (sdk.setTransactionMessageLifetimeUsingBlockhash latestBlockhash
        (sdk.setTransactionMessageFeePayerSigner payer (sdk.createTransactionMessage 1))))

def signWithBlockhash (message : sdk.TransactionMessage) : Except JsError sdk.Transaction := do
  let signedTransaction ← sdk.signTransactionMessageWithSigners message
  sdk.assertIsTransactionWithBlockhashLifetime signedTransaction
  return signedTransaction

def buildV1Transfer : Rpc sdk sdk.Transaction := do
  let payer ← newWallet
  let recipient ← newWallet
  match ← airdrop (sdk.address payer) 1000000000 with
  | .error error => threw error
  | .ok _ =>
    match ← getLatestBlockhash with
    | .error error => threw error
    | .ok latestBlockhash =>
      ofExcept (signWithBlockhash (transferMessage payer (sdk.address recipient) latestBlockhash))

/-- `sendAndConfirm`. The signature is the transaction's own. -/
def sendAndConfirm (transaction : sdk.Transaction) : Rpc sdk Signature := do
  match ← deliverTransaction transaction with
  | .error error => threw error
  | .ok _ => ofExcept (sdk.getSignatureFromTransaction transaction)

/-- The end of `sendV1TransferAndGetSlot`. -/
def landedSlot (signature : Signature) : Rpc sdk (Signature × UInt64) := do
  match ← getSignatureStatuses signature false with
  | .error error => threw error
  | .ok (some status :: _) => return (signature, status.slot)
  | .ok _ => threw (.error "no status for the transaction just sent")

def sendV1TransferAndGetSlot : Rpc sdk (Signature × UInt64) := do
  let signature ← buildV1Transfer >>= sendAndConfirm
  landedSlot signature

/-- `isV1Active`, over a connection. -/
def readV1Active (codecs : FeatureCodecs) : Rpc sdk Bool := do
  let answer ← getAccountInfo enableTxV1Feature
  ofExcept (isV1Active codecs fun _ => answer)

def assertV1Active (codecs : FeatureCodecs) : Rpc sdk Unit := do
  if ← readV1Active codecs then return ()
  else threw (.error ("enable_tx_v1 (" ++ enableTxV1Feature ++ ") is not activated on this " ++
    "cluster; a v1 transaction would be rejected"))

section Sending

/-- A v1 transfer of 10000000 lamports whose lifetime is the blockhash, which the signer
that was given 1000000000 lamports pays for, with the stated budget as its config. -/
def Built (airdrop : Airdrop) (blockhash : Hash) (transaction : sdk.Transaction) : Prop :=
  ∃ payer recipient, airdrop = ⟨sdk.address payer, 1000000000⟩ ∧
    sdk.signTransactionMessageWithSigners
      (sdk.setTransactionMessageConfig
        { priorityFeeLamports := some 5000
          computeUnitLimit := some 20000
          loadedAccountsDataSizeLimit := some 65536
          heapSize := some 65536 }
        (sdk.appendTransactionMessageInstruction
          (sdk.getTransferSolInstruction 10000000 (sdk.address recipient) payer)
          (sdk.setTransactionMessageLifetimeUsingBlockhash blockhash
            (sdk.setTransactionMessageFeePayerSigner payer (sdk.createTransactionMessage 1))))) =
        .ok transaction ∧
    sdk.assertIsTransactionWithBlockhashLifetime transaction = .ok ()

theorem signWithBlockhash_eq_ok {message : sdk.TransactionMessage} {transaction : sdk.Transaction}
    (h : signWithBlockhash message = .ok transaction) :
    sdk.signTransactionMessageWithSigners message = .ok transaction ∧
      sdk.assertIsTransactionWithBlockhashLifetime transaction = .ok () := by
  obtain ⟨signed, hs, h⟩ := Fallible.bind_eq_ok_iff.mp h
  obtain ⟨⟨⟩, ha, h⟩ := Fallible.bind_eq_ok_iff.mp h
  cases h
  exact ⟨hs, ha⟩

theorem built_of_signWithBlockhash {payer recipient : sdk.KeyPairSigner} {blockhash : Hash}
    {transaction : sdk.Transaction}
    (h : signWithBlockhash (transferMessage payer (sdk.address recipient) blockhash) =
      .ok transaction) :
    Built ⟨sdk.address payer, 1000000000⟩ blockhash transaction :=
  ⟨payer, recipient, rfl, signWithBlockhash_eq_ok h⟩

theorem buildV1Transfer_follows :
    Follows Built .unfunded (buildV1Transfer : Rpc sdk sdk.Transaction)
      (Reaches fun transaction q => ∃ airdrop blockhash, q = .ready airdrop blockhash ∧
        Built airdrop blockhash transaction) := by
  refine .request (fun _ => ensures_newWallet) fun payer => ⟨_, .idle trivial, ?_⟩
  refine .request (fun _ => ensures_newWallet) fun recipient => ⟨_, .idle trivial, ?_⟩
  refine .request (fun _ => ensures_airdrop) fun answer => ?_
  cases answer with
  | error e => exact ⟨_, .airdropNotDone, .threw trivial⟩
  | ok _ =>
    refine ⟨_, .airdropDone, .request (fun _ => ensures_getLatestBlockhash) fun answer => ?_⟩
    cases answer with
    | error e => exact ⟨_, .readRefused, .threw trivial⟩
    | ok blockhash =>
      refine ⟨_, .read, ?_⟩
      dsimp only
      cases hb : signWithBlockhash (transferMessage payer (sdk.address recipient) blockhash) with
      | error e => exact .threw trivial
      | ok transaction =>
        exact .returned ⟨_, blockhash, rfl, built_of_signWithBlockhash hb⟩

/-- The library has delivered the transaction, and this is its signature. -/
def Delivers (transaction : sdk.Transaction) (signature : Signature) (t : Transcript sdk) :
    Prop :=
  sdk.getSignatureFromTransaction transaction = .ok signature ∧
    ⟨.deliverTransaction transaction, Except.ok ()⟩ ∈ t

theorem Delivers.right {transaction : sdk.Transaction} {signature : Signature}
    {t' : Transcript sdk} (h : Delivers transaction signature t') (t : Transcript sdk) :
    Delivers transaction signature (t ++ t') := ⟨h.1, List.mem_append_right t h.2⟩

theorem Delivers.left {transaction : sdk.Transaction} {signature : Signature}
    {t : Transcript sdk} (h : Delivers transaction signature t) (t' : Transcript sdk) :
    Delivers transaction signature (t ++ t') := ⟨h.1, List.mem_append_left t' h.2⟩

/-- The signature is that of a transaction the library has delivered. -/
def SentAs (signature : Signature) (t : Transcript sdk) : Prop :=
  ∃ transaction, Delivers transaction signature t

theorem ensures_sendAndConfirm {built : Airdrop → Hash → sdk.Transaction → Prop}
    {airdrop : Airdrop} {blockhash : Hash} {transaction : sdk.Transaction}
    (hb : built airdrop blockhash transaction) :
    Ensures (sendAndConfirm transaction : Rpc sdk Signature) fun t e =>
      ∃ q, Phase.Runs built (.ready airdrop blockhash) t q ∧ ∀ signature, e = .returned signature →
        q = .delivered none ∧ Delivers transaction signature t := by
  refine ensures_monad_bind.mpr (ensures_deliverTransaction.mpr ?_)
  rintro (error | ⟨⟩)
  · exact ensures_threw.mpr ⟨_, .cons (.handRefused hb) .nil, fun _ h => nomatch h⟩
  · refine ensures_ofExcept.mpr ⟨_, .cons (.hand hb) .nil, fun signature h => ⟨rfl, ?_⟩⟩
    cases hs : sdk.getSignatureFromTransaction transaction with
    | error error =>
      rw [hs] at h
      cases h
    | ok signature' =>
      rw [hs] at h
      obtain rfl := Ending.returned.inj h
      exact ⟨hs, List.mem_cons_self⟩

theorem transferV1_delivers :
    Ensures (buildV1Transfer >>= sendAndConfirm : Rpc sdk Signature) fun t e =>
      ∃ q, Phase.Runs Built .unfunded t q ∧ ∀ signature, e = .returned signature →
        q.HasLanded signature ∧ Phase.Runs Built .unfunded t (.delivered none) ∧
          SentAs signature t := by
  refine ensures_monad_bind.mpr (Ensures.mono buildV1Transfer_follows fun t e he => ?_)
  obtain ⟨q, hq, he⟩ := he
  cases e with
  | returned transaction =>
    obtain ⟨airdrop, blockhash, rfl, hb⟩ := he
    refine Ensures.mono (ensures_sendAndConfirm hb) fun t' e' he' => ?_
    obtain ⟨r, hr, hs⟩ := he'
    refine ⟨r, hq.append hr, fun signature h => ?_⟩
    obtain ⟨rfl, hd⟩ := hs signature h
    exact ⟨Or.inl rfl, hq.append hr, transaction, hd.right t⟩
  | threw error => exact ⟨q, hq, fun _ h => nomatch h⟩
  | pending => exact ⟨q, hq, fun _ h => nomatch h⟩

theorem ensures_landedSlot (signature : Signature) :
    Ensures (landedSlot signature : Rpc sdk (Signature × UInt64)) fun t e => ∃ answer,
      t = [⟨.getSignatureStatuses signature false, answer⟩] ∧ ∀ r, e = .returned r →
        r.1 = signature ∧ (firstStatus answer).map (·.slot) = some r.2 := by
  refine ensures_monad_bind.mpr (ensures_getSignatureStatuses.mpr ?_)
  rintro (error | _ | ⟨_ | status, statuses⟩)
  · exact ensures_threw.mpr ⟨_, rfl, fun _ h => nomatch h⟩
  · exact ensures_threw.mpr ⟨_, rfl, fun _ h => nomatch h⟩
  · exact ensures_threw.mpr ⟨_, rfl, fun _ h => nomatch h⟩
  · refine ensures_pure.mpr ⟨_, rfl, ?_⟩
    rintro r ⟨⟩
    exact ⟨rfl, rfl⟩

end Sending

/-- However the cluster and the library's own waits answer, `sendV1TransferAndGetSlot`
sends safely, and returns only the signature of a transaction the library has delivered
and the slot of the first status it reads of it. -/
theorem sendV1TransferAndGetSlot_sendsSafely :
    Ensures (sendV1TransferAndGetSlot : Rpc sdk (Signature × UInt64)) fun t e =>
      SendsSafely Built t ∧ ∀ r, e = .returned r → ∃ before answer,
        t = before ++ [⟨.getSignatureStatuses r.1 false, answer⟩] ∧
        Phase.Runs Built .unfunded before (.delivered none) ∧ SentAs r.1 before ∧
        (firstStatus answer).map (·.slot) = some r.2 := by
  refine Ensures.mono (Follows.askStatus transferV1_delivers ensures_landedSlot)
    fun t e he => ⟨he.1, fun r hr => ?_⟩
  obtain ⟨signature, before, answer, rfl, ⟨hq, hsent⟩, rfl, hslot⟩ := he.2 r hr
  exact ⟨before, answer, rfl, hq, hsent, hslot⟩

end TransactionV1.TypeScript

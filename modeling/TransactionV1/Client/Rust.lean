import TransactionV1.Block.Report
import TransactionV1.Client.Landing

/-! # The Rust client

`rust/src/send.rs` and the sending half of `rust/src/bin/get-block.rs`. The RPC client
waits for confirmations itself; the airdrop's wait is bounded by a blockhash.
-/

namespace TransactionV1.Rust

open Dialogue Client

/-- What the crates of the SDK supply to build and read transactions. -/
structure Sdk where
  Keypair : Type
  Instruction : Type
  MessageV1 : Type
  VersionedTransaction : Type
  Fetched : Type
  Block : Type
  pubkey : Keypair → Address
  transfer : Address → Address → UInt64 → Instruction
  tryCompileWithConfig : Address → List Instruction → Hash → TransactionConfig →
    Except String MessageV1
  tryNew : MessageV1 → List Keypair → Except String VersionedTransaction
  messageV1 : VersionedTransaction → Option MessageV1
  serialize : MessageV1 → Bytes
  instructions : MessageV1 → List CompiledInstruction
  lifetimeSpecifier : MessageV1 → Hash
  config : MessageV1 → TransactionConfig
  decode : Fetched → Option VersionedTransaction
  version : Fetched → String
  jsonConfig : Fetched → Option (Option TransactionConfig)
  toJson : Option TransactionConfig → Except String String
  blockTransactions : Block →
    Option (List (BlockTransaction (Option TransactionVersion) EncodedTransaction))

abbrev Error := List String

/-- An SDK that builds nothing and reads blocks as they are. -/
def trivialSdk : Sdk where
  Keypair := Unit
  Instruction := Unit
  MessageV1 := Unit
  VersionedTransaction := Unit
  Fetched := Unit
  Block := List (BlockTransaction (Option TransactionVersion) EncodedTransaction)
  pubkey _ := .computeBudget
  transfer _ _ _ := ()
  tryCompileWithConfig _ _ _ _ := .ok ()
  tryNew _ _ := .ok ()
  messageV1 _ := none
  serialize _ := []
  instructions _ := []
  lifetimeSpecifier _ := ""
  config _ := ⟨none, none, none, none⟩
  decode _ := none
  version _ := ""
  jsonConfig _ := none
  toJson _ := .ok ""
  blockTransactions := some

variable (sdk : Sdk)

/-- A function that calls a cluster and returns a value or an error. -/
abbrev Rpc := Session sdk.Keypair (Option Account) sdk.Fetched sdk.Block String
  sdk.VersionedTransaction Error

abbrev Call := Client.Call sdk.Keypair (Option Account) sdk.Fetched sdk.Block String
  sdk.VersionedTransaction

abbrev Transcript := List (Call sdk)

variable {sdk}

def fundedKeypair (lamports : UInt64) : Rpc sdk sdk.Keypair := do
  let payer ← newWallet
  match ← requestAirdrop (sdk.pubkey payer) lamports with
  | .error error => threw ["airdrop request failed; is a local validator running?", error]
  | .ok signature =>
    match ← getLatestBlockhash with
    | .error error => threw [error]
    | .ok blockhash =>
      match ← confirmTransaction signature blockhash with
      | .error error => threw [error]
      | .ok () => return payer

def buildV1Transfer (payer : sdk.Keypair) (recipient : Address) (lamports : UInt64)
    (blockhash : Hash) (config : TransactionConfig) : Except String sdk.VersionedTransaction := do
  let instruction := sdk.transfer (sdk.pubkey payer) recipient lamports
  let message ← sdk.tryCompileWithConfig (sdk.pubkey payer) [instruction] blockhash config
  sdk.tryNew message [payer]

def exampleConfig : TransactionConfig where
  computeUnitLimit := some 20000
  loadedAccountsDataSizeLimit := some (64 * 1024)
  heapSize := some (64 * 1024)
  priorityFee := some 5000

/-- `send_v1_and_get_slot` up to the transaction's confirmation. -/
def transferV1 : Rpc sdk Signature := do
  let payer ← fundedKeypair 1000000000
  let recipient ← newWallet
  match ← getLatestBlockhash with
  | .error error => threw [error]
  | .ok blockhash =>
    match buildV1Transfer payer (sdk.pubkey recipient) 10000000 blockhash exampleConfig with
    | .error error => threw [error]
    | .ok transaction =>
      match ← sendAndConfirmTransaction transaction with
      | .error error => threw [error]
      | .ok signature => return signature

/-- The rest of it, which skips the statuses that are missing. -/
def landedSlot (signature : Signature) : Rpc sdk UInt64 := do
  match ← getSignatureStatuses signature false with
  | .error error => threw [error]
  | .ok statuses =>
    match statuses.reduceOption with
    | [] => threw ["no status for the transaction just sent"]
    | status :: _ => return status.slot

def sendV1AndGetSlot : Rpc sdk UInt64 := do
  let signature ← transferV1
  landedSlot signature

section Sending

variable {built : Airdrop → Hash → sdk.VersionedTransaction → Prop}

/-- `funded_keypair` returns once the client has confirmed the airdrop to the keypair. -/
theorem fundedKeypair_follows (lamports : UInt64) :
    Follows built .unfunded (fundedKeypair lamports : Rpc sdk sdk.Keypair)
      (Reaches fun payer q => q = .funded ⟨sdk.pubkey payer, lamports⟩) := by
  refine .request (fun _ => ensures_newWallet) fun payer => ⟨_, .idle trivial, ?_⟩
  refine .request (fun _ => ensures_requestAirdrop) fun answer => ?_
  cases answer with
  | error e => exact ⟨_, .airdropRefused, .threw trivial⟩
  | ok signature =>
    refine ⟨_, .airdrop, .request (fun _ => ensures_getLatestBlockhash) fun answer => ?_⟩
    cases answer with
    | error e => exact ⟨_, .boundRefused, .threw trivial⟩
    | ok blockhash =>
      refine ⟨_, .bound, .request (fun _ => ensures_confirmTransaction) fun answer => ?_⟩
      cases answer with
      | error e => exact ⟨_, .settleRefused, .threw trivial⟩
      | ok _ => exact ⟨_, .settle, .returned rfl⟩

/-- A transfer of 10000000 lamports over the blockhash, which the keypair that was given
1000000000 lamports pays for and signs alone, with the stated budget. -/
def Built (airdrop : Airdrop) (blockhash : Hash) (transaction : sdk.VersionedTransaction) :
    Prop :=
  ∃ payer recipient message, airdrop = ⟨sdk.pubkey payer, 1000000000⟩ ∧
    sdk.tryCompileWithConfig (sdk.pubkey payer)
      [sdk.transfer (sdk.pubkey payer) (sdk.pubkey recipient) 10000000] blockhash statedBudget =
        .ok message ∧
    sdk.tryNew message [payer] = .ok transaction

theorem built_of_buildV1Transfer {payer recipient : sdk.Keypair} {blockhash : Hash}
    {transaction : sdk.VersionedTransaction}
    (h : buildV1Transfer payer (sdk.pubkey recipient) 10000000 blockhash exampleConfig =
      .ok transaction) :
    Built ⟨sdk.pubkey payer, 1000000000⟩ blockhash transaction := by
  obtain ⟨message, hm, hs⟩ := Fallible.bind_eq_ok_iff.mp h
  exact ⟨payer, recipient, message, rfl, hm, hs⟩

theorem transferV1_follows :
    Follows Built .unfunded (transferV1 : Rpc sdk Signature)
      (Reaches fun signature q => q = .delivered (some signature)) := by
  refine (fundedKeypair_follows 1000000000).andThen ?_
  rintro payer _ rfl
  refine .request (fun _ => ensures_newWallet) fun recipient => ⟨_, .idle trivial, ?_⟩
  refine .request (fun _ => ensures_getLatestBlockhash) fun answer => ?_
  cases answer with
  | error e => exact ⟨_, .readRefused, .threw trivial⟩
  | ok blockhash =>
    refine ⟨_, .read, ?_⟩
    dsimp only
    cases hb : buildV1Transfer payer (sdk.pubkey recipient) 10000000 blockhash exampleConfig with
    | error error => exact .threw trivial
    | ok transaction =>
      have hbuilt := built_of_buildV1Transfer hb
      refine .request (fun _ => ensures_sendAndConfirmTransaction) fun answer => ?_
      cases answer with
      | error e => exact ⟨_, .deliverRefused hbuilt, .threw trivial⟩
      | ok signature => exact ⟨_, .deliver hbuilt, .returned rfl⟩

def ReadsSlot (answer : Except String (List (Option SignatureStatus))) (slot : UInt64) : Prop :=
  ∃ statuses status later, answer = .ok statuses ∧ statuses.reduceOption = status :: later ∧
    status.slot = slot

theorem ensures_landedSlot (signature : Signature) :
    Ensures (landedSlot signature : Rpc sdk UInt64) fun t e => ∃ answer,
      t = [⟨.getSignatureStatuses signature false, answer⟩] ∧
        ∀ slot, e = .returned slot → ReadsSlot answer slot := by
  refine ensures_monad_bind.mpr (ensures_getSignatureStatuses.mpr ?_)
  rintro (error | statuses)
  · exact ensures_threw.mpr ⟨_, rfl, fun _ h => nomatch h⟩
  cases hs : statuses.reduceOption with
  | nil =>
    simp only [Ending.continue, hs]
    exact ensures_threw.mpr ⟨_, rfl, fun _ h => nomatch h⟩
  | cons status later =>
    simp only [Ending.continue, hs]
    refine ensures_pure.mpr ⟨_, rfl, ?_⟩
    rintro slot ⟨⟩
    exact ⟨statuses, status, later, rfl, hs, rfl⟩

/-- However the cluster and the client's own waits answer, `send_v1_and_get_slot` sends
safely, and returns only the slot of a status it reads of the transaction that was
confirmed. -/
theorem sendV1AndGetSlot_sendsSafely :
    Ensures (sendV1AndGetSlot : Rpc sdk UInt64) fun t e => SendsSafely Built t ∧
      ∀ slot, e = .returned slot → ∃ signature before answer,
        t = before ++ [⟨.getSignatureStatuses signature false, answer⟩] ∧
        Phase.Runs Built .unfunded before (.delivered (some signature)) ∧
        ReadsSlot answer slot := by
  refine Follows.askStatus (Ensures.mono transferV1_follows fun t e he => ?_) ensures_landedSlot
  obtain ⟨q, hq, he⟩ := he
  refine ⟨q, hq, ?_⟩
  rintro signature rfl
  obtain rfl := he
  exact ⟨Or.inr rfl, hq⟩

end Sending

end TransactionV1.Rust

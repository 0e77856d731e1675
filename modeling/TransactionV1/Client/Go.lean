import TransactionV1.Block.Report
import TransactionV1.Client.Landing

/-! # The Go client

`go/txv1/send.go`: sending a v1 transfer from a fresh wallet and waiting for it to
confirm.
-/

namespace TransactionV1.Go

open Dialogue Client

/-- What solana-go supplies to build and read transactions. -/
structure Sdk where
  Wallet : Type
  PrivateKey : Type
  Instruction : Type
  Transaction : Type
  Fetched : Type
  Block : Type
  publicKey : Wallet → Address
  privateKey : Wallet → PrivateKey
  newTransferInstruction : UInt64 → Address → Address → Instruction
  newTransaction : List Instruction → Hash → Address → TransactionConfig →
    Except String Transaction
  sign : Transaction → (Address → Option PrivateKey) → Except String Transaction
  marshalMessage : Transaction → Except String Bytes
  instructions : Transaction → List CompiledInstruction
  recentBlockhash : Transaction → Hash
  transactionConfig : Transaction → TransactionConfig
  messageVersion : Transaction → MessageVersion
  transactionFromBytes : Bytes → Except String Transaction
  getBinary : Fetched → Bytes
  version : Fetched → ℤ
  getTransaction : Fetched → Except String Transaction
  marshalConfig : TransactionConfig → Except String String
  asRpcError : RpcError → Option (String × ℤ)
  blockTransactions : Block →
    List (BlockTransaction ℤ (Option (JsonTransaction TransactionConfig)))

/-- An SDK that builds nothing and reads blocks as they are. -/
def trivialSdk : Sdk where
  Wallet := Unit
  PrivateKey := Unit
  Instruction := Unit
  Transaction := Unit
  Fetched := Unit
  Block := List (BlockTransaction ℤ (Option (JsonTransaction TransactionConfig)))
  publicKey _ := .computeBudget
  privateKey _ := ()
  newTransferInstruction _ _ _ := ()
  newTransaction _ _ _ _ := .ok ()
  sign _ _ := .ok ()
  marshalMessage _ := .ok []
  instructions _ := []
  recentBlockhash _ := ""
  transactionConfig _ := ⟨none, none, none, none⟩
  messageVersion _ := .legacy
  transactionFromBytes _ := .ok ()
  getBinary _ := []
  version _ := 0
  getTransaction _ := .ok ()
  marshalConfig _ := .ok ""
  asRpcError _ := none
  blockTransactions := id

/-- `Error()`. -/
def RpcError.text : RpcError → String
  | .notFound => "not found"
  | .other message => message

variable (sdk : Sdk)

/-- A function that calls a cluster and returns a value or an error. -/
abbrev Rpc := Session sdk.Wallet Account sdk.Fetched sdk.Block RpcError sdk.Transaction String

abbrev Call := Client.Call sdk.Wallet Account sdk.Fetched sdk.Block RpcError sdk.Transaction

abbrev Transcript := List (Call sdk)

variable {sdk}

/-- The `select` at the end of a round: the next tick, or the deadline. -/
def waitForTick (signature : Signature) : Rpc sdk (Option UInt64) := do
  match ← select with
  | .done => threw ("transaction " ++ signature ++ " did not confirm within 1m0s")
  | .tick => return none

/-- One round of `WaitForConfirmation`. -/
def pollStatus (signature : Signature) : Rpc sdk (Option UInt64) := do
  match ← getSignatureStatuses signature true with
  | .error .notFound => waitForTick signature
  | .error (.other message) =>
    if ← ctxErr then waitForTick signature
    else threw ("failed to read the status of " ++ signature ++ ": " ++ message)
  | .ok (some status :: _) =>
    match status.err with
    | some err => threw ("transaction " ++ signature ++ " failed: " ++ err)
    | none =>
      if status.confirmationStatus = some "confirmed" ∨
          status.confirmationStatus = some "finalized" then
        return some status.slot
      else waitForTick signature
  | .ok _ => waitForTick signature

/-- `WaitForConfirmation`, for so many rounds at most. -/
def waitForConfirmation (rounds : ℕ) (signature : Signature) : Rpc sdk UInt64 :=
  loop (pollStatus signature) rounds

def fundedWallet (rounds : ℕ) (lamports : UInt64) : Rpc sdk sdk.Wallet := do
  let payer ← newWallet
  match ← requestAirdrop (sdk.publicKey payer) lamports with
  | .error err =>
    threw ("airdrop request failed; is a local validator running?: " ++ err.text)
  | .ok signature => do
    let _ ← (waitForConfirmation rounds signature).mapError ("airdrop did not confirm: " ++ ·)
    return payer

def buildV1Transfer (payer : sdk.Wallet) (recipient : Address) (lamports : UInt64)
    (blockhash : Hash) (config : TransactionConfig) : Except String sdk.Transaction :=
  match sdk.newTransaction
      [sdk.newTransferInstruction lamports (sdk.publicKey payer) recipient] blockhash
      (sdk.publicKey payer) config with
  | .error err => .error ("failed to build the v1 transfer: " ++ err)
  | .ok transaction =>
    match sdk.sign transaction fun key =>
        if sdk.publicKey payer = key then some (sdk.privateKey payer) else none with
    | .error err => .error ("failed to sign the v1 transfer: " ++ err)
    | .ok transaction => .ok transaction

def sendAndConfirm (rounds : ℕ) (transaction : sdk.Transaction) :
    Rpc sdk (Signature × UInt64) := do
  match ← sendTransaction transaction with
  | .error err => threw ("failed to send the transaction: " ++ err.text)
  | .ok signature => do
    let slot ← waitForConfirmation rounds signature
    return (signature, slot)

def exampleConfig : TransactionConfig where
  computeUnitLimit := some 20000
  loadedAccountsDataSizeLimit := some (64 * 1024)
  heapSize := some (64 * 1024)
  priorityFee := some 5000

/-- `solana.LAMPORTS_PER_SOL`. -/
def lamportsPerSol : UInt64 := 1000000000

def sendV1Transfer (rounds : ℕ) : Rpc sdk (Signature × UInt64) := do
  let payer ← fundedWallet rounds lamportsPerSol
  match ← getLatestBlockhash with
  | .error err => threw ("failed to read a blockhash: " ++ err.text)
  | .ok blockhash => do
    let recipient ← newWallet
    let transaction ← ofExcept (buildV1Transfer payer (sdk.publicKey recipient) 10000000 blockhash
      exampleConfig)
    sendAndConfirm rounds transaction

section Waiting

variable {signature : Signature}
  {before : Transcript sdk}

/-- What `WaitForConfirmation` reports: the slot, or the error it renders. -/
def confirmation (signature : Signature) : Report String UInt64 where
  value status := status.slot
  failed err := "transaction " ++ signature ++ " failed: " ++ err
  gaveUp text := text = "transaction " ++ signature ++ " did not confirm within 1m0s" ∨
    ∃ message, text = "failed to read the status of " ++ signature ++ ": " ++ message

theorem ensures_waitForTick (hb : ∀ x ∈ before, Undecided signature x) :
    Ensures (waitForTick signature : Rpc sdk (Option UInt64)) fun t e =>
      Polled (confirmation signature) signature (before ++ t) e := by
  rw [waitForTick, ensures_monad_bind, ensures_select]
  intro wake
  have hs := Undecided.concat (x := ⟨.select, wake⟩) hb trivial
  cases wake with
  | done => exact ensures_threw.mpr (Or.inr ⟨hs, Or.inl rfl⟩)
  | tick => exact ensures_pure.mpr hs

theorem ensures_pollStatus :
    Ensures (pollStatus signature : Rpc sdk (Option UInt64))
      (Polled (confirmation signature) signature) := by
  rw [pollStatus, ensures_monad_bind, ensures_getSignatureStatuses]
  intro answer
  have hu (h : verdict answer = none) : ∀ x ∈ [(⟨.getSignatureStatuses signature true, answer⟩ :
      Call sdk)], Undecided signature x :=
    List.forall_mem_singleton.mpr ⟨rfl, h⟩
  have hs {v : Except String SignatureStatus} (h : verdict answer = some v) :
      Settles signature v [(⟨.getSignatureStatuses signature true, answer⟩ :
        Call sdk)] :=
    ⟨[], true, answer, rfl, List.forall_mem_nil _, h⟩
  rcases answer with (_ | message) | (_ | ⟨_ | status, rest⟩)
  · exact ensures_waitForTick (hu rfl)
  · refine ensures_monad_bind.mpr (ensures_ctxErr.mpr fun failed => ?_)
    have hc := Undecided.concat (x := ⟨.ctxErr, failed⟩) (hu rfl) trivial
    cases failed with
    | true => exact ensures_waitForTick hc
    | false => exact ensures_threw.mpr (Or.inr ⟨hc, Or.inr ⟨message, rfl⟩⟩)
  · exact ensures_waitForTick (hu rfl)
  · exact ensures_waitForTick (hu rfl)
  · cases he : status.err with
    | some err =>
      have hv : status.verdict = some (.error err) := by
        rw [SignatureStatus.verdict, he]
      simp only [Ending.continue, he]
      exact ensures_threw.mpr (Or.inl ⟨err, hs hv, rfl⟩)
    | none =>
      have hv : status.verdict = if status.confirmationStatus = some "confirmed" ∨
          status.confirmationStatus = some "finalized" then some (.ok status) else none := by
        rw [SignatureStatus.verdict, he]
        cases status.confirmationStatus <;> simp [confirmedStatuses]
      simp only [Ending.continue, he]
      split_ifs at hv ⊢ with hc
      · exact ensures_pure.mpr ⟨status, hs hv, rfl⟩
      · exact ensures_waitForTick (hu hv)

/-- However the cluster answers, `WaitForConfirmation` returns the slot of the first
status that confirms the signature, fails with the error of the first that fails it,
and does neither while no status settles it. -/
theorem waitForConfirmation_waited (rounds : ℕ) (signature : Signature) :
    Ensures (waitForConfirmation rounds signature : Rpc sdk UInt64)
      (Waited (confirmation signature) signature) :=
  ensures_loop_waited ensures_pollStatus rounds

end Waiting

section Sending

variable {built : Airdrop → Hash → sdk.Transaction → Prop}

theorem fundedWallet_follows (rounds : ℕ) (lamports : UInt64) :
    Follows built .unfunded (fundedWallet rounds lamports : Rpc sdk sdk.Wallet)
      (Reaches fun payer q => q = .funded ⟨sdk.publicKey payer, lamports⟩) := by
  refine .request (fun _ => ensures_newWallet) fun payer => ⟨_, .idle trivial, ?_⟩
  refine .request (fun _ => ensures_requestAirdrop) fun answer => ?_
  cases answer with
  | error e => exact ⟨_, .airdropRefused, .threw trivial⟩
  | ok signature =>
    have hw : Follows built (.awaiting (.funding ⟨sdk.publicKey payer, lamports⟩) signature)
        ((waitForConfirmation rounds signature : Rpc sdk UInt64).mapError
          ("airdrop did not confirm: " ++ ·))
        (Reaches fun _ q => q = .funded ⟨sdk.publicKey payer, lamports⟩) := by
      refine (follows_wait (waitForConfirmation_waited rounds signature)).mapError ?_
      rintro (slot | text | _) q hq
      · obtain ⟨status, rfl, -⟩ := hq
        rfl
      · exact hq
      · exact hq
    exact ⟨_, .airdrop, hw.andThen fun slot q hq => .returned hq⟩

/-- `SendAndConfirm` returns once the transaction is confirmed, with its signature and
the slot of the status that confirms it. -/
theorem sendAndConfirm_follows {airdrop : Airdrop} {blockhash : Hash}
    {transaction : sdk.Transaction} (hb : built airdrop blockhash transaction) (rounds : ℕ) :
    Follows built (.ready airdrop blockhash)
      (sendAndConfirm rounds transaction : Rpc sdk (Signature × UInt64))
      (Reaches fun r q => ∃ status, q = .landed r.1 status ∧ status.slot = r.2) := by
  refine .request (fun _ => ensures_sendTransaction) fun answer => ?_
  cases answer with
  | error e => exact ⟨_, .submitRefused hb, .threw trivial⟩
  | ok signature =>
    refine ⟨_, .submit hb, (follows_wait (waitForConfirmation_waited rounds signature)).andThen ?_⟩
    rintro slot q ⟨status, rfl, rfl⟩
    exact .returned ⟨status, rfl, rfl⟩

/-- A transfer of 10000000 lamports over the blockhash, which the wallet that was given
1000000000 lamports pays for and signs alone, with the stated budget. -/
def Built (airdrop : Airdrop) (blockhash : Hash) (transaction : sdk.Transaction) : Prop :=
  ∃ payer recipient unsigned, airdrop = ⟨sdk.publicKey payer, 1000000000⟩ ∧
    sdk.newTransaction
      [sdk.newTransferInstruction 10000000 (sdk.publicKey payer) (sdk.publicKey recipient)]
      blockhash (sdk.publicKey payer) statedBudget = .ok unsigned ∧
    sdk.sign unsigned (fun key =>
      if sdk.publicKey payer = key then some (sdk.privateKey payer) else none) = .ok transaction

theorem built_of_buildV1Transfer {payer recipient : sdk.Wallet} {blockhash : Hash}
    {transaction : sdk.Transaction}
    (h : buildV1Transfer payer (sdk.publicKey recipient) 10000000 blockhash exampleConfig =
      .ok transaction) :
    Built ⟨sdk.publicKey payer, lamportsPerSol⟩ blockhash transaction := by
  rw [buildV1Transfer] at h
  split at h
  · cases h
  next unsigned hu =>
    split at h
    · cases h
    next signed hs =>
      cases h
      exact ⟨payer, recipient, unsigned, rfl, hu, hs⟩

theorem sendV1Transfer_follows (rounds : ℕ) :
    Follows Built .unfunded (sendV1Transfer rounds : Rpc sdk (Signature × UInt64))
      (Reaches fun r q => ∃ status, q = .landed r.1 status ∧ status.slot = r.2) := by
  refine (fundedWallet_follows rounds lamportsPerSol).andThen ?_
  rintro payer _ rfl
  refine .request (fun _ => ensures_getLatestBlockhash) fun answer => ?_
  cases answer with
  | error e => exact ⟨_, .readRefused, .threw trivial⟩
  | ok blockhash =>
    refine ⟨_, .read, .request (fun _ => ensures_newWallet) fun recipient => ⟨_, .idle trivial, ?_⟩⟩
    cases hb : buildV1Transfer payer (sdk.publicKey recipient) 10000000 blockhash exampleConfig with
    | error text => exact .threw trivial
    | ok transaction => exact sendAndConfirm_follows (built_of_buildV1Transfer hb) rounds

/-- However the cluster answers, `SendV1Transfer` sends safely, and it returns exactly
when its conversation has landed the transaction, with the signature it landed under
and the slot of the status that confirmed it. -/
theorem sendV1Transfer_sendsSafely (rounds : ℕ) :
    Ensures (sendV1Transfer rounds : Rpc sdk (Signature × UInt64)) fun t e =>
      SendsSafely Built t ∧ ∀ r, e = .returned r ↔
        ∃ status, Phase.Runs Built .unfunded t (.landed r.1 status) ∧ status.slot = r.2 :=
  Follows.landed (sendV1Transfer_follows rounds)

end Sending

end TransactionV1.Go

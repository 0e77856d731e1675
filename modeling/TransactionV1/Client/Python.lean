import TransactionV1.Block.Report
import TransactionV1.Client.Landing

/-! # The Python client

`python/src/txv1/send.py` and the requests of `rpc.py` it makes. A transfer is sent as
the base64 text of its bytes, and the slot it landed in is asked for once more after
the wait for it.
-/

namespace TransactionV1.Python

open Dialogue Client

/-- What `RpcClient.call` raises: what the server answered in its `error` member, or
what became of the request before. -/
inductive CallError where
  | rpcError (message : String)
  | transport (message : String)
  deriving DecidableEq

/-- What the functions of the client raise. A `shape` is an answer without a member
the code reads. -/
inductive Raised where
  | call (error : CallError)
  | builtin (error : PyError)
  | shape
  | sdk (message : String)
  | assertion
  | runtimeError (message : String)

inductive VersionedMessage (μ : Type) where
  | legacy
  | v0
  | v1 (message : μ)

/-- What solders supplies to build and read transactions, and what a fetched one holds
in each encoding. -/
structure Sdk where
  Keypair : Type
  Hash : Type
  Instruction : Type
  MessageV1 : Type
  VersionedTransaction : Type
  Fetched : Type
  Block : Type
  pubkey : Keypair → Address
  hashFromString : Client.Hash → Except String Hash
  transfer : Address → Address → UInt64 → Instruction
  tryCompile : Address → List Instruction → Hash → TransactionConfig → Except String MessageV1
  versionedTransaction : MessageV1 → List Keypair → Except String VersionedTransaction
  bytes : VersionedTransaction → Bytes
  fromBytes : Bytes → Except String VersionedTransaction
  message : VersionedTransaction → VersionedMessage MessageV1
  toBytesVersioned : MessageV1 → Bytes
  config : MessageV1 → TransactionConfig
  instructions : MessageV1 → List CompiledInstruction
  lifetimeSpecifier : MessageV1 → Client.Hash
  encodedTransaction : Fetched → Option String
  projection : Fetched → Option (String × Option TransactionConfig)
  blockTransactions : Block → Option (List (BlockTransaction (Option JsonVersion)
    (JsonTransaction (Option TransactionConfig))))

/-- An SDK that builds nothing and reads blocks as they are. -/
def trivialSdk : Sdk where
  Keypair := Unit
  Hash := Unit
  Instruction := Unit
  MessageV1 := Unit
  VersionedTransaction := Unit
  Fetched := Unit
  Block := List (BlockTransaction (Option JsonVersion)
    (JsonTransaction (Option TransactionConfig)))
  pubkey _ := .computeBudget
  hashFromString _ := .ok ()
  transfer _ _ _ := ()
  tryCompile _ _ _ _ := .ok ()
  versionedTransaction _ _ := .ok ()
  bytes _ := []
  fromBytes _ := .ok ()
  message _ := .legacy
  toBytesVersioned _ := []
  config _ := ⟨none, none, none, none⟩
  instructions _ := []
  lifetimeSpecifier _ := ""
  encodedTransaction _ := none
  projection _ := none
  blockTransactions := some

variable (sdk : Sdk)

/-- A function that calls a cluster, with transactions sent as text. A block that is not
found is null. -/
abbrev Rpc := Session sdk.Keypair (Option JsonAccount) sdk.Fetched (Option sdk.Block) CallError
  String Raised

abbrev Call := Client.Call sdk.Keypair (Option JsonAccount) sdk.Fetched (Option sdk.Block) CallError
  String

abbrev Transcript := List (Call sdk)

variable {sdk}

def getSignatureStatus (signature : Signature) : Rpc sdk (Option SignatureStatus) := do
  match ← getSignatureStatuses signature false with
  | .error error => threw (.call error)
  | .ok [] => threw (.builtin .indexError)
  | .ok (status :: _) => return status

/-- `time.sleep(0.2)` at the end of a round. -/
def nextRound : Rpc sdk (Option SignatureStatus) := do
  sleep
  return none

/-- One round of `confirm_transaction`. -/
def confirmRound (signature : Signature) (deadline : ℚ) : Rpc sdk (Option SignatureStatus) := do
  let time ← now
  if time < deadline then
    match ← getSignatureStatus signature with
    | none => nextRound
    | some status =>
      match status.err with
      | some err => threw (.runtimeError ("transaction " ++ signature ++ " failed: " ++ err))
      | none =>
        if ∃ level ∈ status.confirmationStatus, level ∈ confirmedStatuses then
          return some status
        else nextRound
  else threw (.runtimeError ("transaction " ++ signature ++ " did not confirm within 60.0s"))

/-- `confirm_transaction`, for so many rounds at most. -/
def confirmTransaction (rounds : ℕ) (signature : Signature) : Rpc sdk SignatureStatus := do
  let start ← now
  loop (confirmRound signature (start + 60)) rounds

def fundedKeypair (rounds : ℕ) (lamports : UInt64) : Rpc sdk sdk.Keypair := do
  let payer ← newWallet
  match ← requestAirdrop (sdk.pubkey payer) lamports with
  | .error error => threw (.call error)
  | .ok signature => do
    let _ ← confirmTransaction rounds signature
    return payer

def buildV1Transfer (payer : sdk.Keypair) (recipient : Address) (lamports : UInt64)
    (blockhash : sdk.Hash) (config : TransactionConfig) :
    Except String sdk.VersionedTransaction := do
  let instruction := sdk.transfer (sdk.pubkey payer) recipient lamports
  let message ← sdk.tryCompile (sdk.pubkey payer) [instruction] blockhash config
  sdk.versionedTransaction message [payer]

def sendAndConfirm (rounds : ℕ) (transaction : sdk.VersionedTransaction) : Rpc sdk Signature := do
  match ← sendTransaction (String.ofList (Base64.encode (sdk.bytes transaction))) with
  | .error error => threw (.call error)
  | .ok signature => do
    let _ ← confirmTransaction rounds signature
    return signature

def exampleConfig : TransactionConfig where
  priorityFee := some 5000
  computeUnitLimit := some 20000
  loadedAccountsDataSizeLimit := some (64 * 1024)
  heapSize := some (64 * 1024)

/-- The transfer of `send_v1_transfer`, up to its confirmation. -/
def transferV1 (rounds : ℕ) : Rpc sdk Signature := do
  let payer ← fundedKeypair rounds 1000000000
  let recipient ← newWallet
  match ← getLatestBlockhash with
  | .error error => threw (.call error)
  | .ok blockhash => do
    let transaction ← (ofExcept (do
      let hash ← sdk.hashFromString blockhash
      buildV1Transfer payer (sdk.pubkey recipient) 10000000 hash exampleConfig) :
        Dialogue _ _ String _).mapError .sdk
    sendAndConfirm rounds transaction

def sendV1Transfer (rounds : ℕ) : Rpc sdk (Signature × UInt64) := do
  let signature ← transferV1 rounds
  match ← getSignatureStatus signature with
  | none => threw (.runtimeError ("no status for transaction " ++ signature))
  | some status => return (signature, status.slot)

section Waiting

variable {signature : Signature}

/-- What `confirm_transaction` reports: the status, or what it raises. -/
def confirmation (signature : Signature) : Report Raised SignatureStatus where
  value status := status
  failed err := .runtimeError ("transaction " ++ signature ++ " failed: " ++ err)
  gaveUp raised := (∃ error, raised = .call error) ∨ raised = .builtin .indexError ∨
    raised = .runtimeError ("transaction " ++ signature ++ " did not confirm within 60.0s")

theorem ensures_getSignatureStatus
    {post : Transcript sdk → Ending Raised (Option SignatureStatus) → Prop} :
    Ensures (getSignatureStatus signature : Rpc sdk (Option SignatureStatus)) post ↔
      (∀ error, post [⟨.getSignatureStatuses signature false, Except.error error⟩]
        (.threw (.call error))) ∧
      post [⟨.getSignatureStatuses signature false, Except.ok []⟩] (.threw (.builtin .indexError)) ∧
      ∀ status rest, post [⟨.getSignatureStatuses signature false, Except.ok (status :: rest)⟩]
        (.returned status) := by
  rw [getSignatureStatus, ensures_monad_bind, ensures_getSignatureStatuses]
  constructor
  · intro h
    exact ⟨fun error => ensures_threw.mp (h (.error error)), ensures_threw.mp (h (.ok [])),
      fun status rest => ensures_pure.mp (h (.ok (status :: rest)))⟩
  · rintro ⟨he, hn, hs⟩ (error | _ | ⟨status, rest⟩)
    · exact ensures_threw.mpr (he error)
    · exact ensures_threw.mpr hn
    · exact ensures_pure.mpr (hs status rest)

theorem ensures_nextRound
    {before : Transcript sdk} (hb : ∀ x ∈ before, Undecided signature x) :
    Ensures (nextRound : Rpc sdk (Option SignatureStatus)) fun t e =>
      Polled (confirmation signature) signature (before ++ t) e := by
  rw [nextRound, ensures_monad_bind, ensures_sleep]
  exact ensures_pure.mpr (Undecided.concat (x := ⟨.sleep, ()⟩) hb trivial)

theorem ensures_confirmRound {deadline : ℚ} :
    Ensures (confirmRound signature deadline : Rpc sdk (Option SignatureStatus))
      (Polled (confirmation signature) signature) := by
  rw [confirmRound, ensures_monad_bind, ensures_now]
  intro (time : ℚ)
  have hn : ∀ x ∈ [(⟨.now, time⟩ : Call sdk)], Undecided signature x :=
    List.forall_mem_singleton.mpr trivial
  have hu {answer : Except CallError (List (Option SignatureStatus))} (h : verdict answer = none) :=
    Undecided.concat (x := ⟨.getSignatureStatuses signature false, answer⟩) hn ⟨rfl, h⟩
  by_cases hd : time < deadline
  · simp only [Ending.continue, if_pos hd]
    refine ensures_monad_bind.mpr (ensures_getSignatureStatus.mpr ⟨?_, ?_, ?_⟩)
    · exact fun error => Or.inr ⟨hu rfl, Or.inl ⟨error, rfl⟩⟩
    · exact Or.inr ⟨hu rfl, Or.inr (Or.inl rfl)⟩
    · intro found rest
      cases found with
      | none => exact ensures_nextRound (hu rfl)
      | some status =>
        have hs {v : Except String SignatureStatus} (h : status.verdict = some v) :
            Settles signature v [(⟨.now, time⟩ : Call sdk),
              ⟨.getSignatureStatuses signature false, Except.ok (some status :: rest)⟩] :=
          ⟨[⟨.now, time⟩], false, .ok (some status :: rest), rfl, hn, h⟩
        cases he : status.err with
        | some err =>
          have hv : status.verdict = some (.error err) := by rw [SignatureStatus.verdict, he]
          simp only [Ending.continue, he]
          exact ensures_threw.mpr (Or.inl ⟨err, hs hv, rfl⟩)
        | none =>
          have hv : status.verdict = if ∃ level ∈ status.confirmationStatus,
              level ∈ confirmedStatuses then some (.ok status) else none := by
            rw [SignatureStatus.verdict, he]
          simp only [Ending.continue, he]
          split_ifs at hv ⊢ with hc
          · exact ensures_pure.mpr ⟨status, hs hv, rfl⟩
          · exact ensures_nextRound (@hu (.ok (some status :: rest)) hv)
  · simp only [Ending.continue, if_neg hd]
    exact ensures_threw.mpr (Or.inr ⟨hn, Or.inr (Or.inr rfl)⟩)

/-- However the cluster answers, `confirm_transaction` returns the first status that
confirms the signature and raises the error of the first that fails it. -/
theorem confirmTransaction_waited (rounds : ℕ) (signature : Signature) :
    Ensures (confirmTransaction rounds signature : Rpc sdk SignatureStatus)
      (Waited (confirmation signature) signature) := by
  rw [confirmTransaction, ensures_monad_bind, ensures_now]
  intro start
  refine Ensures.mono (ensures_loop_waited ensures_confirmRound rounds) fun t e he => ?_
  exact he.prepend (List.forall_mem_singleton.mpr trivial)

end Waiting

section Sending

variable {built : Airdrop → Client.Hash → String → Prop}

theorem fundedKeypair_follows (rounds : ℕ) (lamports : UInt64) :
    Follows built .unfunded (fundedKeypair rounds lamports : Rpc sdk sdk.Keypair)
      (Reaches fun payer q => q = .funded ⟨sdk.pubkey payer, lamports⟩) := by
  refine .request (fun _ => ensures_newWallet) fun payer => ⟨_, .idle trivial, ?_⟩
  refine .request (fun _ => ensures_requestAirdrop) fun answer => ?_
  cases answer with
  | error e => exact ⟨_, .airdropRefused, .threw trivial⟩
  | ok signature =>
    refine ⟨_, .airdrop, (follows_wait (confirmTransaction_waited rounds signature)).andThen ?_⟩
    rintro _ _ ⟨status, rfl, -⟩
    exact .returned rfl

theorem sendAndConfirm_follows {airdrop : Airdrop} {blockhash : Client.Hash}
    {transaction : sdk.VersionedTransaction}
    (hb : built airdrop blockhash (String.ofList (Base64.encode (sdk.bytes transaction))))
    (rounds : ℕ) :
    Follows built (.ready airdrop blockhash) (sendAndConfirm rounds transaction : Rpc sdk Signature)
      (Reaches fun signature q => ∃ status, q = .landed signature status) := by
  refine .request (fun _ => ensures_sendTransaction) fun answer => ?_
  cases answer with
  | error e => exact ⟨_, .submitRefused hb, .threw trivial⟩
  | ok signature =>
    refine ⟨_, .submit hb, (follows_wait (confirmTransaction_waited rounds signature)).andThen ?_⟩
    rintro _ _ ⟨status, rfl, -⟩
    exact .returned ⟨status, rfl⟩

/-- The text of a transfer of 10000000 lamports over the blockhash, which the keypair that
was given 1000000000 lamports pays for and signs alone, with the stated budget. -/
def Built (sdk : Sdk) (airdrop : Airdrop) (blockhash : Client.Hash) (text : String) : Prop :=
  ∃ payer recipient hash message transaction, airdrop = ⟨sdk.pubkey payer, 1000000000⟩ ∧
    sdk.hashFromString blockhash = .ok hash ∧
    sdk.tryCompile (sdk.pubkey payer)
      [sdk.transfer (sdk.pubkey payer) (sdk.pubkey recipient) 10000000] hash statedBudget =
        .ok message ∧
    sdk.versionedTransaction message [payer] = .ok transaction ∧
    text = String.ofList (Base64.encode (sdk.bytes transaction))

theorem built_of_eq_ok {blockhash : Client.Hash} {payer recipient : sdk.Keypair}
    {transaction : sdk.VersionedTransaction}
    (h : (do
      let hash ← sdk.hashFromString blockhash
      buildV1Transfer payer (sdk.pubkey recipient) 10000000 hash exampleConfig) =
        Except.ok transaction) :
    Built sdk ⟨sdk.pubkey payer, 1000000000⟩ blockhash
      (String.ofList (Base64.encode (sdk.bytes transaction))) := by
  obtain ⟨hash, hh, hb⟩ := Fallible.bind_eq_ok_iff.mp h
  obtain ⟨message, hm, hs⟩ := Fallible.bind_eq_ok_iff.mp hb
  exact ⟨payer, recipient, hash, message, transaction, rfl, hh, hm, hs, rfl⟩

theorem follows_ofExcept {α β : Type} {x : Except String α} {f : α → Rpc sdk β} {p : Phase}
    {onReturn : β → Phase → Prop} (hp : p.Unlanded)
    (hf : ∀ a, x = .ok a → Follows built p (f a) (Reaches onReturn)) :
    Follows built p ((ofExcept x : Dialogue _ _ String _).mapError .sdk >>= f)
      (Reaches onReturn) := by
  cases x with
  | error message => exact .threw hp
  | ok a => exact hf a rfl

theorem transferV1_follows (rounds : ℕ) :
    Follows (Built sdk) .unfunded (transferV1 rounds : Rpc sdk Signature)
      (Reaches fun signature q => ∃ status, q = .landed signature status) := by
  refine (fundedKeypair_follows rounds 1000000000).andThen ?_
  rintro payer _ rfl
  refine .request (fun _ => ensures_newWallet) fun recipient => ⟨_, .idle trivial, ?_⟩
  refine .request (fun _ => ensures_getLatestBlockhash) fun answer => ?_
  cases answer with
  | error e => exact ⟨_, .readRefused, .threw trivial⟩
  | ok blockhash =>
    exact ⟨_, .read, follows_ofExcept trivial fun transaction h =>
      sendAndConfirm_follows (built_of_eq_ok h) rounds⟩

/-- However the cluster answers, `send_v1_transfer` sends safely, and returns only when
its conversation has landed the transaction. A conversation that has landed it goes on with
one more status of the signature, asked for after the landing. Its slot is returned, and
the function raises when there is none. -/
theorem sendV1Transfer_returns_lastSlot (rounds : ℕ) :
    Ensures (sendV1Transfer rounds : Rpc sdk (Signature × UInt64)) fun t e =>
      SendsSafely (Built sdk) t ∧
      (∀ r, e = .returned r →
        ∃ status, Phase.Runs (Built sdk) .unfunded t (.landed r.1 status)) ∧
      ∀ signature status, Phase.Runs (Built sdk) .unfunded t (.landed signature status) →
        ∃ before answer, t = before ++ [⟨.getSignatureStatuses signature false, answer⟩] ∧
          Phase.Runs (Built sdk) .unfunded before (.landed signature status) ∧
          (firstStatus answer).elim (∃ raised, e = .threw raised)
            fun later => e = .returned (signature, later.slot) := by
  refine ensures_monad_bind.mpr (Ensures.mono (transferV1_follows rounds) fun t e he => ?_)
  obtain ⟨q, hq, he⟩ := he
  have hun (h : q.Unlanded) (signature : Signature) (status : SignatureStatus) :
      ¬ Phase.Runs (Built sdk) .unfunded t (.landed signature status) := by
    intro hr
    rw [Phase.runs_unique hq hr] at h
    exact h
  cases e with
  | returned signature =>
    obtain ⟨status, rfl⟩ := he
    -- the transfer has landed, and the last request leaves it landed as it is
    have hlast {answer : Except CallError (List (Option SignatureStatus))} :
        Phase.Runs (Built sdk) .unfunded (t ++ [⟨.getSignatureStatuses signature false, answer⟩])
          (.landed signature status) := hq.concat (.lookAgain rfl)
    have heq {answer : Except CallError (List (Option SignatureStatus))} {s : Signature}
        {st : SignatureStatus} (h : Phase.Runs (Built sdk) .unfunded
          (t ++ [⟨.getSignatureStatuses signature false, answer⟩]) (.landed s st)) :
        signature = s ∧ status = st := Phase.landed.inj (Phase.runs_unique hlast h)
    refine ensures_monad_bind.mpr (ensures_getSignatureStatus.mpr ⟨fun error => ?_, ?_, ?_⟩)
    · refine ⟨sendsSafely_of_runs hlast, fun r hr => (nomatch hr), fun s st h => ?_⟩
      obtain ⟨rfl, rfl⟩ := heq h
      exact ⟨t, _, rfl, hq, _, rfl⟩
    · refine ⟨sendsSafely_of_runs hlast, fun r hr => (nomatch hr), fun s st h => ?_⟩
      obtain ⟨rfl, rfl⟩ := heq h
      exact ⟨t, _, rfl, hq, _, rfl⟩
    · intro found rest
      cases found with
      | none =>
        refine ensures_threw.mpr ⟨sendsSafely_of_runs hlast, fun r hr => (nomatch hr),
          fun s st h => ?_⟩
        obtain ⟨rfl, rfl⟩ := heq h
        exact ⟨t, _, rfl, hq, _, rfl⟩
      | some later =>
        refine ensures_pure.mpr ⟨sendsSafely_of_runs hlast, ?_, fun s st h => ?_⟩
        · rintro r ⟨⟩
          exact ⟨status, hlast⟩
        · obtain ⟨rfl, rfl⟩ := heq h
          exact ⟨t, _, rfl, hq, rfl⟩
  | threw raised =>
    exact ⟨sendsSafely_of_runs hq, fun r hr => (nomatch hr), fun s st h => absurd h (hun he s st)⟩
  | pending =>
    exact ⟨sendsSafely_of_runs hq, fun r hr => (nomatch hr), fun s st h => absurd h (hun he s st)⟩

end Sending

end TransactionV1.Python

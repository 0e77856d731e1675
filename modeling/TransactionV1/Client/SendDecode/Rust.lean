import TransactionV1.Client.Rust
import TransactionV1.Client.SendDecode.Shape

/-! # Send and decode in Rust

`rust/src/bin/send-decode.rs`: the client waits itself, and the config of the decoded
message is compared with the one that was sent.
-/

namespace TransactionV1.Rust

open Dialogue Client

variable {sdk : Sdk}

/-- `is_v1_active` and the check of its answer. -/
def assertV1Active (fromAccount : Account → Option Feature) : Rpc sdk Unit := do
  let answer ← getAccountInfo enableTxV1Feature
  match isV1Active fromAccount fun _ => answer with
  | .error error => threw [error]
  | .ok true => return ()
  | .ok false =>
    threw ["enable_tx_v1 (" ++ enableTxV1Feature ++ ") is not activated on this cluster; " ++
      "a v1 transaction would be rejected"]

def describe (config : TransactionConfig) : String :=
  "  priority_fee:       " ++ debugOption (config.priorityFee.map UInt64.toNat) ++
    " (total lamports, not micro-lamports/CU)\n  compute_unit_limit: " ++
    debugOption (config.computeUnitLimit.map UInt32.toNat) ++ "\n  loaded_accounts:    " ++
    debugOption (config.loadedAccountsDataSizeLimit.map UInt32.toNat) ++
    "\n  heap_size:          " ++ debugOption (config.heapSize.map UInt32.toNat)

def printCompiled (message : sdk.MessageV1) : Rpc sdk Unit := do
  let wire := sdk.serialize message
  println "== compiled locally =="
  println ("  message bytes:      " ++ toString wire.length)
  match wire with
  | [] => threw ["index out of bounds: the len is 0 but the index is 0"]
  | first :: _ => do
    println ("  version prefix:     0x" ++ hexByte first)
    println ("  instructions:       " ++ toString (sdk.instructions message).length)
    println ("  lifetime_specifier: " ++ sdk.lifetimeSpecifier message)
    println (describe (sdk.config message))

/-- Send the transfer, with what is printed of its message before. -/
def sendPrinted : Rpc sdk Signature := do
  let payer ← fundedKeypair 1000000000
  let recipient ← newWallet
  match ← getLatestBlockhash with
  | .error error => threw [error]
  | .ok blockhash =>
    match buildV1Transfer payer (sdk.pubkey recipient) 10000000 blockhash exampleConfig with
    | .error error => threw [error]
    | .ok transaction =>
      match sdk.messageV1 transaction with
      | none => threw ["expected a v1 message"]
      | some message => do
        printCompiled message
        match ← sendAndConfirmTransaction transaction with
        | .error error => threw [error]
        | .ok signature => return signature

def fetchUncapped (signature : Signature) : Rpc sdk Unit := do
  let unversioned ← getTransaction signature .base64 none
  println "\n== getTransaction without maxSupportedTransactionVersion =="
  match unversioned with
  | .ok _ => println "  unexpectedly succeeded"
  | .error error => println ("  rejected: " ++ error)

def fetchBytes (signature : Signature) (config : TransactionConfig) : Rpc sdk Unit := do
  match ← getTransaction signature .base64 (some 1) with
  | .error error => threw ["getTransaction with maxSupportedTransactionVersion: 1 failed", error]
  | .ok fetched =>
    match sdk.decode fetched with
    | none => threw ["failed to decode the base64 transaction"]
    | some decoded =>
      match sdk.messageV1 decoded with
      | none => threw ["round trip did not produce a v1 message"]
      | some decodedMessage => do
        println "\n== decoded from base64 wire bytes =="
        println ("  version:            " ++ sdk.version fetched)
        println ("  lifetime_specifier: " ++ sdk.lifetimeSpecifier decodedMessage)
        println (describe (sdk.config decodedMessage))
        if sdk.config decodedMessage ≠ config then
          threw ["config did not survive the round trip"]
        else println "  config round-tripped exactly"

def fetchProjection (signature : Signature) : Rpc sdk Unit := do
  match ← getTransaction signature .json (some 1) with
  | .error error => threw [error]
  | .ok fetched => do
    println "\n== the same config as the RPC's JSON projection =="
    match sdk.jsonConfig fetched with
    | none => threw ["expected a JSON-encoded transaction"]
    | some config =>
      match sdk.toJson config with
      | .error error => threw [error]
      | .ok text => println ("  message.transactionConfig: " ++ text)

def readBack (signature : Signature) : Rpc sdk Unit := do
  println ("\n== sent ==\n  signature: " ++ signature)
  fetchUncapped signature
  fetchBytes signature exampleConfig
  fetchProjection signature

/-- `main`. -/
def mainSendDecode (fromAccount : Account → Option Feature) : Rpc sdk Unit := do
  assertV1Active fromAccount
  sendPrinted >>= readBack

section ReadBack

variable {signature : Signature} {config : TransactionConfig}

theorem readsBack_fetchUncapped :
    Only (ReadsBack signature) (fetchUncapped signature : Rpc sdk Unit) := by
  refine .bind (readsBack_getTransaction _ _) fun answer => .bind (readsBack_println _) fun _ => ?_
  cases answer with
  | ok fetched => exact readsBack_println _
  | error error => exact readsBack_println _

theorem readsBack_fetchBytes :
    Only (ReadsBack signature) (fetchBytes signature config : Rpc sdk Unit) := by
  refine .bind (readsBack_getTransaction _ _) fun answer => ?_
  rcases answer with error | fetched
  · exact .threw _
  dsimp only
  cases sdk.decode fetched with
  | none => exact .threw _
  | some decoded =>
    dsimp only
    cases sdk.messageV1 decoded with
    | none => exact .threw _
    | some message =>
      refine .bind (readsBack_println _) fun _ => .bind (readsBack_println _) fun _ =>
        .bind (readsBack_println _) fun _ => .bind (readsBack_println _) fun _ => ?_
      split
      · exact .threw _
      · exact readsBack_println _

theorem readsBack_fetchProjection :
    Only (ReadsBack signature) (fetchProjection signature : Rpc sdk Unit) := by
  refine .bind (readsBack_getTransaction _ _) fun answer => ?_
  rcases answer with error | fetched
  · exact .threw _
  refine .bind (readsBack_println _) fun _ => ?_
  cases sdk.jsonConfig fetched with
  | none => exact .threw _
  | some config =>
    dsimp only
    cases sdk.toJson config with
    | error error => exact .threw _
    | ok text => exact readsBack_println _

theorem readsBack_readBack : Only (ReadsBack signature) (readBack signature : Rpc sdk Unit) :=
  .bind (readsBack_println _) fun _ => .bind readsBack_fetchUncapped fun _ =>
    .bind readsBack_fetchBytes fun _ => readsBack_fetchProjection

/-- The bytes fetched back under the signature decode to a v1 message with the config. -/
def Verified (signature : Signature) (config : TransactionConfig) (t : Transcript sdk) : Prop :=
  ∃ fetched decoded message, ⟨.getTransaction signature .base64 (some 1), Except.ok fetched⟩ ∈ t ∧
    sdk.decode fetched = some decoded ∧ sdk.messageV1 decoded = some message ∧
    sdk.config message = config

theorem Verified.right {t' : Transcript sdk} (h : Verified signature config t')
    (t : Transcript sdk) : Verified signature config (t ++ t') := by
  obtain ⟨fetched, decoded, message, hm, hd⟩ := h
  exact ⟨fetched, decoded, message, List.mem_append_right t hm, hd⟩

theorem Verified.left {t : Transcript sdk} (h : Verified signature config t)
    (t' : Transcript sdk) : Verified signature config (t ++ t') := by
  obtain ⟨fetched, decoded, message, hm, hd⟩ := h
  exact ⟨fetched, decoded, message, List.mem_append_left t' hm, hd⟩

theorem returning_fetchBytes : Returning (fun _ => Verified signature config)
    (fetchBytes signature config : Rpc sdk Unit) := by
  refine ensures_monad_bind.mpr (ensures_getTransaction.mpr ?_)
  rintro (error | fetched)
  · exact Returning.threw
  cases hd : sdk.decode fetched with
  | none =>
    simp only [Ending.continue, hd]
    exact Returning.threw
  | some decoded =>
    cases hm : sdk.messageV1 decoded with
    | none =>
      simp only [Ending.continue, hd, hm]
      exact Returning.threw
    | some message =>
      simp only [Ending.continue, hd, hm]
      by_cases hc : sdk.config message = config
      · exact Returning.of_forall fun _ t =>
          ⟨fetched, decoded, message, List.mem_cons_self, hd, hm, hc⟩
      · simp [hc, Ending.continue]

theorem returning_readBack : Returning (fun _ => Verified signature exampleConfig)
    (readBack signature : Rpc sdk Unit) := by
  refine Returning.right (fun _ t t' h => Verified.right h t) fun _ =>
    Returning.right (fun _ t t' h => Verified.right h t) fun _ => ?_
  exact returning_fetchBytes.bind fun _ t h => Returning.of_forall fun _ t' => Verified.left h t'

end ReadBack

section Sending

theorem isLocal_printCompiled {message : sdk.MessageV1} :
    Only IsLocal (printCompiled message : Rpc sdk Unit) := by
  refine .bind (isLocal_println _) fun _ => .bind (isLocal_println _) fun _ => ?_
  cases sdk.serialize message with
  | nil => exact .threw _
  | cons first rest =>
    exact .bind (isLocal_println _) fun _ => .bind (isLocal_println _) fun _ =>
      .bind (isLocal_println _) fun _ => isLocal_println _

theorem sendPrinted_follows :
    Follows Built .unfunded (sendPrinted : Rpc sdk Signature)
      (Reaches fun signature q => q = .delivered (some signature)) := by
  refine (fundedKeypair_follows 1000000000).andThen ?_
  rintro payer _ rfl
  refine .request (fun _ => ensures_newWallet) fun recipient => ⟨_, .idle trivial, ?_⟩
  refine .request (fun _ => ensures_getLatestBlockhash) fun answer => ?_
  cases answer with
  | error e => exact ⟨_, .readRefused, .threw trivial⟩
  | ok blockhash =>
    refine ⟨_, .read, ?_⟩
    dsimp only
    cases hb : buildV1Transfer payer (sdk.pubkey recipient) 10000000 blockhash exampleConfig with
    | error error => exact .threw trivial
    | ok transaction =>
      have hbuilt := built_of_buildV1Transfer hb
      dsimp only
      cases sdk.messageV1 transaction with
      | none => exact .threw trivial
      | some message =>
        refine (follows_of_only_isLocal (p := .ready _ blockhash) isLocal_printCompiled
          trivial).andThen ?_
        rintro _ _ rfl
        refine .request (fun _ => ensures_sendAndConfirmTransaction) fun answer => ?_
        cases answer with
        | error e => exact ⟨_, .deliverRefused hbuilt, .threw trivial⟩
        | ok signature => exact ⟨_, .deliver hbuilt, .returned rfl⟩

def SeenActive (fromAccount : Account → Option Feature)
    (answer : Except String (Option Account)) : Prop :=
  isV1Active fromAccount (fun _ => answer) = .ok true

theorem ensures_assertV1Active (fromAccount : Account → Option Feature) :
    Ensures (assertV1Active fromAccount : Rpc sdk Unit)
      (Gates enableTxV1Feature (SeenActive fromAccount)) := by
  rw [assertV1Active, ensures_monad_bind, ensures_getAccountInfo]
  intro answer
  cases ha : isV1Active fromAccount (fun _ => answer) with
  | error error =>
    simp only [Ending.continue, ha]
    exact ensures_threw.mpr ⟨answer, rfl, Or.inr ⟨by simp [SeenActive, ha], _, rfl⟩⟩
  | ok active =>
    cases active with
    | false =>
      simp only [Ending.continue, ha]
      exact ensures_threw.mpr ⟨answer, rfl, Or.inr ⟨by simp [SeenActive, ha], _, rfl⟩⟩
    | true =>
      simp only [Ending.continue, ha]
      exact ensures_pure.mpr ⟨answer, rfl, Or.inl ⟨ha, rfl⟩⟩

/-- However the cluster and the client's own waits answer, `main` asks for the feature
account first and for nothing more unless it is active. It sends safely, and returns only
when the transaction was confirmed and its bytes, fetched back, decode to a v1 message
with the config that was sent. -/
theorem sendDecode_verifies (fromAccount : Account → Option Feature) :
    Ensures (mainSendDecode fromAccount : Rpc sdk Unit)
      (SendsAndVerifies Built enableTxV1Feature (SeenActive fromAccount)
        (fun signature t => Phase.Runs Built .unfunded t (.delivered (some signature)))
        fun signature t => Verified signature exampleConfig t) := by
  refine sendsAndVerifies id (ensures_assertV1Active fromAccount)
    (Ensures.mono sendPrinted_follows fun t e he => ?_) ?_
    (fun _ => readsBack_readBack) (fun _ => returning_readBack) fun _ t t' h => Verified.right h t
  · obtain ⟨q, hq, he⟩ := he
    refine ⟨q, hq, ?_⟩
    rintro signature rfl
    obtain rfl := he
    exact ⟨Or.inr rfl, hq⟩
  · intro signature t t' hq ht
    exact hq.append (Phase.runs_of_readsBack (Or.inr rfl) ht)

end Sending

end TransactionV1.Rust

import TransactionV1.Client.Go
import TransactionV1.Client.SendDecode.Shape

/-! # Send and decode in Go

`go/cmd/send-decode`: a v1 transfer is sent once the feature is seen active, fetched
back in the two encodings, and its config compared with the one that was sent.
-/

namespace TransactionV1.Go

open Dialogue Client

variable {sdk : Sdk}

def assertV1Active (featureProgramId : Address) : Rpc sdk Unit := do
  let answer ← getAccountInfo enableTxV1Feature
  match isV1Active featureProgramId fun _ => answer with
  | .error err => threw err
  | .ok false =>
    threw ("enable_tx_v1 (" ++ enableTxV1Feature ++ ") is not activated on this cluster; " ++
      "a v1 transaction would be rejected")
  | .ok true => return ()

def describeRejection (sdk : Sdk) (err : RpcError) : String :=
  match sdk.asRpcError err with
  | some (message, code) => message ++ " (code " ++ toString code ++ ")"
  | none => err.text

def formatVersion (rpc : SolanaRpc) (version : ℤ) : String :=
  if version = rpc.legacyTransactionVersion then "legacy" else "v" ++ toString version

def printCompiled (transaction : sdk.Transaction) : Rpc sdk Unit := do
  match sdk.marshalMessage transaction with
  | .error err => threw ("failed to serialize the message: " ++ err)
  | .ok wire => do
    println "== compiled locally =="
    println ("  message bytes:      " ++ toString wire.length)
    match wire with
    | [] => threw "runtime error: index out of range [0] with length 0"
    | first :: _ => do
      println ("  version prefix:     0x" ++ hexByte first)
      println ("  instructions:       " ++ toString (sdk.instructions transaction).length)
      println ("  lifetime_specifier: " ++ sdk.recentBlockhash transaction)
      println (formatConfig (sdk.transactionConfig transaction) "  ")

def fetchUncapped (signature : Signature) : Rpc sdk Unit := do
  println "\n== getTransaction without maxSupportedTransactionVersion =="
  match ← getTransaction signature .base64 none with
  | .error err => println ("  rejected: " ++ describeRejection sdk err)
  | .ok _ => println "  unexpectedly succeeded"

def fetchBytes (rpc : SolanaRpc) (signature : Signature) (config : TransactionConfig) :
    Rpc sdk Unit := do
  match ← getTransaction signature .base64 (some 1) with
  | .error err =>
    threw ("getTransaction with maxSupportedTransactionVersion 1 failed: " ++ err.text)
  | .ok encoded =>
    match sdk.transactionFromBytes (sdk.getBinary encoded) with
    | .error err => threw ("failed to decode the base64 transaction: " ++ err)
    | .ok decoded =>
      if sdk.messageVersion decoded ≠ .v1 then
        threw "round trip did not produce a v1 message"
      else do
        println "\n== decoded from base64 wire bytes =="
        println ("  version:            " ++ formatVersion rpc (sdk.version encoded))
        println ("  lifetime_specifier: " ++ sdk.recentBlockhash decoded)
        println (formatConfig (sdk.transactionConfig decoded) "  ")
        if ¬ configsEqual (sdk.transactionConfig decoded) config then
          threw "config did not survive the round trip"
        else println "  config round-tripped exactly"

def fetchProjection (signature : Signature) : Rpc sdk Unit := do
  match ← getTransaction signature .json (some 1) with
  | .error err => threw ("getTransaction with json encoding failed: " ++ err.text)
  | .ok asJSON =>
    match sdk.getTransaction asJSON with
    | .error err => threw ("failed to read the JSON transaction: " ++ err)
    | .ok parsed =>
      match sdk.marshalConfig (sdk.transactionConfig parsed) with
      | .error err => threw ("failed to render the config: " ++ err)
      | .ok projection => do
        println "\n== the same config as the RPC's JSON projection =="
        println ("  message.transactionConfig: " ++ projection)

def readBack (rpc : SolanaRpc) (signature : Signature) (config : TransactionConfig) :
    Rpc sdk Unit := do
  println ("\n== sent ==\n  signature: " ++ signature)
  fetchUncapped signature
  fetchBytes rpc signature config
  fetchProjection signature

def sendPrinted (rounds : ℕ) (config : TransactionConfig) : Rpc sdk Signature := do
  let payer ← fundedWallet rounds lamportsPerSol
  match ← getLatestBlockhash with
  | .error err => threw ("failed to read a blockhash: " ++ err.text)
  | .ok blockhash => do
    let recipient ← newWallet
    let transaction ← ofExcept (buildV1Transfer payer (sdk.publicKey recipient) 10000000 blockhash
      config)
    printCompiled transaction
    let (signature, _) ← sendAndConfirm rounds transaction
    return signature

/-- `run`. -/
def runSendDecode (rpc : SolanaRpc) (featureProgramId : Address) (rounds : ℕ) : Rpc sdk Unit := do
  assertV1Active featureProgramId
  let config : TransactionConfig :=
    { computeUnitLimit := some 20000
      loadedAccountsDataSizeLimit := some (64 * 1024)
      heapSize := some (64 * 1024)
      priorityFee := some 5000 }
  let signature ← sendPrinted rounds config
  readBack rpc signature config

section ReadBack

variable {signature : Signature}

/-- The bytes fetched back under the signature decode to a v1 message with the config. -/
def Verified (signature : Signature) (config : TransactionConfig)
    (t : Transcript sdk) : Prop :=
  ∃ encoded decoded, ⟨.getTransaction signature .base64 (some 1), Except.ok encoded⟩ ∈ t ∧
    sdk.transactionFromBytes (sdk.getBinary encoded) = .ok decoded ∧
    sdk.messageVersion decoded = .v1 ∧ sdk.transactionConfig decoded = config

theorem readsBack_fetchUncapped :
    Only (ReadsBack signature) (fetchUncapped signature : Rpc sdk Unit) := by
  apply Only.bind (readsBack_println _)
  intro _
  apply Only.bind (readsBack_getTransaction _ _)
  intro answer
  cases answer with
  | error err => exact readsBack_println _
  | ok _ => exact readsBack_println _

theorem readsBack_fetchBytes {rpc : SolanaRpc} {config : TransactionConfig} :
    Only (ReadsBack signature) (fetchBytes rpc signature config : Rpc sdk Unit) := by
  apply Only.bind (readsBack_getTransaction _ _)
  intro answer
  rcases answer with err | encoded
  · exact .threw _
  cases hd : sdk.transactionFromBytes (sdk.getBinary encoded) with
  | error err =>
    simp only [hd]
    exact .threw _
  | ok decoded =>
    simp only [hd]
    by_cases hv : sdk.messageVersion decoded = .v1
    · rw [if_neg (not_not_intro hv)]
      refine .bind (readsBack_println _) fun _ => .bind (readsBack_println _) fun _ =>
        .bind (readsBack_println _) fun _ => .bind (readsBack_println _) fun _ => ?_
      split
      · exact .threw _
      · exact readsBack_println _
    · rw [if_pos hv]
      exact .threw _

theorem readsBack_fetchProjection :
    Only (ReadsBack signature) (fetchProjection signature : Rpc sdk Unit) := by
  apply Only.bind (readsBack_getTransaction _ _)
  intro answer
  rcases answer with err | asJSON
  · exact .threw _
  cases hp : sdk.getTransaction asJSON with
  | error err =>
    simp only [hp]
    exact .threw _
  | ok parsed =>
    cases hm : sdk.marshalConfig (sdk.transactionConfig parsed) with
    | error err =>
      simp only [hp, hm]
      exact .threw _
    | ok projection =>
      simp only [hp, hm]
      exact .bind (readsBack_println _) fun _ => readsBack_println _

theorem readsBack_readBack {rpc : SolanaRpc} {config : TransactionConfig} :
    Only (ReadsBack signature) (readBack rpc signature config : Rpc sdk Unit) :=
  .bind (readsBack_println _) fun _ => .bind readsBack_fetchUncapped fun _ =>
    .bind readsBack_fetchBytes fun _ => readsBack_fetchProjection

theorem returning_fetchBytes {rpc : SolanaRpc} {config : TransactionConfig} :
    Returning (fun _ => Verified signature config)
      (fetchBytes rpc signature config : Rpc sdk Unit) := by
  refine ensures_monad_bind.mpr (ensures_getTransaction.mpr ?_)
  rintro (err | encoded)
  · exact Returning.threw
  cases hd : sdk.transactionFromBytes (sdk.getBinary encoded) with
  | error err =>
    simp only [Ending.continue, hd]
    exact Returning.threw
  | ok decoded =>
    simp only [Ending.continue, hd]
    by_cases hv : sdk.messageVersion decoded = .v1
    · rw [if_neg (not_not_intro hv)]
      by_cases hc : configsEqual (sdk.transactionConfig decoded) config = true
      · exact Returning.of_forall fun _ t =>
          ⟨encoded, decoded, List.mem_cons_self, hd, hv, configsEqual_iff.mp hc⟩
      · simp [hc, Ending.continue]
    · rw [if_pos hv]
      exact Returning.threw

theorem Verified.right {config : TransactionConfig} {t' : Transcript sdk}
    (h : Verified signature config t') (t : Transcript sdk) :
    Verified signature config (t ++ t') := by
  obtain ⟨encoded, decoded, hm, hd⟩ := h
  exact ⟨encoded, decoded, List.mem_append_right t hm, hd⟩

theorem Verified.left {config : TransactionConfig} {t : Transcript sdk}
    (h : Verified signature config t) (t' : Transcript sdk) :
    Verified signature config (t ++ t') := by
  obtain ⟨encoded, decoded, hm, hd⟩ := h
  exact ⟨encoded, decoded, List.mem_append_left t' hm, hd⟩

theorem returning_readBack {rpc : SolanaRpc} {config : TransactionConfig} :
    Returning (fun _ => Verified signature config)
      (readBack rpc signature config : Rpc sdk Unit) := by
  refine Returning.right (fun _ t t' h => Verified.right h t) fun _ =>
    Returning.right (fun _ t t' h => Verified.right h t) fun _ => ?_
  exact returning_fetchBytes.bind fun _ t h => Returning.of_forall fun _ t' => Verified.left h t'

end ReadBack

section Sending

theorem isLocal_printCompiled {transaction : sdk.Transaction} :
    Only IsLocal (printCompiled transaction : Rpc sdk Unit) := by
  unfold printCompiled
  split
  · exact .threw _
  apply Only.bind (isLocal_println _)
  intro _
  apply Only.bind (isLocal_println _)
  intro _
  split
  · exact .threw _
  · exact .bind (isLocal_println _) fun _ => .bind (isLocal_println _) fun _ =>
      .bind (isLocal_println _) fun _ => isLocal_println _

theorem sendPrinted_follows (rounds : ℕ) :
    Follows Built .unfunded (sendPrinted rounds exampleConfig : Rpc sdk Signature)
      (Reaches fun signature q => ∃ status, q = .landed signature status) := by
  refine (fundedWallet_follows rounds lamportsPerSol).andThen ?_
  rintro payer _ rfl
  apply Protocol.Follows.request (fun _ => ensures_getLatestBlockhash)
  intro answer
  cases answer with
  | error e => exact ⟨_, .readRefused, .threw trivial⟩
  | ok blockhash =>
    refine ⟨_, .read, .request (fun _ => ensures_newWallet) fun recipient =>
      ⟨_, .idle trivial, ?_⟩⟩
    cases hb : buildV1Transfer payer (sdk.publicKey recipient) 10000000 blockhash exampleConfig with
    | error text => exact .threw trivial
    | ok transaction =>
      refine (follows_of_only_isLocal (p := .ready _ blockhash) isLocal_printCompiled
        trivial).andThen ?_
      rintro _ _ rfl
      refine (sendAndConfirm_follows (built_of_buildV1Transfer hb) rounds).andThen ?_
      rintro r _ ⟨status, rfl, -⟩
      exact .returned ⟨status, rfl⟩

def SeenActive (featureProgramId : Address) (answer : Except RpcError Account) : Prop :=
  isV1Active featureProgramId (fun _ => answer) = .ok true

theorem ensures_assertV1Active (featureProgramId : Address) :
    Ensures (assertV1Active featureProgramId : Rpc sdk Unit)
      (Gates enableTxV1Feature (SeenActive featureProgramId)) := by
  rw [assertV1Active, ensures_monad_bind, ensures_getAccountInfo]
  intro answer
  cases ha : isV1Active featureProgramId (fun _ => answer) with
  | error err =>
    simp only [Ending.continue, ha]
    exact ensures_threw.mpr ⟨answer, rfl, Or.inr ⟨by simp [SeenActive, ha], _, rfl⟩⟩
  | ok active =>
    cases active with
    | false =>
      simp only [Ending.continue, ha]
      exact ensures_threw.mpr ⟨answer, rfl, Or.inr ⟨by simp [SeenActive, ha], _, rfl⟩⟩
    | true =>
      simp only [Ending.continue, ha]
      exact ensures_pure.mpr ⟨answer, rfl, Or.inl ⟨ha, rfl⟩⟩

/-- However the cluster answers, `run` of send-decode asks for the feature account first and for
nothing more unless it is active. It sends safely, and returns only when the
transaction has landed and its bytes, fetched back, decode to a v1 message with the
config that was sent. -/
theorem runSendDecode_verifies (rpc : SolanaRpc) (featureProgramId : Address) (rounds : ℕ) :
    Ensures (runSendDecode rpc featureProgramId rounds : Rpc sdk Unit)
      (SendsAndVerifies Built enableTxV1Feature (SeenActive featureProgramId)
        (fun signature t => ∃ status, Phase.Runs Built .unfunded t (.landed signature status))
        fun signature t => Verified signature exampleConfig t) := by
  refine sendsAndVerifies id (ensures_assertV1Active featureProgramId)
    (Ensures.mono (sendPrinted_follows rounds) fun t e he => ?_) ?_
    (fun _ => readsBack_readBack) (fun _ => returning_readBack) fun _ t t' h => Verified.right h t
  · obtain ⟨q, hq, he⟩ := he
    refine ⟨q, hq, ?_⟩
    rintro signature rfl
    obtain ⟨status, rfl⟩ := he
    exact ⟨rfl, status, hq⟩
  · rintro signature t t' ⟨status, hq⟩ ht
    exact ⟨status, hq.append (Phase.runs_of_readsBack rfl ht)⟩

end Sending

end TransactionV1.Go

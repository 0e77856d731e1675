import TransactionV1.Client.Python
import TransactionV1.Client.SendDecode.Shape

/-! # Send and decode in Python

`python/examples/send_decode.py`, with the feature check of `feature.py` and the
decoder of `v1.py` it uses.
-/

namespace TransactionV1.Python

open Dialogue Client

variable {sdk : Sdk}

/-- `is_v1_active`, over a connection. -/
def readV1Active : Rpc sdk Bool := do
  match ← getAccountInfo enableTxV1Feature with
  | .error error => threw (.call error)
  | .ok account =>
    match isV1Active fun _ => .ok account with
    | .error error => threw (.builtin error)
    | .ok active => return active

def assertV1Active : Rpc sdk Unit := do
  if ← readV1Active then return ()
  else threw (.runtimeError ("enable_tx_v1 (" ++ enableTxV1Feature ++ ") is not activated on " ++
    "this cluster; a v1 transaction would be rejected"))

def messageVersion {μ : Type} : VersionedMessage μ → MessageVersion
  | .v1 _ => .v1
  | .v0 => .v0
  | .legacy => .legacy

/-- `MessageVersion.value`. -/
def MessageVersion.value : MessageVersion → String
  | .legacy => "legacy"
  | .v0 => "v0"
  | .v1 => "v1"

def decodeTransactionVersion (sdk : Sdk) (wireTransaction : Bytes) :
    Except String (MessageVersion × Option TransactionConfig) := do
  let transaction ← sdk.fromBytes wireTransaction
  match sdk.message transaction with
  | .v1 message => return (.v1, some (sdk.config message))
  | message => return (messageVersion message, none)

def printCompiled (message : sdk.MessageV1) : Rpc sdk Unit := do
  let wireMessage := sdk.toBytesVersioned message
  println "== compiled locally =="
  println ("  message bytes:      " ++ toString wireMessage.length)
  match wireMessage with
  | [] => threw (.builtin .indexError)
  | first :: _ => do
    println ("  version prefix:     0x" ++ hexByte first)
    println ("  instructions:       " ++ toString (sdk.instructions message).length)
    println ("  lifetime_specifier: " ++ sdk.lifetimeSpecifier message)
    println (formatConfig (some (sdk.config message)) "  ")

/-- Ask without a ceiling. Only an error the server answers with is caught. -/
def fetchUncapped (signature : Signature) : Rpc sdk Unit := do
  println "\n== getTransaction without maxSupportedTransactionVersion =="
  match ← getTransaction signature .base64 none with
  | .error (.rpcError message) => println ("  rejected: " ++ message)
  | .error error => threw (.call error)
  | .ok _ => println "  unexpectedly succeeded"

def fetchBytes (signature : Signature) (message : sdk.MessageV1) : Rpc sdk Unit := do
  match ← getTransaction signature .base64 (some 1) with
  | .error error => threw (.call error)
  | .ok encoded =>
    match sdk.encodedTransaction encoded with
    | none => threw .shape
    | some text => do
      let bytes ← (ofExcept (b64decode text) : Dialogue _ _ PyError _).mapError .builtin
      let (version, config) ← (ofExcept (decodeTransactionVersion sdk bytes) :
        Dialogue _ _ String _).mapError .sdk
      println "\n== decoded from base64 wire bytes =="
      println ("  version:            " ++ MessageVersion.value version)
      println (formatConfig config "  ")
      if config ≠ some (sdk.config message) then
        threw (.runtimeError "config did not survive the round trip")
      else println "  config round-tripped exactly"

def fetchProjection (signature : Signature) : Rpc sdk Unit := do
  match ← getTransaction signature .json (some 1) with
  | .error error => threw (.call error)
  | .ok fetched => do
    println "\n== the same config as the RPC's JSON projection =="
    match sdk.projection fetched with
    | none => threw .shape
    | some (version, config) => do
      println ("  version:            " ++ version)
      println (formatTransactionConfig config "  ")

def readBack (signature : Signature) (message : sdk.MessageV1) : Rpc sdk Unit := do
  println ("\n== sent ==\n  signature: " ++ signature)
  fetchUncapped signature
  fetchBytes signature message
  fetchProjection signature

/-- Send the transfer, with what is printed of its message before. -/
def sendPrinted (rounds : ℕ) : Rpc sdk (Signature × sdk.MessageV1) := do
  let payer ← fundedKeypair rounds 1000000000
  let recipient ← newWallet
  match ← getLatestBlockhash with
  | .error error => threw (.call error)
  | .ok blockhash => do
    let transaction ← (ofExcept (do
      let hash ← sdk.hashFromString blockhash
      buildV1Transfer payer (sdk.pubkey recipient) 10000000 hash exampleConfig) :
        Dialogue _ _ String _).mapError .sdk
    match sdk.message transaction with
    | .v1 message => do
      printCompiled message
      let signature ← sendAndConfirm rounds transaction
      return (signature, message)
    | _ => threw .assertion

/-- `main`. -/
def mainSendDecode (rounds : ℕ) : Rpc sdk Unit := do
  assertV1Active
  let (signature, message) ← sendPrinted rounds
  readBack signature message

section ReadBack

variable {signature : Signature} {message : sdk.MessageV1}

theorem readsBack_fetchUncapped :
    Only (ReadsBack signature) (fetchUncapped signature : Rpc sdk Unit) := by
  refine .bind (readsBack_println _) fun _ => .bind (readsBack_getTransaction _ _) fun answer => ?_
  rcases answer with (message | message) | fetched
  · exact readsBack_println _
  · exact .threw _
  · exact readsBack_println _

theorem readsBack_fetchBytes :
    Only (ReadsBack signature) (fetchBytes signature message : Rpc sdk Unit) := by
  refine .bind (readsBack_getTransaction _ _) fun answer => ?_
  rcases answer with error | encoded
  · exact .threw _
  cases ht : sdk.encodedTransaction encoded with
  | none =>
    simp only [ht]
    exact .threw _
  | some text =>
    simp only [ht]
    cases b64decode text with
    | error error => exact .threw _
    | ok bytes =>
      refine .bind (.pure bytes) fun bytes => ?_
      cases decodeTransactionVersion sdk bytes with
      | error error => exact .threw _
      | ok r =>
        refine .bind (.pure r) fun r => .bind (readsBack_println _) fun _ =>
          .bind (readsBack_println _) fun _ => .bind (readsBack_println _) fun _ => ?_
        split
        · exact .threw _
        · exact readsBack_println _

theorem readsBack_fetchProjection :
    Only (ReadsBack signature) (fetchProjection signature : Rpc sdk Unit) := by
  refine .bind (readsBack_getTransaction _ _) fun answer => ?_
  rcases answer with error | fetched
  · exact .threw _
  refine .bind (readsBack_println _) fun _ => ?_
  cases hp : sdk.projection fetched with
  | none => exact .threw _
  | some r => exact .bind (readsBack_println _) fun _ => readsBack_println _

theorem readsBack_readBack :
    Only (ReadsBack signature) (readBack signature message : Rpc sdk Unit) :=
  .bind (readsBack_println _) fun _ => .bind readsBack_fetchUncapped fun _ =>
    .bind readsBack_fetchBytes fun _ => readsBack_fetchProjection

/-- The bytes fetched back under the signature decode to a v1 message with the config of
the message. -/
def Verified (signature : Signature) (message : sdk.MessageV1)
    (t : Transcript sdk) : Prop :=
  ∃ encoded text bytes decoded read,
    ⟨.getTransaction signature .base64 (some 1), Except.ok encoded⟩ ∈ t ∧
    sdk.encodedTransaction encoded = some text ∧ b64decode text = .ok bytes ∧
    sdk.fromBytes bytes = .ok decoded ∧ sdk.message decoded = .v1 read ∧
    sdk.config read = sdk.config message

theorem eq_v1_of_decodeTransactionVersion {bytes : Bytes} {version : MessageVersion}
    {config : TransactionConfig}
    (h : decodeTransactionVersion sdk bytes = .ok (version, some config)) :
    ∃ decoded read, sdk.fromBytes bytes = .ok decoded ∧ sdk.message decoded = .v1 read ∧
      sdk.config read = config := by
  obtain ⟨decoded, hd, hm⟩ := Fallible.bind_eq_ok_iff.mp h
  cases hr : sdk.message decoded with
  | v1 read =>
    rw [hr] at hm
    cases hm
    exact ⟨decoded, read, hd, hr, rfl⟩
  | legacy =>
    rw [hr] at hm
    cases hm
  | v0 =>
    rw [hr] at hm
    cases hm

theorem returning_fetchBytes :
    Returning (fun _ => Verified signature message)
      (fetchBytes signature message : Rpc sdk Unit) := by
  refine ensures_monad_bind.mpr (ensures_getTransaction.mpr ?_)
  rintro (error | encoded)
  · exact Returning.threw
  cases ht : sdk.encodedTransaction encoded with
  | none =>
    simp only [Ending.continue, ht]
    exact Returning.threw
  | some text =>
    simp only [Ending.continue, ht]
    cases hb : b64decode text with
    | error error => exact Returning.threw
    | ok bytes =>
      refine ensures_monad_bind.mpr (ensures_returned.mpr ?_)
      cases hr : decodeTransactionVersion sdk bytes with
      | error error =>
        simp only [Ending.continue, hr]
        exact Returning.threw
      | ok r =>
        obtain ⟨version, config⟩ := r
        simp only [Ending.continue, hr]
        refine ensures_monad_bind.mpr (ensures_returned.mpr ?_)
        by_cases hc : config = some (sdk.config message)
        · subst hc
          obtain ⟨decoded, read, hd, hm, hcfg⟩ := eq_v1_of_decodeTransactionVersion hr
          exact Returning.of_forall fun _ t =>
            ⟨encoded, text, bytes, decoded, read, List.mem_cons_self, ht, hb, hd, hm, hcfg⟩
        · simp [hc, Ending.continue]

theorem Verified.right {t' : Transcript sdk} (h : Verified signature message t')
    (t : Transcript sdk) : Verified signature message (t ++ t') := by
  obtain ⟨encoded, text, bytes, decoded, read, hm, hd⟩ := h
  exact ⟨encoded, text, bytes, decoded, read, List.mem_append_right t hm, hd⟩

theorem Verified.left {t : Transcript sdk} (h : Verified signature message t)
    (t' : Transcript sdk) : Verified signature message (t ++ t') := by
  obtain ⟨encoded, text, bytes, decoded, read, hm, hd⟩ := h
  exact ⟨encoded, text, bytes, decoded, read, List.mem_append_left t' hm, hd⟩

theorem returning_readBack :
    Returning (fun _ => Verified signature message)
      (readBack signature message : Rpc sdk Unit) := by
  refine Returning.right (fun _ t t' h => Verified.right h t) fun _ =>
    Returning.right (fun _ t t' h => Verified.right h t) fun _ => ?_
  exact returning_fetchBytes.bind fun _ t h => Returning.of_forall fun _ t' => Verified.left h t'

end ReadBack

section Sending

theorem isLocal_printCompiled {message : sdk.MessageV1} :
    Only IsLocal (printCompiled message : Rpc sdk Unit) := by
  refine .bind (isLocal_println _) fun _ => .bind (isLocal_println _) fun _ => ?_
  cases sdk.toBytesVersioned message with
  | nil => exact .threw _
  | cons first rest =>
    exact .bind (isLocal_println _) fun _ => .bind (isLocal_println _) fun _ =>
      .bind (isLocal_println _) fun _ => isLocal_println _

theorem sendPrinted_follows (rounds : ℕ) :
    Follows (Built sdk) .unfunded (sendPrinted rounds : Rpc sdk (Signature × sdk.MessageV1))
      (Reaches fun r q => ∃ status, q = .landed r.1 status) := by
  refine (fundedKeypair_follows rounds 1000000000).andThen ?_
  rintro payer _ rfl
  refine .request (fun _ => ensures_newWallet) fun recipient => ⟨_, .idle trivial, ?_⟩
  refine .request (fun _ => ensures_getLatestBlockhash) fun answer => ?_
  cases answer with
  | error e => exact ⟨_, .readRefused, .threw trivial⟩
  | ok blockhash =>
    refine ⟨_, .read, follows_ofExcept trivial fun transaction h => ?_⟩
    cases hm : sdk.message transaction with
    | legacy => exact .threw trivial
    | v0 => exact .threw trivial
    | v1 message =>
      refine (follows_of_only_isLocal (p := .ready _ blockhash) isLocal_printCompiled
        trivial).andThen ?_
      rintro _ _ rfl
      refine (sendAndConfirm_follows (built_of_eq_ok h) rounds).andThen ?_
      rintro signature _ ⟨status, rfl⟩
      exact .returned ⟨status, rfl⟩

/-- The message is that of a transaction sent under the signature. -/
def SentAs (signature : Signature) (message : sdk.MessageV1)
    (t : Transcript sdk) : Prop :=
  ∃ transaction, sdk.message transaction = .v1 message ∧
    ⟨.sendTransaction (String.ofList (Base64.encode (sdk.bytes transaction))),
      Except.ok signature⟩ ∈ t

theorem returning_sendAndConfirm (rounds : ℕ) (transaction : sdk.VersionedTransaction) :
    Returning (fun signature t =>
        ⟨.sendTransaction (String.ofList (Base64.encode (sdk.bytes transaction))),
          Except.ok signature⟩ ∈ t)
      (sendAndConfirm rounds transaction : Rpc sdk Signature) := by
  refine ensures_monad_bind.mpr (ensures_sendTransaction.mpr ?_)
  rintro (error | signature)
  · exact Returning.threw
  · refine Returning.right (fun b t t' h => ?_) fun _ => Returning.returned List.mem_cons_self
    rcases List.mem_cons.mp h with h | h
    · exact List.mem_cons.mpr (Or.inl h)
    · exact List.mem_cons_of_mem _ (List.mem_append_right t h)

theorem returning_sendPrinted (rounds : ℕ) :
    Returning (fun r => SentAs r.1 r.2)
      (sendPrinted rounds : Rpc sdk (Signature × sdk.MessageV1)) := by
  have hr : ∀ (r : Signature × sdk.MessageV1) t t', SentAs r.1 r.2 t' →
      SentAs r.1 r.2 (t ++ t') := by
    rintro r t t' ⟨transaction, hm, hs⟩
    exact ⟨transaction, hm, List.mem_append_right t hs⟩
  refine Returning.right hr fun payer => Returning.right hr fun recipient =>
    Returning.right hr fun answer => ?_
  cases answer with
  | error error => exact Returning.threw
  | ok blockhash =>
    refine Returning.right hr fun transaction => ?_
    cases hm : sdk.message transaction with
    | legacy => exact Returning.threw
    | v0 => exact Returning.threw
    | v1 message =>
      refine Returning.right hr fun _ => (returning_sendAndConfirm rounds transaction).bind ?_
      intro signature t hs
      exact Returning.returned ⟨transaction, hm, List.mem_append_left [] hs⟩

def SeenActive : Except CallError (Option JsonAccount) → Prop
  | .ok account => isV1Active (fun _ => .ok account) = .ok true
  | .error _ => False

theorem ensures_assertV1Active :
    Ensures (assertV1Active : Rpc sdk Unit) (Gates enableTxV1Feature SeenActive) := by
  refine ensures_monad_bind.mpr (ensures_monad_bind.mpr (ensures_getAccountInfo.mpr ?_))
  rintro (error | account)
  · exact ensures_threw.mpr ⟨_, rfl, Or.inr ⟨id, _, rfl⟩⟩
  cases ha : isV1Active (fun _ => .ok account) with
  | error error =>
    simp only [Ending.continue, ha]
    exact ensures_threw.mpr ⟨_, rfl, Or.inr ⟨by simp [SeenActive, ha], _, rfl⟩⟩
  | ok active =>
    simp only [Ending.continue, ha]
    cases active with
    | false =>
      exact ensures_pure.mpr (ensures_threw.mpr
        ⟨_, rfl, Or.inr ⟨by simp [SeenActive, ha], _, rfl⟩⟩)
    | true => exact ensures_pure.mpr (ensures_pure.mpr ⟨_, rfl, Or.inl ⟨ha, rfl⟩⟩)

/-- However the cluster answers, `main` asks for the feature account first and for
nothing more unless it is active. It sends safely, and returns only when the
transaction has landed and its bytes, fetched back, decode to a v1 message with the
config of the message that was sent. -/
theorem mainSendDecode_verifies (rounds : ℕ) :
    Ensures (mainSendDecode rounds : Rpc sdk Unit)
      (SendsAndVerifies (Built sdk) enableTxV1Feature SeenActive
        (fun r t => SentAs r.1 r.2 t ∧
          ∃ status, Phase.Runs (Built sdk) .unfunded t (.landed r.1 status))
        fun (r : Signature × sdk.MessageV1) t => Verified r.1 r.2 t) := by
  refine sendsAndVerifies Prod.fst ensures_assertV1Active
    (Ensures.mono (Ensures.and (sendPrinted_follows rounds) (returning_sendPrinted rounds))
      fun t e he => ?_) ?_
    (fun _ => readsBack_readBack) (fun _ => returning_readBack) fun _ t t' h => Verified.right h t
  · obtain ⟨⟨q, hq, he⟩, hs⟩ := he
    refine ⟨q, hq, ?_⟩
    rintro r rfl
    obtain ⟨status, rfl⟩ := he
    exact ⟨rfl, hs r rfl, status, hq⟩
  · rintro r t t' ⟨⟨transaction, hm, hs⟩, status, hq⟩ ht
    exact ⟨⟨transaction, hm, List.mem_append_left t' hs⟩, status,
      hq.append (Phase.runs_of_readsBack rfl ht)⟩

end Sending

end TransactionV1.Python

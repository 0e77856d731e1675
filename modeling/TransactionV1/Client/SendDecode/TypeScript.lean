import TransactionV1.Client.TypeScript
import TransactionV1.Client.SendDecode.Shape
import TransactionV1.TypeScript.Reference

/-! # Send and decode in TypeScript

`ts/kit/src/send-decode.ts`, with the decoders of `lib/v1.ts`. The config of the bytes
fetched back is compared with that of the transaction's own bytes.
-/

namespace TransactionV1.TypeScript

open Dialogue Client

variable {sdk : Sdk} {computeBudgetId : Address} (pkg : Packages computeBudgetId)

/-- `decodeTransactionVersion`. The decompiled message keeps the version. -/
def decodeTransactionVersion (wireTransaction : Bytes) :
    Except JsError (Option ComputeBudget × TransactionVersion) := do
  let messageBytes ← pkg.transactionDecoder wireTransaction
  let compiled ← pkg.compiledTransactionMessageDecoder messageBytes
  let config ← pkg.decompileTransactionMessage compiled
  return (config, compiled.version)

-- A v1 transaction that leaves the heap size unset: the config comes back by name.
example : decodeTransactionVersion (.reference .computeBudget)
    ([0x81, 1, 0, 1] ++ LittleEndian.encode 4 0b01111 ++ List.replicate 32 9 ++ [1, 2] ++
      List.replicate 32 5 ++ List.replicate 32 0 ++ LittleEndian.encode 8 5000 ++
      LittleEndian.encode 4 20000 ++ LittleEndian.encode 4 65536 ++ [1, 1, 4, 0] ++
      [0, 2, 0, 0, 0] ++ List.replicate 64 0) =
    .ok (some {
      priorityFeeLamports := some 5000
      computeUnitLimit := some 20000
      loadedAccountsDataSizeLimit := some 65536 }, .number 1) := by
  decide +kernel

/-- What `decodeBase64Transaction` returns. -/
structure DecodedTransaction where
  config : Option ComputeBudget
  version : TransactionVersion
  signature : Signature

def decodeBase64Transaction (sdk : Sdk) (encodedTransaction : String) :
    Except JsError DecodedTransaction := do
  let wireTransaction ← pkg.base64Encoder encodedTransaction
  let (config, version) ← decodeTransactionVersion pkg wireTransaction
  let signature ← sdk.signatureOfWire wireTransaction
  return { config := config, version := version, signature := signature }

def TransactionVersion.toText : TransactionVersion → String
  | .legacy => "legacy"
  | .number n => toString n

def decodeLocal (transaction : sdk.Transaction) : Except JsError DecodedTransaction := do
  let wireTransaction ← sdk.getBase64EncodedWireTransaction transaction
  decodeBase64Transaction pkg sdk wireTransaction

def printLocal (transaction : sdk.Transaction) : Rpc sdk DecodedTransaction := do
  let decoded ← ofExcept (decodeLocal pkg transaction)
  println "== compiled locally =="
  println ("  version: " ++ decoded.version.toText)
  println ("  config:  " ++ sdk.json decoded.config)
  return decoded

/-- Build, decode and send. The first part is what `buildV1Transfer` does too. -/
def sendPrinted : Rpc sdk (Signature × Option ComputeBudget) := do
  let transaction ← buildV1Transfer
  let decoded ← printLocal pkg transaction
  let signature ← sendAndConfirm transaction
  return (signature, decoded.config)

def fetchUncapped (signature : Signature) : Rpc sdk Unit := do
  println "\n== getTransaction without maxSupportedTransactionVersion =="
  match ← getTransaction signature .base64 none with
  | .ok _ => println "  unexpectedly succeeded"
  | .error error => println ("  rejected: " ++ sdk.message error)

/-- The comparison at the end. A config that is not there equals none. -/
def survived (sdk : Sdk) (sent remote : Option ComputeBudget) : Bool :=
  match sent, remote with
  | some sent, some remote => sdk.areV1ConfigsEqual sent remote
  | _, _ => false

def fetchBytes (signature : Signature) (config : Option ComputeBudget) : Rpc sdk Unit := do
  match ← getTransaction signature .base64 (some 1) with
  | .error error => threw error
  | .ok none => threw (.error "the transaction just sent was not found")
  | .ok (some fetched) => do
    let remote ← ofExcept (decodeBase64Transaction pkg sdk (sdk.encodedTransaction fetched))
    println "\n== decoded from the base64 wire bytes =="
    println ("  version: " ++ remote.version.toText ++ " (" ++ sdk.fetchedVersion fetched ++
      " in the response envelope)")
    println ("  config:  " ++ sdk.json remote.config)
    println (formatTransactionConfig remote.config "  ")
    if survived sdk config remote.config then println "  config round-tripped exactly"
    else threw (.error "the config did not survive the round trip")

def readBack (signature : Signature) (config : Option ComputeBudget) : Rpc sdk Unit := do
  println ("\n== sent ==\n  signature: " ++ signature)
  fetchUncapped signature
  fetchBytes pkg signature config

def sendDecode (codecs : FeatureCodecs) : Rpc sdk Unit := do
  assertV1Active codecs
  let (signature, config) ← sendPrinted pkg
  readBack pkg signature config

section ReadBack

variable {pkg} {signature : Signature} {config : Option ComputeBudget}

theorem readsBack_fetchUncapped :
    Only (ReadsBack signature) (fetchUncapped signature : Rpc sdk Unit) := by
  refine .bind (readsBack_println _) fun _ => .bind (readsBack_getTransaction _ _) fun answer => ?_
  rcases answer with error | fetched
  · exact readsBack_println _
  · exact readsBack_println _

theorem readsBack_fetchBytes :
    Only (ReadsBack signature) (fetchBytes pkg signature config : Rpc sdk Unit) := by
  refine .bind (readsBack_getTransaction _ _) fun answer => ?_
  rcases answer with error | _ | fetched
  · exact .threw _
  · exact .threw _
  dsimp only
  cases decodeBase64Transaction pkg sdk (sdk.encodedTransaction fetched) with
  | error error => exact .threw _
  | ok remote =>
    refine .bind (.pure remote) fun remote => .bind (readsBack_println _) fun _ =>
      .bind (readsBack_println _) fun _ => .bind (readsBack_println _) fun _ =>
        .bind (readsBack_println _) fun _ => ?_
    split
    · exact readsBack_println _
    · exact .threw _

theorem readsBack_readBack :
    Only (ReadsBack signature) (readBack pkg signature config : Rpc sdk Unit) :=
  .bind (readsBack_println _) fun _ => .bind readsBack_fetchUncapped fun _ => readsBack_fetchBytes

/-- The bytes fetched back under the signature decode to a config, which is the given one. -/
def Verified (pkg : Packages computeBudgetId) (signature : Signature)
    (config : Option ComputeBudget) (t : Transcript sdk) : Prop :=
  ∃ fetched remote budget,
    ⟨.getTransaction signature .base64 (some 1), Except.ok (some fetched)⟩ ∈ t ∧
    decodeBase64Transaction pkg sdk (sdk.encodedTransaction fetched) = .ok remote ∧
    remote.config = some budget ∧ config = some budget

theorem Verified.right {t' : Transcript sdk} (h : Verified pkg signature config t')
    (t : Transcript sdk) : Verified pkg signature config (t ++ t') := by
  obtain ⟨fetched, remote, budget, hm, hd⟩ := h
  exact ⟨fetched, remote, budget, List.mem_append_right t hm, hd⟩

theorem eq_some_of_survived {sent remote : Option ComputeBudget}
    (h : survived sdk sent remote = true) :
    ∃ budget, remote = some budget ∧ sent = some budget := by
  rcases sent with _ | a
  · cases h
  · rcases remote with _ | b
    · cases h
    · obtain rfl := (sdk.areV1ConfigsEqual_iff a b).mp h
      exact ⟨a, rfl, rfl⟩

theorem returning_fetchBytes : Returning (fun _ => Verified pkg signature config)
    (fetchBytes pkg signature config : Rpc sdk Unit) := by
  refine ensures_monad_bind.mpr (ensures_getTransaction.mpr ?_)
  rintro (error | _ | fetched)
  · exact Returning.threw
  · exact Returning.threw
  dsimp only [Ending.continue]
  cases hd : decodeBase64Transaction pkg sdk (sdk.encodedTransaction fetched) with
  | error error => exact Returning.threw
  | ok remote =>
    refine ensures_monad_bind.mpr (ensures_returned.mpr ?_)
    dsimp only [Ending.continue]
    by_cases hs : survived sdk config remote.config = true
    · obtain ⟨budget, hr, hc⟩ := eq_some_of_survived hs
      exact Returning.of_forall fun _ t =>
        ⟨fetched, remote, budget, List.mem_cons_self, hd, hr, hc⟩
    · simp [hs, Ending.continue]

theorem returning_readBack : Returning (fun _ => Verified pkg signature config)
    (readBack pkg signature config : Rpc sdk Unit) :=
  Returning.right (fun _ t _ h => Verified.right h t) fun _ =>
    Returning.right (fun _ t _ h => Verified.right h t) fun _ => returning_fetchBytes

end ReadBack

section Sending

variable {pkg}

theorem isLocal_printLocal {transaction : sdk.Transaction} :
    Only IsLocal (printLocal pkg transaction : Rpc sdk DecodedTransaction) := by
  unfold printLocal
  cases decodeLocal pkg transaction with
  | error error => exact .threw _
  | ok decoded =>
    exact .bind (.pure decoded) fun decoded => .bind (isLocal_println _) fun _ =>
      .bind (isLocal_println _) fun _ => .bind (isLocal_println _) fun _ => .pure decoded

theorem returning_printLocal {transaction : sdk.Transaction} :
    Returning (fun decoded _ => decodeLocal pkg transaction = .ok decoded)
      (printLocal pkg transaction : Rpc sdk DecodedTransaction) := by
  unfold printLocal
  cases hd : decodeLocal pkg transaction with
  | error error => exact Returning.threw
  | ok decoded =>
    refine ensures_monad_bind.mpr (ensures_returned.mpr ?_)
    refine Returning.after fun _ => Returning.after fun _ =>
      Returning.after fun _ => Returning.returned rfl

/-- A transaction was delivered whose signature and own config these are. -/
def SentWith (pkg : Packages computeBudgetId) (r : Signature × Option ComputeBudget)
    (t : Transcript sdk) : Prop :=
  ∃ transaction decoded, decodeLocal pkg transaction = .ok decoded ∧ decoded.config = r.2 ∧
    Delivers transaction r.1 t

theorem SentWith.left {r : Signature × Option ComputeBudget} {t : Transcript sdk}
    (h : SentWith pkg r t) (t' : Transcript sdk) : SentWith pkg r (t ++ t') := by
  obtain ⟨transaction, decoded, hd, hc, h⟩ := h
  exact ⟨transaction, decoded, hd, hc, h.left t'⟩

theorem ensures_printAndSend {airdrop : Airdrop} {blockhash : Hash}
    {transaction : sdk.Transaction} (hb : Built airdrop blockhash transaction) :
    Ensures (printLocal pkg transaction >>= fun decoded => sendAndConfirm transaction >>=
        fun signature => pure (signature, decoded.config) :
          Rpc sdk (Signature × Option ComputeBudget)) fun t e =>
      ∃ q, Phase.Runs Built (.ready airdrop blockhash) t q ∧
        ∀ r, e = .returned r → q = .delivered none ∧ SentWith pkg r t := by
  refine ensures_monad_bind.mpr
    (Ensures.mono (isLocal_printLocal.and returning_printLocal) fun t e he => ?_)
  obtain ⟨hl, hd⟩ := he
  have hq : Phase.Runs Built (.ready airdrop blockhash) t (.ready airdrop blockhash) :=
    .of_forall fun x hx => .idle (hl x hx)
  cases e with
  | returned decoded =>
    refine ensures_monad_bind.mpr (Ensures.mono (ensures_sendAndConfirm hb) fun t' e' he' => ?_)
    obtain ⟨q, hq', hs⟩ := he'
    cases e' with
    | returned signature =>
      obtain ⟨rfl, hdel⟩ := hs signature rfl
      refine ensures_pure.mpr ⟨_, List.append_nil t' ▸ hq.append hq', ?_⟩
      rintro r ⟨⟩
      exact ⟨rfl, transaction, decoded, hd decoded rfl, rfl, (hdel.left []).right t⟩
    | threw error => exact ⟨q, hq.append hq', fun _ h => nomatch h⟩
    | pending => exact ⟨q, hq.append hq', fun _ h => nomatch h⟩
  | threw error => exact ⟨_, hq, fun _ h => nomatch h⟩
  | pending => exact ⟨_, hq, fun _ h => nomatch h⟩

theorem ensures_sendPrinted :
    Ensures (sendPrinted pkg : Rpc sdk (Signature × Option ComputeBudget)) fun t e =>
      ∃ q, Phase.Runs Built .unfunded t q ∧ ∀ r, e = .returned r →
        q.HasLanded r.1 ∧ Phase.Runs Built .unfunded t (.delivered none) ∧ SentWith pkg r t := by
  refine ensures_monad_bind.mpr (Ensures.mono buildV1Transfer_follows fun t e he => ?_)
  obtain ⟨q, hq, he⟩ := he
  cases e with
  | returned transaction =>
    obtain ⟨airdrop, blockhash, rfl, hb⟩ := he
    refine Ensures.mono (ensures_printAndSend hb) fun t' e' he' => ?_
    obtain ⟨r, hr, hs⟩ := he'
    refine ⟨r, hq.append hr, fun r h => ?_⟩
    obtain ⟨rfl, transaction, decoded, hd, hc, hdel⟩ := hs r h
    exact ⟨Or.inl rfl, hq.append hr, transaction, decoded, hd, hc, hdel.right t⟩
  | threw error => exact ⟨q, hq, fun _ h => nomatch h⟩
  | pending => exact ⟨q, hq, fun _ h => nomatch h⟩

def SeenActive (codecs : FeatureCodecs) (answer : Except JsError (Option RpcAccount)) : Prop :=
  isV1Active codecs (fun _ => answer) = .ok true

theorem ensures_assertV1Active (codecs : FeatureCodecs) :
    Ensures (assertV1Active codecs : Rpc sdk Unit)
      (Gates enableTxV1Feature (SeenActive codecs)) := by
  refine ensures_monad_bind.mpr (ensures_monad_bind.mpr (ensures_getAccountInfo.mpr ?_))
  intro answer
  refine ensures_ofExcept.mpr ?_
  cases ha : isV1Active codecs (fun _ => answer) with
  | error error =>
    exact ⟨answer, rfl, Or.inr ⟨by simp [SeenActive, ha], _, rfl⟩⟩
  | ok active =>
    cases active with
    | false =>
      exact ensures_threw.mpr ⟨answer, rfl, Or.inr ⟨by simp [SeenActive, ha], _, rfl⟩⟩
    | true => exact ensures_pure.mpr ⟨answer, rfl, Or.inl ⟨ha, rfl⟩⟩

/-- However the cluster and the library's own waits answer, the program asks for the
feature account first and for nothing more unless it is active. It sends safely, and ends
without an error only when it delivered a transaction whose own bytes decode to a config,
and the bytes fetched back under its signature decode to the same. -/
theorem sendDecode_roundTrips (codecs : FeatureCodecs) :
    Ensures (sendDecode pkg codecs : Rpc sdk Unit)
      (SendsAndVerifies Built enableTxV1Feature (SeenActive codecs)
        (fun r t => Phase.Runs Built .unfunded t (.delivered none) ∧ SentWith pkg r t)
        fun r t => Verified pkg r.1 r.2 t) := by
  refine sendsAndVerifies Prod.fst (ensures_assertV1Active codecs) ensures_sendPrinted ?_
    (fun _ => readsBack_readBack) (fun _ => returning_readBack) fun _ t _ h => Verified.right h t
  rintro r t t' ⟨hq, hs⟩ ht
  exact ⟨hq.append (Phase.runs_of_readsBack (Or.inl rfl) ht), hs.left t'⟩

end Sending

end TransactionV1.TypeScript

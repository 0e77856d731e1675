import TransactionV1.Web3.InTurn

/-! # Send a transfer and decode it

`ts/web3js-v3/src/send-decode.ts`. The transfer is fetched under two version ceilings, of
which the second has to admit it.
-/

namespace TransactionV1.Web3

open Dialogue TypeScript

variable {sdk : Sdk}

abbrev Plain (sdk : Sdk) (α : Type) := Async sdk Empty.elim α

abbrev PlainTranscript (sdk : Sdk) := Transcript sdk Empty.elim

def transferConfig : V1TransactionConfig where
  computeUnitLimit := some (some 20000)
  heapSize := some (some (64 * 1024))
  loadedAccountsDataSizeLimit := some (some (64 * 1024))

def sendTransfer : Plain sdk (String × sdk.Transaction) := do
  let payer ← fundedKeypair 1000000000
  let recipient : sdk.Keypair ← attempt Question.generate
  let (signature, transaction) ← sendV1Transaction payer
    [sdk.transfer (sdk.publicKey payer) 10000000 (sdk.publicKey recipient)] [] transferConfig
  println "== sent =="
  println ("  signature: " ++ signature)
  println ("  version:   " ++ sdk.transactionVersion transaction)
  println ("  size:      " ++ toString (sdk.serializedSize transaction) ++ " bytes")
  return (signature, transaction)

def tryCeilingZero (signature : String) : Plain sdk Unit := do
  println "\n== getTransaction with maxSupportedTransactionVersion 0 =="
  let answer : Except JsError (Option sdk.Fetched) ← query (Question.getTransaction signature 0)
  match answer with
  | .ok _ => println "  unexpectedly succeeded"
  | .error error => println ("  rejected: " ++ sdk.errorMessage error)

def fetchTransfer (signature : String) : Plain sdk Unit := do
  let fetched : Option sdk.Fetched ← attempt (Question.getTransaction signature 1)
  match fetched with
  | none => threw (.error ("transaction " ++ signature ++ " was not found"))
  | some fetched => do
    println "\n== read back =="
    println ("  version: " ++ sdk.messageVersion fetched ++ " (" ++ sdk.envelopeVersion fetched ++
      " in the response envelope)")
    println ("  fee:     " ++ sdk.fee fetched ++ " lamports")
    match sdk.transactionConfig fetched with
    | none => threw (.error "the transaction just sent did not come back as a v1 message")
    | some config => println ("  config:  " ++ sdk.json config)

def decodeTransfer (transaction : sdk.Transaction) : Plain sdk Unit := do
  let roundTripped ← ofExcept (sdk.deserialized transaction)
  println "\n== decoded from the local wire bytes =="
  println ("  version:      " ++ sdk.transactionVersion roundTripped)
  println ("  instructions: " ++ toString (sdk.instructionCount roundTripped))
  println ("  config:       " ++ (sdk.ownConfig roundTripped).elim "none" sdk.json)

def sendDecode : Plain sdk Unit := do
  let (signature, transaction) ← sendTransfer
  tryCeilingZero signature
  fetchTransfer signature
  decodeTransfer transaction

theorem sendTransfer_advances :
    Advances 1 (sendTransfer : Plain sdk (String × sdk.Transaction)) := by
  apply (fundedKeypair_advances _).free
  intro payer
  refine .aside (.attempt fun _ => trivial) fun recipient => ?_
  refine (sendV1Transaction_advances payer _ [] transferConfig).next fun r => .of_only ?_
  apply Only.bind (isAside_println _)
  intro _
  apply Only.bind (isAside_println _)
  intro _
  exact .bind (isAside_println _) fun _ => .bind (isAside_println _) fun _ => .pure _

theorem isAside_readBack (signature : String) (transaction : sdk.Transaction) :
    Only (fun x => x.1.IsAside) (tryCeilingZero signature >>= fun _ =>
      fetchTransfer signature >>= fun _ => decodeTransfer transaction : Plain sdk Unit) := by
  refine .bind (.bind (isAside_println _) fun _ => .bind (.query fun _ => trivial) fun answer => ?_)
    fun _ => .bind (.bind (.attempt fun _ => trivial) fun fetched => ?_) fun _ => ?_
  · cases answer <;> exact isAside_println _
  · cases fetched with
    | none => exact .threw _
    | some fetched =>
      apply Only.bind (isAside_println _)
      intro _
      apply Only.bind (isAside_println _)
      intro _
      apply Only.bind (isAside_println _)
      intro _
      cases sdk.transactionConfig fetched with
      | none => exact .threw _
      | some config => exact isAside_println _
  · refine .bind (.ofExcept _) fun _ => .bind (isAside_println _) fun _ => ?_
    exact .bind (isAside_println _) fun _ => .bind (isAside_println _) fun _ => isAside_println _

theorem sendDecode_advances : Advances 1 (sendDecode : Plain sdk Unit) :=
  sendTransfer_advances.next fun r => .of_only (isAside_readBack r.1 r.2)

/-- A transaction sent under a signature came back as a v1 message. -/
def ReadBack (signature : String) (t : PlainTranscript sdk) : Prop :=
  ∃ fetched config, ⟨.getTransaction signature 1, Except.ok (some fetched)⟩ ∈ t ∧
    sdk.transactionConfig fetched = some config

theorem returning_fetchTransfer (signature : String) :
    Returning (fun _ t => ReadBack signature t) (fetchTransfer signature : Plain sdk Unit) := by
  refine Returning.attempt.bind ?_
  rintro fetched _ rfl
  cases fetched with
  | none => exact Returning.threw
  | some fetched =>
    cases hc : sdk.transactionConfig fetched with
    | none =>
      refine Returning.of_never (Returning.after fun _ => ?_)
      refine Returning.after fun _ => ?_
      refine Returning.after fun _ => ?_
      rw [hc]
      exact Returning.threw
    | some config =>
      exact Returning.of_forall fun _ t => ⟨fetched, config, List.mem_cons_self, hc⟩

def SentTransfer (signature : String) (t : PlainTranscript sdk) : Prop :=
  ∃ payer recipient, Lands payer
    [sdk.transfer (sdk.publicKey payer) 10000000 (sdk.publicKey recipient)] [] transferConfig
    signature t

theorem SentTransfer.mono {signature : String} {t t' : PlainTranscript sdk}
    (h : SentTransfer signature t) (ht : t ⊆ t') : SentTransfer signature t' := by
  obtain ⟨payer, recipient, h⟩ := h
  exact ⟨payer, recipient, h.mono ht⟩

theorem returning_sendTransfer :
    Returning (fun r t => SentTransfer r.1 t)
      (sendTransfer : Plain sdk (String × sdk.Transaction)) := by
  have hright : ∀ (r : String × sdk.Transaction) (t t' : PlainTranscript sdk),
      SentTransfer r.1 t' → SentTransfer r.1 (t ++ t') :=
    fun _ t t' h => h.mono (List.subset_append_right t t')
  apply Returning.right hright
  intro payer
  apply Returning.right hright
  intro recipient
  refine returning_sendV1Transaction.bind fun r t hl => ?_
  have htail : Returning (fun a _ => a = r) (do
      println "== sent =="
      println ("  signature: " ++ r.1)
      println ("  version:   " ++ sdk.transactionVersion r.2)
      println ("  size:      " ++ toString (sdk.serializedSize r.2) ++ " bytes")
      return (r.1, r.2) : Plain sdk (String × sdk.Transaction)) := by
    refine Returning.after fun _ => ?_
    refine Returning.after fun _ => ?_
    exact Returning.after fun _ => Returning.after fun _ =>
      Returning.returned rfl
  refine Ensures.mono htail fun t' e he a ha => ?_
  obtain rfl := he a ha
  exact ⟨payer, recipient, hl.mono (List.subset_append_left t t')⟩

theorem ReadBack.mono {signature : String} {t t' : PlainTranscript sdk}
    (h : ReadBack signature t) (ht : t ⊆ t') : ReadBack signature t' := by
  obtain ⟨fetched, config, hm, hc⟩ := h
  exact ⟨fetched, config, ht hm, hc⟩

theorem returning_readBack (signature : String) (transaction : sdk.Transaction) :
    Returning (fun _ t => ReadBack signature t) (tryCeilingZero signature >>= fun _ =>
      fetchTransfer signature >>= fun _ => decodeTransfer transaction : Plain sdk Unit) := by
  refine Returning.right (fun _ t t' h => h.mono (List.subset_append_right t t')) fun _ => ?_
  exact (returning_fetchTransfer signature).bind fun _ t hr =>
    Returning.of_forall fun _ t' => hr.mono (List.subset_append_left t t')

/-- However the cluster answers, the program sends at most one transaction, over the
blockhash read for it. It returns only when it is confirmed and has come back as a v1
message under its signature. -/
theorem sendDecode_inTurn :
    Ensures (sendDecode : Plain sdk Unit) fun t e =>
      InTurn t ∧ t.countP isSend ≤ 1 ∧ (e = .returned () → t.countP isSend = 1 ∧
        ∃ signature, SentTransfer signature t ∧ ReadBack signature t) := by
  have hback : Returning (fun _ t => ∃ signature, SentTransfer signature t ∧ ReadBack signature t)
      (sendDecode : Plain sdk Unit) := by
    refine returning_sendTransfer.bind fun r t hs => ?_
    refine Ensures.mono (returning_readBack r.1 r.2) fun t' e he a ha => ?_
    exact ⟨r.1, hs.mono (List.subset_append_left t t'),
      (he a ha).mono (List.subset_append_right t t')⟩
  refine Ensures.mono (sendDecode_advances.inTurn.and hback) fun t e he => ?_
  obtain ⟨⟨hturn, hle, heq⟩, hback⟩ := he
  exact ⟨hturn, hle, fun hret => ⟨heq () hret, hback () hret⟩⟩

end TransactionV1.Web3

import TransactionV1.Client.GetBlock.Ladder
import TransactionV1.Client.TypeScript

/-! # One transaction under three ceilings

`ts/web3js-legacy/src/read-transaction.ts`. A transaction is sent with `@solana/kit` and
read with the `Connection` of the old library. What is not found is null, which the first
two ceilings take for a success and the last one for an error.
-/

namespace TransactionV1.Web3Legacy

open Dialogue Client TypeScript

/-- A `transactionConfig` as the old library decodes it. -/
structure LegacyConfig where
  computeUnitLimit : Option ℕ
  heapSize : Option ℕ
  loadedAccountsDataSizeLimit : Option ℕ
  priorityFee : Option ℕ

/-- What `@solana/web3.js` shows of a fetched transaction. Only a message that is a
`MessageV1` has a config. -/
structure ReadSdk extends Sdk where
  messageVersion : Fetched → String
  transactionConfig : Fetched → Option LegacyConfig

section Program

variable {sdk : ReadSdk}

def legacyLine : String := "  succeeded: this is a legacy transaction"

def notV1Line : String := "  succeeded: this is not a v1 transaction"

def noConfigLine : String := "  no config: not a v1 transaction"

def orUnset (value : Option ℕ) : String := value.elim "unset" toString

def tryFetch (header success : String) (ceiling : Option ℕ) (signature : Signature) :
    Rpc sdk.toSdk Unit := do
  println header
  match ← getTransaction signature .json ceiling with
  | .ok _ => println success
  | .error error => println ("  rejected: " ++ sdk.message error)

def showTransaction (fetched : sdk.Fetched) : Rpc sdk.toSdk Unit := do
  println ("  version: " ++ sdk.messageVersion fetched ++ " (" ++ sdk.fetchedVersion fetched ++
    " in the response envelope)")
  match sdk.transactionConfig fetched with
  | none => println noConfigLine
  | some config => do
    println ("  computeUnitLimit:            " ++ orUnset config.computeUnitLimit)
    println ("  heapSize:                    " ++ orUnset config.heapSize)
    println ("  loadedAccountsDataSizeLimit: " ++ orUnset config.loadedAccountsDataSizeLimit)
    println ("  priorityFee:                 " ++ orUnset config.priorityFee ++ " lamports")

def readTransaction (signature : Signature) : Rpc sdk.toSdk Unit := do
  println ("reading " ++ signature ++ "\n")
  tryFetch "== maxSupportedTransactionVersion omitted ==" legacyLine none signature
  tryFetch "\n== maxSupportedTransactionVersion 0 ==" notV1Line (some 0) signature
  println "\n== maxSupportedTransactionVersion 1 =="
  match ← getTransaction signature .json (some 1) with
  | .error error => threw error
  | .ok none => threw (.error ("transaction " ++ signature ++ " was not found"))
  | .ok (some fetched) => showTransaction fetched

def sendV1Transfer : Rpc sdk.toSdk Signature := buildV1Transfer >>= sendAndConfirm

def sendAndRead (requested : Option Signature) : Rpc sdk.toSdk Unit :=
  match requested with
  | some signature => readTransaction signature
  | none => sendV1Transfer >>= readTransaction

end Program

section Truth

variable {sdk : ReadSdk} {signature : Signature}

/-- The transactions of a cluster by their signatures, as their versions. -/
abbrev TransactionLedger := Signature → Option Rust.TransactionVersion

/-- What a cluster with a ledger promises: it gives out a transaction only under a ceiling
that admits it, and the library makes a v1 message of a v1 transaction. Of null nothing is
promised. -/
def Shows (ledger : TransactionLedger) : TypeScript.Call sdk.toSdk → Prop
  | ⟨.getTransaction s _ ceiling, .ok (some fetched)⟩ => ∃ version ∈ ledger s,
      Admits ceiling version ∧ (version = .number 1 → (sdk.transactionConfig fetched).isSome)
  | _ => True

/-- The transaction was asked for under this ceiling and the answer was null. -/
def AnsweredNull (signature : Signature) (t : TypeScript.Transcript sdk.toSdk)
    (ceiling : Option ℕ) : Prop :=
  ⟨.getTransaction signature .json ceiling, .ok none⟩ ∈ t

/-- What a line says of a transaction is so, unless the answer it rests on was null. -/
structure LineHolds (missed : Option ℕ → Prop) (line : String)
    (version : Option Rust.TransactionVersion) : Prop where
  legacy : line = legacyLine → missed none ∨ ∀ v ∈ version, v = .legacy
  notV1 : line = notV1Line → missed (some 0) ∨ .number 1 ∉ version
  noConfig : line = noConfigLine → .number 1 ∉ version

def Truthful (missed : Option ℕ → Prop) (ledger : TransactionLedger) (signature : Signature) :
    TypeScript.Call sdk.toSdk → Prop
  | ⟨.println line, _⟩ => LineHolds missed line (ledger signature)
  | _ => True

/-- A line that says nothing of the version. -/
def Silent (line : String) : Prop := line ∉ [legacyLine, notV1Line, noConfigLine]

instance : DecidablePred Silent := fun _ => inferInstanceAs (Decidable (¬ _))

variable {missed : Option ℕ → Prop}

theorem Silent.lineHolds {line : String} (h : Silent line)
    (version : Option Rust.TransactionVersion) : LineHolds missed line version where
  legacy he := absurd (by simp [he]) h
  notV1 he := absurd (by simp [he]) h
  noConfig he := absurd (by simp [he]) h

theorem silent_append {start : String}
    (h : ∀ line ∈ [legacyLine, notV1Line, noConfigLine], ¬ start.toList <+: line.toList)
    (rest : String) : Silent (start ++ rest) := by
  intro hm
  exact h _ hm ⟨rest.toList, String.toList_append.symm⟩

theorem meets_println {P : TypeScript.Call sdk.toSdk → Prop} {ledger : TransactionLedger}
    {line : String} (h : LineHolds missed line (ledger signature)) :
    Meets P (Truthful missed ledger signature) (fun _ _ => True)
      (println line : Rpc sdk.toSdk Unit) :=
  .query fun _ _ => ⟨h, trivial⟩

/-- A promise kept in a conversation whose answers of null are known. -/
def ShowsOr (missed : Option ℕ → Prop) (ledger : TransactionLedger) (signature : Signature)
    (x : TypeScript.Call sdk.toSdk) : Prop :=
  Shows ledger x ∧
    ∀ ceiling, x = ⟨.getTransaction signature .json ceiling, .ok none⟩ → missed ceiling

/-- A transaction the cluster answered with is one the ceiling admits, unless it is null. -/
theorem ShowsOr.admits {ledger : TransactionLedger} {ceiling : Option ℕ}
    {fetched : Option sdk.Fetched}
    (h : ShowsOr missed ledger signature
      (⟨.getTransaction signature .json ceiling, Except.ok fetched⟩ :
        TypeScript.Call sdk.toSdk)) :
    missed ceiling ∨ ∀ version ∈ ledger signature, Admits ceiling version := by
  cases fetched with
  | none => exact Or.inl (h.2 ceiling rfl)
  | some fetched =>
    obtain ⟨version, hv, ha, -⟩ := h.1
    refine Or.inr fun version' hv' => ?_
    rwa [Option.mem_unique hv' hv]

theorem meets_tryFetch {ledger : TransactionLedger} {header success : String}
    {ceiling : Option ℕ} (hheader : Silent header)
    (hsuccess : missed ceiling ∨ (∀ version ∈ ledger signature, Admits ceiling version) →
      LineHolds missed success (ledger signature)) :
    Meets (ShowsOr missed ledger signature) (Truthful missed ledger signature) (fun _ _ => True)
      (tryFetch header success ceiling signature : Rpc sdk.toSdk Unit) := by
  apply Meets.after (meets_println (hheader.lineHolds _))
  intro _
  apply Meets.request
  intro answer hP
  refine ⟨trivial, ?_⟩
  cases answer with
  | error error => exact meets_println ((silent_append (by decide) _).lineHolds _)
  | ok fetched => exact meets_println (hsuccess hP.admits)

theorem meets_showTransaction {ledger : TransactionLedger} {fetched : sdk.Fetched}
    {version : Rust.TransactionVersion} (hv : version ∈ ledger signature)
    (hc : version = .number 1 → (sdk.transactionConfig fetched).isSome) :
    Meets (ShowsOr missed ledger signature) (Truthful missed ledger signature) (fun _ _ => True)
      (showTransaction fetched : Rpc sdk.toSdk Unit) := by
  have hquiet (start rest : String)
      (h : ∀ line ∈ [legacyLine, notV1Line, noConfigLine], ¬ start.toList <+: line.toList) :
      Meets (ShowsOr missed ledger signature) (Truthful missed ledger signature) (fun _ _ => True)
        (println (start ++ rest) : Rpc sdk.toSdk Unit) :=
    meets_println ((silent_append h rest).lineHolds _)
  unfold showTransaction
  simp only [String.append_assoc]
  apply Meets.after (hquiet _ _ (by decide))
  intro _
  cases hf : sdk.transactionConfig fetched with
  | none =>
    apply meets_println
    refine ⟨fun he => absurd he (by decide), fun he => absurd he (by decide), fun _ h1 => ?_⟩
    obtain rfl := Option.mem_unique hv h1
    rw [hf] at hc
    exact absurd (hc rfl) Bool.false_ne_true
  | some config =>
    apply Meets.after (hquiet _ _ (by decide))
    intro _
    apply Meets.after (hquiet _ _ (by decide))
    intro _
    apply Meets.after (hquiet _ _ (by decide))
    intro _
    exact hquiet _ _ (by decide)

/-- The program says nothing false of the transaction but after null, and returns only if there
is one. -/
theorem meets_readTransaction (missed : Option ℕ → Prop) (ledger : TransactionLedger) :
    Meets (ShowsOr missed ledger signature) (Truthful missed ledger signature)
      (fun _ _ => (ledger signature).isSome)
      (readTransaction signature : Rpc sdk.toSdk Unit) := by
  have hreading : Silent ("reading " ++ signature ++ "\n") := by
    rw [String.append_assoc]
    exact silent_append (by decide) _
  apply Meets.after (meets_println (hreading.lineHolds _))
  intro _
  apply Meets.after (meets_tryFetch (by decide) ?_)
  · intro _
    apply Meets.after (meets_tryFetch (by decide) ?_)
    · intro _
      have hheader : Silent "\n== maxSupportedTransactionVersion 1 ==" := by decide
      apply Meets.after (meets_println (hheader.lineHolds _))
      intro _
      apply Meets.request
      rintro (error | _ | fetched) hP
      · exact ⟨trivial, .threw⟩
      · exact ⟨trivial, .threw⟩
      · obtain ⟨version, hv, -, hc⟩ := hP.1
        refine ⟨trivial, (meets_showTransaction hv hc).weaken fun _ _ _ => ?_⟩
        exact Option.isSome_of_mem hv
    · intro hadmits
      refine ⟨fun he => absurd he (by decide), fun _ => ?_, fun he => absurd he (by decide)⟩
      exact hadmits.imp_right fun ha h1 => not_admits_zero_v1 (ha _ h1)
  · intro hadmits
    refine ⟨fun _ => ?_, fun he => absurd he (by decide), fun he => absurd he (by decide)⟩
    exact hadmits.imp_right fun ha version hv => eq_legacy_of_admits_none (ha version hv)

theorem readsBack_tryFetch (header success : String) (ceiling : Option ℕ) :
    Only (ReadsBack signature)
      (tryFetch header success ceiling signature : Rpc sdk.toSdk Unit) := by
  refine .bind (readsBack_println header) fun _ => .bind (readsBack_getTransaction _ _) ?_
  intro answer
  cases answer with
  | error error => exact readsBack_println _
  | ok fetched => exact readsBack_println _

theorem readsBack_readTransaction :
    Only (ReadsBack signature) (readTransaction signature : Rpc sdk.toSdk Unit) := by
  refine .bind (readsBack_println _) fun _ => .bind (readsBack_tryFetch _ _ _) fun _ => ?_
  refine .bind (readsBack_tryFetch _ _ _) fun _ => .bind (readsBack_println _) fun _ => ?_
  refine .bind (readsBack_getTransaction _ _) ?_
  rintro (error | _ | fetched)
  · exact .threw _
  · exact .threw _
  · refine .bind (readsBack_println _) fun _ => ?_
    cases sdk.transactionConfig fetched with
    | none => exact readsBack_println _
    | some config =>
      refine .bind (readsBack_println _) fun _ => .bind (readsBack_println _) fun _ => ?_
      exact .bind (readsBack_println _) fun _ => readsBack_println _

end Truth

section Conversation

variable {sdk : ReadSdk}

/-- A conversation about a transaction: nothing but this one is read. If the cluster keeps its
promise, what is printed of the transaction is so or the answer was null, and it returns only
if the transaction exists. -/
def TellsOf (signature : Signature) (t : TypeScript.Transcript sdk.toSdk)
    (e : Ending JsError Unit) : Prop :=
  (∀ x ∈ t, ReadsBack signature x) ∧ ∀ ledger, (∀ x ∈ t, Shows ledger x) →
    (∀ x ∈ t, Truthful (AnsweredNull signature t) ledger signature x) ∧
      (e = .returned () → (ledger signature).isSome)

theorem ensures_readTransaction (signature : Signature) :
    Ensures (readTransaction signature : Rpc sdk.toSdk Unit) (TellsOf signature) := by
  intro t e hc
  constructor
  · exact readsBack_readTransaction t e hc
  · intro ledger hP
    obtain ⟨ht, he⟩ := meets_readTransaction (AnsweredNull signature t) ledger t e hc
      fun x hx => ⟨hP x hx, by rintro ceiling rfl; exact hx⟩
    exact ⟨ht, he ()⟩

theorem isSend_of_readsBack {signature : Signature} {x : TypeScript.Call sdk.toSdk}
    (h : ReadsBack signature x) : isSend x = false := by
  obtain ⟨question, answer⟩ := x
  cases question <;> first | rfl | exact h.elim

theorem sendsSafely_of_readsBack {signature : Signature} {t : TypeScript.Transcript sdk.toSdk}
    (h : ∀ x ∈ t, ReadsBack signature x) : SendsSafely Built t ∧ t.countP isSend = 0 := by
  have hnot : ∀ x ∈ t, isSend x = false := fun x hx => isSend_of_readsBack (h x hx)
  have hcount : t.countP isSend = 0 := by
    rw [List.countP_eq_zero]
    intro x hx
    rw [hnot x hx]
    exact Bool.false_ne_true
  refine ⟨⟨hcount.le.trans (Nat.zero_le 1), ?_⟩, hcount⟩
  intro before x after ht hx
  have hmem : x ∈ t := by
    rw [ht]
    exact List.mem_append_right before List.mem_cons_self
  rw [hnot x hmem] at hx
  cases hx

/-- A conversation of the program. Its transaction is the one with the signature it was
given, or one it has sent and seen delivered. -/
def ReadsOne (requested : Option Signature) (t : TypeScript.Transcript sdk.toSdk)
    (e : Ending JsError Unit) : Prop :=
  (∃ x, requested = none ∧ Conversation sendV1Transfer t (.threw x) ∧ e = .threw x) ∨
  (requested = none ∧ Conversation sendV1Transfer t .pending ∧ e = .pending) ∨
  ∃ before after signature, t = before ++ after ∧
    (requested = some signature ∧ before = [] ∨ requested = none ∧ SentAs signature before) ∧
    TellsOf signature after e

theorem ReadsOne.tellsOf {signature : Signature} {t : TypeScript.Transcript sdk.toSdk}
    {e : Ending JsError Unit} (h : ReadsOne (some signature) t e) : TellsOf signature t e := by
  rcases h with ⟨x, h, -⟩ | ⟨h, -⟩ | ⟨before, after, signature', rfl, hs, ht⟩
  · cases h
  · cases h
  · rcases hs with ⟨hs, rfl⟩ | ⟨hs, -⟩
    · obtain rfl := Option.some.inj hs
      exact ht
    · cases hs

/-- Whatever signature the program is given and however the cluster answers, it sends safely,
and nothing at all when it is given one. What it then reads is the transaction with that
signature or one it has seen delivered, and what it says of it is so, or rests on null. -/
theorem sendAndRead_truthful (requested : Option Signature) :
    Ensures (sendAndRead requested : Rpc sdk.toSdk Unit) fun t e =>
      SendsSafely Built t ∧ (requested.isSome → t.countP isSend = 0) ∧ ReadsOne requested t e := by
  cases requested with
  | some signature =>
    refine Ensures.mono (ensures_readTransaction signature) fun t e he => ?_
    obtain ⟨hsafe, hcount⟩ := sendsSafely_of_readsBack he.1
    exact ⟨hsafe, fun _ => hcount,
      Or.inr (Or.inr ⟨[], t, signature, rfl, Or.inl ⟨rfl, rfl⟩, he⟩)⟩
  | none =>
    refine ensures_monad_bind.mpr fun t e hc => ?_
    obtain ⟨q, hq, hlanded⟩ := transferV1_delivers t e hc
    cases e with
    | returned signature =>
      obtain ⟨hl, -, hsent⟩ := hlanded signature rfl
      refine Ensures.mono (ensures_readTransaction signature) fun t' e' he => ?_
      have hr := hq.append (Phase.runs_of_readsBack hl he.1)
      exact ⟨sendsSafely_of_runs hr, fun h => (nomatch h),
        Or.inr (Or.inr ⟨t, t', signature, rfl, Or.inr ⟨rfl, hsent⟩, he⟩)⟩
    | threw x =>
      exact ⟨sendsSafely_of_runs hq, fun h => (nomatch h), Or.inl ⟨x, rfl, hc, rfl⟩⟩
    | pending =>
      exact ⟨sendsSafely_of_runs hq, fun h => (nomatch h), Or.inr (Or.inl ⟨rfl, hc, rfl⟩)⟩

end Conversation

section Example

def trivialSdk : ReadSdk where
  toSdk := TypeScript.trivialSdk
  messageVersion _ := "1"
  transactionConfig _ := some ⟨some 20000, none, none, some 5000⟩

/-- A cluster that answers null without a ceiling for a v1 transaction. -/
def nullConversation : TypeScript.Transcript trivialSdk.toSdk :=
  [⟨.println "reading s\n", ()⟩, ⟨.println "== maxSupportedTransactionVersion omitted ==", ()⟩,
    ⟨.getTransaction "s" .json none, Except.ok none⟩, ⟨.println legacyLine, ()⟩,
    ⟨.println "\n== maxSupportedTransactionVersion 0 ==", ()⟩,
    ⟨.getTransaction "s" .json (some 0), Except.error (.error "refused")⟩,
    ⟨.println "  rejected: refused", ()⟩,
    ⟨.println "\n== maxSupportedTransactionVersion 1 ==", ()⟩,
    ⟨.getTransaction "s" .json (some 1), Except.ok (some ())⟩,
    ⟨.println "  version: 1 ( in the response envelope)", ()⟩,
    ⟨.println "  computeUnitLimit:            20000", ()⟩,
    ⟨.println "  heapSize:                    unset", ()⟩,
    ⟨.println "  loadedAccountsDataSizeLimit: unset", ()⟩,
    ⟨.println "  priorityFee:                 5000 lamports", ()⟩]

theorem conversation_nullConversation :
    Conversation (sendAndRead (some "s") : Rpc trivialSdk.toSdk Unit) nullConversation
      (.returned ()) :=
  .ask (.ask (.ask (.ask (.ask (.ask (.ask (.ask (.ask (.ask (.ask (.ask (.ask (.ask
    (.returned ()))))))))))))))

theorem sendAndRead_truthful_of_nullConversation :
    (∀ x ∈ nullConversation, Truthful (AnsweredNull "s" nullConversation)
      (fun _ => some (.number 1)) "s" x) ∧ ⟨.println legacyLine, ()⟩ ∈ nullConversation := by
  obtain ⟨-, -, hreads⟩ := sendAndRead_truthful (some "s") _ _ conversation_nullConversation
  refine ⟨(hreads.tellsOf.2 _ ?_).1, by simp [nullConversation]⟩
  have hfound : Shows (fun _ => some (.number 1))
      (⟨.getTransaction "s" .json (some 1), Except.ok (some ())⟩ :
        TypeScript.Call trivialSdk.toSdk) :=
    ⟨.number 1, rfl, ⟨1, rfl, by decide⟩, fun _ => rfl⟩
  simp only [nullConversation, List.forall_mem_cons]
  exact ⟨trivial, trivial, trivial, trivial, trivial, trivial, trivial, trivial, hfound, trivial,
    trivial, trivial, trivial, trivial, List.forall_mem_nil _⟩

end Example

end TransactionV1.Web3Legacy

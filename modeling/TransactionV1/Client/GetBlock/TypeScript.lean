import TransactionV1.Client.GetBlock.Ladder
import TransactionV1.Client.SendDecode.TypeScript

/-! # Get a block in TypeScript

`ts/kit/src/get-block.ts`. A block that is not found is null, and null under the first two
ceilings counts as success.
-/

namespace TransactionV1.TypeScript

open Dialogue Client

variable {sdk : Sdk} {computeBudgetId : Address} {pkg : Packages computeBudgetId}

def headers : Headers where
  omitted := "== maxSupportedTransactionVersion omitted =="
  zero := "\n== maxSupportedTransactionVersion 0 =="
  one := "\n== maxSupportedTransactionVersion 1 =="

def decodeForReport (pkg : Packages computeBudgetId) (sdk : Sdk)
    (encodedTransaction : String) : Except JsError (Option ComputeBudget × String) := do
  let decoded ← decodeBase64Transaction pkg sdk encodedTransaction
  return (decoded.config, decoded.signature)

def sentSlot : Rpc sdk UInt64 := do
  let (_, slot) ← sendV1TransferAndGetSlot
  return slot

def readsBlock (pkg : Packages computeBudgetId) (slot : Option UInt64) : Rpc sdk Unit := do
  let slot ← chooseSlot slot sentSlot
  readBlock headers (fun error => .ok (sdk.message error)) id
    (fun slot block => printReport id
      (getBlock (decodeForReport pkg sdk) slot.toNat (block.bind sdk.blockTransactions))) slot

def blockVersions (block : Option sdk.Block) : Option (List (Option JsonVersion)) :=
  (block.bind sdk.blockTransactions).map (List.map (·.version))

theorem quiet_getBlock {decode : String → Except JsError (Option ComputeBudget × String)}
    {slot : ℕ} {transactions : Option (List (BlockTransaction (Option JsonVersion) String))}
    {r : VersionReport Empty String} {stopped : Option JsError}
    (h : getBlock decode slot transactions = .ok (r, stopped)) :
    ∀ line ∈ r.v1Lines, Quiet line := by
  cases transactions with
  | none => cases h
  | some transactions =>
    intro line hm
    obtain rfl := congrArg Prod.fst (Except.ok.inj h)
    obtain ⟨transaction, -, ht⟩ := List.mem_map.mp (ok_mem_of_mem_printUntil hm)
    cases hd : decode transaction.transaction with
    | error error =>
      rw [hd] at ht
      cases ht
    | ok decoded =>
      rw [hd] at ht
      obtain rfl := Except.ok.inj ht
      simp only [String.append_assoc]
      exact quiet_append (by decide) (by decide) _

/-- Whatever slot the program reads and however a cluster that keeps a ledger answers, it says
that the block holds no versioned or no v1 transactions only if that is so or the answer was
null, and it ends without an error only when it has printed the right tally of the block. -/
theorem readsBlock_truthful (pkg : Packages computeBudgetId) (slot : Option UInt64) :
    Ensures (readsBlock pkg slot : Rpc sdk Unit)
      (GetsBlock (· = none) slot sentSlot (Serves (· = none) statedVersion blockVersions)
        none) := by
  refine getsBlock (by decide) (fun _ _ ledger slot block hserved => ?_)
    fun _ _ => asksFor_printReport _
  refine meets_printReport fun r stopped h => ⟨quiet_getBlock h, ?_⟩
  cases hb : block.bind sdk.blockTransactions with
  | none =>
    rw [hb] at h
    cases h
  | some transactions =>
    obtain ⟨hw, hv⟩ := hserved fun hn => by simp [hn] at hb
    rw [blockVersions, hb] at hv
    rw [hb] at h
    have ht := congrArg (Except.map (·.1.tally)) h
    rw [tally_getBlock] at ht
    obtain rfl := congrArg Prod.fst (Except.ok.inj h)
    exact exists_versions_of_folded hw hv (Except.ok.inj ht).symm rfl

section Example

/-- A cluster that refuses slot 7 without a ceiling, answers null under ceiling 0 and has one
v0 transaction there. -/
def nullConversation : Transcript trivialSdk :=
  [⟨.println "reading slot 7\n", ()⟩, ⟨.println headers.omitted, ()⟩,
    ⟨.getBlock 7 none, Except.error (.error "refused")⟩, ⟨.println "  rejected: refused", ()⟩,
    ⟨.println headers.zero, ()⟩, ⟨.getBlock 7 (some 0), Except.ok none⟩,
    ⟨.println noV1Line, ()⟩, ⟨.println headers.one, ()⟩,
    ⟨.getBlock 7 (some 1), Except.ok (some [⟨some (.number 0), ""⟩])⟩,
    ⟨.println "  legacy=0 v0=1 v1=0 of 1 transactions", ()⟩]

theorem conversation_nullConversation :
    Conversation (readsBlock (.reference .computeBudget) (some 7) : Rpc trivialSdk Unit)
      nullConversation (.returned ()) :=
  .ask (.ask (.ask (.ask (.ask (.ask (.ask (.ask (.ask (.ask (.returned ()))))))))))

theorem readsBlock_truthful_of_nullConversation :
    TellsTruth (· = none) (fun _ => some [.number 0]) 7 none nullConversation
        (.returned () : Ending JsError Unit) ∧
      ⟨.println noV1Line, ()⟩ ∈ nullConversation := by
  refine ⟨GetsBlock.tellsTruth (readsBlock_truthful (.reference .computeBudget) (some 7) _ _
    conversation_nullConversation) ?_, by simp [nullConversation]⟩
  have hone : Ledger.Within (fun _ => some [.number 0]) 7 (some 1) := by
    rintro versions ⟨⟩ version hv
    obtain rfl := List.mem_singleton.mp hv
    exact ⟨1, rfl, by decide⟩
  simp only [nullConversation, List.forall_mem_cons]
  exact ⟨trivial, trivial, trivial, trivial, trivial, fun hn => absurd rfl hn, trivial, trivial,
    fun _ => ⟨hone, fun _ => rfl⟩, trivial, List.forall_mem_nil _⟩

end Example

end TransactionV1.TypeScript

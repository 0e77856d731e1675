import TransactionV1.Client.GetBlock.Ladder
import TransactionV1.Client.SendDecode.Python

/-! # Get a block in Python

`python/examples/get_block.py`. The feature is checked only when a transfer is sent, and of
the errors under the first two ceilings only those the server answers with are caught. There
null counts as success.
-/

namespace TransactionV1.Python

open Dialogue Client

variable {sdk : Sdk}

def headers : Headers where
  omitted := "== maxSupportedTransactionVersion omitted =="
  zero := "\n== maxSupportedTransactionVersion 0 =="
  one := "\n== maxSupportedTransactionVersion 1 =="

/-- `except RpcError`. -/
def describeRejection : CallError → Except Raised String
  | .rpcError message => .ok message
  | error => .error (.call error)

def BlockError.raised : BlockError → Raised
  | .runtimeError message => .runtimeError message
  | .indexError => .builtin .indexError

def sentSlot (rounds : ℕ) : Rpc sdk UInt64 := do
  assertV1Active
  let (_, slot) ← sendV1Transfer rounds
  return slot

/-- `main`, with the slot of the command line. -/
def mainGetBlock (rounds : ℕ) (slot : Option UInt64) : Rpc sdk Unit := do
  let slot ← chooseSlot slot (sentSlot rounds)
  readBlock headers describeRejection .call
    (fun slot block => printReport BlockError.raised
      (getBlock slot.toNat (block.bind sdk.blockTransactions))) slot

def blockVersions (block : Option sdk.Block) : Option (List (Option JsonVersion)) :=
  (block.bind sdk.blockTransactions).map (List.map (·.version))

theorem quiet_v1Line {transaction : JsonTransaction (Option TransactionConfig)} {line : String}
    (h : v1Line transaction = .ok line) : Quiet line := by
  rw [v1Line] at h
  split at h
  · cases h
  · obtain rfl := Except.ok.inj h
    simp only [String.append_assoc]
    exact quiet_append (by decide) (by decide) _

theorem quiet_getBlock {slot : ℕ} {transactions : Option (List (BlockTransaction
    (Option JsonVersion) (JsonTransaction (Option TransactionConfig))))}
    {r : VersionReport Empty String} {stopped : Option BlockError}
    (h : getBlock slot transactions = .ok (r, stopped)) : ∀ line ∈ r.v1Lines, Quiet line := by
  cases transactions with
  | none => cases h
  | some transactions =>
    intro line hm
    obtain rfl := congrArg Prod.fst (Except.ok.inj h)
    obtain ⟨transaction, -, ht⟩ := List.mem_map.mp (ok_mem_of_mem_printUntil hm)
    exact quiet_v1Line ht

/-- Whatever slot `main` reads and however a cluster that keeps a ledger answers, it says that
the block holds no versioned or no v1 transactions only if that is so or the answer was null,
and it returns only when it has printed the right tally of the block. -/
theorem mainGetBlock_truthful (rounds : ℕ) (slot : Option UInt64) :
    Ensures (mainGetBlock rounds slot : Rpc sdk Unit)
      (GetsBlock (· = none) slot (sentSlot rounds) (Serves (· = none) statedVersion blockVersions)
        none) := by
  refine getsBlock (by decide) (fun _ _ ledger slot block hserved => ?_)
    fun _ _ => asksFor_printReport _
  refine meets_printReport fun r stopped h => ⟨quiet_getBlock h, ?_⟩
  cases hb : block.bind sdk.blockTransactions with
  | none =>
    rw [hb] at h
    cases h
  | some transactions =>
    obtain ⟨hw, hv⟩ := hserved fun hn => by simp [hn] at hb
    rw [blockVersions, hb] at hv
    rw [hb] at h
    have ht := congrArg (Except.map (·.1.tally)) h
    rw [tally_getBlock] at ht
    obtain rfl := congrArg Prod.fst (Except.ok.inj h)
    exact exists_versions_of_folded hw hv (Except.ok.inj ht).symm rfl

section Example

/-- A cluster that answers null without a ceiling and has one v0 transaction in slot 7. -/
def nullConversation : Transcript trivialSdk :=
  [⟨.println "reading slot 7\n", ()⟩, ⟨.println headers.omitted, ()⟩,
    ⟨.getBlock 7 none, Except.ok none⟩, ⟨.println noVersionedLine, ()⟩,
    ⟨.println headers.zero, ()⟩,
    ⟨.getBlock 7 (some 0), Except.ok (some [⟨some (.number 0), ⟨["s"], none⟩⟩])⟩,
    ⟨.println noV1Line, ()⟩, ⟨.println headers.one, ()⟩,
    ⟨.getBlock 7 (some 1), Except.ok (some [⟨some (.number 0), ⟨["s"], none⟩⟩])⟩,
    ⟨.println "  legacy=0 v0=1 v1=0 of 1 transactions", ()⟩]

theorem conversation_nullConversation (rounds : ℕ) :
    Conversation (mainGetBlock rounds (some 7) : Rpc trivialSdk Unit) nullConversation
      (.returned ()) :=
  .ask (.ask (.ask (.ask (.ask (.ask (.ask (.ask (.ask (.ask (.returned ()))))))))))

theorem mainGetBlock_truthful_of_nullConversation :
    TellsTruth (· = none) (fun _ => some [.number 0]) 7 none nullConversation
        (.returned () : Ending Raised Unit) ∧
      ⟨.println noVersionedLine, ()⟩ ∈ nullConversation := by
  refine ⟨GetsBlock.tellsTruth (mainGetBlock_truthful 0 (some 7) _ _
    (conversation_nullConversation 0)) ?_, by simp [nullConversation]⟩
  have hzero (n : ℕ) : Ledger.Within (fun _ => some [.number 0]) 7 (some n) := by
    rintro versions ⟨⟩ version hv
    obtain rfl := List.mem_singleton.mp hv
    exact ⟨n, rfl, Nat.zero_le n⟩
  simp only [nullConversation, List.forall_mem_cons]
  exact ⟨trivial, trivial, fun hn => absurd rfl hn, trivial, trivial,
    fun _ => ⟨hzero 0, fun _ => rfl⟩, trivial, trivial, fun _ => ⟨hzero 1, fun _ => rfl⟩, trivial,
    List.forall_mem_nil _⟩

end Example

end TransactionV1.Python

import TransactionV1.Client.GetBlock.Ladder
import TransactionV1.Client.Rust

/-! # Get a block in Rust

`rust/src/bin/get-block.rs`: warnings come before the tally, and the v1 transactions after.
-/

namespace TransactionV1.Rust

open Dialogue Client

variable {sdk : Sdk}

/-- What `report` prints. -/
def reportLines (report : Option (VersionReport UInt8 String)) : List String :=
  match report with
  | none => ["  block carried no transaction details"]
  | some report =>
    report.unrecognised.map (fun other =>
      "  warning: unrecognised transaction version " ++ toString other.toNat ++ ", not tallied") ++
    ["  " ++ report.tally.text ++ " of " ++ toString report.total ++ " transactions"] ++
    report.v1Lines

def headers : Headers where
  omitted := "== maxSupportedTransactionVersion omitted =="
  zero := "\n== maxSupportedTransactionVersion: 0 =="
  one := "\n== maxSupportedTransactionVersion: 1 =="

/-- `main`, with the slot of the command line. -/
def mainGetBlock (slot : Option UInt64) : Rpc sdk Unit := do
  let slot ← chooseSlot slot sendV1AndGetSlot
  readBlock headers .ok
    (fun error => ["getBlock with maxSupportedTransactionVersion: 1 failed", error])
    (fun _ block => printLines (reportLines (report (sdk.blockTransactions block)))) slot

def blockVersions (block : sdk.Block) : Option (List (Option TransactionVersion)) :=
  (sdk.blockTransactions block).map (List.map (·.version))

section Lines

theorem quiet_v1Line {transaction : EncodedTransaction} {line : String}
    (h : line ∈ v1Line transaction) : Quiet line := by
  refine quiet_of_newline ?_
  cases transaction with
  | other => cases h
  | json ui =>
    obtain rfl := Option.some.inj h
    cases ui.transactionConfig <;> simp [String.toList_append]

theorem quiet_reportLines (transactions : Option (List (BlockTransaction
    (Option TransactionVersion) EncodedTransaction))) :
    ∀ line ∈ reportLines (report transactions), Quiet line := by
  cases transactions with
  | none => exact List.forall_mem_singleton.mpr (by decide)
  | some transactions =>
    refine List.forall_mem_append.mpr ⟨List.forall_mem_append.mpr ⟨?_, ?_⟩, ?_⟩
    · refine List.forall_mem_map.mpr fun other _ => ?_
      rw [String.append_assoc]
      exact quiet_append (by decide) (by decide) _
    · exact List.forall_mem_singleton.mpr (quiet_tally _ _)
    · exact forall_mem_v1Lines (fun s t hs => forall_mem_visit hs fun _ => quiet_v1Line)
        transactions

theorem toOption_versionOf_some (version : TransactionVersion) :
    (versionOf (some version)).toOption = versionOf? (statedVersion version) := by
  cases version with
  | legacy => rfl
  | number n => exact toOption_versionOf_number n

theorem tally_report {transactions : List (BlockTransaction (Option TransactionVersion)
    EncodedTransaction)} {versions : List TransactionVersion}
    (h : transactions.map (·.version) = versions.map some) :
    (transactions.foldl reportStep {}).report.tally =
      statedTally (versions.map statedVersion) := by
  rw [tally_foldl tally_reportStep]
  exact ofVersions_filterMap (fun version => (versionOf version).toOption) h
    fun version _ => toOption_versionOf_some version

theorem tallyIn_reportLines {ledger : Ledger} {slot : UInt64} {block : sdk.Block}
    (hw : ledger.Within slot (some 1))
    (hv : blockVersions block = (ledger slot).map (List.map some)) :
    TallyIn ledger slot (some "  block carried no transaction details")
      (reportLines (report (sdk.blockTransactions block))) := by
  rw [blockVersions] at hv
  cases hb : sdk.blockTransactions block with
  | none =>
    rw [hb] at hv
    have hn : ledger slot = none := Option.map_eq_none_iff.mp hv.symm
    refine Or.inr ⟨fun versions h => ?_, _, rfl, List.mem_singleton_self _⟩
    rw [hn] at h
    cases h
  | some transactions =>
    rw [hb] at hv
    obtain ⟨versions, hl, hvs⟩ := Option.map_eq_some_iff.mp hv.symm
    refine Or.inl ⟨versions, hl, ?_⟩
    have ht := tally_report hvs.symm
    have hr : (transactions.foldl reportStep {}).report.total = versions.length :=
      (congrArg VersionTally.total ht).trans (total_statedTally (hw versions hl))
    refine List.mem_append_left _ (List.mem_append_right _ (List.mem_singleton.mpr ?_))
    rw [ht, hr]
    rfl

end Lines

/-- Whatever slot `main` reads, that of the command line or the one a sent transfer landed
in, and however a cluster that keeps a ledger answers: it never says that the block holds no
versioned or no v1 transactions when it does, and it returns only when it has printed the
right tally of the block, or that there is nothing to tally. -/
theorem mainGetBlock_tellsTruth (slot : Option UInt64) :
    Ensures (mainGetBlock slot : Rpc sdk Unit)
      (GetsBlock neverNull slot sendV1AndGetSlot (Serves neverNull some blockVersions)
        (some "  block carried no transaction details")) :=
  getsBlock (by decide)
    (fun _ _ _ _ _ h => meets_printLines_tallied (quiet_reportLines _)
      (tallyIn_reportLines (h id).1 (h id).2))
    fun _ _ => asksFor_printLines _

section Example

def v1Ledger : Ledger := fun _ => some [.number 1]

/-- What is said of a slot with one v1 transaction: it is refused twice, then tallied. -/
def v1Conversation : Transcript trivialSdk :=
  [⟨.println "reading slot 7\n", ()⟩, ⟨.println headers.omitted, ()⟩,
    ⟨.getBlock 7 none, Except.error "refused"⟩, ⟨.println "  rejected: refused", ()⟩,
    ⟨.println headers.zero, ()⟩, ⟨.getBlock 7 (some 0), Except.error "refused"⟩,
    ⟨.println "  rejected: refused", ()⟩, ⟨.println headers.one, ()⟩,
    ⟨.getBlock 7 (some 1), Except.ok [⟨some (.number 1), .other⟩]⟩,
    ⟨.println "  legacy=0 v0=0 v1=1 of 1 transactions", ()⟩]

theorem conversation_v1Conversation :
    Conversation (mainGetBlock (some 7) : Rpc trivialSdk Unit) v1Conversation (.returned ()) := by
  have hl : reportLines (report (some [⟨some (.number 1), .other⟩])) =
      ["  legacy=0 v0=0 v1=1 of 1 transactions"] := by decide
  refine .ask (.ask (.ask (.ask (.ask (.ask (.ask (.ask (.ask ?_))))))))
  change Conversation (printLines (reportLines (report (some [⟨some (.number 1), .other⟩])))) _ _
  rw [hl]
  exact .ask (.returned ())

theorem serves_v1Conversation :
    ∀ x ∈ v1Conversation, Serves neverNull some blockVersions v1Ledger x := by
  have hone : v1Ledger.Within 7 (some 1) := by
    rintro versions ⟨⟩ version hv
    obtain rfl := List.mem_singleton.mp hv
    exact ⟨1, rfl, by decide⟩
  simp only [v1Conversation, List.forall_mem_cons]
  exact ⟨trivial, trivial, trivial, trivial, trivial, trivial, trivial, trivial,
    fun _ => ⟨hone, fun _ => rfl⟩, trivial, List.forall_mem_nil _⟩

/-- The conversation tells the truth. -/
theorem mainGetBlock_tellsTruth_of_v1Conversation :
    TellsTruth neverNull v1Ledger 7 (some "  block carried no transaction details") v1Conversation
      (.returned () : Ending Error Unit) :=
  (mainGetBlock_tellsTruth (some 7) _ _ conversation_v1Conversation).tellsTruth
    serves_v1Conversation

end Example

end TransactionV1.Rust

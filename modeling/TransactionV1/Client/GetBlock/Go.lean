import TransactionV1.Client.GetBlock.Ladder
import TransactionV1.Client.SendDecode.Go
import TransactionV1.Indexer.Limit

/-! # Get a block in Go

`go/cmd/get-block`, whose slot is a text, empty for none. A block without transactions has
no tally.
-/

namespace TransactionV1.Go

open Dialogue Client

variable {sdk : Sdk}

/-- What `report` prints. -/
def reportLines (report : Option (VersionReport String String)) : List String :=
  match report with
  | none => ["  block carried no transaction details"]
  | some report =>
    report.unrecognised.map (fun err => "  warning: " ++ err ++ ", not tallied") ++
    ["  " ++ report.tally.text ++ " of " ++ toString report.total ++ " transactions"] ++
    report.v1Lines

def headers : Headers where
  omitted := "== maxSupportedTransactionVersion omitted =="
  zero := "\n== maxSupportedTransactionVersion: 0 =="
  one := "\n== maxSupportedTransactionVersion: 1 =="

/-- The slot of the command line, quoting with `%q`. -/
def parseSlot (quote : String → String) (requestedSlot : String) :
    Except String (Option UInt64) :=
  if requestedSlot = "" then .ok none
  else
    match parseUint requestedSlot with
    | none => .error ("-slot must be a slot number, got " ++ quote requestedSlot)
    | some slot => .ok (some slot)

def sentSlot (rounds : ℕ) : Rpc sdk UInt64 := do
  let (_, slot) ← sendV1Transfer rounds
  return slot

/-- `run`. -/
def runGetBlock (rpc : SolanaRpc) (quote : String → String) (rounds : ℕ)
    (requestedSlot : String) : Rpc sdk Unit := do
  let requested ← ofExcept (parseSlot quote requestedSlot)
  let slot ← chooseSlot requested (sentSlot rounds)
  readBlock headers (fun err => .ok (describeRejection sdk err))
    (fun err => "getBlock with maxSupportedTransactionVersion 1 failed: " ++ err.text)
    (fun _ block => printLines (reportLines (report rpc (sdk.blockTransactions block)))) slot

def blockVersions (block : sdk.Block) : Option (List ℤ) :=
  some ((sdk.blockTransactions block).map (·.version))

def clientVersion (rpc : SolanaRpc) : Rust.TransactionVersion → ℤ
  | .legacy => rpc.legacyTransactionVersion
  | .number n => n.toNat

section Lines

variable {rpc : SolanaRpc}

theorem quiet_v1Line {transaction : Option (JsonTransaction TransactionConfig)} {line : String}
    (h : line ∈ v1Line transaction) : Quiet line := by
  refine quiet_of_newline ?_
  obtain ⟨transaction, -, rfl⟩ := Option.map_eq_some_iff.mp h
  simp [String.toList_append]

theorem quiet_reportLines (transactions : List (BlockTransaction ℤ
    (Option (JsonTransaction TransactionConfig)))) :
    ∀ line ∈ reportLines (report rpc transactions), Quiet line := by
  unfold report
  split_ifs
  · exact List.forall_mem_singleton.mpr (by decide)
  · refine List.forall_mem_append.mpr ⟨List.forall_mem_append.mpr ⟨?_, ?_⟩, ?_⟩
    · refine List.forall_mem_map.mpr fun err _ => ?_
      rw [String.append_assoc]
      exact quiet_append (by decide) (by decide) _
    · exact List.forall_mem_singleton.mpr (quiet_tally _ _)
    · exact forall_mem_v1Lines (fun s t hs => forall_mem_visit hs fun _ => quiet_v1Line)
        transactions

theorem toOption_versionOfResponse {version : Rust.TransactionVersion}
    (h : Admits (some 1) version) :
    (versionOfResponse rpc (clientVersion rpc version)).toOption =
      versionOf? (statedVersion version) := by
  have hd : rpc.decodeVersion (statedVersion version) = some (clientVersion rpc version) := by
    cases version with
    | legacy => exact rpc.decodeVersion_legacy
    | number n =>
      have hlt := n.toNat_lt
      exact rpc.decodeVersion_number n.toNat (by omega)
  rw [← countedVersion?_of_counted rpc (counted_of_admits h), countedVersion?, hd, Option.bind_some]

theorem tally_report {transactions : List (BlockTransaction ℤ
    (Option (JsonTransaction TransactionConfig)))} {versions : List Rust.TransactionVersion}
    (hw : ∀ version ∈ versions, Admits (some 1) version)
    (h : transactions.map (·.version) = versions.map (clientVersion rpc)) :
    (transactions.foldl (reportStep rpc) {}).report.tally =
      statedTally (versions.map statedVersion) := by
  rw [tally_foldl (tally_reportStep rpc)]
  exact ofVersions_filterMap (fun version => (versionOfResponse rpc version).toOption) h
    fun version hv => toOption_versionOfResponse (hw version hv)

theorem tallyIn_reportLines {ledger : Ledger} {slot : UInt64} {block : sdk.Block}
    (hw : ledger.Within slot (some 1))
    (hv : blockVersions block = (ledger slot).map (List.map (clientVersion rpc))) :
    TallyIn ledger slot (some "  block carried no transaction details")
      (reportLines (report rpc (sdk.blockTransactions block))) := by
  obtain ⟨versions, hl, hvs⟩ := Option.map_eq_some_iff.mp hv.symm
  unfold report
  split_ifs with hlen
  · refine Or.inr ⟨fun versions' h => ?_, _, rfl, List.mem_singleton_self _⟩
    obtain rfl := Option.some.inj (hl.symm.trans h)
    rw [List.length_eq_zero_iff.mp hlen, List.map_nil] at hvs
    exact List.map_eq_nil_iff.mp hvs
  · have ht := tally_report (hw versions hl) hvs.symm
    have hr : ((sdk.blockTransactions block).foldl (reportStep rpc) {}).report.total =
        versions.length :=
      (congrArg VersionTally.total ht).trans (total_statedTally (hw versions hl))
    refine Or.inl ⟨versions, hl, ?_⟩
    refine List.mem_append_left _ (List.mem_append_right _ (List.mem_singleton.mpr ?_))
    rw [ht, hr]
    rfl

end Lines

/-- However a cluster that keeps a ledger answers, `run` refuses a slot that is no number
before it asks anything. Else it never says that the block holds no versioned or no v1
transactions when it does, and it returns only when it has printed the right tally of the
block, or that there is nothing to tally. -/
theorem runGetBlock_tellsTruth (rpc : SolanaRpc) (quote : String → String) (rounds : ℕ)
    (requestedSlot : String) :
    Ensures (runGetBlock rpc quote rounds requestedSlot : Rpc sdk Unit) fun t e =>
      match parseSlot quote requestedSlot with
      | .error err => t = [] ∧ e = .threw err
      | .ok requested => GetsBlock neverNull requested (sentSlot rounds)
          (Serves neverNull (clientVersion rpc) blockVersions)
          (some "  block carried no transaction details") t e := by
  unfold runGetBlock
  cases parseSlot quote requestedSlot with
  | error err => exact ensures_monad_bind.mpr (ensures_threw.mpr ⟨rfl, rfl⟩)
  | ok requested =>
    refine getsBlock (by decide) (fun _ _ _ _ _ h => ?_) fun _ _ => asksFor_printLines _
    exact meets_printLines_tallied (quiet_reportLines _)
      (tallyIn_reportLines (h id).1 (h id).2)

section Example

def v1Conversation : Transcript trivialSdk :=
  [⟨.println "reading slot 7\n", ()⟩, ⟨.println headers.omitted, ()⟩,
    ⟨.getBlock 7 none, Except.error (.other "refused")⟩, ⟨.println "  rejected: refused", ()⟩,
    ⟨.println headers.zero, ()⟩, ⟨.getBlock 7 (some 0), Except.error (.other "refused")⟩,
    ⟨.println "  rejected: refused", ()⟩, ⟨.println headers.one, ()⟩,
    ⟨.getBlock 7 (some 1), Except.ok [⟨(1 : ℤ), none⟩]⟩,
    ⟨.println "  legacy=0 v0=0 v1=1 of 1 transactions", ()⟩]

theorem conversation_v1Conversation (quote : String → String) (rounds : ℕ) :
    Conversation (runGetBlock .negative quote rounds "7" : Rpc trivialSdk Unit) v1Conversation
      (.returned ()) := by
  have hl : reportLines (report .negative [⟨(1 : ℤ), none⟩]) =
      ["  legacy=0 v0=0 v1=1 of 1 transactions"] := by decide
  refine .ask (.ask (.ask (.ask (.ask (.ask (.ask (.ask (.ask ?_))))))))
  change Conversation (printLines (reportLines (report .negative [⟨(1 : ℤ), none⟩]))) _ _
  rw [hl]
  exact .ask (.returned ())

/-- The conversation tells the truth of a cluster with a v1 transaction in every slot. -/
theorem runGetBlock_tellsTruth_of_v1Conversation :
    TellsTruth neverNull (fun _ => some [.number 1]) 7
      (some "  block carried no transaction details") v1Conversation
      (.returned () : Ending String Unit) := by
  have h := runGetBlock_tellsTruth .negative id 0 "7" _ _ (conversation_v1Conversation id 0)
  have hslot : parseSlot id "7" = .ok (some 7) := by decide
  rw [hslot] at h
  refine GetsBlock.tellsTruth h ?_
  have hone : Ledger.Within (fun _ => some [.number 1]) 7 (some 1) := by
    rintro versions ⟨⟩ version hv
    obtain rfl := List.mem_singleton.mp hv
    exact ⟨1, rfl, by decide⟩
  simp only [v1Conversation, List.forall_mem_cons]
  exact ⟨trivial, trivial, trivial, trivial, trivial, trivial, trivial, trivial,
    fun _ => ⟨hone, fun _ => rfl⟩, trivial, List.forall_mem_nil _⟩

end Example

end TransactionV1.Go

import TransactionV1.Block.Report

/-! # The tallies of a block

Rust counts every version it can decode as the response states it. Go counts a
transaction without a version as v0 and reports nothing on an empty list, and
TypeScript and Python count every other version as legacy.
-/

namespace TransactionV1

/-- The version a member states. An absent one is legacy. -/
def versionOf? : Option JsonVersion → Option MessageVersion
  | none => some .legacy
  | some .legacy => some .legacy
  | some (.number n) => if n = 0 then some .v0 else if n = 1 then some .v1 else none

/-- Each version counted where it is stated, and an unrecognised one nowhere. -/
def statedTally (versions : List (Option JsonVersion)) : VersionTally :=
  .ofVersions (versions.filterMap versionOf?)

def foldedVersion (version : Option JsonVersion) : MessageVersion :=
  if version = some (.number 1) then .v1
  else if version = some (.number 0) then .v0 else .legacy

def Go.countedVersion? (rpc : Go.SolanaRpc) (version : Option JsonVersion) :
    Option MessageVersion :=
  (rpc.decodeVersion version).bind fun n => (Go.versionOfResponse rpc n).toOption

section Scans

variable {ω ε τ ν ν' : Type}

theorem tally_visit (s : VersionScan ω ε) (version : Except ω MessageVersion)
    (v1Line : Option ε) : (s.visit Rust.record version v1Line).tally =
      version.toOption.elim s.tally (Rust.record s.tally) := by
  cases version with
  | error other => rfl
  | ok version => cases version <;> cases v1Line <;> rfl

theorem tally_foldl {step : VersionScan ω ε → τ → VersionScan ω ε}
    {classify : τ → Option MessageVersion}
    (h : ∀ s t, (step s t).tally = (classify t).elim s.tally (Rust.record s.tally))
    (ts : List τ) : (ts.foldl step {}).report.tally = .ofVersions (ts.filterMap classify) := by
  have hfold : ∀ s : VersionScan ω ε,
      (ts.foldl step s).tally = (ts.filterMap classify).foldl Rust.record s.tally := by
    induction ts with
    | nil => exact fun s => rfl
    | cons t ts ih =>
      intro s
      rw [List.foldl_cons, ih, h]
      cases hc : classify t with
      | none => rw [List.filterMap_cons_none hc, Option.elim_none]
      | some version => rw [List.filterMap_cons_some hc, List.foldl_cons, Option.elim_some]
  exact (hfold {}).trans (Rust.foldl_record_empty _)

theorem filterMap_decodeVersions {decode : ν → Option ν'} {classify : ν' → Option MessageVersion}
    {classify' : ν → Option MessageVersion}
    (hc : ∀ version decoded, decode version = some decoded → classify decoded = classify' version)
    {ts : List (BlockTransaction ν τ)} {ts' : List (BlockTransaction ν' τ)}
    (h : decodeVersions decode ts = some ts') :
    (ts'.filterMap fun t => classify t.version) = (ts.map (·.version)).filterMap classify' := by
  induction ts generalizing ts' with
  | nil =>
    obtain rfl : [] = ts' := Option.some.inj h
    rfl
  | cons t ts ih =>
    simp only [decodeVersions, List.mapM_cons, Option.bind_eq_bind, Option.pure_def,
      Option.bind_eq_some_iff, Option.map_eq_some_iff, Option.some.injEq] at h
    obtain ⟨_, ⟨decoded, hd, rfl⟩, rest, hrest, rfl⟩ := h
    rw [List.filterMap_cons, ih hrest, List.map_cons, List.filterMap_cons, hc _ _ hd]

theorem decodeVersions_isSome {decode : ν → Option ν'} {ts : List (BlockTransaction ν τ)}
    (h : ∀ version ∈ ts.map (·.version), (decode version).isSome = true) :
    ∃ ts', decodeVersions decode ts = some ts' ∧ ts'.length = ts.length := by
  induction ts with
  | nil => exact ⟨[], rfl, rfl⟩
  | cons t ts ih =>
    rw [List.map_cons, List.forall_mem_cons] at h
    obtain ⟨version, hv⟩ := Option.isSome_iff_exists.mp h.1
    obtain ⟨rest, hrest, hl⟩ := ih h.2
    rw [decodeVersions] at hrest
    exact ⟨⟨version, t.transaction⟩ :: rest, by simp [decodeVersions, hv, hrest], by simp [hl]⟩

end Scans

section Rust

theorem Rust.toOption_versionOf_number (n : UInt8) :
    (versionOf (some (.number n))).toOption = versionOf? (some (.number n.toNat)) := by
  have h0 : n = 0 ↔ (n.toNat : ℤ) = 0 := by
    rw [← UInt8.toNat_inj, UInt8.toNat_zero, Nat.cast_eq_zero]
  have h1 : n = 1 ↔ (n.toNat : ℤ) = 1 := by
    rw [← UInt8.toNat_inj, UInt8.toNat_one, Nat.cast_eq_one]
  simp only [versionOf, versionOf?, ← h0, ← h1]
  split_ifs with ha hb hb
  · rw [hb] at ha
    cases ha
  · rfl
  · rfl
  · rfl

theorem Rust.toOption_versionOf {types : ClientTypes} {version : Option JsonVersion}
    {decoded : Option TransactionVersion} (h : types.decodeVersion version = some decoded) :
    (versionOf decoded).toOption = versionOf? version := by
  rcases version with _ | _ | n
  · obtain rfl := Option.some.inj (types.decodeVersion_none.symm.trans h)
    rfl
  · obtain rfl := Option.some.inj (types.decodeVersion_legacy.symm.trans h)
    rfl
  · by_cases hn : ∃ m : UInt8, n = m.toNat
    · obtain ⟨m, rfl⟩ := hn
      obtain rfl := Option.some.inj ((types.decodeVersion_number m).symm.trans h)
      exact toOption_versionOf_number m
    · rw [types.decodeVersion_other n (not_exists.mp hn)] at h
      cases h

variable {types : ClientTypes}

theorem Rust.reportOfResponse_some (transactions : List (BlockTransaction (Option JsonVersion)
    EncodedTransaction)) : reportOfResponse types (some transactions) =
      (decodeVersions types.decodeVersion transactions).map fun decoded =>
        (decoded.foldl reportStep {}).report := by
  cases h : decodeVersions types.decodeVersion transactions <;> simp [reportOfResponse, report, h]

theorem Rust.tally_reportStep (s : VersionScan UInt8 String)
    (t : BlockTransaction (Option TransactionVersion) EncodedTransaction) :
    (reportStep s t).tally = (versionOf t.version).toOption.elim s.tally (record s.tally) :=
  tally_visit s (versionOf t.version) (v1Line t.transaction)

theorem Rust.tally_of_report {transactions : List (BlockTransaction (Option JsonVersion)
    EncodedTransaction)} {r : VersionReport UInt8 String}
    (h : reportOfResponse types (some transactions) = some r) :
    r.tally = statedTally (transactions.map (·.version)) := by
  rw [reportOfResponse_some] at h
  obtain ⟨decoded, hd, rfl⟩ := Option.map_eq_some_iff.mp h
  rw [tally_foldl tally_reportStep,
    filterMap_decodeVersions (fun _ _ h => toOption_versionOf h) hd, statedTally]

end Rust

section Go

variable (rpc : Go.SolanaRpc)

theorem Go.tally_reportStep (s : VersionScan String String)
    (t : BlockTransaction ℤ (Option (JsonTransaction TransactionConfig))) :
    (reportStep rpc s t).tally =
      (versionOfResponse rpc t.version).toOption.elim s.tally (Rust.record s.tally) := by
  have hr : record = Rust.record := funext fun tally => funext (record_eq tally)
  rw [reportStep, hr]
  exact tally_visit s (versionOfResponse rpc t.version) (v1Line t.transaction)

theorem Go.tally_of_report {transactions : List (BlockTransaction (Option JsonVersion)
    (Option (JsonTransaction TransactionConfig)))} {r : VersionReport String String}
    (h : reportOfResponse rpc (some transactions) = some r) :
    r.tally = .ofVersions ((transactions.map (·.version)).filterMap (Go.countedVersion? rpc)) := by
  obtain ⟨decoded, hd, hr⟩ := Option.bind_eq_some_iff.mp h
  rw [report] at hr
  split_ifs at hr
  obtain rfl := Option.some.inj hr
  have hc : ∀ version n, rpc.decodeVersion version = some n →
      (versionOfResponse rpc n).toOption = Go.countedVersion? rpc version := by
    intro version n hn
    rw [Go.countedVersion?, hn, Option.bind_some]
  rw [Option.getD_some] at hd
  rw [tally_foldl (tally_reportStep rpc), filterMap_decodeVersions hc hd]

theorem Go.countedVersion?_zero :
    countedVersion? rpc (some (.number 0)) = some .v0 := by
  have h0 := rpc.legacyTransactionVersion_ne_zero.symm
  simp [countedVersion?, rpc.decodeVersion_number, versionOfResponse, h0, Except.toOption]

theorem Go.countedVersion?_one :
    countedVersion? rpc (some (.number 1)) = some .v1 := by
  have h1 := rpc.legacyTransactionVersion_ne_one.symm
  simp [countedVersion?, rpc.decodeVersion_number, versionOfResponse, h1, Except.toOption]

theorem Go.countedVersion?_ne_v0 {n : ℤ} (hn : n ≠ 0) :
    countedVersion? rpc (some (.number n)) ≠ some .v0 := by
  by_cases hr : -(2 ^ 63) ≤ n ∧ n < 2 ^ 63
  · rw [countedVersion?, rpc.decodeVersion_number n hr, Option.bind_some, versionOfResponse,
      if_neg hn]
    split_ifs <;> simp [Except.toOption]
  · simp [countedVersion?, rpc.decodeVersion_other n hr]

theorem Go.countedVersion?_eq_v0_iff {version : Option JsonVersion} :
    countedVersion? rpc version = some .v0 ↔ version = none ∨ versionOf? version = some .v0 := by
  have h0 := rpc.legacyTransactionVersion_ne_zero.symm
  rcases version with _ | _ | n
  · simp [countedVersion?, rpc.decodeVersion_none, versionOfResponse, h0, Except.toOption]
  · simp [countedVersion?, rpc.decodeVersion_legacy, versionOfResponse, versionOf?,
      Except.toOption]
  · rcases eq_or_ne n 0 with rfl | hn
    · simp [countedVersion?_zero, versionOf?]
    · have hv : versionOf? (some (.number n)) ≠ some .v0 := by
        simp only [versionOf?, if_neg hn]
        split_ifs <;> simp
      simp [countedVersion?_ne_v0 rpc hn, hv]

theorem Go.count_v0 (versions : List (Option JsonVersion)) :
    (versions.filterMap (Go.countedVersion? rpc)).count .v0 =
      (versions.filterMap versionOf?).count .v0 + versions.count none := by
  rw [List.count_filterMap, List.count_filterMap]
  induction versions with
  | nil => rfl
  | cons version versions ih =>
    rw [List.countP_cons, List.countP_cons, List.count_cons, ih]
    have hiff : countedVersion? rpc version = some .v0 ↔ _ := Go.countedVersion?_eq_v0_iff rpc
    rcases eq_or_ne version none with rfl | hne
    · simp [hiff.mpr (Or.inl rfl), versionOf?]
      omega
    · rw [or_iff_right hne] at hiff
      simp only [beq_iff_eq, hiff, hne, if_false]
      omega

end Go

section Folded

theorem TypeScript.countVersion_eq (tally : VersionTally) (version : Option JsonVersion) :
    countVersion tally version = Rust.record tally (foldedVersion version) := by
  unfold countVersion foldedVersion
  split_ifs <;> rfl

theorem Python.countVersion_eq (tally : VersionTally) (version : Option JsonVersion) :
    countVersion tally version = Rust.record tally (foldedVersion version) :=
  TypeScript.countVersion_eq tally version

theorem foldl_foldedVersion {τ : Type}
    (transactions : List (BlockTransaction (Option JsonVersion) τ)) :
    transactions.foldl (fun tally t => Rust.record tally (foldedVersion t.version)) {} =
      .ofVersions ((transactions.map (·.version)).map foldedVersion) := by
  rw [← Rust.foldl_record_empty, List.foldl_map, List.foldl_map]

end Folded

/-- The versions every example counts alike. -/
def Counted (version : Option JsonVersion) : Prop :=
  version = some .legacy ∨ version = some (.number 0) ∨ version = some (.number 1)

instance : DecidablePred Counted := fun _ => inferInstanceAs (Decidable (_ ∨ _ ∨ _))

theorem versionOf?_of_counted {version : Option JsonVersion} (h : Counted version) :
    versionOf? version = some (foldedVersion version) := by
  rcases h with rfl | rfl | rfl <;> decide

theorem countedVersion?_of_counted (rpc : Go.SolanaRpc) {version : Option JsonVersion}
    (h : Counted version) : Go.countedVersion? rpc version = versionOf? version := by
  rcases h with rfl | rfl | rfl
  · simp [Go.countedVersion?, rpc.decodeVersion_legacy, Go.versionOfResponse, versionOf?,
      Except.toOption]
  · exact Go.countedVersion?_zero rpc
  · exact Go.countedVersion?_one rpc

theorem Go.decodeVersion_isSome (rpc : Go.SolanaRpc) {version : Option JsonVersion}
    (h : Counted version) : (rpc.decodeVersion version).isSome = true := by
  rcases h with rfl | rfl | rfl
  · simp [rpc.decodeVersion_legacy]
  · simp [rpc.decodeVersion_number]
  · simp [rpc.decodeVersion_number]

theorem Rust.decodeVersion_isSome (types : Rust.ClientTypes) {version : Option JsonVersion}
    (h : Counted version) : (types.decodeVersion version).isSome = true := by
  rcases h with rfl | rfl | rfl
  · rw [types.decodeVersion_legacy, Option.isSome_some]
  · exact Option.isSome_of_mem (types.decodeVersion_number 0)
  · exact Option.isSome_of_mem (types.decodeVersion_number 1)

theorem counted_of_isSome {version : Option JsonVersion} (h : (versionOf? version).isSome = true)
    (hne : version ≠ none) : Counted version := by
  rcases version with _ | _ | n
  · exact absurd rfl hne
  · exact Or.inl rfl
  · rcases eq_or_ne n 0 with rfl | h0
    · exact Or.inr (Or.inl rfl)
    · rcases eq_or_ne n 1 with rfl | h1
      · exact Or.inr (Or.inr rfl)
      · simp [versionOf?, h0, h1] at h

theorem isSome_of_foldedTally_eq {versions : List (Option JsonVersion)}
    (h : VersionTally.ofVersions (versions.map foldedVersion) = statedTally versions) :
    ∀ version ∈ versions, (versionOf? version).isSome = true := by
  have ht := congrArg VersionTally.total h
  rw [statedTally, VersionTally.total_ofVersions, VersionTally.total_ofVersions, List.length_map,
    eq_comm, List.length_filterMap_eq_countP, List.countP_eq_length] at ht
  exact ht

section Reports

/-- The Go example counts what is stated exactly when there is something to count,
and every transaction has a version. -/
theorem Go.tally_eq_statedTally_iff (rpc : Go.SolanaRpc) (transactions : List
    (BlockTransaction (Option JsonVersion) (Option (JsonTransaction TransactionConfig))))
    (hs : ∀ version ∈ transactions.map (·.version), (versionOf? version).isSome = true) :
    (Go.reportOfResponse rpc (some transactions)).map (·.tally) =
        some (statedTally (transactions.map (·.version))) ↔
      transactions ≠ [] ∧ none ∉ transactions.map (·.version) := by
  rw [Option.map_eq_some_iff]
  constructor
  · rintro ⟨r, hr, ht⟩
    constructor
    · rintro rfl
      cases hr
    · have hv := congrArg VersionTally.v0 ht
      rw [Go.tally_of_report rpc hr] at hv
      have hcount := Go.count_v0 rpc (transactions.map (·.version))
      exact List.count_eq_zero.mp (Nat.add_eq_left.mp (hcount.symm.trans hv))
  · rintro ⟨hne, hn⟩
    have hc : ∀ version ∈ transactions.map (·.version), Counted version :=
      fun version hv => counted_of_isSome (hs version hv) fun h => hn (h ▸ hv)
    obtain ⟨decoded, hd, hl⟩ := decodeVersions_isSome fun version hv =>
      Go.decodeVersion_isSome rpc (hc version hv)
    have hdne : decoded ≠ [] := by
      rintro rfl
      exact hne (List.length_eq_zero_iff.mp hl.symm)
    have hr : Go.reportOfResponse rpc (some transactions) =
        some (decoded.foldl (Go.reportStep rpc) {}).report := by
      simp [Go.reportOfResponse, hd, Go.report, hdne]
    refine ⟨_, hr, ?_⟩
    rw [Go.tally_of_report rpc hr, statedTally]
    congr 1
    exact List.filterMap_congr fun version hv => countedVersion?_of_counted rpc (hc version hv)

theorem Rust.tally_eq_statedTally (types : ClientTypes) {transactions : List (BlockTransaction
    (Option JsonVersion) EncodedTransaction)}
    (hc : ∀ version ∈ transactions.map (·.version), Counted version) :
    (reportOfResponse types (some transactions)).map (·.tally) =
      some (statedTally (transactions.map (·.version))) := by
  obtain ⟨decoded, hd, -⟩ := decodeVersions_isSome fun version hv =>
    Rust.decodeVersion_isSome types (hc version hv)
  have hr : reportOfResponse types (some transactions) =
      some (decoded.foldl reportStep {}).report := by
    rw [reportOfResponse_some, hd, Option.map_some]
  rw [hr, Option.map_some, tally_of_report hr]

theorem TypeScript.tally_getBlock
    (decodeBase64Transaction : String → Except JsError (Option ComputeBudget × String)) (slot : ℕ)
    (transactions : List (BlockTransaction (Option JsonVersion) String)) :
    (getBlock decodeBase64Transaction slot (some transactions)).map (·.1.tally) =
      .ok (.ofVersions ((transactions.map (·.version)).map foldedVersion)) := by
  rw [← foldl_foldedVersion]
  simp only [getBlock, TypeScript.countVersion_eq]
  rfl

theorem Python.tally_getBlock (slot : ℕ) (transactions : List (BlockTransaction
    (Option JsonVersion) (JsonTransaction (Option TransactionConfig)))) :
    (getBlock slot (some transactions)).map (·.1.tally) =
      .ok (.ofVersions ((transactions.map (·.version)).map foldedVersion)) := by
  rw [← foldl_foldedVersion]
  simp only [getBlock, Python.countVersion_eq]
  rfl

/-- A response as the clients of the four examples deliver it, with one list of
versions. The TypeScript example asks for another encoding. -/
structure BlockResponse where
  rust : List (BlockTransaction (Option JsonVersion) Rust.EncodedTransaction)
  go : List (BlockTransaction (Option JsonVersion) (Option (JsonTransaction TransactionConfig)))
  typeScript : List (BlockTransaction (Option JsonVersion) String)
  python : List (BlockTransaction (Option JsonVersion) (JsonTransaction (Option TransactionConfig)))
  versions : List (Option JsonVersion)
  map_rust : rust.map (·.version) = versions
  map_go : go.map (·.version) = versions
  map_typeScript : typeScript.map (·.version) = versions
  map_python : python.map (·.version) = versions

variable (types : Rust.ClientTypes) (rpc : Go.SolanaRpc)
  (decodeBase64Transaction :
    String → Except TypeScript.JsError (Option TypeScript.ComputeBudget × String))
  (slot : ℕ)

/-- The four examples report the tally of what the response states. -/
def TalliesAgree (response : BlockResponse) : Prop :=
  (Rust.reportOfResponse types (some response.rust)).map (·.tally) =
      some (statedTally response.versions) ∧
    (Go.reportOfResponse rpc (some response.go)).map (·.tally) =
      some (statedTally response.versions) ∧
    (TypeScript.getBlock decodeBase64Transaction slot (some response.typeScript)).map
      (·.1.tally) = .ok (statedTally response.versions) ∧
    (Python.getBlock slot (some response.python)).map (·.1.tally) =
      .ok (statedTally response.versions)

/-- The tallies agree exactly when there is a transaction, and each states a
version the examples know. -/
theorem talliesAgree_iff (response : BlockResponse) :
    TalliesAgree types rpc decodeBase64Transaction slot response ↔
      response.versions ≠ [] ∧ ∀ version ∈ response.versions, Counted version := by
  obtain ⟨rust, go, ts, py, versions, rfl, hg, ht, hp⟩ := response
  simp only [TalliesAgree, TypeScript.tally_getBlock, Python.tally_getBlock, ht, hp,
    Except.ok.injEq]
  have hgo := Go.tally_eq_statedTally_iff rpc go
  have hne : go ≠ [] ↔ rust.map (·.version) ≠ [] := by rw [← hg, ne_eq, ne_eq, List.map_eq_nil_iff]
  rw [hg, hne] at hgo
  constructor
  · rintro ⟨-, hgoTally, hfold, -⟩
    have hs := isSome_of_foldedTally_eq hfold
    obtain ⟨hnil, hn⟩ := (hgo hs).mp hgoTally
    exact ⟨hnil, fun version hv => counted_of_isSome (hs version hv) fun h => hn (h ▸ hv)⟩
  · rintro ⟨hnil, hc⟩
    have hs : ∀ version ∈ rust.map (·.version), (versionOf? version).isSome = true := by
      intro version hv
      rw [versionOf?_of_counted (hc version hv), Option.isSome_some]
    have hn : none ∉ rust.map (·.version) := fun h => absurd (hc none h) (by decide)
    have hfold : VersionTally.ofVersions ((rust.map (·.version)).map foldedVersion) =
        statedTally (rust.map (·.version)) := by
      rw [statedTally, List.filterMap_congr fun version hv => versionOf?_of_counted (hc version hv),
        List.filterMap_eq_map']
    exact ⟨Rust.tally_eq_statedTally types hc, (hgo hs).mpr ⟨hnil, hn⟩, hfold, hfold⟩

end Reports

section Divergence

/-- A response with the given versions whose transactions have nothing else to show. -/
def bareResponse (versions : List (Option JsonVersion)) : BlockResponse where
  rust := versions.map fun version => ⟨version, .other⟩
  go := versions.map fun version => ⟨version, none⟩
  typeScript := versions.map fun version => ⟨version, ""⟩
  python := versions.map fun version => ⟨version, ⟨["?"], none⟩⟩
  versions := versions
  map_rust := by simp [Function.comp_def]
  map_go := by simp [Function.comp_def]
  map_typeScript := by simp [Function.comp_def]
  map_python := by simp [Function.comp_def]

/-- The tallies of the four examples, for a decoder that always throws. -/
def bareTallies (versions : List (Option JsonVersion)) : List (Option VersionTally) :=
  let response := bareResponse versions
  [(Rust.reportOfResponse .ranged (some response.rust)).map (·.tally),
    (Go.reportOfResponse .negative (some response.go)).map (·.tally),
    ((TypeScript.getBlock (fun _ => .error .packageError) 0
      (some response.typeScript)).map (·.1.tally)).toOption,
    ((Python.getBlock 0 (some response.python)).map (·.1.tally)).toOption]

/-- An absent version is legacy to all but Go, version 2 is legacy to TypeScript and
Python alone, and Go has no tally of an empty list. -/
theorem tallies_differ :
    bareTallies [none] = [some ⟨1, 0, 0⟩, some ⟨0, 1, 0⟩, some ⟨1, 0, 0⟩, some ⟨1, 0, 0⟩] ∧
      bareTallies [some (.number 2)] =
        [some ⟨0, 0, 0⟩, some ⟨0, 0, 0⟩, some ⟨1, 0, 0⟩, some ⟨1, 0, 0⟩] ∧
      bareTallies [] = [some ⟨0, 0, 0⟩, none, some ⟨0, 0, 0⟩, some ⟨0, 0, 0⟩] ∧
      ¬ TalliesAgree .ranged .negative (fun _ => .error .packageError) 0 (bareResponse [none]) := by
  refine ⟨by decide, by decide, by decide, ?_⟩
  rintro ⟨-, h, -⟩
  exact absurd h (by decide)

end Divergence

end TransactionV1

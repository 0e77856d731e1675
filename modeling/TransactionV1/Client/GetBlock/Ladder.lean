import TransactionV1.Block.Tally
import TransactionV1.Client.Landing
import TransactionV1.Foundations.Assume

/-! # One block under three ceilings

What the get-block examples have in common: they ask for a block without a version
ceiling, under ceiling 0 and under ceiling 1, say what the first two show and tally the
last. A cluster keeps a ledger and gives out a block only if the ceiling admits all of it,
but it may also answer with null, which some clients take for success.
-/

namespace TransactionV1

def VersionTally.text (tally : VersionTally) : String :=
  "legacy=" ++ toString tally.legacy ++ " v0=" ++ toString tally.v0 ++ " v1=" ++ toString tally.v1

namespace Client

open Dialogue

/-- The blocks of a cluster by their slots, as the versions of their transactions. -/
abbrev Ledger := UInt64 → Option (List Rust.TransactionVersion)

/-- A request with this ceiling may show a transaction of this version. -/
def Admits (ceiling : Option ℕ) : Rust.TransactionVersion → Prop
  | .legacy => True
  | .number n => ∃ highest ∈ ceiling, n.toNat ≤ highest

/-- The block in a slot, if there is one, has only versions the ceiling admits. -/
def Ledger.Within (ledger : Ledger) (slot : UInt64) (ceiling : Option ℕ) : Prop :=
  ∀ versions ∈ ledger slot, ∀ version ∈ versions, Admits ceiling version

def statedVersion : Rust.TransactionVersion → Option JsonVersion
  | .legacy => some .legacy
  | .number n => some (.number n.toNat)

variable {ω ρ φ κ ε τ χ : Type}

/-- A client whose library makes an error of null sees no null. -/
def neverNull : κ → Prop := fun _ => False

/-- What a cluster with a ledger promises of an answer that is not null, for a client that
reads the versions of a block as `stated`. No answer shows a version without a ceiling, and
of null nothing is promised. -/
def Serves {σ : Type} (null : κ → Prop) (stated : Rust.TransactionVersion → σ)
    (versions : κ → Option (List σ)) (ledger : Ledger) : Call ω ρ φ κ ε τ → Prop
  | ⟨.getBlock slot ceiling, .ok block⟩ => ¬ null block → ledger.Within slot ceiling ∧
      (ceiling.isSome = true → versions block = (ledger slot).map (List.map stated))
  | _ => True

/-- The block was asked for under this ceiling and the answer was null. -/
def AnsweredNull (null : κ → Prop) (slot : UInt64) (t : Transcript ω ρ φ κ ε τ)
    (ceiling : Option ℕ) : Prop :=
  ∃ block, null block ∧ ⟨.getBlock slot ceiling, .ok block⟩ ∈ t

def AsksFor (slot : UInt64) : Call ω ρ φ κ ε τ → Prop
  | ⟨.getBlock s _, _⟩ => s = slot
  | ⟨.println _, _⟩ => True
  | _ => False

def noVersionedLine : String := "  succeeded: this block holds no versioned transactions"

def noV1Line : String := "  succeeded: this block holds no v1 transactions"

def tallyLine (versions : List Rust.TransactionVersion) : String :=
  "  " ++ (statedTally (versions.map statedVersion)).text ++ " of " ++
    toString versions.length ++ " transactions"

section Programs

/-- One request, and what is printed of it. An error that is not described is raised. -/
def rung (header success : String) (slot : UInt64) (ceiling : Option ℕ)
    (describe : ε → Except χ String) : Session ω ρ φ κ ε τ χ Unit := do
  println header
  match ← getBlock slot ceiling with
  | .ok _ => println success
  | .error error =>
    match describe error with
    | .ok text => println ("  rejected: " ++ text)
    | .error raised => threw raised

structure Headers where
  omitted : String
  zero : String
  one : String

def readBlock (headers : Headers) (describe : ε → Except χ String) (refused : ε → χ)
    (report : UInt64 → κ → Session ω ρ φ κ ε τ χ Unit) (slot : UInt64) :
    Session ω ρ φ κ ε τ χ Unit := do
  println ("reading slot " ++ toString slot.toNat ++ "\n")
  rung headers.omitted noVersionedLine slot none describe
  rung headers.zero noV1Line slot (some 0) describe
  println headers.one
  match ← getBlock slot (some 1) with
  | .error error => threw (refused error)
  | .ok block => report slot block

/-- The slot that was asked for, or that of a transaction sent for it. -/
def chooseSlot (requested : Option UInt64) (send : Session ω ρ φ κ ε τ χ UInt64) :
    Session ω ρ φ κ ε τ χ UInt64 :=
  match requested with
  | some slot => pure slot
  | none => send

def printLines : List String → Session ω ρ φ κ ε τ χ Unit
  | [] => pure ()
  | line :: lines => do
    println line
    printLines lines

/-- The end of an example whose report may stop with an error, before it starts or after
some lines. -/
def printReport {δ : Type} (raise : δ → χ)
    (report : Except δ (VersionReport Empty String × Option δ)) : Session ω ρ φ κ ε τ χ Unit :=
  match report with
  | .error error => threw (raise error)
  | .ok (report, stopped) => do
    println ("  " ++ report.tally.text ++ " of " ++ toString report.total ++ " transactions")
    printLines report.v1Lines
    match stopped with
    | none => pure ()
    | some error => threw (raise error)

end Programs

/-- A line that says nothing of what a block holds. -/
def Quiet (line : String) : Prop := line ≠ noVersionedLine ∧ line ≠ noV1Line

theorem quiet_append {start : String} (h : ¬ start.toList <+: noVersionedLine.toList)
    (h' : ¬ start.toList <+: noV1Line.toList) (rest : String) : Quiet (start ++ rest) := by
  constructor
  · intro he
    exact h ⟨rest.toList, by rw [← String.toList_append, he]⟩
  · intro he
    exact h' ⟨rest.toList, by rw [← String.toList_append, he]⟩

theorem quiet_of_newline {line : String} (h : '\n' ∈ line.toList) : Quiet line := by
  constructor
  · rintro rfl
    exact absurd h (by decide)
  · rintro rfl
    exact absurd h (by decide)

/-- What a line says of the block in a slot is so, unless the answer it rests on was null. -/
def Truthful (ledger : Ledger) (slot : UInt64) (missed : Option ℕ → Prop) :
    Call ω ρ φ κ ε τ → Prop
  | ⟨.println line, _⟩ => (line = noVersionedLine → missed none ∨ ledger.Within slot none) ∧
      (line = noV1Line → missed (some 0) ∨ ledger.Within slot (some 0))
  | _ => True

/-- The tally of the block in a slot was printed, or what stands for one when there is
nothing to tally. -/
def Tallied (ledger : Ledger) (slot : UInt64) (nothing : Option String)
    (t : Transcript ω ρ φ κ ε τ) : Prop :=
  (∃ versions ∈ ledger slot, ⟨.println (tallyLine versions), ()⟩ ∈ t) ∨
    (∀ versions ∈ ledger slot, versions = []) ∧ ∃ line ∈ nothing, ⟨.println line, ()⟩ ∈ t

/-- What the whole conversation says of the block in a slot is so, unless the answer it rests
on was null, and it only ends without an error when it has printed a tally. -/
structure TellsTruth (null : κ → Prop) (ledger : Ledger) (slot : UInt64)
    (nothing : Option String) (t : Transcript ω ρ φ κ ε τ) (e : Ending χ Unit) : Prop where
  noVersioned : ⟨.println noVersionedLine, ()⟩ ∈ t → AnsweredNull null slot t none ∨
    ∀ versions ∈ ledger slot, ∀ version ∈ versions, version = .legacy
  noV1 : ⟨.println noV1Line, ()⟩ ∈ t → AnsweredNull null slot t (some 0) ∨
    ∀ versions ∈ ledger slot, .number 1 ∉ versions
  tallied : e = .returned () → Tallied ledger slot nothing t

/-- A conversation of a get-block example: its slot is the one that was asked for, or what
the conversation so far has returned from sending. It then asks for the block in this slot
only, and what it says of it is so if the cluster keeps its promise. -/
def GetsBlock (null : κ → Prop) (requested : Option UInt64)
    (send : Session ω ρ φ κ ε τ χ UInt64) (serves : Ledger → Call ω ρ φ κ ε τ → Prop)
    (nothing : Option String) (t : Transcript ω ρ φ κ ε τ) (e : Ending χ Unit) : Prop :=
  (∃ x, requested = none ∧ Conversation send t (.threw x) ∧ e = .threw x) ∨
  (requested = none ∧ Conversation send t .pending ∧ e = .pending) ∨
  ∃ before after slot, t = before ++ after ∧
    (requested = some slot ∧ before = [] ∨
      requested = none ∧ Conversation send before (.returned slot)) ∧
    (∀ x ∈ after, AsksFor slot x) ∧
    ∀ ledger, (∀ x ∈ after, serves ledger x) → TellsTruth null ledger slot nothing after e

theorem GetsBlock.tellsTruth {null : κ → Prop} {slot : UInt64}
    {send : Session ω ρ φ κ ε τ χ UInt64} {serves : Ledger → Call ω ρ φ κ ε τ → Prop}
    {nothing : Option String} {t : Transcript ω ρ φ κ ε τ} {e : Ending χ Unit} {ledger : Ledger}
    (h : GetsBlock null (some slot) send serves nothing t e) (hP : ∀ x ∈ t, serves ledger x) :
    TellsTruth null ledger slot nothing t e := by
  rcases h with ⟨x, h, -⟩ | ⟨h, -⟩ | ⟨before, after, slot', rfl, hs, -, hl⟩
  · cases h
  · cases h
  · rcases hs with ⟨hs, rfl⟩ | ⟨hs, -⟩
    · obtain rfl := Option.some.inj hs
      exact hl ledger hP
    · cases hs

section Truth

variable {ledger : Ledger} {slot : UInt64} {nothing : Option String}
  {t : Transcript ω ρ φ κ ε τ} {e : Ending χ Unit} {serves : Call ω ρ φ κ ε τ → Prop}
  {missed : Option ℕ → Prop} {null : κ → Prop}

theorem truthful_of_quiet {line : String} (h : Quiet line) {answer : Unit} :
    Truthful ledger slot missed (⟨.println line, answer⟩ : Call ω ρ φ κ ε τ) :=
  ⟨fun he => absurd he h.1, fun he => absurd he h.2⟩

theorem meets_println {line : String} (h : Quiet line) :
    Meets serves (Truthful ledger slot missed) (fun _ t => ⟨.println line, ()⟩ ∈ t)
      (println line : Session ω ρ φ κ ε τ χ Unit) :=
  .query fun _ _ => ⟨truthful_of_quiet h, List.mem_singleton_self _⟩

theorem meets_printLines {lines : List String} (h : ∀ line ∈ lines, Quiet line) :
    Meets serves (Truthful ledger slot missed)
      (fun _ t => ∀ line ∈ lines, ⟨.println line, ()⟩ ∈ t)
      (printLines lines : Session ω ρ φ κ ε τ χ Unit) := by
  induction lines with
  | nil => exact .returned (List.forall_mem_nil _)
  | cons line lines ih =>
    obtain ⟨hl, hls⟩ := List.forall_mem_cons.mp h
    refine (meets_println hl).bind fun _ t ht => (ih hls).weaken fun _ t' ht' => ?_
    exact List.forall_mem_cons.mpr ⟨List.mem_append_left t' ht,
      fun line hm => List.mem_append_right t (ht' line hm)⟩

theorem quiet_rejected (text : String) : Quiet ("  rejected: " ++ text) :=
  quiet_append (by decide) (by decide) text

/-- What a rung says when it succeeds holds because the cluster gave the block out, if it did. -/
theorem meets_rung {header success : String} {ceiling : Option ℕ}
    {describe : ε → Except χ String} (hheader : Quiet header)
    (hserves : ∀ block, serves ⟨.getBlock slot ceiling, Except.ok block⟩ →
      missed ceiling ∨ ledger.Within slot ceiling)
    (hsuccess : missed ceiling ∨ ledger.Within slot ceiling →
      Truthful ledger slot missed (⟨.println success, ()⟩ : Call ω ρ φ κ ε τ)) :
    Meets serves (Truthful ledger slot missed) (fun _ _ => True)
      (rung header success slot ceiling describe : Session ω ρ φ κ ε τ χ Unit) := by
  refine .after (meets_println hheader) fun _ => ?_
  refine .request fun answer hP => ⟨trivial, ?_⟩
  cases answer with
  | ok block => exact .query fun _ _ => ⟨hsuccess (hserves block hP), trivial⟩
  | error error =>
    dsimp only
    cases describe error with
    | error raised => exact .threw
    | ok text => exact (meets_println (quiet_rejected text)).weaken fun _ _ _ => trivial

theorem Tallied.right {t' : Transcript ω ρ φ κ ε τ} (h : Tallied ledger slot nothing t')
    (t : Transcript ω ρ φ κ ε τ) : Tallied ledger slot nothing (t ++ t') := by
  rcases h with ⟨versions, hv, hm⟩ | ⟨hv, line, hl, hm⟩
  · exact Or.inl ⟨versions, hv, List.mem_append_right t hm⟩
  · exact Or.inr ⟨hv, line, hl, List.mem_append_right t hm⟩

theorem quiet_tally (tally : VersionTally) (total : ℕ) :
    Quiet ("  " ++ tally.text ++ " of " ++ toString total ++ " transactions") := by
  have hs (rest : String) : "  " ++ ("legacy=" ++ rest) = "  legacy=" ++ rest := by
    rw [← String.append_assoc]
    rfl
  simp only [VersionTally.text, String.append_assoc, hs]
  exact quiet_append (by decide) (by decide) _

theorem quiet_reading (slot : UInt64) :
    Quiet ("reading slot " ++ toString slot.toNat ++ "\n") := by
  rw [String.append_assoc]
  exact quiet_append (by decide) (by decide) _

theorem eq_legacy_of_admits_none {version : Rust.TransactionVersion} (h : Admits none version) :
    version = .legacy := by
  cases version with
  | legacy => rfl
  | number n =>
    obtain ⟨highest, hh, -⟩ := h
    cases hh

theorem not_admits_zero_v1 : ¬ Admits (some 0) (.number 1) := by
  rintro ⟨highest, hh, hle⟩
  obtain rfl := Option.some.inj hh
  exact absurd hle (by decide)

theorem tellsTruth_of_truthful
    (ht : ∀ x ∈ t, Truthful ledger slot (AnsweredNull null slot t) x)
    (he : ∀ a, e = .returned a → Tallied ledger slot nothing t) :
    TellsTruth null ledger slot nothing t e where
  noVersioned hm := ((ht _ hm).1 rfl).imp_right fun hw versions hv version hmem =>
    eq_legacy_of_admits_none (hw versions hv version hmem)
  noV1 hm := ((ht _ hm).2 rfl).imp_right fun hw versions hv hmem =>
    not_admits_zero_v1 (hw versions hv _ hmem)
  tallied := he ()

end Truth

section Reading

variable {σ : Type} {stated : Rust.TransactionVersion → σ} {versions : κ → Option (List σ)}
  {headers : Headers} {describe : ε → Except χ String} {refused : ε → χ}
  {report : UInt64 → κ → Session ω ρ φ κ ε τ χ Unit} {nothing : Option String} {slot : UInt64}
  {null : κ → Prop}

def Headers.Quiet (headers : Headers) : Prop :=
  Client.Quiet headers.omitted ∧ Client.Quiet headers.zero ∧ Client.Quiet headers.one

instance : DecidablePred Quiet := fun _ => inferInstanceAs (Decidable (_ ∧ _))

instance : DecidablePred Headers.Quiet := fun _ => inferInstanceAs (Decidable (_ ∧ _ ∧ _))

/-- What is to be shown of the last part of an example: of a block the cluster gave out
under ceiling 1, and of null, it says nothing false, and it ends with the tally only. -/
def Reports (null : κ → Prop) (stated : Rust.TransactionVersion → σ)
    (versions : κ → Option (List σ)) (nothing : Option String)
    (report : UInt64 → κ → Session ω ρ φ κ ε τ χ Unit) : Prop :=
  ∀ (serves : Call ω ρ φ κ ε τ → Prop) (missed : Option ℕ → Prop) (ledger : Ledger) slot block,
    (¬ null block → ledger.Within slot (some 1) ∧
      versions block = (ledger slot).map (List.map stated)) →
    Meets serves (Truthful ledger slot missed) (fun _ t => Tallied ledger slot nothing t)
      (report slot block)

/-- A promise kept in a conversation whose answers of null are known. -/
def ServesOr (null : κ → Prop) (stated : Rust.TransactionVersion → σ)
    (versions : κ → Option (List σ)) (ledger : Ledger) (slot : UInt64)
    (missed : Option ℕ → Prop) (x : Call ω ρ φ κ ε τ) : Prop :=
  Serves null stated versions ledger x ∧
    ∀ ceiling block, null block → x = ⟨.getBlock slot ceiling, .ok block⟩ → missed ceiling

theorem ServesOr.within {ledger : Ledger} {missed : Option ℕ → Prop} {ceiling : Option ℕ}
    {block : κ} (h : ServesOr null stated versions ledger slot missed
      (⟨.getBlock slot ceiling, Except.ok block⟩ : Call ω ρ φ κ ε τ)) :
    missed ceiling ∨ ledger.Within slot ceiling := by
  by_cases hn : null block
  · exact Or.inl (h.2 ceiling block hn rfl)
  · exact Or.inr (h.1 hn).1

theorem meets_readBlock (hh : headers.Quiet)
    (hreport : Reports null stated versions nothing report) (ledger : Ledger)
    (missed : Option ℕ → Prop) :
    Meets (ServesOr null stated versions ledger slot missed) (Truthful ledger slot missed)
      (fun _ t => Tallied ledger slot nothing t)
      (readBlock headers describe refused report slot) := by
  refine .right (fun _ t t' h => h.right t) (meets_println (quiet_reading slot)) fun _ => ?_
  refine .right (fun _ t t' h => h.right t)
    (meets_rung hh.1 (fun _ h => h.within) fun hw =>
      ⟨fun _ => hw, fun he => absurd he (by decide)⟩) fun _ => ?_
  refine .right (fun _ t t' h => h.right t)
    (meets_rung hh.2.1 (fun _ h => h.within) fun hw =>
      ⟨fun he => absurd he (by decide), fun _ => hw⟩) fun _ => ?_
  refine .right (fun _ t t' h => h.right t) (meets_println hh.2.2) fun _ => ?_
  refine .request fun answer hP => ⟨trivial, ?_⟩
  cases answer with
  | error error => exact .threw
  | ok block =>
    have hb := hreport (ServesOr null stated versions ledger slot missed) missed ledger slot block
      fun hn => ⟨(hP.1 hn).1, (hP.1 hn).2 rfl⟩
    exact hb.weaken fun _ t ht => ht.right [_]

theorem asksFor_rung {header success : String} {ceiling : Option ℕ} :
    Only (AsksFor slot)
      (rung header success slot ceiling describe : Session ω ρ φ κ ε τ χ Unit) := by
  refine .bind (.query fun _ => trivial) fun _ => .bind (.query fun _ => rfl) fun answer => ?_
  cases answer with
  | ok block => exact .query fun _ => trivial
  | error error =>
    dsimp only
    cases describe error with
    | error raised => exact .threw _
    | ok text => exact .query fun _ => trivial

theorem asksFor_readBlock (h : ∀ block, Only (AsksFor slot) (report slot block)) :
    Only (AsksFor slot) (readBlock headers describe refused report slot) := by
  refine .bind (.query fun _ => trivial) fun _ => .bind asksFor_rung fun _ =>
    .bind asksFor_rung fun _ => .bind (.query fun _ => trivial) fun _ =>
      .bind (.query fun _ => rfl) fun answer => ?_
  cases answer with
  | error error => exact .threw _
  | ok block => exact h block

theorem asksFor_printLines (lines : List String) :
    Only (AsksFor slot) (printLines lines : Session ω ρ φ κ ε τ χ Unit) := by
  induction lines with
  | nil => exact .pure ()
  | cons line lines ih => exact .bind (.query fun _ => trivial) fun _ => ih

theorem getsBlock {requested : Option UInt64} {send : Session ω ρ φ κ ε τ χ UInt64}
    (hh : headers.Quiet) (hreport : Reports null stated versions nothing report)
    (hasks : ∀ slot block, Only (AsksFor slot) (report slot block)) :
    Ensures (chooseSlot requested send >>= readBlock headers describe refused report)
      (GetsBlock null requested send (Serves null stated versions) nothing) := by
  have hread (slot : UInt64) : Ensures (readBlock headers describe refused report slot) fun t e =>
      (∀ x ∈ t, AsksFor slot x) ∧ ∀ ledger, (∀ x ∈ t, Serves null stated versions ledger x) →
        TellsTruth null ledger slot nothing t e := by
    intro t e hc
    refine ⟨asksFor_readBlock (hasks slot) t e hc, fun ledger hP => ?_⟩
    -- what is missed is what this conversation itself answers with null
    obtain ⟨ht, he⟩ := meets_readBlock hh hreport ledger (AnsweredNull null slot t) t e hc
      fun x hx => ⟨hP x hx, fun _ block hn he => ⟨block, hn, he ▸ hx⟩⟩
    exact tellsTruth_of_truthful ht he
  cases requested with
  | some slot =>
    refine Ensures.mono (hread slot) fun t e he => Or.inr (Or.inr ?_)
    exact ⟨[], t, slot, rfl, Or.inl ⟨rfl, rfl⟩, he⟩
  | none =>
    refine ensures_monad_bind.mpr fun t e hc => ?_
    cases e with
    | returned slot =>
      refine Ensures.mono (hread slot) fun t' e' he => Or.inr (Or.inr ?_)
      exact ⟨t, t', slot, rfl, Or.inr ⟨rfl, hc⟩, he⟩
    | threw x => exact Or.inl ⟨x, rfl, hc, rfl⟩
    | pending => exact Or.inr (Or.inl ⟨rfl, hc, rfl⟩)

end Reading

section Counting

variable {versions : List Rust.TransactionVersion}

theorem counted_of_admits {version : Rust.TransactionVersion} (h : Admits (some 1) version) :
    Counted (statedVersion version) := by
  cases version with
  | legacy => exact Or.inl rfl
  | number n =>
    obtain ⟨highest, hh, hle⟩ := h
    obtain rfl := Option.some.inj hh
    rcases Nat.le_one_iff_eq_zero_or_eq_one.mp hle with h0 | h1
    · exact Or.inr (Or.inl (by rw [statedVersion, h0]; rfl))
    · exact Or.inr (Or.inr (by rw [statedVersion, h1]; rfl))

theorem counted_of_forall_admits (h : ∀ version ∈ versions, Admits (some 1) version) :
    ∀ version ∈ versions.map statedVersion, Counted version :=
  List.forall_mem_map.mpr fun version hv => counted_of_admits (h version hv)

theorem statedTally_of_counted {stated : List (Option JsonVersion)}
    (h : ∀ version ∈ stated, Counted version) :
    statedTally stated = .ofVersions (stated.map foldedVersion) := by
  rw [statedTally, List.filterMap_congr fun version hv => versionOf?_of_counted (h version hv),
    List.filterMap_eq_map']

theorem total_statedTally (h : ∀ version ∈ versions, Admits (some 1) version) :
    (statedTally (versions.map statedVersion)).total = versions.length := by
  rw [statedTally_of_counted (counted_of_forall_admits h), VersionTally.total_ofVersions,
    List.length_map, List.length_map]

/-- A report on a block the cluster gave out that counts every version it does not know as
legacy has the right tally, because there is none. -/
theorem exists_versions_of_folded {δ : Type} {ledger : Ledger} {slot : UInt64}
    {transactions : List (BlockTransaction (Option JsonVersion) δ)}
    {r : VersionReport Empty String} (hw : ledger.Within slot (some 1))
    (hv : some (transactions.map (·.version)) = (ledger slot).map (List.map statedVersion))
    (ht : r.tally = .ofVersions ((transactions.map (·.version)).map foldedVersion))
    (hl : r.total = transactions.length) :
    ∃ versions ∈ ledger slot, r.tally = statedTally (versions.map statedVersion) ∧
      r.total = versions.length := by
  obtain ⟨versions, hvl, hvs⟩ := Option.map_eq_some_iff.mp hv.symm
  refine ⟨versions, hvl, ?_, ?_⟩
  · rw [ht, ← hvs, statedTally_of_counted (counted_of_forall_admits (hw versions hvl))]
  · have hlen := congrArg List.length hvs
    rw [List.length_map, List.length_map] at hlen
    rw [hl, hlen]

/-- A loop that classifies the versions it sees as they are stated counts what is stated. -/
theorem ofVersions_filterMap {ν δ : Type} (classify : ν → Option MessageVersion)
    {stated : Rust.TransactionVersion → ν} {transactions : List (BlockTransaction ν δ)}
    (h : transactions.map (·.version) = versions.map stated)
    (hc : ∀ version ∈ versions, classify (stated version) = versionOf? (statedVersion version)) :
    VersionTally.ofVersions (transactions.filterMap fun t => classify t.version) =
      statedTally (versions.map statedVersion) := by
  have hm : transactions.filterMap (fun t => classify t.version) =
      (transactions.map (·.version)).filterMap classify := List.filterMap_map.symm
  rw [hm, h, List.filterMap_map, statedTally, List.filterMap_map]
  exact congrArg VersionTally.ofVersions (List.filterMap_congr hc)

end Counting

section Lines

variable {σ : Type} {stated : Rust.TransactionVersion → σ} {versions : κ → Option (List σ)}
  {nothing : Option String}

/-- What is to be shown of the lines that an example prints of a block. -/
def TallyIn (ledger : Ledger) (slot : UInt64) (nothing : Option String) (lines : List String) :
    Prop :=
  (∃ versions ∈ ledger slot, tallyLine versions ∈ lines) ∨
    (∀ versions ∈ ledger slot, versions = []) ∧ ∃ line ∈ nothing, line ∈ lines

theorem meets_printLines_tallied {ledger : Ledger} {slot : UInt64} {lines : List String}
    {serves : Call ω ρ φ κ ε τ → Prop} {missed : Option ℕ → Prop}
    (hq : ∀ line ∈ lines, Quiet line) (ht : TallyIn ledger slot nothing lines) :
    Meets serves (Truthful ledger slot missed) (fun _ t => Tallied ledger slot nothing t)
      (printLines lines : Session ω ρ φ κ ε τ χ Unit) := by
  refine (meets_printLines hq).weaken fun _ t hall => ?_
  rcases ht with ⟨versions, hv, hm⟩ | ⟨hv, line, hl, hm⟩
  · exact Or.inl ⟨versions, hv, hall _ hm⟩
  · exact Or.inr ⟨hv, line, hl, hall _ hm⟩

/-- A report that starts with the right tally, whether or not it stops with an error. -/
theorem meets_printReport {δ : Type} {ledger : Ledger} {slot : UInt64}
    {serves : Call ω ρ φ κ ε τ → Prop} {missed : Option ℕ → Prop} {raise : δ → χ}
    {report : Except δ (VersionReport Empty String × Option δ)}
    (h : ∀ r stopped, report = .ok (r, stopped) → (∀ line ∈ r.v1Lines, Quiet line) ∧
      ∃ versions ∈ ledger slot, r.tally = statedTally (versions.map statedVersion) ∧
        r.total = versions.length) :
    Meets serves (Truthful ledger slot missed) (fun _ t => Tallied ledger slot nothing t)
      (printReport raise report : Session ω ρ φ κ ε τ χ Unit) := by
  cases report with
  | error error => exact .threw
  | ok result =>
    obtain ⟨r, stopped⟩ := result
    obtain ⟨hq, versions, hv, ht, hl⟩ := h r stopped rfl
    refine (meets_println (quiet_tally r.tally r.total)).bind fun _ t hm => ?_
    rw [ht, hl] at hm
    have htallied (t' : Transcript ω ρ φ κ ε τ) : Tallied ledger slot nothing (t ++ t') :=
      Or.inl ⟨versions, hv, List.mem_append_left t' hm⟩
    refine (meets_printLines hq).bind fun _ t' _ => ?_
    cases stopped with
    | none => exact .returned (htallied _)
    | some error => exact .threw

theorem asksFor_printReport {δ : Type} {slot : UInt64} {raise : δ → χ}
    (report : Except δ (VersionReport Empty String × Option δ)) :
    Only (AsksFor slot) (printReport raise report : Session ω ρ φ κ ε τ χ Unit) := by
  cases report with
  | error error => exact .threw _
  | ok result =>
    refine .bind (.query fun _ => trivial) fun _ => .bind (asksFor_printLines _) fun _ => ?_
    cases result.2 with
    | none => exact .pure ()
    | some error => exact .threw _

theorem ok_mem_of_mem_printUntil {α δ : Type} {results : List (Except δ α)} {a : α}
    (h : a ∈ (printUntil results).1) : .ok a ∈ results := by
  induction results with
  | nil => cases h
  | cons result results ih =>
    cases result with
    | error error => cases h
    | ok b =>
      rcases List.mem_cons.mp h with rfl | h
      · exact List.mem_cons_self
      · exact List.mem_cons_of_mem _ (ih h)

variable {α β γ : Type}

theorem forall_mem_v1Lines {step : VersionScan α β → γ → VersionScan α β} {P : β → Prop}
    (h : ∀ s c, (∀ line ∈ s.v1Lines, P line) → ∀ line ∈ (step s c).v1Lines, P line)
    (entries : List γ) : ∀ line ∈ (entries.foldl step {}).v1Lines, P line := by
  have hfold : ∀ s : VersionScan α β, (∀ line ∈ s.v1Lines, P line) →
      ∀ line ∈ (entries.foldl step s).v1Lines, P line := by
    induction entries with
    | nil => exact fun s hs => hs
    | cons entry entries ih => exact fun s hs => ih _ (h s entry hs)
  exact hfold {} (List.forall_mem_nil P)

theorem forall_mem_visit {record : VersionTally → MessageVersion → VersionTally} {P : β → Prop}
    {s : VersionScan α β} {version : Except α MessageVersion} {v1Line : Option β}
    (hs : ∀ line ∈ s.v1Lines, P line) (hl : ∀ line ∈ v1Line, P line) :
    ∀ line ∈ (s.visit record version v1Line).v1Lines, P line := by
  unfold VersionScan.visit
  cases version with
  | error other => exact hs
  | ok version =>
    dsimp only
    split
    · exact hs
    · cases v1Line with
      | none => exact hs
      | some line =>
        exact List.forall_mem_append.mpr ⟨hs, List.forall_mem_singleton.mpr (hl line rfl)⟩

end Lines

end Client

end TransactionV1

import TransactionV1.Client.Waiting
import TransactionV1.Foundations.Protocol

/-! # From an airdrop to a landed transaction

What sending one transaction from a fresh wallet amounts to, whatever the cluster
answers. The wallet is funded once the cluster has confirmed its airdrop, the
transaction is built on a blockhash read after that and sent once, and it has landed
when the cluster has confirmed it. Anything refused or failed ends the protocol.
-/

namespace TransactionV1.Client

open Dialogue

structure Airdrop where
  recipient : Address
  lamports : UInt64
  deriving DecidableEq

/-- The budget that the examples state in the transfers they send. -/
def statedBudget : TransactionConfig where
  priorityFee := some 5000
  computeUnitLimit := some 20000
  loadedAccountsDataSizeLimit := some 65536
  heapSize := some 65536

inductive Purpose where
  | funding (airdrop : Airdrop)
  | landing
  deriving DecidableEq

/-- How far a transaction has come. It is delivered when a library says so, which may name
its signature. -/
inductive Phase where
  | unfunded
  | awaiting (purpose : Purpose) (signature : Signature)
  | funded (airdrop : Airdrop)
  | ready (airdrop : Airdrop) (blockhash : Hash)
  | landed (signature : Signature) (status : SignatureStatus)
  | delivered (signature : Option Signature)
  | stopped

def Purpose.reached (signature : Signature) (status : SignatureStatus) : Purpose → Phase
  | .funding airdrop => .funded airdrop
  | .landing => .landed signature status

/-- The transaction with the signature has landed. -/
def Phase.HasLanded (signature : Signature) : Phase → Prop
  | .landed s _ => s = signature
  | .delivered s => s = none ∨ s = some signature
  | _ => False

variable {ω ρ φ κ ε τ : Type}

def IsLocal : Call ω ρ φ κ ε τ → Prop
  | ⟨.newWallet, _⟩ | ⟨.ctxErr, _⟩ | ⟨.select, _⟩ | ⟨.now, _⟩ | ⟨.sleep, _⟩
  | ⟨.println _, _⟩ => True
  | _ => False

def isSend (x : Call ω ρ φ κ ε τ) : Bool := x.1.sent?.isSome

def ReadsBack (signature : Signature) : Call ω ρ φ κ ε τ → Prop
  | ⟨.getTransaction s _ _, _⟩ => s = signature
  | ⟨.println _, _⟩ => True
  | _ => False

/-- What one exchange does to a phase. `built` relates an airdrop and a blockhash with the
transactions that the funded wallet signs over it. -/
inductive Phase.Step (built : Airdrop → Hash → τ → Prop) :
    Phase → Call ω ρ φ κ ε τ → Phase → Prop where
  | idle {p : Phase} {x : Call ω ρ φ κ ε τ} :
      IsLocal x → Step built p x p
  | airdrop {recipient : Address} {lamports : UInt64} {signature : Signature} :
      Step built .unfunded ⟨.requestAirdrop recipient lamports, Except.ok signature⟩
        (.awaiting (.funding ⟨recipient, lamports⟩) signature)
  | airdropRefused {recipient : Address} {lamports : UInt64} {e : ε} :
      Step built .unfunded ⟨.requestAirdrop recipient lamports, Except.error e⟩ .stopped
  | airdropDone {recipient : Address} {lamports : UInt64} {signature : Signature} :
      Step built .unfunded ⟨.airdrop recipient lamports, Except.ok signature⟩
        (.funded ⟨recipient, lamports⟩)
  | airdropNotDone {recipient : Address} {lamports : UInt64} {e : ε} :
      Step built .unfunded ⟨.airdrop recipient lamports, Except.error e⟩ .stopped
  | bound {airdrop : Airdrop} {signature : Signature} {blockhash : Hash} :
      Step built (.awaiting (.funding airdrop) signature)
        ⟨.getLatestBlockhash, Except.ok blockhash⟩ (.awaiting (.funding airdrop) signature)
  | boundRefused {airdrop : Airdrop} {signature : Signature} {e : ε} :
      Step built (.awaiting (.funding airdrop) signature) ⟨.getLatestBlockhash, Except.error e⟩
        .stopped
  | settle {airdrop : Airdrop} {signature : Signature} {blockhash : Hash} :
      Step built (.awaiting (.funding airdrop) signature)
        ⟨.confirmTransaction signature blockhash, Except.ok ()⟩ (.funded airdrop)
  | settleRefused {airdrop : Airdrop} {signature : Signature} {blockhash : Hash} {e : ε} :
      Step built (.awaiting (.funding airdrop) signature)
        ⟨.confirmTransaction signature blockhash, Except.error e⟩ .stopped
  | wait {purpose : Purpose} {signature : Signature} {history : Bool}
      {answer : Except ε (List (Option SignatureStatus))} : verdict answer = none →
      Step built (.awaiting purpose signature) ⟨.getSignatureStatuses signature history, answer⟩
        (.awaiting purpose signature)
  | confirm {purpose : Purpose} {signature : Signature} {history : Bool}
      {answer : Except ε (List (Option SignatureStatus))} {status : SignatureStatus} :
      verdict answer = some (.ok status) →
      Step built (.awaiting purpose signature) ⟨.getSignatureStatuses signature history, answer⟩
        (purpose.reached signature status)
  | fail {purpose : Purpose} {signature : Signature} {history : Bool}
      {answer : Except ε (List (Option SignatureStatus))} {err : String} :
      verdict answer = some (.error err) →
      Step built (.awaiting purpose signature) ⟨.getSignatureStatuses signature history, answer⟩
        .stopped
  | read {airdrop : Airdrop} {blockhash : Hash} :
      Step built (.funded airdrop) ⟨.getLatestBlockhash, Except.ok blockhash⟩
        (.ready airdrop blockhash)
  | readRefused {airdrop : Airdrop} {e : ε} :
      Step built (.funded airdrop) ⟨.getLatestBlockhash, Except.error e⟩ .stopped
  | submit {airdrop : Airdrop} {blockhash : Hash} {transaction : τ} {signature : Signature} :
      built airdrop blockhash transaction →
      Step built (.ready airdrop blockhash) ⟨.sendTransaction transaction, Except.ok signature⟩
        (.awaiting .landing signature)
  | submitRefused {airdrop : Airdrop} {blockhash : Hash} {transaction : τ} {e : ε} :
      built airdrop blockhash transaction →
      Step built (.ready airdrop blockhash) ⟨.sendTransaction transaction, Except.error e⟩ .stopped
  | deliver {airdrop : Airdrop} {blockhash : Hash} {transaction : τ} {signature : Signature} :
      built airdrop blockhash transaction →
      Step built (.ready airdrop blockhash)
        ⟨.sendAndConfirmTransaction transaction, Except.ok signature⟩ (.delivered (some signature))
  | deliverRefused {airdrop : Airdrop} {blockhash : Hash} {transaction : τ} {e : ε} :
      built airdrop blockhash transaction →
      Step built (.ready airdrop blockhash)
        ⟨.sendAndConfirmTransaction transaction, Except.error e⟩ .stopped
  | hand {airdrop : Airdrop} {blockhash : Hash} {transaction : τ} :
      built airdrop blockhash transaction →
      Step built (.ready airdrop blockhash) ⟨.deliverTransaction transaction, Except.ok ()⟩
        (.delivered none)
  | handRefused {airdrop : Airdrop} {blockhash : Hash} {transaction : τ} {e : ε} :
      built airdrop blockhash transaction →
      Step built (.ready airdrop blockhash) ⟨.deliverTransaction transaction, Except.error e⟩
        .stopped
  | lookAgain {p : Phase} {signature : Signature} {history : Bool}
      {answer : Except ε (List (Option SignatureStatus))} : p.HasLanded signature →
      Step built p ⟨.getSignatureStatuses signature history, answer⟩ p
  | fetch {p : Phase} {signature : Signature} {encoding : Encoding} {version : Option ℕ}
      {answer : Except ε φ} : p.HasLanded signature →
      Step built p ⟨.getTransaction signature encoding version, answer⟩ p

/-- What a conversation does to a phase. -/
abbrev Phase.Runs (built : Airdrop → Hash → τ → Prop) :
    Phase → Transcript ω ρ φ κ ε τ → Phase → Prop :=
  Protocol.Runs (Phase.Step built)

namespace Phase

variable {built : Airdrop → Hash → τ → Prop} {p q r : Phase}
  {x : Call ω ρ φ κ ε τ}
  {t t' : Transcript ω ρ φ κ ε τ}

theorem Step.unique (h : Step built p x q) (h' : Step built p x r) : q = r := by
  cases h with
  | idle hx =>
    cases h' with
    | idle _ => rfl
    | _ => exact hx.elim
  | confirm hv =>
    cases h' with
    | idle hx => exact hx.elim
    | wait hv' => rw [hv] at hv'; cases hv'
    | confirm hv' => rw [hv] at hv'; cases hv'; rfl
    | fail hv' => rw [hv] at hv'; cases hv'
    | lookAgain hl => exact hl.elim
  | _ =>
    cases h' with
    | idle hx => exact hx.elim
    | _ => grind [Phase.HasLanded]

theorem runs_unique (h : Runs built p t q) (h' : Runs built p t r) : q = r :=
  h.unique (fun _ _ _ _ => Step.unique) h'

/-! A wait that settles nothing stays in its phase, and its verdict ends it. -/

theorem runs_of_undecided {purpose : Purpose} {signature : Signature}
    (h : ∀ x ∈ t, Undecided signature x) :
    Runs built (.awaiting purpose signature) t (.awaiting purpose signature) := by
  refine .of_forall fun x hx => ?_
  have hu := h x hx
  obtain ⟨question, answer⟩ := x
  cases question with
  | getSignatureStatuses s history =>
    obtain ⟨rfl, hv⟩ := hu
    exact .wait hv
  | ctxErr => exact .idle trivial
  | select => exact .idle trivial
  | now => exact .idle trivial
  | sleep => exact .idle trivial
  | _ => exact hu.elim

theorem runs_of_settles_ok {purpose : Purpose} {signature : Signature} {status : SignatureStatus}
    (h : Settles signature (.ok status) t) :
    Runs built (.awaiting purpose signature) t (purpose.reached signature status) := by
  obtain ⟨before, history, answer, rfl, hb, hv⟩ := h
  exact (runs_of_undecided hb).concat (.confirm hv)

theorem runs_of_settles_error {purpose : Purpose} {signature : Signature} {err : String}
    (h : Settles signature (.error err) t) :
    Runs built (.awaiting purpose signature) t .stopped := by
  obtain ⟨before, history, answer, rfl, hb, hv⟩ := h
  exact (runs_of_undecided hb).concat (.fail hv)

theorem runs_of_readsBack {signature : Signature} (hp : p.HasLanded signature)
    (h : ∀ x ∈ t, ReadsBack signature x) : Runs built p t p := by
  refine .of_forall fun x hx => ?_
  have hr := h x hx
  obtain ⟨question, answer⟩ := x
  cases question with
  | getTransaction s encoding version =>
    obtain rfl := hr
    exact .fetch hp
  | println text => exact .idle trivial
  | _ => exact hr.elim

end Phase

section Following

variable {χ α β : Type} {built : Airdrop → Hash → τ → Prop} {p : Phase}

/-- A client that follows the protocol from a phase. -/
abbrev Follows (built : Airdrop → Hash → τ → Prop) (p : Phase) (d : Session ω ρ φ κ ε τ χ α)
    (reaches : Ending χ α → Phase → Prop) : Prop :=
  Protocol.Follows (Phase.Step built) p d reaches

theorem isLocal_println (text : String) :
    Only IsLocal (println text : Session ω ρ φ κ ε τ χ Unit) := .query fun _ => trivial

theorem readsBack_println {signature : Signature} (text : String) :
    Only (ReadsBack signature) (println text : Session ω ρ φ κ ε τ χ Unit) :=
  .query fun _ => trivial

theorem readsBack_getTransaction {signature : Signature} (encoding : Encoding)
    (version : Option ℕ) : Only (ReadsBack signature)
      (getTransaction signature encoding version : Session ω ρ φ κ ε τ χ (Except ε φ)) :=
  .query fun _ => rfl

def Phase.Unlanded : Phase → Prop
  | .landed _ _ | .delivered _ => False
  | _ => True

/-- A return reaches a phase that fits its value, and nothing else ends with the
transaction landed. -/
abbrev Reaches (onReturn : α → Phase → Prop) : Ending χ α → Phase → Prop :=
  Protocol.Reaching onReturn Phase.Unlanded

theorem follows_of_only_isLocal {d : Session ω ρ φ κ ε τ χ α} (h : Only IsLocal d)
    (hp : p.Unlanded) : Follows built p d (Reaches fun _ q => q = p) := by
  refine Protocol.Follows.of_only h (fun _ hx => .idle hx) fun e => ?_
  cases e with
  | returned a => rfl
  | threw x => exact hp
  | pending => exact hp

theorem follows_wait {report : Report χ α} {purpose : Purpose} {signature : Signature}
    {d : Session ω ρ φ κ ε τ χ α} (h : Ensures d (Waited report signature)) :
    Follows built (.awaiting purpose signature) d (Reaches fun a q =>
      ∃ status, q = purpose.reached signature status ∧ report.value status = a) := by
  refine h.mono fun t e he => ?_
  cases e with
  | returned a =>
    obtain ⟨status, hs, ha⟩ := he
    exact ⟨_, Phase.runs_of_settles_ok hs, status, rfl, ha⟩
  | threw x =>
    rcases he with ⟨err, hs, -⟩ | ⟨ht, -⟩
    · exact ⟨_, Phase.runs_of_settles_error hs, trivial⟩
    · exact ⟨_, Phase.runs_of_undecided ht, trivial⟩
  | pending => exact ⟨_, Phase.runs_of_undecided he, trivial⟩

end Following

section Safety

variable {built : Airdrop → Hash → τ → Prop} {p q : Phase}
  {x : Call ω ρ φ κ ε τ}
  {t : Transcript ω ρ φ κ ε τ}

def Confirmed (signature : Signature) (status : SignatureStatus)
    (t : Transcript ω ρ φ κ ε τ) : Prop :=
  ∃ history answer, verdict answer = some (.ok status) ∧
    ⟨.getSignatureStatuses signature history, answer⟩ ∈ t

/-- The conversation has seen the airdrop confirmed, by its status or by a library. -/
def Funded (airdrop : Airdrop) (t : Transcript ω ρ φ κ ε τ) : Prop :=
  ∃ signature,
    ⟨.airdrop airdrop.recipient airdrop.lamports, Except.ok signature⟩ ∈ t ∨
    ⟨.requestAirdrop airdrop.recipient airdrop.lamports, Except.ok signature⟩ ∈ t ∧
      ((∃ status, Confirmed signature status t) ∨
        ∃ blockhash, ⟨.confirmTransaction signature blockhash, Except.ok ()⟩ ∈ t)

/-- The conversation has read the blockhash after it has seen the airdrop confirmed. -/
def FundedThenRead (airdrop : Airdrop) (blockhash : Hash) :
    Transcript ω ρ φ κ ε τ → Prop :=
  Protocol.Then (Funded airdrop) (⟨.getLatestBlockhash, Except.ok blockhash⟩ ∈ ·)

/-- A transaction was built, and the conversation has had the exchange with it. -/
def Sent (built : Airdrop → Hash → τ → Prop) (exchange : τ → Call ω ρ φ κ ε τ)
    (t : Transcript ω ρ φ κ ε τ) : Prop :=
  ∃ airdrop blockhash transaction, built airdrop blockhash transaction ∧ exchange transaction ∈ t

/-- What a conversation has seen when it reaches a phase from the start. -/
def Phase.Seen (built : Airdrop → Hash → τ → Prop) :
    Phase → Transcript ω ρ φ κ ε τ → Prop
  | .unfunded, _ | .stopped, _ => True
  | .awaiting (.funding airdrop) signature, t =>
    ⟨.requestAirdrop airdrop.recipient airdrop.lamports, Except.ok signature⟩ ∈ t
  | .funded airdrop, t => Funded airdrop t
  | .ready airdrop blockhash, t => FundedThenRead airdrop blockhash t
  | .awaiting .landing signature, t =>
    Sent built (⟨.sendTransaction ·, Except.ok signature⟩) t
  | .landed signature status, t => Confirmed signature status t ∧
      Sent built (⟨.sendTransaction ·, Except.ok signature⟩) t
  | .delivered (some signature), t =>
    Sent built (⟨.sendAndConfirmTransaction ·, Except.ok signature⟩) t
  | .delivered none, t => Sent built (⟨.deliverTransaction ·, Except.ok ()⟩) t

section Left

variable {airdrop : Airdrop} {blockhash : Hash} {signature : Signature} {status : SignatureStatus}

theorem Confirmed.left (h : Confirmed signature status t) (t' : Transcript ω ρ φ κ ε τ) :
    Confirmed signature status (t ++ t') := by
  obtain ⟨history, answer, hv, hm⟩ := h
  exact ⟨history, answer, hv, List.mem_append_left t' hm⟩

theorem Funded.left (h : Funded airdrop t) (t' : Transcript ω ρ φ κ ε τ) :
    Funded airdrop (t ++ t') := by
  obtain ⟨signature, hm | ⟨hm, ⟨status, hc⟩ | ⟨blockhash, hc⟩⟩⟩ := h
  · exact ⟨signature, Or.inl (List.mem_append_left t' hm)⟩
  · exact ⟨signature, Or.inr ⟨List.mem_append_left t' hm, Or.inl ⟨status, hc.left t'⟩⟩⟩
  · exact ⟨signature, Or.inr ⟨List.mem_append_left t' hm,
      Or.inr ⟨blockhash, List.mem_append_left t' hc⟩⟩⟩

theorem FundedThenRead.left (h : FundedThenRead airdrop blockhash t)
    (t' : Transcript ω ρ φ κ ε τ) : FundedThenRead airdrop blockhash (t ++ t') :=
  h.append (fun _ t' => List.mem_append_left t') t'

theorem Sent.left {exchange : τ → Call ω ρ φ κ ε τ} (h : Sent built exchange t)
    (t' : Transcript ω ρ φ κ ε τ) : Sent built exchange (t ++ t') := by
  obtain ⟨airdrop, blockhash, transaction, hb, hm⟩ := h
  exact ⟨airdrop, blockhash, transaction, hb, List.mem_append_left t' hm⟩

theorem Phase.Seen.left (h : p.Seen built t) (t' : Transcript ω ρ φ κ ε τ) :
    p.Seen built (t ++ t') := by
  cases p with
  | unfunded => trivial
  | stopped => trivial
  | funded airdrop => exact Funded.left h t'
  | ready airdrop blockhash => exact FundedThenRead.left h t'
  | landed signature status => exact ⟨h.1.left t', h.2.left t'⟩
  | delivered signature => cases signature <;> exact Sent.left h t'
  | awaiting purpose signature =>
    cases purpose with
    | funding airdrop => exact List.mem_append_left t' h
    | landing => exact Sent.left h t'

end Left

theorem Phase.Step.seen (hs : Step built p x q) (h : p.Seen built t) :
    q.Seen built (t ++ [x]) := by
  have ht {y : Call ω ρ φ κ ε τ} (hy : y ∈ t) : y ∈ t ++ [x] := List.mem_append_left [x] hy
  have hx : x ∈ t ++ [x] := List.mem_append_right t (List.mem_singleton_self x)
  cases hs with
  | idle _ => exact h.left _
  | airdrop => exact hx
  | airdropRefused => trivial
  | airdropDone => exact ⟨_, Or.inl hx⟩
  | airdropNotDone => trivial
  | bound => exact h.left _
  | boundRefused => trivial
  | settle => exact ⟨_, Or.inr ⟨ht h, Or.inr ⟨_, hx⟩⟩⟩
  | settleRefused => trivial
  | wait _ => exact h.left _
  | @confirm purpose signature history answer status hv =>
    have hc : Confirmed signature status
        (t ++ [⟨.getSignatureStatuses signature history, answer⟩]) :=
      ⟨history, answer, hv, hx⟩
    cases purpose with
    | funding airdrop => exact ⟨signature, Or.inr ⟨ht h, Or.inl ⟨status, hc⟩⟩⟩
    | landing => exact ⟨hc, Sent.left h _⟩
  | fail _ => trivial
  | read => exact ⟨t, _, rfl, h, List.mem_singleton_self _⟩
  | readRefused => trivial
  | submit hb => exact ⟨_, _, _, hb, hx⟩
  | submitRefused _ => trivial
  | deliver hb => exact ⟨_, _, _, hb, hx⟩
  | deliverRefused _ => trivial
  | hand hb => exact ⟨_, _, _, hb, hx⟩
  | handRefused _ => trivial
  | lookAgain _ => exact h.left _
  | fetch _ => exact h.left _

theorem Phase.seen_of_runs (hr : Runs built .unfunded t q) : q.Seen built t := by
  have hs : q.Seen built ([] ++ t) := hr.preserves (fun _ _ _ _ => Step.seen) trivial
  exact hs

def Phase.maySend : Phase → Bool
  | .unfunded | .awaiting (.funding _) _ | .funded _ | .ready _ _ => true
  | .awaiting .landing _ | .landed _ _ | .delivered _ | .stopped => false

theorem IsLocal.isSend_eq (h : IsLocal x) : isSend x = false := by
  obtain ⟨question, answer⟩ := x
  cases question <;> first | rfl | exact h.elim

/-- A step that sends is taken from a phase that may send, to one that may not, and no
step leads back. -/
theorem Phase.Step.sends (h : Step built p x q) :
    (if isSend x then 1 else 0) + (if q.maySend then 1 else 0) ≤ if p.maySend then 1 else 0 := by
  cases h with
  | idle hx => simp [hx.isSend_eq]
  | airdrop => exact Nat.le_refl _
  | airdropRefused => exact Nat.zero_le _
  | airdropDone => exact Nat.le_refl _
  | airdropNotDone => exact Nat.zero_le _
  | bound => exact Nat.le_refl _
  | boundRefused => exact Nat.zero_le _
  | settle => exact Nat.le_refl _
  | settleRefused => exact Nat.zero_le _
  | @wait purpose => cases purpose <;> exact Nat.le_refl _
  | @confirm purpose => cases purpose <;> exact Nat.le_refl _
  | fail _ => exact Nat.zero_le _
  | read => exact Nat.le_refl _
  | readRefused => exact Nat.zero_le _
  | submit _ => exact Nat.le_refl _
  | submitRefused _ => exact Nat.le_refl _
  | deliver _ => exact Nat.le_refl _
  | deliverRefused _ => exact Nat.le_refl _
  | hand _ => exact Nat.le_refl _
  | handRefused _ => exact Nat.le_refl _
  | lookAgain _ => simp [isSend, Question.sent?]
  | fetch _ => simp [isSend, Question.sent?]

theorem Phase.countP_isSend_le (h : Runs built p t q) :
    t.countP isSend ≤ if p.maySend then 1 else 0 :=
  (Nat.le_add_right _ _).trans (h.countP_add_le fun _ _ _ => Step.sends)

theorem Phase.Step.ready_of_isSend (h : Step built p x q) (hx : isSend x = true) :
    ∃ airdrop blockhash transaction, p = .ready airdrop blockhash ∧
      x.1.sent? = some transaction ∧ built airdrop blockhash transaction := by
  cases h with
  | idle hl => rw [hl.isSend_eq] at hx; cases hx
  | submit hb => exact ⟨_, _, _, rfl, rfl, hb⟩
  | submitRefused hb => exact ⟨_, _, _, rfl, rfl, hb⟩
  | deliver hb => exact ⟨_, _, _, rfl, rfl, hb⟩
  | deliverRefused hb => exact ⟨_, _, _, rfl, rfl, hb⟩
  | hand hb => exact ⟨_, _, _, rfl, rfl, hb⟩
  | handRefused hb => exact ⟨_, _, _, rfl, rfl, hb⟩
  | _ => cases hx

/-- A conversation sends at most one transaction, and only one that a wallet signs over a
blockhash read after the wallet's own airdrop was seen to be confirmed. -/
structure SendsSafely (built : Airdrop → Hash → τ → Prop)
    (t : Transcript ω ρ φ κ ε τ) : Prop where
  once : t.countP isSend ≤ 1
  backed : ∀ before x after, t = before ++ x :: after → isSend x = true →
    ∃ airdrop blockhash transaction, x.1.sent? = some transaction ∧
      built airdrop blockhash transaction ∧ FundedThenRead airdrop blockhash before

theorem sendsSafely_of_runs (h : Phase.Runs built .unfunded t q) : SendsSafely built t where
  once := Phase.countP_isSend_le h
  backed before x after ht hx := by
    subst ht
    obtain ⟨p, hp, hr⟩ := h.split
    cases hr with
    | cons hs _ =>
      obtain ⟨airdrop, blockhash, transaction, rfl, hq, hb⟩ := hs.ready_of_isSend hx
      exact ⟨airdrop, blockhash, transaction, hq, hb, Phase.seen_of_runs hp⟩

/-- What reaches the landing by its returns alone returns exactly when the transaction
has landed. -/
theorem Follows.landed {χ β : Type} {d : Session ω ρ φ κ ε τ χ (Signature × β)}
    {value : SignatureStatus → β}
    (h : Follows built .unfunded d
      (Reaches fun r q => ∃ status, q = .landed r.1 status ∧ value status = r.2)) :
    Ensures d fun t e => SendsSafely built t ∧ ∀ r, e = .returned r ↔
      ∃ status, Phase.Runs built .unfunded t (.landed r.1 status) ∧ value status = r.2 := by
  refine Ensures.mono h fun t e he => ?_
  obtain ⟨q, hq, he⟩ := he
  refine ⟨sendsSafely_of_runs hq, fun r => ⟨?_, ?_⟩⟩
  · rintro rfl
    obtain ⟨status, rfl, hv⟩ := he
    exact ⟨status, hq, hv⟩
  · rintro ⟨status, hr, hv⟩
    obtain rfl := Phase.runs_unique hq hr
    cases e with
    | returned a =>
      obtain ⟨status', hl, ha⟩ := he
      obtain ⟨hs, rfl⟩ := Phase.landed.inj hl
      rw [Prod.ext hs (hv.symm.trans ha)]
    | threw x => exact he.elim
    | pending => exact he.elim

theorem Follows.askStatus {χ β : Type} {d : Session ω ρ φ κ ε τ χ Signature}
    {f : Signature → Session ω ρ φ κ ε τ χ β} {sent : Signature → Transcript ω ρ φ κ ε τ → Prop}
    {read : Signature → Except ε (List (Option SignatureStatus)) → β → Prop}
    (h : Ensures d fun t e => ∃ q, Phase.Runs built .unfunded t q ∧
      ∀ signature, e = .returned signature → q.HasLanded signature ∧ sent signature t)
    (hf : ∀ signature, Ensures (f signature) fun t e => ∃ answer,
      t = [⟨.getSignatureStatuses signature false, answer⟩] ∧
        ∀ b, e = .returned b → read signature answer b) :
    Ensures (d >>= f) fun t e => SendsSafely built t ∧ ∀ b, e = .returned b →
      ∃ signature before answer, t = before ++ [⟨.getSignatureStatuses signature false, answer⟩] ∧
        sent signature before ∧ read signature answer b := by
  refine ensures_monad_bind.mpr (Ensures.mono h fun t e he => ?_)
  obtain ⟨q, hq, he⟩ := he
  cases e with
  | returned signature =>
    obtain ⟨hl, hs⟩ := he signature rfl
    refine Ensures.mono (hf signature) fun t' e' ht => ?_
    obtain ⟨answer, rfl, hr⟩ := ht
    exact ⟨sendsSafely_of_runs (hq.concat (.lookAgain hl)),
      fun b hb => ⟨signature, t, answer, rfl, hs, hr b hb⟩⟩
  | threw x => exact ⟨sendsSafely_of_runs hq, fun b hb => nomatch hb⟩
  | pending => exact ⟨sendsSafely_of_runs hq, fun b hb => nomatch hb⟩

end Safety

end TransactionV1.Client

import TransactionV1.Foundations.Fallible
import TransactionV1.Foundations.Protocol
import TransactionV1.Web3.Connection

/-! # One transaction after another

What `sendV1Transaction` and `fundedKeypair` keep to however often they are called: a
transaction is built over the blockhash that was read right before it, and nothing else is
asked until it is confirmed under that blockhash.
-/

namespace TransactionV1.Web3

open Dialogue TypeScript

variable {sdk : Sdk} {R : Type} {V : R → Type}

def Question.IsAside : Question sdk R → Prop
  | .generate | .getTransaction _ _ | .println _ | .request _ => True
  | .requestAirdrop _ _ | .getLatestBlockhash | .sendTransaction _
  | .confirmTransaction _ _ => False

def Question.sent? : Question sdk R → Option sdk.Transaction
  | .sendTransaction transaction => some transaction
  | _ => none

def isSend (x : Call sdk V) : Bool := x.1.sent?.isSome

/-- The transaction is compiled of the instructions over the blockhash, and signed by the
payer and then the signers. Its config states what is given, and otherwise a compute unit
limit of 1400000, 64 MiB of loaded accounts and a fee of 5000 lamports. -/
def BuiltOf (payer : sdk.Keypair) (instructions : List sdk.InstructionPlan)
    (signers : List sdk.Signer) (config : V1TransactionConfig) (blockhash : String)
    (transaction : sdk.Transaction) : Prop :=
  ∃ message,
    sdk.compile
      { instructions := instructions
        payerKey := sdk.publicKey payer
        recentBlockhash := blockhash
        transactionConfig :=
          { computeUnitLimit := config.computeUnitLimit <|> some (some 1400000)
            heapSize := config.heapSize
            loadedAccountsDataSizeLimit :=
              config.loadedAccountsDataSizeLimit <|> some (some 67108864)
            priorityFeeLamports := config.priorityFeeLamports <|> some (some 5000) } } =
      .ok message ∧
    sdk.sign (sdk.versionedTransaction message) (sdk.signer payer :: signers) = .ok transaction

theorem builtOf_of_buildV1Transaction {payer : sdk.Keypair}
    {instructions : List sdk.InstructionPlan} {signers : List sdk.Signer}
    {config : V1TransactionConfig} {blockhash : String} {transaction : sdk.Transaction}
    (h : buildV1Transaction payer instructions signers config blockhash = .ok transaction) :
    BuiltOf payer instructions signers config blockhash transaction := by
  obtain ⟨message, hm, hs⟩ := Fallible.bind_eq_ok_iff.mp h
  refine ⟨message, ?_, hs⟩
  rw [← hm]
  cases hh : config.heapSize <;> simp [V1TransactionConfig.spread, defaultConfig, hh]

def Built (blockhash : String) (transaction : sdk.Transaction) : Prop :=
  ∃ payer instructions signers config,
    BuiltOf payer instructions signers config blockhash transaction

/-- Where a program stands, with the number of transactions it has sent. -/
inductive Turn where
  | idle (sent : ℕ)
  | airdropped (sent : ℕ) (signature : String)
  | holding (sent : ℕ) (lifetime : Lifetime)
  | awaiting (sent : ℕ) (signature : String) (lifetime : Lifetime)
  | stopped (sent : ℕ)

namespace Turn

def sent : Turn → ℕ
  | .idle n | .airdropped n _ | .holding n _ | .awaiting n _ _ | .stopped n => n

def Settled : Turn → Prop
  | .idle _ | .holding _ _ | .stopped _ => True
  | .airdropped _ _ | .awaiting _ _ _ => False

/-- What one exchange does. A failure stops the program. -/
inductive Step : Turn → Call sdk V → Turn → Prop where
  | aside {n : ℕ} {x : Call sdk V} : x.1.IsAside → Step (.idle n) x (.idle n)
  | airdrop {n : ℕ} {recipient : sdk.PublicKey} {lamports : ℕ} {signature : String} :
      Step (.idle n) ⟨.requestAirdrop recipient lamports, .ok signature⟩ (.airdropped n signature)
  | airdropRefused {n : ℕ} {recipient : sdk.PublicKey} {lamports : ℕ} {e : JsError} :
      Step (.idle n) ⟨.requestAirdrop recipient lamports, .error e⟩ (.stopped n)
  | date {n : ℕ} {signature : String} {lifetime : Lifetime} :
      Step (.airdropped n signature) ⟨.getLatestBlockhash, .ok lifetime⟩
        (.awaiting n signature lifetime)
  | dateRefused {n : ℕ} {signature : String} {e : JsError} :
      Step (.airdropped n signature) ⟨.getLatestBlockhash, .error e⟩ (.stopped n)
  | read {n : ℕ} {lifetime : Lifetime} :
      Step (.idle n) ⟨.getLatestBlockhash, .ok lifetime⟩ (.holding n lifetime)
  | readRefused {n : ℕ} {e : JsError} :
      Step (.idle n) ⟨.getLatestBlockhash, .error e⟩ (.stopped n)
  | send {n : ℕ} {lifetime : Lifetime} {transaction : sdk.Transaction} {signature : String} :
      Built lifetime.blockhash transaction → Step (.holding n lifetime)
        ⟨.sendTransaction transaction, .ok signature⟩ (.awaiting (n + 1) signature lifetime)
  | sendRefused {n : ℕ} {lifetime : Lifetime} {transaction : sdk.Transaction} {e : JsError} :
      Built lifetime.blockhash transaction →
      Step (.holding n lifetime) ⟨.sendTransaction transaction, .error e⟩ (.stopped (n + 1))
  | confirm {n : ℕ} {signature : String} {lifetime : Lifetime} {err : Option String} :
      Step (.awaiting n signature lifetime) ⟨.confirmTransaction lifetime signature, .ok err⟩
        (.idle n)
  | confirmRefused {n : ℕ} {signature : String} {lifetime : Lifetime} {e : JsError} :
      Step (.awaiting n signature lifetime) ⟨.confirmTransaction lifetime signature, .error e⟩
        (.stopped n)

end Turn

section Discipline

variable {p q : Turn} {x : Call sdk V} {t : Transcript sdk V}

/-- Every transaction is sent over the blockhash that the exchange before it read, and the
exchange after it confirms it. A program that is refused either asks nothing more. -/
def InTurn (t : Transcript sdk V) : Prop :=
  ∀ before x after, t = before ++ x :: after → isSend x = true →
    ∃ earlier lifetime transaction, before = earlier ++ [⟨.getLatestBlockhash, .ok lifetime⟩] ∧
      Built lifetime.blockhash transaction ∧
      ((∃ e, x = ⟨.sendTransaction transaction, .error e⟩ ∧ after = []) ∨
        ∃ signature result later, x = ⟨.sendTransaction transaction, .ok signature⟩ ∧
          after = ⟨.confirmTransaction lifetime signature, result⟩ :: later ∧
          ∀ e, result = .error e → later = [])

theorem isSend_of_isAside (h : x.1.IsAside) : isSend x = false := by
  obtain ⟨q, answer⟩ := x
  cases q <;> first | rfl | exact h.elim

theorem Turn.Step.sent_eq (h : Step p x q) : (if isSend x then 1 else 0) + p.sent = q.sent := by
  cases h with
  | aside hx => simp [isSend_of_isAside hx]
  | send _ => exact Nat.add_comm _ _
  | sendRefused _ => exact Nat.add_comm _ _
  | _ => exact Nat.zero_add _

theorem Turn.Step.eq_read {n : ℕ} {lifetime : Lifetime} (h : Step p x (.holding n lifetime)) :
    x = ⟨.getLatestBlockhash, .ok lifetime⟩ := by
  cases h
  rfl

theorem Turn.Step.holding_of_isSend (h : Step p x q) (hx : isSend x = true) :
    ∃ n lifetime transaction, p = .holding n lifetime ∧ Built lifetime.blockhash transaction ∧
      ((∃ e, x = ⟨.sendTransaction transaction, .error e⟩ ∧ q = .stopped (n + 1)) ∨
        ∃ signature, x = ⟨.sendTransaction transaction, .ok signature⟩ ∧
          q = .awaiting (n + 1) signature lifetime) := by
  cases h with
  | aside ha =>
    rw [isSend_of_isAside ha] at hx
    cases hx
  | send hb => exact ⟨_, _, _, rfl, hb, Or.inr ⟨_, rfl, rfl⟩⟩
  | sendRefused hb => exact ⟨_, _, _, rfl, hb, Or.inl ⟨_, rfl, rfl⟩⟩
  | _ => cases hx

theorem Turn.eq_nil_of_stopped {n : ℕ}
    (h : Protocol.Runs (Step : Turn → Call sdk V → Turn → Prop) (.stopped n) t q) : t = [] := by
  cases h with
  | nil => rfl
  | cons hs _ => cases hs

theorem Turn.confirm_of_awaiting {n : ℕ} {signature : String} {lifetime : Lifetime}
    (h : Protocol.Runs (Step : Turn → Call sdk V → Turn → Prop) (.awaiting n signature lifetime)
      t q)
    (hq : q.Settled) :
    ∃ result later, t = ⟨.confirmTransaction lifetime signature, result⟩ :: later ∧
      ∀ e, result = .error e → later = [] := by
  cases h with
  | nil => exact hq.elim
  | cons hs hr =>
    cases hs with
    | confirm => exact ⟨_, _, rfl, fun _ he => nomatch he⟩
    | confirmRefused => exact ⟨_, _, rfl, fun _ _ => eq_nil_of_stopped hr⟩

theorem inTurn_of_runs {n : ℕ} (h : Protocol.Runs Turn.Step (.idle n) t q) (hq : q.Settled) :
    InTurn t := by
  intro before x after ht hx
  subst ht
  obtain ⟨p, hp, hr⟩ := h.split
  cases hr with
  | cons hs hafter =>
    obtain ⟨n, lifetime, transaction, rfl, hb, hcase⟩ := hs.holding_of_isSend hx
    have hbefore : ∃ earlier, before = earlier ++ [⟨.getLatestBlockhash, .ok lifetime⟩] := by
      rcases List.eq_nil_or_concat' before with rfl | ⟨earlier, y, rfl⟩
      · cases hp
      · obtain ⟨r, _, hy⟩ := hp.split
        cases hy with
        | cons hy hn =>
          cases hn
          exact ⟨earlier, by rw [hy.eq_read]⟩
    obtain ⟨earlier, he⟩ := hbefore
    refine ⟨earlier, lifetime, transaction, he, hb, ?_⟩
    rcases hcase with ⟨e, hx, rfl⟩ | ⟨signature, hx, rfl⟩
    · exact Or.inl ⟨e, hx, Turn.eq_nil_of_stopped hafter⟩
    · obtain ⟨result, later, hl, hresult⟩ := Turn.confirm_of_awaiting hafter hq
      exact Or.inr ⟨signature, result, later, hx, hl, hresult⟩

end Discipline

section Advances

variable {α β : Type} {k l : ℕ} {d : Async sdk V α} {f : α → Async sdk V β}

/-- A program that is to send so many transactions has sent no more where it stops, with
none of them unconfirmed. -/
def Falls (sent : ℕ) (q : Turn) : Prop := q.Settled ∧ q.sent ≤ sent

/-- A program sends so many transactions in turn before it returns. -/
def Advances (k : ℕ) (d : Async sdk V α) : Prop :=
  ∀ n, Protocol.Follows Turn.Step (.idle n) d
    (Protocol.Reaching (fun _ q => q = .idle (n + k)) (Falls (n + k)))

theorem Advances.bind (h : Advances k d) (hf : ∀ a, Advances l (f a)) :
    Advances (k + l) (d >>= f) := by
  intro n
  apply (h n).bind
  intro e q he
  cases e with
  | returned a =>
    obtain rfl := he
    have hl := hf a (n + k)
    rwa [Nat.add_assoc] at hl
  | threw x => exact ⟨he.1, he.2.trans (by omega)⟩
  | pending => exact ⟨he.1, he.2.trans (by omega)⟩

theorem Advances.of_only (h : Only (fun x => x.1.IsAside) d) : Advances 0 d := by
  intro n
  apply Protocol.Follows.of_only h (fun _ => .aside)
  intro e
  cases e with
  | returned a => rfl
  | threw x => exact ⟨trivial, le_rfl⟩
  | pending => exact ⟨trivial, le_rfl⟩

theorem Advances.free (h : Advances 0 d) (hf : ∀ a, Advances l (f a)) : Advances l (d >>= f) := by
  have hl := h.bind hf
  rwa [Nat.zero_add] at hl

theorem Advances.aside (h : Only (fun x => x.1.IsAside) d) (hf : ∀ a, Advances l (f a)) :
    Advances l (d >>= f) := (Advances.of_only h).free hf

theorem Advances.next (h : Advances 1 d) (hf : ∀ a, Advances l (f a)) :
    Advances (l + 1) (d >>= f) := by
  rw [Nat.add_comm]
  exact h.bind hf

theorem isAside_println (text : String) :
    Only (fun x => x.1.IsAside) (println text : Async sdk V Unit) := .attempt fun _ => trivial

theorem follows_attempt {p : Turn} {m : ℕ} {q : Question sdk R} {next : Value sdk V q → Turn}
    (hok : ∀ a, Turn.Step p ⟨q, .ok a⟩ (next a))
    (herror : ∀ e, ∃ r, Turn.Step p (⟨q, .error e⟩ : Call sdk V) r ∧ Falls m r) :
    Protocol.Follows Turn.Step p (attempt q : Async sdk V (Value sdk V q))
      (Protocol.Reaching (fun a r => r = next a) (Falls m)) :=
  .attempt (fun a => ⟨_, hok a, rfl⟩) herror

theorem follows_confirm {n m : ℕ} {signature : String} {lifetime : Lifetime} {a : α}
    (h : n ≤ m) : Protocol.Follows Turn.Step (.awaiting n signature lifetime)
      (attempt (Question.confirmTransaction lifetime signature) >>= fun _ => pure a : Async sdk V α)
      (Protocol.Reaching (fun _ q => q = .idle n) (Falls m)) := by
  refine Protocol.Follows.andThen
    (follows_attempt (fun _ => .confirm) fun e => ⟨_, .confirmRefused, trivial, h⟩) ?_
  rintro _ _ rfl
  exact .returned rfl

theorem sendV1Transaction_advances (payer : sdk.Keypair) (instructions : List sdk.InstructionPlan)
    (signers : List sdk.Signer) (config : V1TransactionConfig) :
    Advances 1 (sendV1Transaction payer instructions signers config :
      Async sdk V (String × sdk.Transaction)) := by
  intro n
  refine Protocol.Follows.andThen
    (follows_attempt (fun _ => .read) fun e => ⟨_, .readRefused, trivial, Nat.le_succ n⟩) ?_
  rintro lifetime _ rfl
  apply Protocol.Follows.ofExcept ⟨trivial, Nat.le_succ n⟩
  intro transaction ht
  have hb : Built lifetime.blockhash transaction :=
    ⟨payer, instructions, signers, config, builtOf_of_buildV1Transaction ht⟩
  refine Protocol.Follows.andThen
    (follows_attempt (fun _ => .send hb) fun e => ⟨_, .sendRefused hb, trivial, le_rfl⟩) ?_
  rintro signature _ rfl
  exact follows_confirm le_rfl

theorem fundedKeypair_advances (lamports : ℕ) :
    Advances 0 (fundedKeypair lamports : Async sdk V sdk.Keypair) := by
  intro n
  refine Protocol.Follows.andThen
    (follows_attempt (fun _ => .aside trivial) fun e => ⟨_, .aside trivial, trivial, le_rfl⟩) ?_
  rintro keypair _ rfl
  refine Protocol.Follows.andThen
    (follows_attempt (fun _ => .airdrop) fun e => ⟨_, .airdropRefused, trivial, le_rfl⟩) ?_
  rintro signature _ rfl
  refine Protocol.Follows.andThen
    (follows_attempt (fun _ => .date) fun e => ⟨_, .dateRefused, trivial, le_rfl⟩) ?_
  rintro lifetime _ rfl
  exact follows_confirm le_rfl

theorem send_advances (payer : sdk.Keypair) (input : sdk.InstructionPlan) :
    Advances 1 (send payer input : Async sdk V (String × sdk.Transaction)) := by
  intro n
  exact .ofExcept ⟨trivial, Nat.le_succ n⟩ fun signers _ =>
    sendV1Transaction_advances payer [input] signers {} n

theorem Advances.inTurn (h : Advances k d) :
    Ensures d fun t e => InTurn t ∧ t.countP isSend ≤ k ∧
      ∀ a, e = .returned a → t.countP isSend = k := by
  refine Ensures.mono (h 0) fun t e he => ?_
  obtain ⟨q, hq, he⟩ := he
  have hc : t.countP isSend = q.sent := hq.countP_add_eq fun _ _ _ => Turn.Step.sent_eq
  cases e with
  | returned a =>
    obtain rfl := he
    rw [Turn.sent, Nat.zero_add] at hc
    exact ⟨inTurn_of_runs hq trivial, hc.le, fun _ _ => hc⟩
  | threw x =>
    refine ⟨inTurn_of_runs hq he.1, hc.trans_le ?_, fun _ h => nomatch h⟩
    exact he.2.trans (Nat.zero_add k).le
  | pending =>
    refine ⟨inTurn_of_runs hq he.1, hc.trans_le ?_, fun _ h => nomatch h⟩
    exact he.2.trans (Nat.zero_add k).le

end Advances

section Landing

variable {payer : sdk.Keypair} {instructions : List sdk.InstructionPlan}
  {signers : List sdk.Signer} {config : V1TransactionConfig} {signature : String}
  {t t' : Transcript sdk V}

/-- A transaction was sent under the signature, and its confirmation came. -/
def Lands (payer : sdk.Keypair) (instructions : List sdk.InstructionPlan)
    (signers : List sdk.Signer) (config : V1TransactionConfig) (signature : String)
    (t : Transcript sdk V) : Prop :=
  ∃ lifetime transaction err,
    BuiltOf payer instructions signers config lifetime.blockhash transaction ∧
    ⟨.sendTransaction transaction, .ok signature⟩ ∈ t ∧
    ⟨.confirmTransaction lifetime signature, .ok err⟩ ∈ t

theorem Lands.mono (h : Lands payer instructions signers config signature t) (ht : t ⊆ t') :
    Lands payer instructions signers config signature t' := by
  obtain ⟨lifetime, transaction, err, hb, hsent, hconfirmed⟩ := h
  exact ⟨lifetime, transaction, err, hb, ht hsent, ht hconfirmed⟩

theorem returning_sendV1Transaction :
    Returning (fun r t => Lands payer instructions signers config r.1 t)
      (sendV1Transaction payer instructions signers config :
        Async sdk V (String × sdk.Transaction)) := by
  refine Returning.attempt.bind ?_
  rintro lifetime _ rfl
  refine Returning.ofExcept fun transaction ht => Returning.attempt.bind ?_
  rintro signature _ rfl
  refine Returning.attempt.bind ?_
  rintro err _ rfl
  exact Returning.returned
    ⟨lifetime, transaction, err, builtOf_of_buildV1Transaction ht, by simp, by simp⟩

end Landing

end TransactionV1.Web3

import TransactionV1.Feature
import TransactionV1.Foundations.Dialogue

/-! # Questions to a cluster

What the sending examples ask of their environment: the JSON-RPC requests, the waits
that their libraries do for them, and the clock, the timers and the random keys of the
machine they run on. Any answer may come, of the type its question has.
-/

namespace TransactionV1.Client

open Dialogue

/-- A signature and a blockhash, in the base58 text JSON-RPC carries. -/
abbrev Signature := String

abbrev Hash := String

structure SignatureStatus where
  slot : UInt64
  err : Option String
  confirmationStatus : Option String
  deriving DecidableEq

/-- What wakes a `select` on a context and a ticker. -/
inductive Wake where
  | done
  | tick
  deriving DecidableEq

inductive Encoding where
  | base64
  | json
  deriving DecidableEq

/-- What a client asks, with transactions in the form it sends them in. The library of a
client may airdrop, confirm, or send and confirm in one call, and may deliver a transaction
without naming it. -/
inductive Question (τ : Type) where
  | newWallet
  | getAccountInfo (address : String)
  | requestAirdrop (recipient : Address) (lamports : UInt64)
  | getLatestBlockhash
  | sendTransaction (transaction : τ)
  | airdrop (recipient : Address) (lamports : UInt64)
  | confirmTransaction (signature : Signature) (blockhash : Hash)
  | sendAndConfirmTransaction (transaction : τ)
  | deliverTransaction (transaction : τ)
  | getSignatureStatuses (signature : Signature) (searchTransactionHistory : Bool)
  | getTransaction (signature : Signature) (encoding : Encoding)
      (maxSupportedTransactionVersion : Option ℕ)
  | getBlock (slot : UInt64) (maxSupportedTransactionVersion : Option ℕ)
  | getMinimumBalanceForRentExemption (space : ℕ)
  | fetchNonce (account : Address)
  | ctxErr
  | select
  | now
  | sleep
  | println (text : String)

/-- The answers to each question, for wallets `ω`, fetched accounts `ρ`, transactions
`φ` and blocks `κ`, and errors `ε` of the client's language. -/
def Answer (ω ρ φ κ ε : Type) {τ : Type} : Question τ → Type
  | .newWallet => ω
  | .getAccountInfo _ => Except ε ρ
  | .requestAirdrop _ _ => Except ε Signature
  | .getLatestBlockhash => Except ε Hash
  | .sendTransaction _ => Except ε Signature
  | .airdrop _ _ => Except ε Signature
  | .confirmTransaction _ _ => Except ε Unit
  | .sendAndConfirmTransaction _ => Except ε Signature
  | .deliverTransaction _ => Except ε Unit
  | .getSignatureStatuses _ _ => Except ε (List (Option SignatureStatus))
  | .getTransaction _ _ _ => Except ε φ
  | .getBlock _ _ => Except ε κ
  | .getMinimumBalanceForRentExemption _ => Except ε UInt64
  | .fetchNonce _ => Except ε Hash
  | .ctxErr => Bool
  | .select => Wake
  | .now => ℚ
  | .sleep => Unit
  | .println _ => Unit

def Question.sent? {τ : Type} : Question τ → Option τ
  | .sendTransaction transaction | .sendAndConfirmTransaction transaction
  | .deliverTransaction transaction => some transaction
  | _ => none

/-- The `02x` of a byte. -/
def hexByte (byte : UInt8) : String :=
  String.ofList [Nat.digitChar (byte.toNat / 16), Nat.digitChar (byte.toNat % 16)]

section Calls

variable (ω ρ φ κ ε τ χ : Type)

/-- One question with its answer, and what was asked and answered in order. -/
abbrev Call := Exchange (Answer ω ρ φ κ ε : Question τ → Type)

abbrev Transcript := List (Call ω ρ φ κ ε τ)

/-- A program that talks to a cluster and throws errors of type `χ`. -/
abbrev Session (α : Type) := Dialogue (Question τ) (Answer ω ρ φ κ ε) χ α

variable {ω ρ φ κ ε τ χ}

/-! The single requests. -/

def newWallet : Session ω ρ φ κ ε τ χ ω := query Question.newWallet

def getAccountInfo (address : String) : Session ω ρ φ κ ε τ χ (Except ε ρ) :=
  query (Question.getAccountInfo address)

def requestAirdrop (recipient : Address) (lamports : UInt64) :
    Session ω ρ φ κ ε τ χ (Except ε Signature) := query (Question.requestAirdrop recipient lamports)

def getLatestBlockhash : Session ω ρ φ κ ε τ χ (Except ε Hash) := query Question.getLatestBlockhash

def sendTransaction (transaction : τ) : Session ω ρ φ κ ε τ χ (Except ε Signature) :=
  query (Question.sendTransaction transaction)

def airdrop (recipient : Address) (lamports : UInt64) :
    Session ω ρ φ κ ε τ χ (Except ε Signature) := query (Question.airdrop recipient lamports)

def confirmTransaction (signature : Signature) (blockhash : Hash) :
    Session ω ρ φ κ ε τ χ (Except ε Unit) := query (Question.confirmTransaction signature blockhash)

def sendAndConfirmTransaction (transaction : τ) : Session ω ρ φ κ ε τ χ (Except ε Signature) :=
  query (Question.sendAndConfirmTransaction transaction)

def deliverTransaction (transaction : τ) : Session ω ρ φ κ ε τ χ (Except ε Unit) :=
  query (Question.deliverTransaction transaction)

def getSignatureStatuses (signature : Signature) (searchTransactionHistory : Bool) :
    Session ω ρ φ κ ε τ χ (Except ε (List (Option SignatureStatus))) :=
  query (Question.getSignatureStatuses signature searchTransactionHistory)

def getTransaction (signature : Signature) (encoding : Encoding)
    (maxSupportedTransactionVersion : Option ℕ) : Session ω ρ φ κ ε τ χ (Except ε φ) :=
  query (Question.getTransaction signature encoding maxSupportedTransactionVersion)

def getBlock (slot : UInt64) (maxSupportedTransactionVersion : Option ℕ) :
    Session ω ρ φ κ ε τ χ (Except ε κ) :=
  query (Question.getBlock slot maxSupportedTransactionVersion)

def getMinimumBalanceForRentExemption (space : ℕ) : Session ω ρ φ κ ε τ χ (Except ε UInt64) :=
  query (Question.getMinimumBalanceForRentExemption space)

def fetchNonce (account : Address) : Session ω ρ φ κ ε τ χ (Except ε Hash) :=
  query (Question.fetchNonce account)

def ctxErr : Session ω ρ φ κ ε τ χ Bool := query Question.ctxErr

def select : Session ω ρ φ κ ε τ χ Wake := query Question.select

def now : Session ω ρ φ κ ε τ χ ℚ := query Question.now

def sleep : Session ω ρ φ κ ε τ χ Unit := query Question.sleep

def println (text : String) : Session ω ρ φ κ ε τ χ Unit := query (Question.println text)

/-! A request ensures what holds of every answer to it. -/

@[simp] theorem ensures_newWallet
    {post : Transcript ω ρ φ κ ε τ → Ending χ ω → Prop} :
    Ensures (newWallet : Session ω ρ φ κ ε τ χ ω) post ↔
      ∀ wallet, post [⟨.newWallet, wallet⟩] (.returned wallet) := ensures_query

@[simp] theorem ensures_getAccountInfo {address : String}
    {post : Transcript ω ρ φ κ ε τ → Ending χ (Except ε ρ) → Prop} :
    Ensures (getAccountInfo address : Session ω ρ φ κ ε τ χ (Except ε ρ)) post ↔
      ∀ answer, post [⟨.getAccountInfo address, answer⟩] (.returned answer) := ensures_query

@[simp] theorem ensures_requestAirdrop {recipient : Address} {lamports : UInt64}
    {post : Transcript ω ρ φ κ ε τ →
      Ending χ (Except ε Signature) → Prop} :
    Ensures (requestAirdrop recipient lamports : Session ω ρ φ κ ε τ χ (Except ε Signature)) post ↔
      ∀ answer, post [⟨.requestAirdrop recipient lamports, answer⟩] (.returned answer) :=
  ensures_query

@[simp] theorem ensures_getLatestBlockhash
    {post : Transcript ω ρ φ κ ε τ →
      Ending χ (Except ε Hash) → Prop} :
    Ensures (getLatestBlockhash : Session ω ρ φ κ ε τ χ (Except ε Hash)) post ↔
      ∀ answer, post [⟨.getLatestBlockhash, answer⟩] (.returned answer) := ensures_query

@[simp] theorem ensures_sendTransaction {transaction : τ}
    {post : Transcript ω ρ φ κ ε τ →
      Ending χ (Except ε Signature) → Prop} :
    Ensures (sendTransaction transaction : Session ω ρ φ κ ε τ χ (Except ε Signature)) post ↔
      ∀ answer, post [⟨.sendTransaction transaction, answer⟩] (.returned answer) := ensures_query

@[simp] theorem ensures_airdrop {recipient : Address} {lamports : UInt64}
    {post : Transcript ω ρ φ κ ε τ → Ending χ (Except ε Signature) → Prop} :
    Ensures (airdrop recipient lamports : Session ω ρ φ κ ε τ χ (Except ε Signature)) post ↔
      ∀ answer, post [⟨.airdrop recipient lamports, answer⟩] (.returned answer) := ensures_query

@[simp] theorem ensures_confirmTransaction {signature : Signature} {blockhash : Hash}
    {post : Transcript ω ρ φ κ ε τ → Ending χ (Except ε Unit) → Prop} :
    Ensures (confirmTransaction signature blockhash : Session ω ρ φ κ ε τ χ (Except ε Unit)) post ↔
      ∀ answer, post [⟨.confirmTransaction signature blockhash, answer⟩] (.returned answer) :=
  ensures_query

@[simp] theorem ensures_sendAndConfirmTransaction {transaction : τ}
    {post : Transcript ω ρ φ κ ε τ → Ending χ (Except ε Signature) → Prop} :
    Ensures (sendAndConfirmTransaction transaction : Session ω ρ φ κ ε τ χ (Except ε Signature))
      post ↔ ∀ answer, post [⟨.sendAndConfirmTransaction transaction, answer⟩] (.returned answer) :=
  ensures_query

@[simp] theorem ensures_deliverTransaction {transaction : τ}
    {post : Transcript ω ρ φ κ ε τ → Ending χ (Except ε Unit) → Prop} :
    Ensures (deliverTransaction transaction : Session ω ρ φ κ ε τ χ (Except ε Unit)) post ↔
      ∀ answer, post [⟨.deliverTransaction transaction, answer⟩] (.returned answer) := ensures_query

@[simp] theorem ensures_getSignatureStatuses {signature : Signature} {history : Bool}
    {post : Transcript ω ρ φ κ ε τ →
      Ending χ (Except ε (List (Option SignatureStatus))) → Prop} :
    Ensures (getSignatureStatuses signature history :
      Session ω ρ φ κ ε τ χ (Except ε (List (Option SignatureStatus)))) post ↔
      ∀ answer, post [⟨.getSignatureStatuses signature history, answer⟩] (.returned answer) :=
  ensures_query

@[simp] theorem ensures_getTransaction {signature : Signature} {encoding : Encoding}
    {version : Option ℕ}
    {post : Transcript ω ρ φ κ ε τ → Ending χ (Except ε φ) → Prop} :
    Ensures (getTransaction signature encoding version : Session ω ρ φ κ ε τ χ (Except ε φ)) post ↔
      ∀ answer, post [⟨.getTransaction signature encoding version, answer⟩] (.returned answer) :=
  ensures_query

@[simp] theorem ensures_ctxErr
    {post : Transcript ω ρ φ κ ε τ → Ending χ Bool → Prop} :
    Ensures (ctxErr : Session ω ρ φ κ ε τ χ Bool) post ↔
      ∀ failed, post [⟨.ctxErr, failed⟩] (.returned failed) := ensures_query

@[simp] theorem ensures_select
    {post : Transcript ω ρ φ κ ε τ → Ending χ Wake → Prop} :
    Ensures (select : Session ω ρ φ κ ε τ χ Wake) post ↔
      ∀ wake, post [⟨.select, wake⟩] (.returned wake) := ensures_query

@[simp] theorem ensures_now
    {post : Transcript ω ρ φ κ ε τ → Ending χ ℚ → Prop} :
    Ensures (now : Session ω ρ φ κ ε τ χ ℚ) post ↔
      ∀ time, post [⟨.now, time⟩] (.returned time) := ensures_query

@[simp] theorem ensures_sleep
    {post : Transcript ω ρ φ κ ε τ → Ending χ Unit → Prop} :
    Ensures (sleep : Session ω ρ φ κ ε τ χ Unit) post ↔ post [⟨.sleep, ()⟩] (.returned ()) :=
  ensures_query.trans ⟨fun h => h (), fun h _ => h⟩

@[simp] theorem ensures_println {text : String}
    {post : Transcript ω ρ φ κ ε τ → Ending χ Unit → Prop} :
    Ensures (println text : Session ω ρ φ κ ε τ χ Unit) post ↔
      post [⟨.println text, ()⟩] (.returned ()) :=
  ensures_query.trans ⟨fun h => h (), fun h _ => h⟩

end Calls

end TransactionV1.Client

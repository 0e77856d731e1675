import TransactionV1.Client.Agreement
import TransactionV1.Client.Rust
import TransactionV1.Client.TypeScript
import TransactionV1.Foundations.Assume

/-! # Transfers that go through

A cluster that is up accepts every request and fails no transaction. It may be some polls
late with a confirmation, but neither the deadline of a wait nor its minute runs out on it.
Every client's transfer then returns.
-/

namespace TransactionV1.Client

open Dialogue

section Promise

variable {ω ρ φ κ ε τ : Type}

def InMinuteFrom (start time : ℚ) : Prop := start ≤ time ∧ time < start + 60

/-- What a cluster that is up answers. The clock stays within a minute from `start`. -/
def Cooperates (usable : Hash → Prop) (start : ℚ) : Call ω ρ φ κ ε τ → Prop
  | ⟨.requestAirdrop _ _, answer⟩ => ∃ signature, answer = Except.ok signature
  | ⟨.getLatestBlockhash, answer⟩ => ∃ blockhash, answer = Except.ok blockhash ∧ usable blockhash
  | ⟨.sendTransaction _, answer⟩ => ∃ signature, answer = Except.ok signature
  | ⟨.airdrop _ _, answer⟩ => ∃ signature, answer = Except.ok signature
  | ⟨.confirmTransaction _ _, answer⟩ => answer = Except.ok ()
  | ⟨.sendAndConfirmTransaction _, answer⟩ => ∃ signature, answer = Except.ok signature
  | ⟨.deliverTransaction _, answer⟩ => answer = Except.ok ()
  | ⟨.getSignatureStatuses _ _, answer⟩ => ∃ status later, answer = Except.ok (status :: later) ∧
      ∀ s ∈ status, s.err = none
  | ⟨.select, wake⟩ => wake = Wake.tick
  | ⟨.now, time⟩ => InMinuteFrom start time
  | _ => True

/-- Such a cluster that has also seen every transaction it is asked for. -/
def CooperatesOnSeen (usable : Hash → Prop) (start : ℚ) (x : Call ω ρ φ κ ε τ) : Prop :=
  Cooperates usable start x ∧
    match x with
    | ⟨.getSignatureStatuses _ _, answer⟩ => (firstStatus answer).isSome
    | _ => True

def isUndecided : Call ω ρ φ κ ε τ → Bool
  | ⟨.getSignatureStatuses _ _, answer⟩ => (verdict answer).isNone
  | _ => false

variable {usable : Hash → Prop} {start : ℚ}

end Promise

end Client

namespace Go

open Dialogue Client

variable {sdk : Sdk} {usable : Hash → Prop} {start : ℚ} {late : Prop}

/-- The SDK builds and signs the transfer over every usable blockhash. -/
def Builds (sdk : Sdk) (usable : Hash → Prop) : Prop :=
  ∀ (payer : sdk.Wallet) recipient blockhash, usable blockhash →
    Fallible.Succeeds (buildV1Transfer payer recipient 10000000 blockhash exampleConfig)

end Go

namespace Python

open Dialogue Client

variable {sdk : Sdk} {usable : Client.Hash → Prop} {start : ℚ} {late : Prop}

/-- The SDK parses every usable blockhash, and compiles and signs the transfer over it. -/
def Builds (sdk : Sdk) (usable : Client.Hash → Prop) : Prop :=
  ∀ (payer : sdk.Keypair) recipient blockhash, usable blockhash →
    Fallible.Succeeds (do
      let hash ← sdk.hashFromString blockhash
      buildV1Transfer payer recipient 10000000 hash exampleConfig)

end Python

namespace Rust

open Dialogue Client

variable {sdk : Sdk} {usable : Hash → Prop} {start : ℚ}

/-- The SDK compiles and signs the transfer over every usable blockhash. -/
def Builds (sdk : Sdk) (usable : Hash → Prop) : Prop :=
  ∀ (payer : sdk.Keypair) recipient blockhash, usable blockhash →
    Fallible.Succeeds (buildV1Transfer payer recipient 10000000 blockhash exampleConfig)

end Rust

namespace TypeScript

open Dialogue Client

variable {sdk : Sdk} {usable : Hash → Prop} {start : ℚ}

/-- The SDK signs the transfer over every usable blockhash, and finds a signature in what it
has signed. -/
def Builds (sdk : Sdk) (usable : Hash → Prop) : Prop :=
  ∀ (payer : sdk.KeyPairSigner) recipient blockhash, usable blockhash →
    Fallible.Succeeds (do
      let transaction ← signWithBlockhash (transferMessage payer recipient blockhash)
      sdk.getSignatureFromTransaction transaction)

end TypeScript

namespace Client

open Dialogue

section Example

variable {ω ρ φ κ ε τ : Type}

/-- A cluster whose first answer about a signature settles nothing, and which confirms every
signature from then on. -/
def laggingCluster (wallet : ω) (account : ρ) (fetched : φ) (block : κ)
    (past : Transcript ω ρ φ κ ε τ) : (q : Question τ) → Answer ω ρ φ κ ε q
  | .newWallet => wallet
  | .getAccountInfo _ => .ok account
  | .requestAirdrop _ _ => .ok "s"
  | .getLatestBlockhash => .ok "h"
  | .sendTransaction _ => .ok "s"
  | .airdrop _ _ => .ok "s"
  | .confirmTransaction _ _ => .ok ()
  | .sendAndConfirmTransaction _ => .ok "s"
  | .deliverTransaction _ => .ok ()
  | .getSignatureStatuses _ _ =>
    .ok [some (if past.countP isUndecided = 0 then processedStatus else confirmedStatus)]
  | .getTransaction _ _ _ => .ok fetched
  | .getBlock _ _ => .ok block
  | .getMinimumBalanceForRentExemption _ => .ok 0
  | .fetchNonce _ => .ok "n"
  | .ctxErr => false
  | .select => .tick
  | .now => (0 : ℚ)
  | .sleep => ()
  | .println _ => ()

variable {wallet : ω} {account : ρ} {fetched : φ} {block : κ}

end Example

end Client

end TransactionV1

import TransactionV1.Client.Landing

/-! # Send one transaction and verify it

What the send-and-decode examples have in common: a gate, one transaction that lands,
and reads of it that verify what has landed.
-/

namespace TransactionV1.Client

open Dialogue

variable {ω ρ φ κ ε τ : Type} {built : Airdrop → Hash → τ → Prop}

/-- A check of an account that lets a client go on when the account passes. -/
def Gates {χ : Type} (address : String) (active : Except ε ρ → Prop)
    (t : Transcript ω ρ φ κ ε τ) (e : Ending χ Unit) : Prop :=
  ∃ answer, t = [⟨.getAccountInfo address, answer⟩] ∧
    (active answer ∧ e = .returned () ∨ ¬ active answer ∧ ∃ x, e = .threw x)

/-- What a client shows that sends one transaction behind a gate and reads it back: it asks
for the account first, and for nothing more unless the account passes. It sends safely, and
returns only when the transaction was sent and what is read back verifies it. -/
def SendsAndVerifies {χ α : Type} (built : Airdrop → Hash → τ → Prop) (address : String)
    (active : Except ε ρ → Prop) (sent verified : α → Transcript ω ρ φ κ ε τ → Prop)
    (t : Transcript ω ρ φ κ ε τ) (e : Ending χ Unit) : Prop :=
  ∃ answer rest, t = ⟨.getAccountInfo address, answer⟩ :: rest ∧
    (¬ active answer → rest = [] ∧ ∃ x, e = .threw x) ∧ SendsSafely built rest ∧
    (e = .returned () → ∃ a, sent a rest ∧ verified a rest)

theorem sendsAndVerifies {χ α : Type} {address : String} {active : Except ε ρ → Prop}
    {sent verified : α → Transcript ω ρ φ κ ε τ → Prop} (signature : α → Signature)
    {gate : Session ω ρ φ κ ε τ χ Unit} {send : Session ω ρ φ κ ε τ χ α}
    {readBack : α → Session ω ρ φ κ ε τ χ Unit} (hgate : Ensures gate (Gates address active))
    (hsend : Ensures send fun t e => ∃ q, Phase.Runs built .unfunded t q ∧ ∀ a, e = .returned a →
      q.HasLanded (signature a) ∧ sent a t)
    (hsent : ∀ a t t', sent a t → (∀ x ∈ t', ReadsBack (signature a) x) → sent a (t ++ t'))
    (hback : ∀ a, Only (ReadsBack (signature a)) (readBack a))
    (hverified : ∀ a, Returning (fun _ => verified a) (readBack a))
    (hright : ∀ a t t', verified a t' → verified a (t ++ t')) :
    Ensures (gate >>= fun _ => send >>= readBack)
      (SendsAndVerifies built address active sent verified) := by
  refine ensures_monad_bind.mpr (Ensures.mono hgate fun t e hg => ?_)
  obtain ⟨answer, rfl, ⟨ha, rfl⟩ | ⟨ha, x, rfl⟩⟩ := hg
  · refine ensures_monad_bind.mpr (Ensures.mono hsend fun t e he => ?_)
    obtain ⟨q, hq, hs⟩ := he
    cases e with
    | returned a =>
      obtain ⟨hl, hs⟩ := hs a rfl
      refine Ensures.mono ((hback a).and (hverified a)) fun t' e' ht => ?_
      refine ⟨answer, t ++ t', rfl, fun h => absurd ha h,
        sendsSafely_of_runs (hq.append (Phase.runs_of_readsBack hl ht.1)), ?_⟩
      rintro rfl
      exact ⟨a, hsent a t t' hs ht.1, hright a t t' (ht.2 () rfl)⟩
    | threw x =>
      exact ⟨answer, t, rfl, fun h => absurd ha h, sendsSafely_of_runs hq, fun h => nomatch h⟩
    | pending =>
      exact ⟨answer, t, rfl, fun h => absurd ha h, sendsSafely_of_runs hq, fun h => nomatch h⟩
  · exact ⟨answer, [], rfl, fun _ => ⟨rfl, x, rfl⟩, sendsSafely_of_runs .nil, fun h => nomatch h⟩

end TransactionV1.Client

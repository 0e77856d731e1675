import TransactionV1.Client.Go
import TransactionV1.Client.Python

/-! # The clients wait alike

The Go and the Python client poll a signature with requests, timers and errors of
their own. On the same answers about the signature both come to the same.
-/

namespace TransactionV1.Client

open Dialogue

variable {ω ρ φ κ ε τ χ α : Type}

/-- What the answers about signatures in a conversation settle, one after the other. -/
def verdicts (t : Transcript ω ρ φ κ ε τ) :
    List (Option (Except String SignatureStatus)) :=
  t.filterMap fun x => match x with
    | ⟨.getSignatureStatuses _ _, answer⟩ => some (verdict answer)
    | _ => none

def Report.ending (report : Report χ α) : Except String SignatureStatus → Ending χ α
  | .ok status => .returned (report.value status)
  | .error err => .threw (report.failed err)

section Verdicts

variable {signature : Signature} {report : Report χ α} {v : Except String SignatureStatus}
  {t : Transcript ω ρ φ κ ε τ}

theorem findSome?_verdicts_of_undecided (h : ∀ x ∈ t, Undecided signature x) :
    (verdicts t).findSome? id = none := by
  rw [List.findSome?_eq_none_iff]
  intro v hv
  obtain ⟨x, hx, hxv⟩ := List.mem_filterMap.mp hv
  have hu := h x hx
  obtain ⟨question, answer⟩ := x
  cases question with
  | getSignatureStatuses s history => exact (Option.some.inj hxv).symm.trans hu.2
  | _ => cases hxv

theorem findSome?_verdicts_of_settles (h : Settles signature v t) :
    (verdicts t).findSome? id = some v := by
  obtain ⟨before, history, answer, rfl, hb, hv⟩ := h
  have hl : verdicts [(⟨.getSignatureStatuses signature history, answer⟩ :
      Call ω ρ φ κ ε τ)] = [some v] := by
    rw [← hv]
    rfl
  have ha := findSome?_verdicts_of_undecided hb
  rw [verdicts] at ha hl ⊢
  rw [List.filterMap_append, List.findSome?_append, ha, hl]
  rfl

theorem Waited.eq_ending {e : Ending χ α} (h : Waited report signature t e)
    (hv : (verdicts t).findSome? id = some v) : e = report.ending v := by
  cases e with
  | returned a =>
    obtain ⟨status, hs, rfl⟩ := h
    rw [findSome?_verdicts_of_settles hs] at hv
    obtain rfl := Option.some.inj hv
    rfl
  | threw x =>
    rcases h with ⟨err, hs, rfl⟩ | ⟨hu, -⟩
    · rw [findSome?_verdicts_of_settles hs] at hv
      obtain rfl := Option.some.inj hv
      rfl
    · rw [findSome?_verdicts_of_undecided hu] at hv
      cases hv
  | pending =>
    rw [findSome?_verdicts_of_undecided h] at hv
    cases hv

end Verdicts

/-- Where the answers about a signature that one client gets are those the other gets,
as far as each goes, and neither gives up before one settles it, both waits end as the
same answer says: `WaitForConfirmation` with the slot of the status `confirm_transaction`
returns, or both with the error of the transaction. -/
theorem waits_agree {go : Go.Sdk} {python : Python.Sdk} {rounds rounds' : ℕ}
    {signature : Signature}
    {t : Go.Transcript go} {e : Ending String UInt64}
    {t' : Python.Transcript python} {e' : Ending Python.Raised SignatureStatus}
    (h : Conversation (Go.waitForConfirmation rounds signature : Go.Rpc go UInt64) t e)
    (h' : Conversation (Python.confirmTransaction rounds' signature :
      Python.Rpc python SignatureStatus) t' e')
    (hp : verdicts t <+: verdicts t' ∨ verdicts t' <+: verdicts t)
    (hs : ∃ v ∈ verdicts t, v.isSome) (hs' : ∃ v ∈ verdicts t', v.isSome) :
    ∃ v, e = (Go.confirmation signature).ending v ∧
      e' = (Python.confirmation signature).ending v := by
  obtain ⟨v, hv⟩ : ∃ v, (verdicts t).findSome? id = some v :=
    Option.isSome_iff_exists.mp (List.findSome?_isSome_iff.mpr hs)
  obtain ⟨v', hv'⟩ : ∃ v', (verdicts t').findSome? id = some v' :=
    Option.isSome_iff_exists.mp (List.findSome?_isSome_iff.mpr hs')
  have he := (Go.waitForConfirmation_waited rounds signature t e h).eq_ending hv
  have he' := (Python.confirmTransaction_waited rounds' signature t' e' h').eq_ending hv'
  have hvv : v = v' := by
    rcases hp with hp | hp
    · exact Option.some.inj ((hp.findSome?_eq_some hv).symm.trans hv')
    · exact Option.some.inj (hv.symm.trans (hp.findSome?_eq_some hv'))
  exact ⟨v, he, hvv ▸ he'⟩

section Example

def confirmedStatus : SignatureStatus where
  slot := 7
  err := none
  confirmationStatus := some "confirmed"

/-- A transaction that the cluster has seen and not confirmed yet. -/
def processedStatus : SignatureStatus where
  slot := 7
  err := none
  confirmationStatus := some "processed"

/-- Both clients wait through a failed or empty answer and a status that settles nothing. -/
theorem waits_agree_of_confirmedStatus :
    ∃ v, (Ending.returned 7 : Ending String UInt64) = (Go.confirmation "s").ending v ∧
      (Ending.returned confirmedStatus : Ending Python.Raised SignatureStatus) =
        (Python.confirmation "s").ending v := by
  have h : Conversation (Go.waitForConfirmation 5 "s" : Go.Rpc Go.trivialSdk UInt64)
      [⟨.getSignatureStatuses "s" true, Except.error (.other "timeout")⟩, ⟨.ctxErr, true⟩,
        ⟨.select, .tick⟩,
        ⟨.getSignatureStatuses "s" true, Except.ok [some processedStatus]⟩, ⟨.select, .tick⟩,
        ⟨.getSignatureStatuses "s" true, Except.ok [some confirmedStatus]⟩] (.returned 7) :=
    .ask (.ask (.ask (.ask (.ask (.ask (.returned 7))))))
  have h' : Conversation (Python.confirmTransaction 5 "s" :
      Python.Rpc Python.trivialSdk SignatureStatus)
      [⟨.now, (0 : ℚ)⟩, ⟨.now, (1 : ℚ)⟩, ⟨.getSignatureStatuses "s" false, Except.ok [none]⟩,
        ⟨.sleep, ()⟩, ⟨.now, (2 : ℚ)⟩,
        ⟨.getSignatureStatuses "s" false, Except.ok [some processedStatus]⟩, ⟨.sleep, ()⟩,
        ⟨.now, (3 : ℚ)⟩, ⟨.getSignatureStatuses "s" false, Except.ok [some confirmedStatus]⟩]
      (.returned confirmedStatus) := by
    have h1 : (1 : ℚ) < 0 + 60 := by norm_num
    have h2 : (2 : ℚ) < 0 + 60 := by norm_num
    have h3 : (3 : ℚ) < 0 + 60 := by norm_num
    refine .ask (.ask ?_)
    simp only [Dialogue.bind, if_pos h1]
    refine .ask (.ask (.ask ?_))
    simp only [Dialogue.bind, if_pos h2]
    refine .ask (.ask (.ask ?_))
    simp only [Dialogue.bind, if_pos h3]
    exact .ask (.returned confirmedStatus)
  exact waits_agree h h' (Or.inl (List.prefix_refl _)) ⟨some (.ok confirmedStatus), by decide, rfl⟩
    ⟨some (.ok confirmedStatus), by decide, rfl⟩

end Example

end TransactionV1.Client

import TransactionV1.Budget.Carried
import TransactionV1.Budget.Go

/-! # ComputeBudget instructions with nothing readable

The scans skip empty data and unknown discriminants. An operand that is too
short clears its slot instead, which shows unless the slot was empty anyway or a
later instruction sets it.
-/

namespace TransactionV1

/-- The data holds no readable operand: it is empty, carries no slot, or its
operand is shorter than the field. -/
def CarriesNothing (data : Bytes) : Prop := ∀ slot, Carries slot data → operand? slot data = none

/-- Between the data of earlier and of later instructions, the data leaves no
trace: the slot it carries, if any, is set again later, or the last instruction
that carried it earlier, if any, held nothing readable either. -/
def LeavesNoTrace (earlier later : List Bytes) (data : Bytes) : Prop :=
  ∀ slot, Carries slot data →
    (∃ d ∈ later, Carries slot d) ∨ ∀ d ∈ lastCarrying? slot earlier, operand? slot d = none

theorem slotsOf_eq_none_iff {data : List Bytes} {slot : Slot} :
    slotsOf data slot = none ↔ ∀ d ∈ lastCarrying? slot data, operand? slot d = none := by
  rw [slotsOf_apply, Option.bind_eq_none_iff]
  rfl

section Insertion

variable {d : Bytes} (earlier later : List Bytes)

theorem slotsOf_insert_of_carriesNothing (hd : CarriesNothing d) (slot : Slot) :
    slotsOf (earlier ++ d :: later) slot = none ∨
      slotsOf (earlier ++ d :: later) slot = slotsOf (earlier ++ later) slot := by
  rw [slotsOf_insert_apply]
  split_ifs with h
  · exact Or.inl (hd slot h.1)
  · exact Or.inr rfl

/-- Inserting data that holds nothing readable leaves the slots alone exactly when
it leaves no trace. -/
theorem slotsOf_insert_eq_iff (hd : CarriesNothing d) :
    slotsOf (earlier ++ d :: later) = slotsOf (earlier ++ later) ↔
      LeavesNoTrace earlier later d := by
  rw [funext_iff]
  refine forall_congr' fun slot => ?_
  rw [slotsOf_insert_apply]
  split_ifs with h
  · obtain ⟨hc, hl⟩ := h
    have hx : ¬ ∃ d' ∈ later, Carries slot d' := by simpa using hl
    rw [hd slot hc, slotsOf_append_apply, if_neg hx, eq_comm, slotsOf_eq_none_iff]
    simp [hc, hx]
  · refine iff_of_true rfl fun hc => Or.inl ?_
    simpa [hc] using h

end Insertion

/-- Budgets whose slots differ only where the first are empty are equal exactly when
the slots are. -/
theorem Budget.ofSlots_inj {clip : ℕ → ℕ} {slots slots' : Slot → Option ℕ} {n : ℕ}
    (h : ∀ slot, slots slot = none ∨ slots slot = slots' slot) :
    Budget.ofSlots clip slots n = Budget.ofSlots clip slots' n ↔ slots = slots' := by
  constructor
  · intro he
    obtain ⟨h1, h2, h3, h4⟩ := Budget.mk.injEq .. ▸ he
    ext slot : 1
    cases slot with
    | heapSize => exact h2
    | computeUnitLimit => exact h1
    | loadedAccountsDataSizeLimit => exact h3
    | computeUnitPrice =>
      rcases h .computeUnitPrice with hn | hs
      · rw [hn, Option.map_none, eq_comm, Option.map_eq_none_iff] at h4
        rw [hn, h4]
      · exact hs
  · rintro rfl
    rfl

theorem Go.ofRustBudget_injective : Function.Injective Go.ofRustBudget := by
  rintro ⟨a, b, c, d⟩ ⟨a', b', c', d'⟩ h
  simp only [Go.ofRustBudget, TransactionConfig.mk.injEq] at h
  obtain ⟨rfl, rfl, rfl, rfl⟩ := h
  rfl

section Replacement

variable (sdk : Go.SolanaGo) (computeBudgetId : Address) (message : Message)
  (earlier later : List CompiledInstruction) {instruction other : CompiledInstruction}

theorem rust_replace_eq_iff (hc : message.config = none)
    (hi : AddressedTo computeBudgetId message.accountKeys instruction)
    (hd : CarriesNothing instruction.data)
    (ho : ¬ AddressedTo computeBudgetId message.accountKeys other) :
    Rust.ComputeBudget.ofMessage computeBudgetId
        { message with instructions := earlier ++ instruction :: later } =
      Rust.ComputeBudget.ofMessage computeBudgetId
        { message with instructions := earlier ++ other :: later } ↔
      LeavesNoTrace (computeBudgetData computeBudgetId { message with instructions := earlier })
        (computeBudgetData computeBudgetId { message with instructions := later })
        instruction.data := by
  have hl : (earlier ++ instruction :: later).length = (earlier ++ other :: later).length := by
    simp
  have hm : ∀ is, Rust.ComputeBudget.ofMessage computeBudgetId { message with instructions := is } =
      Rust.ComputeBudget.fromInstructions computeBudgetId { message with instructions := is } :=
    fun is => Rust.ComputeBudget.ofMessage_of_config_eq_none computeBudgetId hc
  rw [hm, hm, ← Rust.ComputeBudget.toBudget_injective.eq_iff,
    Rust.ComputeBudget.toBudget_fromInstructions, Rust.ComputeBudget.toBudget_fromInstructions,
    computeBudgetData_of_addressedTo computeBudgetId message earlier later hi,
    computeBudgetData_of_not_addressedTo computeBudgetId message earlier later ho, hl,
    Budget.ofSlots_inj (slotsOf_insert_of_carriesNothing _ _ hd), slotsOf_insert_eq_iff _ _ hd]

theorem go_replace_eq_iff
    (hb : Message.Bounded { message with instructions := earlier ++ instruction :: later }) :
    Go.budgetOfMessage sdk computeBudgetId
        { message with instructions := earlier ++ instruction :: later } =
      Go.budgetOfMessage sdk computeBudgetId
        { message with instructions := earlier ++ other :: later } ↔
      Rust.ComputeBudget.ofMessage computeBudgetId
          { message with instructions := earlier ++ instruction :: later } =
        Rust.ComputeBudget.ofMessage computeBudgetId
          { message with instructions := earlier ++ other :: later } := by
  have hb' : Message.Bounded { message with instructions := earlier ++ other :: later } :=
    ⟨hb.accountKeys_lt, by simpa using hb.instructions_lt⟩
  rw [Go.budgetOfMessage_eq sdk computeBudgetId hb, Go.budgetOfMessage_eq sdk computeBudgetId hb',
    Except.ok.injEq, Go.ofRustBudget_injective.eq_iff]

/-- Replacing an instruction that holds nothing readable by one of another program
leaves the budgets alone exactly when the instruction leaves no trace. -/
theorem replace_eq_iff (hc : message.config = none)
    (hi : AddressedTo computeBudgetId message.accountKeys instruction)
    (hd : CarriesNothing instruction.data)
    (ho : ¬ AddressedTo computeBudgetId message.accountKeys other) :
    (Rust.ComputeBudget.ofMessage computeBudgetId
          { message with instructions := earlier ++ instruction :: later } =
        Rust.ComputeBudget.ofMessage computeBudgetId
          { message with instructions := earlier ++ other :: later } ↔
      LeavesNoTrace (computeBudgetData computeBudgetId { message with instructions := earlier })
        (computeBudgetData computeBudgetId { message with instructions := later })
        instruction.data) ∧
    (Message.Bounded { message with instructions := earlier ++ instruction :: later } →
      (Go.budgetOfMessage sdk computeBudgetId
            { message with instructions := earlier ++ instruction :: later } =
          Go.budgetOfMessage sdk computeBudgetId
            { message with instructions := earlier ++ other :: later } ↔
        LeavesNoTrace (computeBudgetData computeBudgetId { message with instructions := earlier })
          (computeBudgetData computeBudgetId { message with instructions := later })
          instruction.data)) := by
  have hr := rust_replace_eq_iff computeBudgetId message earlier later hc hi hd ho
  exact ⟨hr, fun hb => (go_replace_eq_iff sdk computeBudgetId message earlier later hb).trans hr⟩

end Replacement

section Truncated

/-! A limit of 10000 followed by a limit instruction cut short, and the same
message with an instruction of another program in its place. -/

def truncatedMessage (last : CompiledInstruction) : Message where
  accountKeys := [Address.computeBudget.bytes, List.replicate 32 5]
  instructions := [⟨0, [], [2, 16, 39, 0, 0]⟩] ++ last :: []

/-- The truncated instruction holds nothing readable and discards the limit. -/
theorem truncated_discards :
    AddressedTo .computeBudget (truncatedMessage ⟨0, [], [2, 1]⟩).accountKeys ⟨0, [], [2, 1]⟩ ∧
      CarriesNothing [2, 1] ∧
      ¬ AddressedTo .computeBudget (truncatedMessage ⟨1, [], []⟩).accountKeys ⟨1, [], []⟩ ∧
      (Rust.ComputeBudget.ofMessage .computeBudget
        (truncatedMessage ⟨0, [], [2, 1]⟩)).computeUnitLimit = none ∧
      (Rust.ComputeBudget.ofMessage .computeBudget
        (truncatedMessage ⟨1, [], []⟩)).computeUnitLimit = some 10000 ∧
      Go.budgetOfMessage .copying .computeBudget (truncatedMessage ⟨0, [], [2, 1]⟩) ≠
        Go.budgetOfMessage .copying .computeBudget (truncatedMessage ⟨1, [], []⟩) := by
  have hn : (Rust.ComputeBudget.ofMessage .computeBudget
      (truncatedMessage ⟨0, [], [2, 1]⟩)).computeUnitLimit = none := by decide
  have hs : (Rust.ComputeBudget.ofMessage .computeBudget
      (truncatedMessage ⟨1, [], []⟩)).computeUnitLimit = some 10000 := by decide
  refine ⟨by decide, fun slot => by cases slot <;> decide, by decide, hn, hs, ?_⟩
  intro he
  have hr := congrArg Rust.ComputeBudget.computeUnitLimit ((go_replace_eq_iff .copying
    .computeBudget (truncatedMessage ⟨0, [], []⟩) _ _ ⟨by decide, by decide⟩).mp he)
  cases hn.symm.trans (hr.trans hs)

theorem replace_eq_iff_of_truncated :
    (Rust.ComputeBudget.ofMessage .computeBudget (truncatedMessage ⟨0, [], [2, 1]⟩) =
        Rust.ComputeBudget.ofMessage .computeBudget (truncatedMessage ⟨1, [], []⟩) ↔
      LeavesNoTrace [[2, 16, 39, 0, 0]] [] [2, 1]) ∧
    (Go.budgetOfMessage .copying .computeBudget (truncatedMessage ⟨0, [], [2, 1]⟩) =
        Go.budgetOfMessage .copying .computeBudget (truncatedMessage ⟨1, [], []⟩) ↔
      LeavesNoTrace [[2, 16, 39, 0, 0]] [] [2, 1]) := by
  have hd : CarriesNothing [2, 1] := fun slot => by cases slot <;> decide
  have hb : (truncatedMessage ⟨0, [], [2, 1]⟩).Bounded := ⟨by decide, by decide⟩
  have hi : AddressedTo .computeBudget (truncatedMessage ⟨0, [], []⟩).accountKeys
      ⟨0, [], [2, 1]⟩ := by decide
  have ho : ¬ AddressedTo .computeBudget (truncatedMessage ⟨0, [], []⟩).accountKeys
      ⟨1, [], []⟩ := by decide
  obtain ⟨hrust, hgo⟩ := replace_eq_iff .copying .computeBudget (truncatedMessage ⟨0, [], []⟩)
    [⟨0, [], [2, 16, 39, 0, 0]⟩] [] rfl hi hd ho
  exact ⟨hrust, hgo hb⟩

end Truncated

end TransactionV1

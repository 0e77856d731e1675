import TransactionV1.Budget.Carried
import TransactionV1.Budget.Rust

/-! # The order of instructions

Two orders of the same instructions state the same budget as soon as they list
the ComputeBudget instructions of each discriminant alike.
-/

namespace TransactionV1

/-- The ComputeBudget instructions of a list that carry the slot. -/
def carrying (computeBudgetId : Address) (accountKeys : List Bytes) (slot : Slot)
    (instructions : List CompiledInstruction) : List CompiledInstruction :=
  instructions.filter fun instruction =>
    AddressedTo computeBudgetId accountKeys instruction ∧ Carries slot instruction.data

section Order

variable (computeBudgetId : Address) {message : Message} {instructions : List CompiledInstruction}

theorem filter_carries_computeBudgetData (slot : Slot) (message : Message) :
    (computeBudgetData computeBudgetId message).filter (Carries slot) =
      (carrying computeBudgetId message.accountKeys slot message.instructions).map (·.data) := by
  rw [computeBudgetData, List.filter_map, List.filter_filter, carrying]
  congr 1
  apply List.filter_congr
  intro instruction _
  simp [Bool.and_comm]

theorem slotsOf_eq_of_carrying_eq
    (h : ∀ slot, carrying computeBudgetId message.accountKeys slot instructions =
      carrying computeBudgetId message.accountKeys slot message.instructions) :
    slotsOf (computeBudgetData computeBudgetId { message with instructions := instructions }) =
      slotsOf (computeBudgetData computeBudgetId message) := by
  apply slotsOf_congr
  intro slot
  rw [filter_carries_computeBudgetData, filter_carries_computeBudgetData, h]

theorem fromInstructions_eq_of_carrying_eq (hp : instructions.Perm message.instructions)
    (h : ∀ slot, carrying computeBudgetId message.accountKeys slot instructions =
      carrying computeBudgetId message.accountKeys slot message.instructions) :
    Rust.ComputeBudget.fromInstructions computeBudgetId
        { message with instructions := instructions } =
      Rust.ComputeBudget.fromInstructions computeBudgetId message := by
  apply Rust.ComputeBudget.toBudget_injective
  rw [Rust.ComputeBudget.toBudget_fromInstructions, Rust.ComputeBudget.toBudget_fromInstructions,
    slotsOf_eq_of_carrying_eq computeBudgetId h, hp.length_eq]

/-- A permutation cannot reorder the instructions of a slot when there is at most one. -/
theorem carrying_eq_of_perm (hp : instructions.Perm message.instructions) {slot : Slot}
    (h : (carrying computeBudgetId message.accountKeys slot message.instructions).length ≤ 1) :
    carrying computeBudgetId message.accountKeys slot instructions =
      carrying computeBudgetId message.accountKeys slot message.instructions := by
  have hf : (carrying computeBudgetId message.accountKeys slot instructions).Perm
      (carrying computeBudgetId message.accountKeys slot message.instructions) := hp.filter _
  rcases Nat.le_one_iff_eq_zero_or_eq_one.mp h with h0 | h1
  · rw [List.length_eq_zero_iff.mp h0] at hf ⊢
    exact hf.eq_nil
  · obtain ⟨instruction, hi⟩ := List.length_eq_one_iff.mp h1
    rw [hi] at hf ⊢
    exact hf.eq_singleton

/-- A permutation that keeps the order of the instructions of each slot keeps the
budget, and so does every permutation when no slot is set twice. -/
theorem ofMessage_eq_of_perm (hc : message.config = none)
    (hp : instructions.Perm message.instructions)
    (h : (∀ slot, carrying computeBudgetId message.accountKeys slot instructions =
        carrying computeBudgetId message.accountKeys slot message.instructions) ∨
      ∀ slot, (carrying computeBudgetId message.accountKeys slot message.instructions).length ≤ 1) :
    Rust.ComputeBudget.ofMessage computeBudgetId { message with instructions := instructions } =
      Rust.ComputeBudget.ofMessage computeBudgetId message := by
  have hc' : { message with instructions := instructions }.config = none := hc
  rw [Rust.ComputeBudget.ofMessage_of_config_eq_none computeBudgetId hc,
    Rust.ComputeBudget.ofMessage_of_config_eq_none computeBudgetId hc']
  apply fromInstructions_eq_of_carrying_eq computeBudgetId hp
  rcases h with h | h
  · exact h
  · exact fun slot => carrying_eq_of_perm computeBudgetId hp (h slot)

end Order

/-- At a price that moves before the limit, two limits in order, a truncated
operand, an unknown discriminant and an instruction of another program. -/
theorem ofMessage_eq_of_perm_of_swapped :
    let message : Message :=
      { accountKeys := [Address.computeBudget.bytes, []]
        instructions := [⟨0, [], [2, 1, 0, 0, 0]⟩, ⟨0, [], [1, 7]⟩, ⟨0, [], [2, 2, 0, 0, 0]⟩,
          ⟨0, [], [3, 64, 66, 15, 0, 0, 0, 0, 0]⟩, ⟨1, [], [2]⟩, ⟨0, [], [9]⟩] }
    Rust.ComputeBudget.ofMessage .computeBudget
        { message with
          instructions := [⟨0, [], [3, 64, 66, 15, 0, 0, 0, 0, 0]⟩, ⟨0, [], [9]⟩,
            ⟨0, [], [2, 1, 0, 0, 0]⟩, ⟨1, [], [2]⟩, ⟨0, [], [2, 2, 0, 0, 0]⟩, ⟨0, [], [1, 7]⟩] } =
      Rust.ComputeBudget.ofMessage .computeBudget message := by
  intro message
  apply ofMessage_eq_of_perm .computeBudget rfl (by decide)
  exact Or.inl fun slot => by cases slot <;> decide

end TransactionV1

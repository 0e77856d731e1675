import TransactionV1.Budget.Rust

/-! # Instructions and configs say the same

A choice of budget written into ComputeBudget instructions, one per field, and
the same choice written into a v1 config. The Rust accessor reads one budget
from both, wherever the instructions stand.
-/

namespace TransactionV1

/-- A choice of the four quantities, as a sender of a legacy or v0 transaction makes it. -/
structure BudgetChoice where
  computeUnitLimit : Option UInt32
  heapSize : Option UInt32
  loadedAccountsDataSizeLimit : Option UInt32
  priceMicroLamportsPerCu : Option UInt64
  deriving DecidableEq

namespace BudgetChoice

def slots (choice : BudgetChoice) : Slot → Option ℕ
  | .heapSize => choice.heapSize.map UInt32.toNat
  | .computeUnitLimit => choice.computeUnitLimit.map UInt32.toNat
  | .computeUnitPrice => choice.priceMicroLamportsPerCu.map UInt64.toNat
  | .loadedAccountsDataSizeLimit => choice.loadedAccountsDataSizeLimit.map UInt32.toNat

/-- The data of the instruction that sets a slot, with what follows the operand. -/
def instructionData (trailing : Slot → Bytes) (slot : Slot) (n : ℕ) : Bytes :=
  slot.discriminant :: (LittleEndian.encode slot.width n ++ trailing slot)

def instructionsData (choice : BudgetChoice) (trailing : Slot → Bytes) : List Bytes :=
  Slot.all.filterMap fun slot => (choice.slots slot).map (instructionData trailing slot)

def limit (choice : BudgetChoice) (instructionCount : ℕ) : ℕ :=
  (choice.computeUnitLimit.map UInt32.toNat).getD (min (200000 * instructionCount) 1400000)

/-- The v1 config that states the same limits and the total fee. -/
def config (choice : BudgetChoice) (instructionCount : ℕ) : TransactionConfig where
  priorityFee := choice.priceMicroLamportsPerCu.map fun price =>
    UInt64.ofNat ((choice.limit instructionCount * price.toNat) ⌈/⌉ 1000000)
  computeUnitLimit := choice.computeUnitLimit
  loadedAccountsDataSizeLimit := choice.loadedAccountsDataSizeLimit
  heapSize := choice.heapSize

theorem slots_lt {choice : BudgetChoice} {slot : Slot} {n : ℕ}
    (h : choice.slots slot = some n) : n < 256 ^ slot.width := by
  cases slot with
  | computeUnitPrice =>
    obtain ⟨price, -, rfl⟩ := Option.map_eq_some_iff.mp h
    exact price.toNat_lt
  | heapSize | computeUnitLimit | loadedAccountsDataSizeLimit =>
    obtain ⟨value, -, rfl⟩ := Option.map_eq_some_iff.mp h
    exact value.toNat_lt

theorem writeOf_instructionData {slot : Slot} {n : ℕ} (h : n < 256 ^ slot.width)
    (trailing : Slot → Bytes) :
    writeOf (instructionData trailing slot n) = some (slot, some n) := by
  rw [instructionData, writeOf, Slot.ofDiscriminant?_discriminant, Option.map_some,
    LittleEndian.read?_encode_append h]

theorem filterMap_writeOf_instructionsData (choice : BudgetChoice) (trailing : Slot → Bytes) :
    (choice.instructionsData trailing).filterMap writeOf =
      LastWrite.store (fun slot => (choice.slots slot).map some) Slot.all := by
  rw [instructionsData, LastWrite.store, List.filterMap_filterMap]
  refine List.filterMap_congr fun slot _ => ?_
  cases h : choice.slots slot with
  | none => rfl
  | some n =>
    rw [Option.map_some, Option.bind_some, writeOf_instructionData (slots_lt h)]
    rfl

theorem slotsOf_of_perm {choice : BudgetChoice} {trailing : Slot → Bytes} {data : List Bytes}
    (h : data.Perm (choice.instructionsData trailing)) : slotsOf data = choice.slots := by
  have hp := h.filterMap writeOf
  rw [filterMap_writeOf_instructionsData] at hp
  ext slot : 1
  rw [slotsOf, LastWrite.run_perm _ hp ((hp.map Prod.fst).nodup_iff.mpr
    (LastWrite.nodup_store _ Slot.nodup_all)), LastWrite.run_store_apply,
    if_pos (Slot.mem_all slot)]
  cases choice.slots slot <;> rfl

theorem effectiveLimit_slots (choice : BudgetChoice) (instructionCount : ℕ) :
    effectiveLimit choice.slots instructionCount = choice.limit instructionCount := rfl

end BudgetChoice

open BudgetChoice in
/-- A message that carries one instruction per chosen field, in any order and
among any other instructions, has the budget of a v1 message with the same limits
and the fee in whole lamports. -/
theorem ofMessage_instructions_eq_config (computeBudgetId : Address) (choice : BudgetChoice)
    (trailing : Slot → Bytes) {message v1Message : Message} (hc : message.config = none)
    (hd : (computeBudgetData computeBudgetId message).Perm (choice.instructionsData trailing))
    (hL : ∀ price ∈ choice.priceMicroLamportsPerCu,
      choice.limit message.instructions.length * price.toNat < 2 ^ 64)
    (hv : v1Message.config = some (choice.config message.instructions.length)) :
    Rust.ComputeBudget.ofMessage computeBudgetId message =
      Rust.ComputeBudget.ofMessage computeBudgetId v1Message := by
  apply Rust.ComputeBudget.toBudget_injective
  rw [Rust.ComputeBudget.ofMessage_of_config_eq_none computeBudgetId hc,
    Rust.ComputeBudget.toBudget_fromInstructions, slotsOf_of_perm hd,
    Rust.ComputeBudget.ofMessage_of_config_isSome computeBudgetId (by rw [hv]; rfl)]
  simp only [Rust.ComputeBudget.fromConfig, hv]
  refine Budget.ext rfl rfl rfl ?_
  simp only [Budget.ofSlots, Rust.ComputeBudget.toBudget, config, slots, Option.map_map]
  refine Option.map_congr fun price hp => ?_
  have hlt := hL price hp
  have hle := Accumulation.ceilDiv_le_self (choice.limit message.instructions.length * price.toNat)
    (b := 1000000) (by decide)
  rw [Function.comp_apply, Function.comp_apply, effectiveLimit_slots, Rust.clip,
    min_eq_left (by omega), UInt64.toNat_ofNat_of_lt' (lt_of_le_of_lt hle hlt)]

theorem ofMessage_instructions_eq_config_of_interleaved :
    Rust.ComputeBudget.ofMessage .computeBudget
        { accountKeys := [List.replicate 32 0, Address.computeBudget.bytes]
          instructions := [⟨1, [], [3, 16, 39, 0, 0, 0, 0, 0, 0]⟩, ⟨0, [], [2, 1, 0, 0, 0]⟩,
            ⟨1, [], [2, 32, 78, 0, 0, 255]⟩]
          versioned := true } =
      Rust.ComputeBudget.ofMessage .computeBudget
        { config := some (BudgetChoice.config ⟨some 20000, none, none, some 10000⟩ 3) } :=
  ofMessage_instructions_eq_config .computeBudget ⟨some 20000, none, none, some 10000⟩
    (fun slot => if slot = .computeUnitLimit then [255] else []) rfl (by decide)
    (by rintro _ ⟨⟩; decide) rfl

end TransactionV1

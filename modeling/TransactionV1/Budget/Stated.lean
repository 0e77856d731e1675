import TransactionV1.Foundations.LastWrite
import TransactionV1.Foundations.LittleEndian
import TransactionV1.Message.Proto
import Mathlib.Algebra.Order.Floor.Div
import Mathlib.GroupTheory.GroupAction.Ring

/-! # The budget a transaction states

A legacy or v0 transaction states its compute budget in the data of its
ComputeBudget instructions. Each of them writes at most one slot, the last write
to a slot counts, and the price is charged on the effective compute unit limit,
rounded up to whole lamports. Quantities are natural numbers here; the readers
of the three languages are compared with this budget.
-/

namespace TransactionV1

inductive Slot where
  | heapSize
  | computeUnitLimit
  | computeUnitPrice
  | loadedAccountsDataSizeLimit
  deriving DecidableEq

namespace Slot

def all : List Slot := [heapSize, computeUnitLimit, computeUnitPrice, loadedAccountsDataSizeLimit]

theorem mem_all (slot : Slot) : slot ∈ all := by cases slot <;> decide

theorem nodup_all : all.Nodup := by decide

/-- The first byte of an instruction that sets the slot. -/
def discriminant : Slot → UInt8
  | heapSize => 1
  | computeUnitLimit => 2
  | computeUnitPrice => 3
  | loadedAccountsDataSizeLimit => 4

def width : Slot → ℕ
  | computeUnitPrice => 8
  | _ => 4

def ofDiscriminant? (d : UInt8) : Option Slot :=
  if d = 1 then some heapSize
  else if d = 2 then some computeUnitLimit
  else if d = 3 then some computeUnitPrice
  else if d = 4 then some loadedAccountsDataSizeLimit
  else none

@[simp] theorem ofDiscriminant?_discriminant (slot : Slot) :
    ofDiscriminant? slot.discriminant = some slot := by
  cases slot <;> rfl

theorem ofDiscriminant?_eq_some_iff {d : UInt8} {slot : Slot} :
    ofDiscriminant? d = some slot ↔ d = slot.discriminant := by
  constructor
  · intro h
    unfold ofDiscriminant? at h
    split_ifs at h with h1 h2 h3 h4 <;> cases h <;> assumption
  · rintro rfl
    exact ofDiscriminant?_discriminant slot

end Slot

/-- The write the data of a ComputeBudget instruction makes. An operand that is
too short for its field clears the slot; data without a discriminant of a slot
writes nothing. -/
def writeOf : Bytes → Option (Slot × Option ℕ)
  | [] => none
  | d :: operand =>
    (Slot.ofDiscriminant? d).map fun slot => (slot, LittleEndian.read? slot.width operand)

/-- The slots once the data of the given ComputeBudget instructions is read. -/
def slotsOf (data : List Bytes) : Slot → Option ℕ :=
  LastWrite.run (fun _ => none) (data.filterMap writeOf)

/-- Data of a known discriminant with all of its operand. Discriminant 0, the
deprecated unit request, sets no slot and needs none. -/
def Readable : Bytes → Prop
  | [] => False
  | d :: operand => d = 0 ∨ ∃ slot ∈ Slot.ofDiscriminant? d, slot.width ≤ operand.length

instance : DecidablePred Readable
  | [] => inferInstanceAs (Decidable False)
  | d :: operand => inferInstanceAs
      (Decidable (d = 0 ∨ ∃ slot ∈ Slot.ofDiscriminant? d, slot.width ≤ operand.length))

theorem not_readable_nil : ¬ Readable [] := id

@[ext] structure Budget where
  computeUnitLimit : Option ℕ
  heapSize : Option ℕ
  loadedAccountsDataSizeLimit : Option ℕ
  priorityFeeLamports : Option ℕ
  deriving DecidableEq

/-- The compute unit limit of a transaction that states none. -/
def implicitLimit (instructionCount : ℕ) : ℕ := min (200000 * instructionCount) 1400000

def effectiveLimit (slots : Slot → Option ℕ) (instructionCount : ℕ) : ℕ :=
  (slots .computeUnitLimit).getD (implicitLimit instructionCount)

/-- The budget the slots amount to. `clip` is what a reader's word size makes of
the product in micro-lamports. -/
def Budget.ofSlots (clip : ℕ → ℕ) (slots : Slot → Option ℕ) (instructionCount : ℕ) : Budget where
  computeUnitLimit := slots .computeUnitLimit
  heapSize := slots .heapSize
  loadedAccountsDataSizeLimit := slots .loadedAccountsDataSizeLimit
  priorityFeeLamports := (slots .computeUnitPrice).map fun price =>
    clip (effectiveLimit slots instructionCount * price) ⌈/⌉ 1000000

/-- The budget stated by the data of a transaction's ComputeBudget instructions. -/
def Budget.stated (data : List Bytes) (instructionCount : ℕ) : Budget :=
  .ofSlots id (slotsOf data) instructionCount

/-- A clip that leaves the product in micro-lamports alone leaves the budget alone. -/
theorem Budget.ofSlots_eq_of_clip {clip : ℕ → ℕ} {slots : Slot → Option ℕ} {n : ℕ}
    (h : ∀ price, slots .computeUnitPrice = some price →
      clip (effectiveLimit slots n * price) = effectiveLimit slots n * price) :
    Budget.ofSlots clip slots n = Budget.ofSlots id slots n := by
  refine Budget.ext rfl rfl rfl (Option.map_congr ?_)
  intro price hp
  rw [h price hp, id_eq]

section Addressing

variable {κ : Type}

/-- The program index of an instruction resolves to the given program. -/
def AddressedTo (program : Address) (accountKeys : List Bytes)
    (instruction : CompiledInstruction) : Prop :=
  accountKeys[instruction.programIdIndex.toNat]? = some program.bytes

instance (program : Address) (accountKeys : List Bytes) :
    DecidablePred (AddressedTo program accountKeys) :=
  fun instruction => inferInstanceAs
    (Decidable (accountKeys[instruction.programIdIndex.toNat]? = some program.bytes))

/-- The data of the instructions of a message that are addressed to the
ComputeBudget program, in the order of the message. -/
def computeBudgetData (computeBudgetId : Address) (message : MessageOf κ) : List Bytes :=
  (message.instructions.filter (AddressedTo computeBudgetId message.accountKeys)).map (·.data)

@[simp] theorem computeBudgetData_mapConfig {κ' : Type} (f : κ → κ') (computeBudgetId : Address)
    (message : MessageOf κ) :
    computeBudgetData computeBudgetId (message.mapConfig f) =
      computeBudgetData computeBudgetId message := rfl

/-- A loop over all instructions that skips those of other programs is a loop
over the data of the ComputeBudget instructions. -/
theorem foldl_computeBudgetData {σ : Type} (step : σ → Bytes → σ) (computeBudgetId : Address)
    (message : MessageOf κ) (s : σ) :
    (message.instructions.foldl (fun s instruction =>
      if AddressedTo computeBudgetId message.accountKeys instruction
      then step s instruction.data else s) s) =
      (computeBudgetData computeBudgetId message).foldl step s := by
  rw [computeBudgetData, List.foldl_map, List.foldl_filter]
  simp only [decide_eq_true_eq]

end Addressing

end TransactionV1

import TransactionV1.Foundations.Word
import TransactionV1.Message.Version
import TransactionV1.Budget.Stated

/-! # The Rust accessor

`rust/src/budget.rs`. The code uses no operation that can panic, so its
functions are total here. Its scan performs the writes of the ComputeBudget
instructions, and its fee is the stated one with the product in micro-lamports
cut off at the largest `u64`.
-/

namespace TransactionV1.Rust

def defaultComputeUnitsPerInstruction : UInt32 := 200000

def maxComputeUnitLimit : UInt32 := 1400000

/-- A transaction's compute budget, normalised across all three versions. -/
@[ext] structure ComputeBudget where
  computeUnitLimit : Option UInt32 := none
  heapSize : Option UInt32 := none
  loadedAccountsDataSizeLimit : Option UInt32 := none
  priorityFeeLamports : Option UInt64 := none
  deriving DecidableEq

/-- `slice.get(..n)`. -/
def getTo (n : ℕ) (bytes : Bytes) : Option Bytes :=
  if n ≤ bytes.length then some (bytes.take n) else none

/-- `slice.try_into::<[u8; n]>().ok()`. -/
def tryInto (n : ℕ) (bytes : Bytes) : Option Bytes :=
  if bytes.length = n then some bytes else none

def readU32 (operand : Bytes) : Option UInt32 :=
  ((getTo 4 operand).bind (tryInto 4)).map fun bytes => UInt32.ofNat (LittleEndian.value bytes)

def readU64 (operand : Bytes) : Option UInt64 :=
  ((getTo 8 operand).bind (tryInto 8)).map fun bytes => UInt64.ofNat (LittleEndian.value bytes)

/-- `u32::try_from(n).ok()` for a `usize`. -/
def u32TryFrom (n : ℕ) : Option UInt32 := if n < 2 ^ 32 then some (UInt32.ofNat n) else none

/-- The compute unit limit a legacy or v0 transaction gets when it sets none. -/
def defaultComputeUnitLimit (instructionCount : ℕ) : UInt32 :=
  let requested := Word.saturatingMul32 defaultComputeUnitsPerInstruction
    ((u32TryFrom instructionCount).getD Word.max32)
  if requested ≤ maxComputeUnitLimit then requested else maxComputeUnitLimit

/-- The local state of `from_instructions`. -/
structure Scan where
  budget : ComputeBudget := {}
  priceMicroLamportsPerCu : Option UInt64 := none

/-- The `match discriminant` of `from_instructions`. -/
def Scan.assign (s : Scan) (discriminant : UInt8) (operand : Bytes) : Scan :=
  match discriminant with
  | 1 => { s with budget := { s.budget with heapSize := readU32 operand } }
  | 2 => { s with budget := { s.budget with computeUnitLimit := readU32 operand } }
  | 3 => { s with priceMicroLamportsPerCu := readU64 operand }
  | 4 => { s with budget := { s.budget with loadedAccountsDataSizeLimit := readU32 operand } }
  | _ => s

/-- The data of one ComputeBudget instruction: `split_first`, then the match. -/
def Scan.read (s : Scan) : Bytes → Scan
  | [] => s
  | discriminant :: operand => s.assign discriminant operand

/-- The body of the loop over `message.instructions`. -/
def Scan.step (computeBudgetId : Address) (accountKeys : List Bytes) (s : Scan)
    (instruction : CompiledInstruction) : Scan :=
  let programId := accountKeys[instruction.programIdIndex.toNat]?
  if programId ≠ some computeBudgetId.bytes then s else s.read instruction.data

namespace ComputeBudget

def fromConfig (message : Message) : ComputeBudget :=
  match message.config with
  | none => {}
  | some config =>
    { computeUnitLimit := config.computeUnitLimit
      heapSize := config.heapSize
      loadedAccountsDataSizeLimit := config.loadedAccountsDataSizeLimit
      priorityFeeLamports := config.priorityFee }

/-- The budget a finished scan amounts to, for the given number of instructions. -/
def ofScan (s : Scan) (instructionCount : ℕ) : ComputeBudget :=
  { s.budget with
    priorityFeeLamports := s.priceMicroLamportsPerCu.map fun price =>
      let limit := s.budget.computeUnitLimit.getD (defaultComputeUnitLimit instructionCount)
      Word.divCeil64 (Word.saturatingMul64 limit.toUInt64 price) 1000000 }

def fromInstructions (computeBudgetId : Address) (message : Message) : ComputeBudget :=
  ofScan (message.instructions.foldl (Scan.step computeBudgetId message.accountKeys) {})
    message.instructions.length

/-- `ComputeBudget::of_message`. -/
def ofMessage (computeBudgetId : Address) (message : Message) : ComputeBudget :=
  match messageVersion message with
  | .v1 => fromConfig message
  | .legacy | .v0 => fromInstructions computeBudgetId message

def toBudget (b : ComputeBudget) : Budget where
  computeUnitLimit := b.computeUnitLimit.map UInt32.toNat
  heapSize := b.heapSize.map UInt32.toNat
  loadedAccountsDataSizeLimit := b.loadedAccountsDataSizeLimit.map UInt32.toNat
  priorityFeeLamports := b.priorityFeeLamports.map UInt64.toNat

theorem toBudget_injective : Function.Injective toBudget := by
  have h32 := Option.map_injective (f := UInt32.toNat) fun _ _ => UInt32.toNat_inj.mp
  have h64 := Option.map_injective (f := UInt64.toNat) fun _ _ => UInt64.toNat_inj.mp
  intro b b' h
  obtain ⟨h1, h2, h3, h4⟩ := Budget.mk.injEq .. ▸ h
  exact ComputeBudget.ext (h32 h1) (h32 h2) (h32 h3) (h64 h4)

end ComputeBudget

/-- Products in micro-lamports are cut off at the largest `u64`. -/
def clip (microLamports : ℕ) : ℕ := min microLamports (2 ^ 64 - 1)

theorem readU32_eq (operand : Bytes) :
    readU32 operand = (LittleEndian.read? 4 operand).map UInt32.ofNat := by
  rcases Nat.lt_or_ge operand.length 4 with h | h
  · simp [readU32, getTo, LittleEndian.read?_eq_none_iff.mpr h, h]
  · simp [readU32, getTo, tryInto, LittleEndian.read?_of_le h, h]

theorem readU64_eq (operand : Bytes) :
    readU64 operand = (LittleEndian.read? 8 operand).map UInt64.ofNat := by
  rcases Nat.lt_or_ge operand.length 8 with h | h
  · simp [readU64, getTo, LittleEndian.read?_eq_none_iff.mpr h, h]
  · simp [readU64, getTo, tryInto, LittleEndian.read?_of_le h, h]

theorem readU32_map_toNat (operand : Bytes) :
    (readU32 operand).map UInt32.toNat = LittleEndian.read? 4 operand := by
  rw [readU32_eq]
  exact LittleEndian.map_map_read? (fun _ h => UInt32.toNat_ofNat_of_lt' h) operand

theorem readU64_map_toNat (operand : Bytes) :
    (readU64 operand).map UInt64.toNat = LittleEndian.read? 8 operand := by
  rw [readU64_eq]
  exact LittleEndian.map_map_read? (fun _ h => UInt64.toNat_ofNat_of_lt' h) operand

def Scan.slots (s : Scan) : Slot → Option ℕ
  | .heapSize => s.budget.heapSize.map UInt32.toNat
  | .computeUnitLimit => s.budget.computeUnitLimit.map UInt32.toNat
  | .computeUnitPrice => s.priceMicroLamportsPerCu.map UInt64.toNat
  | .loadedAccountsDataSizeLimit => s.budget.loadedAccountsDataSizeLimit.map UInt32.toNat

@[simp] theorem Scan.slots_empty : Scan.slots {} = fun _ => none := by
  ext slot : 1
  cases slot <;> rfl

theorem Scan.slots_assign (s : Scan) (slot : Slot) (operand : Bytes) :
    (s.assign slot.discriminant operand).slots =
      LastWrite.write s.slots (slot, LittleEndian.read? slot.width operand) := by
  ext other : 1
  cases slot with
  | heapSize | computeUnitLimit | loadedAccountsDataSizeLimit =>
    cases other <;> simp [assign, Slot.discriminant, slots, Slot.width, readU32_map_toNat]
  | computeUnitPrice =>
    cases other <;> simp [assign, Slot.discriminant, slots, Slot.width, readU64_map_toNat]

theorem Scan.assign_of_none {d : UInt8} (h : Slot.ofDiscriminant? d = none) (s : Scan)
    (operand : Bytes) : s.assign d operand = s := by
  unfold assign
  split
  · cases h
  · cases h
  · cases h
  · cases h
  · rfl

theorem Scan.slots_read (s : Scan) (data : Bytes) :
    (s.read data).slots = (writeOf data).elim s.slots (LastWrite.write s.slots) := by
  cases data with
  | nil => rfl
  | cons d operand =>
    cases hs : Slot.ofDiscriminant? d with
    | none => rw [read, assign_of_none hs, writeOf, hs, Option.map_none, Option.elim_none]
    | some slot =>
      obtain rfl := Slot.ofDiscriminant?_eq_some_iff.mp hs
      rw [read, slots_assign, writeOf, hs, Option.map_some, Option.elim_some]

theorem Scan.step_eq (computeBudgetId : Address) (accountKeys : List Bytes) (s : Scan)
    (instruction : CompiledInstruction) :
    s.step computeBudgetId accountKeys instruction =
      if AddressedTo computeBudgetId accountKeys instruction then s.read instruction.data
      else s := by
  by_cases h : AddressedTo computeBudgetId accountKeys instruction
  · rw [if_pos h]
    exact if_neg (not_not.mpr h)
  · rw [if_neg h]
    exact if_pos h

theorem Scan.slots_foldl_read (data : List Bytes) :
    (data.foldl Scan.read {}).slots = slotsOf data := by
  rw [LastWrite.view_foldl Scan.slots Scan.read writeOf Scan.slots_read, slots_empty, slotsOf]

theorem toNat_u32TryFrom_getD (n : ℕ) :
    ((u32TryFrom n).getD Word.max32).toNat = min n (2 ^ 32 - 1) := by
  unfold u32TryFrom
  split_ifs with h
  · rw [Option.getD_some, UInt32.toNat_ofNat_of_lt' h]
    omega
  · rw [Option.getD_none, Word.toNat_max32]
    omega

theorem toNat_defaultComputeUnitLimit (instructionCount : ℕ) :
    (defaultComputeUnitLimit instructionCount).toNat = implicitLimit instructionCount := by
  have hd : defaultComputeUnitsPerInstruction.toNat = 200000 := rfl
  have hm : maxComputeUnitLimit.toNat = 1400000 := rfl
  simp only [defaultComputeUnitLimit, implicitLimit, UInt32.le_iff_toNat_le, apply_ite UInt32.toNat,
    Word.toNat_saturatingMul32, toNat_u32TryFrom_getD, hd, hm]
  split_ifs <;> omega

namespace ComputeBudget

theorem toBudget_ofScan (s : Scan) (instructionCount : ℕ) :
    (ofScan s instructionCount).toBudget = .ofSlots clip s.slots instructionCount := by
  refine Budget.ext rfl rfl rfl ?_
  have hl : (s.budget.computeUnitLimit.getD (defaultComputeUnitLimit instructionCount)).toNat =
      effectiveLimit s.slots instructionCount := by
    cases h : s.budget.computeUnitLimit <;>
      simp [effectiveLimit, Scan.slots, h, toNat_defaultComputeUnitLimit]
  simp only [toBudget, ofScan, Budget.ofSlots, Scan.slots, Option.map_map]
  refine Option.map_congr fun price _ => ?_
  rw [Function.comp_apply, Word.toNat_divCeil64 _ (by decide), Word.toNat_saturatingMul64,
    UInt32.toNat_toUInt64, hl, Function.comp_apply]
  rfl

/-- The scan depends on the data of the ComputeBudget instructions and the
number of instructions only. -/
theorem fromInstructions_eq (computeBudgetId : Address) (message : Message) :
    fromInstructions computeBudgetId message =
      ofScan ((computeBudgetData computeBudgetId message).foldl Scan.read {})
        message.instructions.length := by
  rw [fromInstructions, ← foldl_computeBudgetData]
  congr 1
  apply List.foldl_ext
  intro s instruction _
  exact Scan.step_eq ..

/-- The scanned budget is the stated one, with the product cut off at the largest `u64`. -/
theorem toBudget_fromInstructions (computeBudgetId : Address) (message : Message) :
    (fromInstructions computeBudgetId message).toBudget =
      .ofSlots clip (slotsOf (computeBudgetData computeBudgetId message))
        message.instructions.length := by
  rw [fromInstructions_eq, toBudget_ofScan, Scan.slots_foldl_read]

theorem ofMessage_of_config_isSome (computeBudgetId : Address) {message : Message}
    (h : message.config.isSome = true) :
    ofMessage computeBudgetId message = fromConfig message := by
  rw [ofMessage, messageVersion_eq_v1_iff.mpr h]

theorem ofMessage_of_config_eq_none (computeBudgetId : Address) {message : Message}
    (h : message.config = none) :
    ofMessage computeBudgetId message = fromInstructions computeBudgetId message := by
  have hv : messageVersion message ≠ .v1 := by simp [messageVersion_eq_v1_iff, h]
  unfold ofMessage
  split
  · contradiction
  · rfl
  · rfl

theorem map_toNat_priorityFeeLamports_ofMessage (computeBudgetId : Address) {message : Message}
    (h : message.config = none) :
    (ofMessage computeBudgetId message).priorityFeeLamports.map UInt64.toNat =
      (Budget.ofSlots clip (slotsOf (computeBudgetData computeBudgetId message))
        message.instructions.length).priorityFeeLamports := by
  rw [ofMessage_of_config_eq_none computeBudgetId h, ← toBudget_fromInstructions]
  rfl

end ComputeBudget

end TransactionV1.Rust

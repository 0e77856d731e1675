import TransactionV1.Foundations.Fallible
import TransactionV1.Foundations.Base58
import TransactionV1.Budget.Rust

/-! # The Go accessor

`go/txv1/budget.go`. Every operation that can panic at run time is explicit. The
accessor never panics, and on a message within protobuf's bounds it returns what
the Rust accessor returns.
-/

namespace TransactionV1.Go

open Fallible

inductive Panic where
  | indexOutOfRange
  | sliceBoundsOutOfRange
  | nilDereference
  | integerDivideByZero
  deriving DecidableEq

/-- What the code uses of `solana-go`: keys, signatures and hashes filled from a
slice, and their base58 text. Only what a key does with 32 bytes is relied on. -/
structure SolanaGo where
  publicKeyFromBytes : Bytes → Address
  publicKeyFromBytes_bytes : ∀ key : Bytes, key.length = 32 → (publicKeyFromBytes key).bytes = key
  signatureFromBytes : Bytes → Bytes
  hashFromBytes : Bytes → Bytes
  toBase58 : Bytes → String

/-- An array of `n` bytes filled by `copy` from a slice. -/
def copyInto (n : ℕ) (bytes : Bytes) : Bytes :=
  bytes.take n ++ List.replicate (n - bytes.length) 0

theorem length_copyInto (n : ℕ) (bytes : Bytes) : (copyInto n bytes).length = n := by
  simp only [copyInto, List.length_append, List.length_take, List.length_replicate]
  omega

/-- The package with arrays filled by `copy`. -/
def SolanaGo.copying : SolanaGo where
  publicKeyFromBytes key := ⟨copyInto 32 key, length_copyInto 32 key⟩
  publicKeyFromBytes_bytes key h := by simp [copyInto, h, List.take_of_length_le]
  signatureFromBytes := copyInto 64
  hashFromBytes := copyInto 32
  toBase58 := Base58.encode

/-- `xs[i]`. -/
def index {α : Type} (xs : List α) (i : ℕ) : Except Panic α :=
  match xs[i]? with
  | some x => .ok x
  | none => .error .indexOutOfRange

/-- `xs[n:]`. -/
def sliceFrom (xs : Bytes) (n : ℕ) : Except Panic Bytes :=
  if n ≤ xs.length then .ok (xs.drop n) else .error .sliceBoundsOutOfRange

/-- `xs[:n]`. -/
def sliceTo (xs : Bytes) (n : ℕ) : Except Panic Bytes :=
  if n ≤ xs.length then .ok (xs.take n) else .error .sliceBoundsOutOfRange

/-- `*p`. -/
def deref {α : Type} (p : Option α) : Except Panic α :=
  match p with
  | some x => .ok x
  | none => .error .nilDereference

/-- `a / b`. -/
def div (a b : UInt64) : Except Panic UInt64 :=
  if b = 0 then .error .integerDivideByZero else .ok (a / b)

/-- `a % b`. -/
def mod (a b : UInt64) : Except Panic UInt64 :=
  if b = 0 then .error .integerDivideByZero else .ok (a % b)

/-- `binary.LittleEndian.Uint32`, which checks that the slice has four bytes. -/
def littleEndianUint32 (b : Bytes) : Except Panic UInt32 :=
  if b.length < 4 then .error .indexOutOfRange
  else .ok (UInt32.ofNat (LittleEndian.value (b.take 4)))

/-- `binary.LittleEndian.Uint64`, which checks that the slice has eight bytes. -/
def littleEndianUint64 (b : Bytes) : Except Panic UInt64 :=
  if b.length < 8 then .error .indexOutOfRange
  else .ok (UInt64.ofNat (LittleEndian.value (b.take 8)))

def defaultComputeUnitsPerInstruction : UInt32 := 200000

def maxComputeUnitLimit : UInt32 := 1400000

/-- `solana.PublicKeyLength`. -/
def publicKeyLength : ℕ := 32

/-! The discriminants of `solana-go`'s `computebudget` package. -/

def requestHeapFrame : UInt8 := 1
def setComputeUnitLimit : UInt8 := 2
def setComputeUnitPrice : UInt8 := 3
def setLoadedAccountsDataSizeLimit : UInt8 := 4

def readUint32 (operand : Bytes) : Except Panic (Option UInt32) := do
  if operand.length < 4 then
    return none
  let value ← littleEndianUint32 (← sliceTo operand 4)
  return some value

def readUint64 (operand : Bytes) : Except Panic (Option UInt64) := do
  if operand.length < 8 then
    return none
  let value ← littleEndianUint64 (← sliceTo operand 8)
  return some value

/-- `DefaultComputeUnitLimit`, whose argument is an `int`. -/
def defaultComputeUnitLimit (instructionCount : ℤ) : UInt32 :=
  if instructionCount ≤ 0 then 0
  else
    let requested :=
      defaultComputeUnitsPerInstruction.toUInt64 * UInt64.ofNat instructionCount.toNat
    if requested > maxComputeUnitLimit.toUInt64 then maxComputeUnitLimit else requested.toUInt32

def saturatingMul (a b : UInt64) : Except Panic UInt64 := do
  if a = 0 ∨ b = 0 then
    return 0
  let product := a * b
  if (← div product a) = b then
    return product
  return Word.max64

def divCeil (value divisor : UInt64) : Except Panic UInt64 := do
  let quotient ← div value divisor
  if (← mod value divisor) ≠ 0 then
    return quotient + 1
  return quotient

section Accessor

variable (sdk : SolanaGo) (computeBudgetId : Address)

def isComputeBudgetProgram (accountKeys : List Bytes) (programIDIndex : UInt32) :
    Except Panic Bool := do
  if programIDIndex ≥ UInt32.ofNat accountKeys.length then
    return false
  let key ← index accountKeys programIDIndex.toNat
  if key.length ≠ publicKeyLength then
    return false
  return decide (sdk.publicKeyFromBytes key = computeBudgetId)

def budgetFromConfig (config : Option TransactionConfig) : Except Panic TransactionConfig := do
  let config ← deref config
  return {
    computeUnitLimit := config.computeUnitLimit
    heapSize := config.heapSize
    loadedAccountsDataSizeLimit := config.loadedAccountsDataSizeLimit
    priorityFee := config.priorityFee }

/-- The local state of `budgetFromInstructions`. Its budget is a
`solana.TransactionConfig`, which has the four optional fields of the wire's. -/
structure Scan where
  budget : TransactionConfig := ⟨none, none, none, none⟩
  priceMicroLamportsPerCU : Option UInt64 := none

/-- The data of one ComputeBudget instruction: the length check, then the switch. -/
def Scan.read (s : Scan) (data : Bytes) : Except Panic Scan := do
  if data.length = 0 then
    return s
  let discriminant ← index data 0
  let operand ← sliceFrom data 1
  if discriminant = requestHeapFrame then
    return { s with budget := { s.budget with heapSize := ← readUint32 operand } }
  else if discriminant = setComputeUnitLimit then
    return { s with budget := { s.budget with computeUnitLimit := ← readUint32 operand } }
  else if discriminant = setComputeUnitPrice then
    return { s with priceMicroLamportsPerCU := ← readUint64 operand }
  else if discriminant = setLoadedAccountsDataSizeLimit then
    return { s with
      budget := { s.budget with loadedAccountsDataSizeLimit := ← readUint32 operand } }
  else
    return s

/-- The body of the loop over `message.Instructions`. -/
def Scan.step (accountKeys : List Bytes) (s : Scan) (instruction : CompiledInstruction) :
    Except Panic Scan := do
  if !(← isComputeBudgetProgram sdk computeBudgetId accountKeys instruction.programIdIndex) then
    return s
  s.read instruction.data

def budgetFromInstructions (message : Message) : Except Panic TransactionConfig := do
  let s ← message.instructions.foldlM (Scan.step sdk computeBudgetId message.accountKeys) {}
  match s.priceMicroLamportsPerCU with
  | none => return s.budget
  | some price =>
    let limit := s.budget.computeUnitLimit.getD
      (defaultComputeUnitLimit message.instructions.length)
    let total ← divCeil (← saturatingMul limit.toUInt64 price) 1000000
    return { s.budget with priorityFee := some total }

def budgetOfMessage (message : Message) : Except Panic TransactionConfig :=
  if messageVersionOf message = .v1 then budgetFromConfig message.config
  else budgetFromInstructions sdk computeBudgetId message

end Accessor

theorem readUint32_eq (operand : Bytes) : readUint32 operand = .ok (Rust.readU32 operand) := by
  rcases Nat.lt_or_ge operand.length 4 with h | h
  · simp [readUint32, Rust.readU32_eq, LittleEndian.read?_eq_none_iff.mpr h, h]
  · simp [readUint32, Rust.readU32_eq, LittleEndian.read?_of_le h, h, Nat.not_lt_of_le h, sliceTo,
      littleEndianUint32, List.take_take]

theorem readUint64_eq (operand : Bytes) : readUint64 operand = .ok (Rust.readU64 operand) := by
  rcases Nat.lt_or_ge operand.length 8 with h | h
  · simp [readUint64, Rust.readU64_eq, LittleEndian.read?_eq_none_iff.mpr h, h]
  · simp [readUint64, Rust.readU64_eq, LittleEndian.read?_of_le h, h, Nat.not_lt_of_le h, sliceTo,
      littleEndianUint64, List.take_take]

/-- Dividing a wrapped product by one factor returns the other exactly when the
product did not wrap. -/
theorem mul_div_eq_iff {a b : UInt64} (ha : a ≠ 0) :
    a * b / a = b ↔ a.toNat * b.toNat < 2 ^ 64 := by
  have ha0 : 0 < a.toNat := Nat.pos_of_ne_zero fun h => ha (UInt64.toNat_inj.mp h)
  rw [← UInt64.toNat_inj, UInt64.toNat_div, UInt64.toNat_mul]
  constructor
  · intro h
    have hle : b.toNat * a.toNat ≤ a.toNat * b.toNat % 2 ^ 64 :=
      (Nat.le_div_iff_mul_le ha0).mp h.ge
    have hlt : a.toNat * b.toNat % 2 ^ 64 < 2 ^ 64 := Nat.mod_lt _ (by decide)
    rw [Nat.mul_comm]
    omega
  · intro h
    rw [Nat.mod_eq_of_lt h, Nat.mul_div_cancel_left _ ha0]

theorem saturatingMul_eq (a b : UInt64) : saturatingMul a b = .ok (Word.saturatingMul64 a b) := by
  by_cases h0 : a = 0 ∨ b = 0
  · rcases h0 with rfl | rfl <;> simp [saturatingMul, Word.saturatingMul64]
  · have ha : a ≠ 0 := fun h => h0 (Or.inl h)
    have hw : (a.toNat * b.toNat ≤ Word.max64.toNat) ↔ a * b / a = b := by
      rw [mul_div_eq_iff ha, Word.toNat_max64]
      omega
    simp only [saturatingMul, if_neg h0, div, if_neg ha, ok_bind, Word.saturatingMul64, hw]
    split_ifs <;> rfl

theorem divCeil_eq {divisor : UInt64} (hd : divisor ≠ 0) (value : UInt64) :
    divCeil value divisor = .ok (Word.divCeil64 value divisor) := by
  have hw : (0 < value % divisor) ↔ value % divisor ≠ 0 := by
    rw [UInt64.lt_iff_toNat_lt, ne_eq, ← UInt64.toNat_inj, UInt64.toNat_zero]
    exact Nat.pos_iff_ne_zero
  simp only [divCeil, div, mod, if_neg hd, ok_bind, Word.divCeil64, hw]
  split_ifs <;> rfl

/-- The product is exact or cut off at the largest `uint64`, the divide-back test
accepts exactly the products that do not wrap, and the quotient rounded up is
exact, with an increment that never wraps. -/
theorem saturatingMul_and_divCeil_exact (a b value : UInt64) {divisor : UInt64}
    (hd : 1 ≤ divisor) :
    (∃ product, saturatingMul a b = .ok product ∧
        product.toNat = min (a.toNat * b.toNat) (2 ^ 64 - 1)) ∧
      (a ≠ 0 → (a * b / a = b ↔ a.toNat * b.toNat < 2 ^ 64)) ∧
      (∃ quotient, divCeil value divisor = .ok quotient ∧
        quotient.toNat = value.toNat ⌈/⌉ divisor.toNat) ∧
      (value % divisor ≠ 0 → (value / divisor + 1).toNat = (value / divisor).toNat + 1) := by
  have hpos : 0 < divisor.toNat := hd
  have hne : divisor ≠ 0 := by
    rintro rfl
    exact absurd hpos (by decide)
  refine ⟨⟨_, saturatingMul_eq a b, Word.toNat_saturatingMul64 a b⟩, mul_div_eq_iff,
    ⟨_, divCeil_eq hne value, Word.toNat_divCeil64 value hpos⟩, fun hr => ?_⟩
  have hm : value.toNat % divisor.toNat ≠ 0 := by
    intro h0
    apply hr
    rw [← UInt64.toNat_inj, UInt64.toNat_mod, h0, UInt64.toNat_zero]
  rw [Word.toNat_div_add_one hpos hm, UInt64.toNat_div]

/-- At a product that wraps and a quotient with a remainder. -/
theorem saturatingMul_and_divCeil_exact_of_large :
    (∃ product, saturatingMul 4294967297 4294967296 = .ok product ∧
        product.toNat =
          min ((4294967297 : UInt64).toNat * (4294967296 : UInt64).toNat) (2 ^ 64 - 1)) ∧
      ((4294967297 : UInt64) ≠ 0 → ((4294967297 : UInt64) * 4294967296 / 4294967297 = 4294967296 ↔
        (4294967297 : UInt64).toNat * (4294967296 : UInt64).toNat < 2 ^ 64)) ∧
      (∃ quotient, divCeil 18446744073709551615 2 = .ok quotient ∧
        quotient.toNat = (18446744073709551615 : UInt64).toNat ⌈/⌉ (2 : UInt64).toNat) ∧
      ((18446744073709551615 : UInt64) % 2 ≠ 0 →
        ((18446744073709551615 : UInt64) / 2 + 1).toNat =
          ((18446744073709551615 : UInt64) / 2).toNat + 1) :=
  saturatingMul_and_divCeil_exact 4294967297 4294967296 18446744073709551615 (by decide)

theorem toNat_defaultComputeUnitLimit {instructionCount : ℕ} (h : instructionCount < 2 ^ 32) :
    (defaultComputeUnitLimit instructionCount).toNat = implicitLimit instructionCount := by
  have hd : defaultComputeUnitsPerInstruction.toUInt64.toNat = 200000 := rfl
  have hm : maxComputeUnitLimit.toUInt64.toNat = 1400000 := rfl
  have hm' : maxComputeUnitLimit.toNat = 1400000 := rfl
  have hn : instructionCount < UInt64.size :=
    show instructionCount < 2 ^ 64 by omega
  have hr : (defaultComputeUnitsPerInstruction.toUInt64 *
      UInt64.ofNat (instructionCount : ℤ).toNat).toNat = 200000 * instructionCount := by
    rw [UInt64.toNat_mul, hd, Int.toNat_natCast, UInt64.toNat_ofNat_of_lt' hn]
    exact Nat.mod_eq_of_lt (by omega)
  by_cases h0 : (instructionCount : ℤ) ≤ 0
  · rw [defaultComputeUnitLimit, if_pos h0, UInt32.toNat_zero, implicitLimit]
    omega
  · simp only [defaultComputeUnitLimit, if_neg h0, implicitLimit, gt_iff_lt,
      UInt64.lt_iff_toNat_lt, hr, hm]
    split_ifs with hgt
    · rw [hm']
      omega
    · rw [UInt64.toNat_toUInt32, hr]
      omega

/-- The Go scan in the state of the given Rust scan. No scan sets a fee. -/
def Scan.ofRust (s : Rust.Scan) : Scan where
  budget :=
    { computeUnitLimit := s.budget.computeUnitLimit
      heapSize := s.budget.heapSize
      loadedAccountsDataSizeLimit := s.budget.loadedAccountsDataSizeLimit
      priorityFee := none }
  priceMicroLamportsPerCU := s.priceMicroLamportsPerCu

def ofRustBudget (b : Rust.ComputeBudget) : TransactionConfig where
  computeUnitLimit := b.computeUnitLimit
  heapSize := b.heapSize
  loadedAccountsDataSizeLimit := b.loadedAccountsDataSizeLimit
  priorityFee := b.priorityFeeLamports

theorem Scan.read_ofRust (s : Rust.Scan) (data : Bytes) :
    (Scan.ofRust s).read data = .ok (Scan.ofRust (s.read data)) := by
  cases data with
  | nil => rfl
  | cons d operand =>
    have hi : index (d :: operand) 0 = .ok d := rfl
    have hs : sliceFrom (d :: operand) 1 = .ok operand := by simp [sliceFrom]
    simp only [Scan.read, hi, hs, ok_bind, pure_eq_ok, List.length_cons, Nat.add_eq_zero_iff,
      Nat.one_ne_zero, and_false, if_false, Rust.Scan.read, Rust.Scan.assign, requestHeapFrame,
      setComputeUnitLimit, setComputeUnitPrice, setLoadedAccountsDataSizeLimit, readUint32_eq,
      readUint64_eq]
    split_ifs with h1 h2 h3 h4
    · subst h1; rfl
    · subst h2; rfl
    · subst h3; rfl
    · subst h4; rfl
    · split <;> first | contradiction | rfl

section Totality

variable (sdk : SolanaGo) (computeBudgetId : Address)

theorem isComputeBudgetProgram_succeeds (accountKeys : List Bytes) (programIDIndex : UInt32) :
    Succeeds (isComputeBudgetProgram sdk computeBudgetId accountKeys programIDIndex) := by
  by_cases hi : programIDIndex ≥ UInt32.ofNat accountKeys.length
  · simp [isComputeBudgetProgram, hi]
  · have hlt : programIDIndex.toNat < accountKeys.length := by
      have hle := Nat.mod_le accountKeys.length (2 ^ 32)
      rw [ge_iff_le, UInt32.le_iff_toNat_le, UInt32.toNat_ofNat', Nat.not_le] at hi
      omega
    have hx : index accountKeys programIDIndex.toNat = .ok accountKeys[programIDIndex.toNat] := by
      rw [index, List.getElem?_eq_getElem hlt]
    rw [isComputeBudgetProgram, if_neg hi, hx, ok_bind]
    split_ifs <;> exact succeeds_ok _

theorem Scan.read_succeeds (s : Scan) (data : Bytes) : Succeeds (s.read data) := by
  cases data with
  | nil => exact succeeds_ok s
  | cons d operand =>
    have hi : index (d :: operand) 0 = .ok d := rfl
    have hs : sliceFrom (d :: operand) 1 = .ok operand := by simp [sliceFrom]
    simp only [Scan.read, hi, hs, ok_bind, pure_eq_ok, readUint32_eq, readUint64_eq]
    split_ifs <;> exact succeeds_ok _

theorem Scan.step_succeeds (accountKeys : List Bytes) (s : Scan)
    (instruction : CompiledInstruction) :
    Succeeds (s.step sdk computeBudgetId accountKeys instruction) := by
  refine (isComputeBudgetProgram_succeeds sdk computeBudgetId _ _).bind fun isProgram => ?_
  cases isProgram with
  | false => exact succeeds_ok s
  | true => exact s.read_succeeds instruction.data

theorem budgetOfMessage_succeeds (message : Message) :
    Succeeds (budgetOfMessage sdk computeBudgetId message) := by
  rw [budgetOfMessage]
  split_ifs with hv
  · rw [messageVersionOf_eq, Rust.messageVersion_eq_v1_iff] at hv
    obtain ⟨config, hc⟩ := Option.isSome_iff_exists.mp hv
    rw [hc]
    exact succeeds_ok _
  · refine (succeeds_foldlM (Scan.step_succeeds sdk computeBudgetId _) _ _).bind fun s => ?_
    cases s.priceMicroLamportsPerCU with
    | none => exact succeeds_ok _
    | some price =>
      simp only [saturatingMul_eq, ok_bind, divCeil_eq (by decide : (1000000 : UInt64) ≠ 0)]
      exact succeeds_ok _

end Totality

section Agreement

variable (sdk : SolanaGo) (computeBudgetId : Address)

theorem isComputeBudgetProgram_eq {accountKeys : List Bytes} (h : accountKeys.length < 2 ^ 32)
    (programIDIndex : UInt32) :
    isComputeBudgetProgram sdk computeBudgetId accountKeys programIDIndex =
      .ok (decide (accountKeys[programIDIndex.toNat]? = some computeBudgetId.bytes)) := by
  have hlen : (UInt32.ofNat accountKeys.length).toNat = accountKeys.length :=
    UInt32.toNat_ofNat_of_lt' h
  simp only [isComputeBudgetProgram, ge_iff_le, UInt32.le_iff_toNat_le, hlen]
  rcases Nat.lt_or_ge programIDIndex.toNat accountKeys.length with hi | hi
  · obtain ⟨key, hk⟩ : ∃ key, accountKeys[programIDIndex.toNat]? = some key :=
      ⟨_, List.getElem?_eq_getElem hi⟩
    have hx : index accountKeys programIDIndex.toNat = .ok key := by simp [index, hk]
    simp only [if_neg (Nat.not_le_of_lt hi), hx, ok_bind, pure_eq_ok, hk, Option.some.injEq,
      publicKeyLength]
    rcases eq_or_ne key.length 32 with hl | hl
    · have he : sdk.publicKeyFromBytes key = computeBudgetId ↔ key = computeBudgetId.bytes := by
        rw [Address.ext_iff, sdk.publicKeyFromBytes_bytes key hl]
      simp [hl, he]
    · have hne : key ≠ computeBudgetId.bytes := fun he => hl (he ▸ computeBudgetId.length_bytes)
      simp [hl, hne]
  · simp [hi]

theorem Scan.step_ofRust {accountKeys : List Bytes} (h : accountKeys.length < 2 ^ 32)
    (s : Rust.Scan) (instruction : CompiledInstruction) :
    (Scan.ofRust s).step sdk computeBudgetId accountKeys instruction =
      .ok (Scan.ofRust (s.step computeBudgetId accountKeys instruction)) := by
  rw [Scan.step, isComputeBudgetProgram_eq sdk computeBudgetId h, ok_bind, Rust.Scan.step_eq]
  by_cases ha : AddressedTo computeBudgetId accountKeys instruction
  · have hd : accountKeys[instruction.programIdIndex.toNat]? = some computeBudgetId.bytes := ha
    simp [hd, ha, Scan.read_ofRust]
  · have hd : accountKeys[instruction.programIdIndex.toNat]? ≠ some computeBudgetId.bytes := ha
    simp [hd, ha]

theorem budgetFromInstructions_eq {message : Message} (h : message.Bounded) :
    budgetFromInstructions sdk computeBudgetId message =
      .ok (ofRustBudget (Rust.ComputeBudget.fromInstructions computeBudgetId message)) := by
  have hd : defaultComputeUnitLimit message.instructions.length =
      Rust.defaultComputeUnitLimit message.instructions.length := by
    rw [← UInt32.toNat_inj, toNat_defaultComputeUnitLimit h.instructions_lt,
      Rust.toNat_defaultComputeUnitLimit]
  rw [budgetFromInstructions, show ({} : Scan) = Scan.ofRust {} from rfl,
    foldlM_of_ok Scan.ofRust
      (Scan.step_ofRust sdk computeBudgetId h.accountKeys_lt), ok_bind,
    Rust.ComputeBudget.fromInstructions]
  generalize message.instructions.foldl _ _ = s
  cases hp : s.priceMicroLamportsPerCu with
  | none => simp [Scan.ofRust, ofRustBudget, Rust.ComputeBudget.ofScan, hp]
  | some price =>
    have hne : (1000000 : UInt64) ≠ 0 := by decide
    simp only [Scan.ofRust, hp, hd, saturatingMul_eq, ok_bind, divCeil_eq hne, pure_eq_ok,
      ofRustBudget, Rust.ComputeBudget.ofScan, Option.map_some]

/-- On a message within protobuf's bounds the Go accessor returns the budget the
Rust accessor returns. -/
theorem budgetOfMessage_eq {message : Message} (h : message.Bounded) :
    budgetOfMessage sdk computeBudgetId message =
      .ok (ofRustBudget (Rust.ComputeBudget.ofMessage computeBudgetId message)) := by
  simp only [budgetOfMessage, messageVersionOf_eq, Rust.messageVersion_eq_v1_iff]
  cases hc : message.config with
  | none =>
    rw [Rust.ComputeBudget.ofMessage_of_config_eq_none computeBudgetId hc]
    exact budgetFromInstructions_eq sdk computeBudgetId h
  | some config =>
    rw [Rust.ComputeBudget.ofMessage_of_config_isSome computeBudgetId (by rw [hc]; rfl),
      Rust.ComputeBudget.fromConfig, hc]
    rfl

end Agreement

end TransactionV1.Go

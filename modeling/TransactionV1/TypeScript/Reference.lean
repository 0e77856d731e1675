import TransactionV1.Foundations.Base58
import TransactionV1.Foundations.Base64
import TransactionV1.TypeScript.Packages

/-! # A concrete instance of the packages

The documented behaviour of the packages on transactions whose counts and
lengths fit in one byte. A v1 transaction has a layout of its own: its signatures
follow the message, which states its config as a mask and the values set.
-/

namespace TransactionV1.TypeScript

/-- A field at the front of a byte string, and what follows it. -/
abbrev Field (α : Type) := Bytes → Option (α × Bytes)

namespace Field

def bytes (n : ℕ) : Field Bytes := fun bs =>
  if n ≤ bs.length then some (bs.take n, bs.drop n) else none

def byte : Field UInt8
  | [] => none
  | b :: bs => some (b, bs)

def count : Field ℕ := fun bs => do
  let (b, bs) ← byte bs
  if b < 128 then some (b.toNat, bs) else none

def times {α : Type} (field : Field α) : ℕ → Field (List α)
  | 0 => fun bs => some ([], bs)
  | n + 1 => fun bs => do
    let (a, bs) ← field bs
    let (as, bs) ← times field n bs
    some (a :: as, bs)

def array {α : Type} (field : Field α) : Field (List α) := fun bs => do
  let (n, bs) ← count bs
  times field n bs

def number (width : ℕ) : Field ℕ := fun bs => do
  let n ← LittleEndian.read? width bs
  some (n, bs.drop width)

def header : Field CompiledTransactionMessage.Header := fun bs => do
  let (signers, bs) ← byte bs
  let (readonlySigners, bs) ← byte bs
  let (readonlyNonSigners, bs) ← byte bs
  some (⟨signers.toNat, readonlySigners.toNat, readonlyNonSigners.toNat⟩, bs)

/-- An instruction: the program's index, account indices and data. -/
def instruction : Field (ℕ × Bytes × Bytes) := fun bs => do
  let (program, bs) ← byte bs
  let (accounts, bs) ← array byte bs
  let (data, bs) ← array byte bs
  some ((program.toNat, accounts, data), bs)

/-- A lookup table: its key, and the writable and the readonly indices. -/
def lookup : Field (Bytes × Bytes × Bytes) := fun bs => do
  let (key, bs) ← bytes 32 bs
  let (writable, bs) ← array byte bs
  let (readonly, bs) ← array byte bs
  some ((key, writable, readonly), bs)

/-- The version prefix of a message. A legacy message has none. -/
def version : Field TransactionVersion := fun bs => do
  let (b, rest) ← byte bs
  if b < 128 then some (.legacy, bs) else some (.number (b.toNat - 128), rest)

/-- The values of a config. The fee has two bits of the mask, which are set together, and
each other field has one. -/
def configValues (mask : ℕ) : Field (List CompiledTransactionMessage.ConfigValue) := fun bs =>
  if mask < 32 ∧ mask.testBit 0 = mask.testBit 1 then do
    let (fee, bs) ← times (number 8) (mask.testBit 0).toNat bs
    let rest := (mask.testBit 2).toNat + (mask.testBit 3).toNat + (mask.testBit 4).toNat
    let (rest, bs) ← times (number 4) rest bs
    some (fee.map (fun n => .u64 n) ++ rest.map .u32, bs)
  else none

/-- What a v1 message says of an instruction ahead of its account indices and data. -/
def instructionHeader : Field (ℕ × ℕ × ℕ) := fun bs => do
  let (program, bs) ← byte bs
  let (accounts, bs) ← byte bs
  let (length, bs) ← number 2 bs
  some ((program.toNat, accounts.toNat, length), bs)

/-- The instructions of a v1 message: the account indices and data that each header counts. -/
def payloads : List (ℕ × ℕ × ℕ) → Field (List (ℕ × Bytes × Bytes))
  | [] => fun bs => some ([], bs)
  | (program, accounts, length) :: headers => fun bs => do
    let (accounts, bs) ← bytes accounts bs
    let (data, bs) ← bytes length bs
    let (rest, bs) ← payloads headers bs
    some ((program, accounts, data) :: rest, bs)

end Field

structure WireMessage where
  version : TransactionVersion
  header : CompiledTransactionMessage.Header
  keys : List Bytes
  lifetime : Bytes
  instructions : List (ℕ × Bytes × Bytes)
  lookups : List (Bytes × Bytes × Bytes) := []
  configMask : ℕ := 0
  configValues : List CompiledTransactionMessage.ConfigValue := []
  deriving DecidableEq

def decodeCounted (version : TransactionVersion) (bs : Bytes) : Option WireMessage := do
  let (header, bs) ← Field.header bs
  let (keys, bs) ← Field.array (Field.bytes 32) bs
  let (lifetime, bs) ← Field.bytes 32 bs
  let (instructions, bs) ← Field.array Field.instruction bs
  if version = .legacy then
    some { version, header, keys, lifetime, instructions }
  else
    let (lookups, _) ← Field.array Field.lookup bs
    some { version, header, keys, lifetime, instructions, lookups }

def decodeV1 (bs : Bytes) : Option WireMessage := do
  let (header, bs) ← Field.header bs
  let (configMask, bs) ← Field.number 4 bs
  let (lifetime, bs) ← Field.bytes 32 bs
  let (numInstructions, bs) ← Field.byte bs
  let (numStaticAccounts, bs) ← Field.byte bs
  let (keys, bs) ← Field.times (Field.bytes 32) numStaticAccounts.toNat bs
  let (configValues, bs) ← Field.configValues configMask bs
  let (headers, bs) ← Field.times Field.instructionHeader numInstructions.toNat bs
  let (instructions, _) ← Field.payloads headers bs
  some { version := .number 1, header, keys, lifetime, instructions, configMask, configValues }

def decodeMessage (bs : Bytes) : Option WireMessage := do
  let (version, bs) ← Field.version bs
  if version = .number 1 then decodeV1 bs else decodeCounted version bs

/-- The message bytes of a transaction. A v1 transaction starts with them, and any other
with its signatures. -/
def messageBytes (bs : Bytes) : Option Bytes :=
  if bs.head? = some 0x81 then do
    let signers ← bs[1]?
    if 64 * signers.toNat ≤ bs.length then
      some (bs.take (bs.length - 64 * signers.toNat))
    else none
  else do
    let (_, messageBytes) ← Field.array (Field.bytes 64) bs
    some messageBytes

def orThrow {α : Type} : Option α → Except JsError α
  | some a => .ok a
  | none => .error .packageError

/-- The decoder of the data of an instruction with one operand. -/
def operandDecoder {α : Type} (width : ℕ) (ofNat : ℕ → α) : Bytes → Except JsError α
  | [] => .error .packageError
  | _ :: operand => orThrow ((LittleEndian.read? width operand).map ofNat)

theorem operandDecoder_reads {α : Type} (width : ℕ) (ofNat : ℕ → α) :
    ReadsOperand width ofNat (operandDecoder width ofNat) where
  decode_of_some d operand n h := by simp [operandDecoder, h, orThrow]
  decode_of_none d operand h := ⟨.packageError, by simp [operandDecoder, h, orThrow]⟩

def ComputeBudgetInstruction.all : List ComputeBudgetInstruction :=
  [requestUnits, requestHeapFrame, setComputeUnitLimit, setComputeUnitPrice,
    setLoadedAccountsDataSizeLimit]

def identify : Bytes → Except JsError ComputeBudgetInstruction
  | [] => .error .packageError
  | d :: _ => orThrow (ComputeBudgetInstruction.all.find? (·.discriminator = d))

theorem identify_of_unknown {d : UInt8} {operand : Bytes}
    (h : ∀ kind, d ≠ ComputeBudgetInstruction.discriminator kind) :
    identify (d :: operand) = .error .packageError := by
  have hf : ComputeBudgetInstruction.all.find? (·.discriminator = d) = none := by
    rw [List.find?_eq_none]
    intro kind _
    simpa using (h kind).symm
  rw [identify, hf, orThrow]

def compiledMessage (decoded : WireMessage) : CompiledTransactionMessage where
  version := decoded.version
  header := decoded.header
  staticAccounts := decoded.keys.map Base58.encode
  lifetimeToken := Base58.encode decoded.lifetime
  instructions := decoded.instructions.map fun (program, accounts, data) =>
    ⟨program, accounts.map UInt8.toNat, if data = [] then none else some data⟩
  addressTableLookups := decoded.lookups.map fun (key, writable, readonly) =>
    ⟨Base58.encode key, writable.map UInt8.toNat, readonly.map UInt8.toNat⟩
  configMask := decoded.configMask
  configValues := decoded.configValues

theorem compiledMessage_data_ne_empty {decoded : WireMessage}
    {instruction : CompiledTransactionMessage.Instruction}
    (h : instruction ∈ (compiledMessage decoded).instructions) : instruction.data ≠ some [] := by
  obtain ⟨⟨program, accounts, data⟩, -, rfl⟩ := List.mem_map.mp h
  by_cases hd : data = [] <;> simp [hd]

/-- The value of a field that is set stands after those of the fields set before it. -/
def configValue (mask : ℕ) (values : List CompiledTransactionMessage.ConfigValue)
    (bit : ℕ) : Option CompiledTransactionMessage.ConfigValue :=
  if mask.testBit bit then values[((List.range' 1 (bit - 1)).filter mask.testBit).length]?
  else none

def configOf (mask : ℕ) (values : List CompiledTransactionMessage.ConfigValue) :
    Option ComputeBudget :=
  let number (bit : ℕ) := (configValue mask values bit).bind fun
    | .u32 value => some value
    | .u64 _ => none
  if mask = 0 then none
  else some {
    priorityFeeLamports := (configValue mask values 1).bind fun
      | .u32 _ => none
      | .u64 value => some value
    computeUnitLimit := number 2
    loadedAccountsDataSizeLimit := number 3
    heapSize := number 4 }

/-- Decompiling needs the contents of the lookup tables a message uses. -/
def decompile (compiled : CompiledTransactionMessage) : Except JsError (Option ComputeBudget) :=
  if compiled.addressTableLookups = [] then
    .ok (configOf compiled.configMask compiled.configValues)
  else .error .packageError

/-- The packages on short transactions. -/
def Packages.reference (computeBudgetId : Address) : Packages computeBudgetId where
  addressDecoder := Base58.encode
  addressDecoder_inj key key' h h' := Base58.encode_inj (h.trans h'.symm)
  base58Decoder := Base58.encode
  blockhashDecoder bytes :=
    if 32 ≤ bytes.length then .ok (Base58.encode (bytes.take 32)) else .error .packageError
  blockhashDecoder_succeeds_iff bytes := by by_cases h : 32 ≤ bytes.length <;> simp [h]
  base64Encoder s := orThrow (Base64.decode s.toList)
  transactionDecoder bytes := orThrow (messageBytes bytes)
  compiledTransactionMessageDecoder bytes := orThrow ((decodeMessage bytes).map compiledMessage)
  data_ne_empty bytes compiled h _ instruction hi := by
    cases hd : decodeMessage bytes with
    | none => simp [hd, orThrow] at h
    | some decoded =>
      simp only [hd, Option.map_some, orThrow, Except.ok.injEq] at h
      exact compiledMessage_data_ne_empty (h ▸ hi)
  decompileTransactionMessage := decompile
  computeBudgetProgramAddress := Base58.encode computeBudgetId.bytes
  computeBudgetProgramAddress_eq := rfl
  maxComputeUnitLimit := 1400000
  maxComputeUnitLimit_eq := rfl
  identifyComputeBudgetInstruction := identify
  identify_discriminator kind operand := by cases kind <;> rfl
  identify_nil := ⟨.packageError, rfl⟩
  identify_unknown d operand h := ⟨.packageError, identify_of_unknown h⟩
  requestHeapFrameDecoder := operandDecoder 4 id
  requestHeapFrameDecoder_reads := operandDecoder_reads 4 id
  setComputeUnitLimitDecoder := operandDecoder 4 id
  setComputeUnitLimitDecoder_reads := operandDecoder_reads 4 id
  setComputeUnitPriceDecoder := operandDecoder 8 Int.ofNat
  setComputeUnitPriceDecoder_reads := operandDecoder_reads 8 Int.ofNat
  setLoadedAccountsDataSizeLimitDecoder := operandDecoder 4 id
  setLoadedAccountsDataSizeLimitDecoder_reads := operandDecoder_reads 4 id

theorem reference_base64Encoder_encode (computeBudgetId : Address) (bytes : Bytes) :
    (Packages.reference computeBudgetId).base64Encoder (String.ofList (Base64.encode bytes)) =
      .ok bytes := by
  change orThrow (Base64.decode (String.ofList (Base64.encode bytes)).toList) = _
  rw [String.toList_ofList, Base64.decode_encode, orThrow]

end TransactionV1.TypeScript

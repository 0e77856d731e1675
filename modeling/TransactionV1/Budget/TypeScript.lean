import TransactionV1.Budget.Rust
import TransactionV1.TypeScript.Packages
import Mathlib.Data.List.ReduceOption

/-! # The TypeScript accessors

`ts/kit/src/lib/budget.ts`: the budget of a gRPC message and of a base64 wire
transaction, through one shared helper. The helper returns exactly when all data
it is given is readable, and then it returns the stated budget.
-/

namespace TransactionV1.TypeScript

open Fallible

def defaultComputeUnitsPerInstruction : ℕ := 200000

section Accessors

variable {computeBudgetId : Address} (pkg : Packages computeBudgetId)

def isComputeBudgetProgram (accountKey : Option Bytes) : Bool :=
  match accountKey with
  | none => false
  | some key =>
    decide (key.length = 32) && decide (pkg.addressDecoder key = pkg.computeBudgetProgramAddress)

/-- `defaultComputeUnitLimit`. The product of numbers is exact below `2 ^ 53`. -/
def defaultComputeUnitLimit (instructionCount : ℕ) : ℕ :=
  min (defaultComputeUnitsPerInstruction * instructionCount) pkg.maxComputeUnitLimit

/-- The local state of `computeBudgetOfInstructionData`. -/
structure Scan where
  budget : ComputeBudget := {}
  priceMicroLamportsPerCu : Option ℤ := none

/-- The `switch` on one instruction's data. -/
def Scan.read (s : Scan) (data : Bytes) : Except JsError Scan := do
  match ← pkg.identifyComputeBudgetInstruction data with
  | .requestHeapFrame =>
    return { s with budget := { s.budget with heapSize := ← pkg.requestHeapFrameDecoder data } }
  | .setComputeUnitLimit =>
    return { s with
      budget := { s.budget with computeUnitLimit := ← pkg.setComputeUnitLimitDecoder data } }
  | .setComputeUnitPrice =>
    return { s with priceMicroLamportsPerCu := ← pkg.setComputeUnitPriceDecoder data }
  | .setLoadedAccountsDataSizeLimit =>
    return { s with
      budget := { s.budget with
        loadedAccountsDataSizeLimit := ← pkg.setLoadedAccountsDataSizeLimitDecoder data } }
  | .requestUnits => return s

/-- The body of the loop over `computeBudgetData`. -/
def Scan.step (s : Scan) (data : Option Bytes) : Except JsError Scan :=
  match data with
  | none => return s
  | some data => s.read pkg data

def computeBudgetOfInstructionData (computeBudgetData : List (Option Bytes))
    (instructionCount : ℕ) : Except JsError ComputeBudget := do
  let s ← computeBudgetData.foldlM (Scan.step pkg) {}
  match s.priceMicroLamportsPerCu with
  | none => return s.budget
  | some price =>
    let limit : ℤ := s.budget.computeUnitLimit.getD (defaultComputeUnitLimit pkg instructionCount)
    let microLamports := limit * price
    return { s.budget with priorityFeeLamports := some ((microLamports + 999999).tdiv 1000000) }

def computeBudgetOfMessage (message : GrpcMessage) : Except JsError ComputeBudget :=
  if messageVersion message = .v1 then do
    let config := message.config.getD ⟨none, none, none, none⟩
    return {
      computeUnitLimit := config.computeUnitLimit
      heapSize := config.heapSize
      loadedAccountsDataSizeLimit := config.loadedAccountsDataSizeLimit
      priorityFeeLamports := ← config.priorityFee.mapM bigInt }
  else
    let computeBudgetData := (message.instructions.filter fun instruction =>
      isComputeBudgetProgram pkg message.accountKeys[instruction.programIdIndex.toNat]?).map
        fun instruction => some instruction.data
    computeBudgetOfInstructionData pkg computeBudgetData message.instructions.length

def computeBudgetOfCompiled (compiled : CompiledTransactionMessage) :
    Except JsError (ComputeBudget × TransactionVersion) :=
  match compiled.version with
  | .number 1 => do
    let config ← pkg.decompileTransactionMessage compiled
    return (config.getD {}, .number 1)
  | .number 0 | .legacy => do
    let computeBudgetData := (compiled.instructions.filter fun instruction =>
      decide (compiled.staticAccounts[instruction.programAddressIndex]? =
        some pkg.computeBudgetProgramAddress)).map (·.data)
    let budget ← computeBudgetOfInstructionData pkg computeBudgetData compiled.instructions.length
    return (budget, compiled.version)
  | .number n =>
    .error (.error ("cannot read a compute budget from transaction version " ++ toString n))

/-- The decoders `computeBudgetOfBase64Transaction` calls, in order. -/
def compiledOfBase64 (base64EncodedTransaction : String) :
    Except JsError CompiledTransactionMessage := do
  let wireTransaction ← pkg.base64Encoder base64EncodedTransaction
  let messageBytes ← pkg.transactionDecoder wireTransaction
  pkg.compiledTransactionMessageDecoder messageBytes

def computeBudgetOfBase64Transaction (base64EncodedTransaction : String) :
    Except JsError (ComputeBudget × TransactionVersion) := do
  let compiled ← compiledOfBase64 pkg base64EncodedTransaction
  computeBudgetOfCompiled pkg compiled

end Accessors

def formatComputeBudget (budget : ComputeBudget) (indent : String) : String :=
  let priorityFee := match budget.priorityFeeLamports with
    | none => "unset (0)"
    | some fee => toString fee ++ " lamports (total, not micro-lamports/CU)"
  String.intercalate "\n"
    [indent ++ "priorityFee:                  " ++ priorityFee,
      indent ++ "computeUnitLimit:             " ++
        (budget.computeUnitLimit.map toString).getD "unset (0)",
      indent ++ "loadedAccountsDataSizeLimit:  " ++
        (budget.loadedAccountsDataSizeLimit.map toString).getD "unset (0)",
      indent ++ "heapSize:                     " ++
        (budget.heapSize.map toString).getD "unset (32KB default)"]

def Scan.ofSlots (slots : Slot → Option ℕ) : Scan where
  budget :=
    { computeUnitLimit := slots .computeUnitLimit
      heapSize := slots .heapSize
      loadedAccountsDataSizeLimit := slots .loadedAccountsDataSizeLimit }
  priceMicroLamportsPerCu := (slots .computeUnitPrice).map Int.ofNat

/-- A budget in whole numbers as the TypeScript code represents it. -/
def ofBudget (b : Budget) : ComputeBudget where
  computeUnitLimit := b.computeUnitLimit
  heapSize := b.heapSize
  loadedAccountsDataSizeLimit := b.loadedAccountsDataSizeLimit
  priorityFeeLamports := b.priorityFeeLamports.map Int.ofNat

/-- The write of one instruction's data on the slots read so far. -/
def writeSlots (slots : Slot → Option ℕ) (data : Bytes) : Slot → Option ℕ :=
  (writeOf data).elim slots (LastWrite.write slots)

def instructionOf : Slot → ComputeBudgetInstruction
  | .heapSize => .requestHeapFrame
  | .computeUnitLimit => .setComputeUnitLimit
  | .computeUnitPrice => .setComputeUnitPrice
  | .loadedAccountsDataSizeLimit => .setLoadedAccountsDataSizeLimit

section Reading

variable {computeBudgetId : Address} (pkg : Packages computeBudgetId)

theorem identify_slot (slot : Slot) (operand : Bytes) :
    pkg.identifyComputeBudgetInstruction (slot.discriminant :: operand) =
      .ok (instructionOf slot) := by
  have hd : slot.discriminant = (instructionOf slot).discriminator := by cases slot <;> rfl
  rw [hd, pkg.identify_discriminator]

theorem Scan.read_slot_of_some {slot : Slot} {operand : Bytes} {n : ℕ}
    (h : LittleEndian.read? slot.width operand = some n) (slots : Slot → Option ℕ) :
    (ofSlots slots).read pkg (slot.discriminant :: operand) =
      .ok (ofSlots (LastWrite.write slots (slot, some n))) := by
  rw [Scan.read, identify_slot, ok_bind]
  cases slot with
  | heapSize =>
    simp [instructionOf, pkg.requestHeapFrameDecoder_reads.decode_of_some _ _ _ h, ofSlots]
  | computeUnitLimit =>
    simp [instructionOf, pkg.setComputeUnitLimitDecoder_reads.decode_of_some _ _ _ h, ofSlots]
  | computeUnitPrice =>
    simp [instructionOf, pkg.setComputeUnitPriceDecoder_reads.decode_of_some _ _ _ h, ofSlots]
  | loadedAccountsDataSizeLimit =>
    simp [instructionOf, pkg.setLoadedAccountsDataSizeLimitDecoder_reads.decode_of_some _ _ _ h,
      ofSlots]

theorem Scan.read_slot_of_none {slot : Slot} {operand : Bytes}
    (h : LittleEndian.read? slot.width operand = none) (s : Scan) :
    ∃ e, s.read pkg (slot.discriminant :: operand) = .error e := by
  rw [Scan.read, identify_slot, ok_bind]
  cases slot with
  | heapSize =>
    obtain ⟨e, he⟩ := pkg.requestHeapFrameDecoder_reads.decode_of_none 1 _ h
    exact ⟨e, by simp [instructionOf, Slot.discriminant, he]⟩
  | computeUnitLimit =>
    obtain ⟨e, he⟩ := pkg.setComputeUnitLimitDecoder_reads.decode_of_none 2 _ h
    exact ⟨e, by simp [instructionOf, Slot.discriminant, he]⟩
  | computeUnitPrice =>
    obtain ⟨e, he⟩ := pkg.setComputeUnitPriceDecoder_reads.decode_of_none 3 _ h
    exact ⟨e, by simp [instructionOf, Slot.discriminant, he]⟩
  | loadedAccountsDataSizeLimit =>
    obtain ⟨e, he⟩ := pkg.setLoadedAccountsDataSizeLimitDecoder_reads.decode_of_none 4 _ h
    exact ⟨e, by simp [instructionOf, Slot.discriminant, he]⟩

theorem Scan.read_of_readable {data : Bytes} (h : Readable data) (slots : Slot → Option ℕ) :
    (ofSlots slots).read pkg data = .ok (ofSlots (writeSlots slots data)) := by
  cases data with
  | nil => exact absurd h not_readable_nil
  | cons d operand =>
    rcases h with rfl | ⟨slot, hs, hw⟩
    · have hi : pkg.identifyComputeBudgetInstruction (0 :: operand) = .ok .requestUnits :=
        pkg.identify_discriminator .requestUnits operand
      rw [Scan.read, hi]
      rfl
    · obtain rfl := Slot.ofDiscriminant?_eq_some_iff.mp hs
      have hr := LittleEndian.read?_of_le hw
      rw [read_slot_of_some pkg hr, writeSlots, writeOf, Slot.ofDiscriminant?_discriminant,
        Option.map_some, hr, Option.elim_some]

theorem Scan.read_of_not_readable {data : Bytes} (h : ¬ Readable data) (s : Scan) :
    ∃ e, s.read pkg data = .error e := by
  cases data with
  | nil =>
    obtain ⟨e, he⟩ := pkg.identify_nil
    exact ⟨e, by rw [Scan.read, he, error_bind]⟩
  | cons d operand =>
    obtain ⟨h0, hn⟩ := not_or.mp h
    cases hs : Slot.ofDiscriminant? d with
    | none =>
      have hk : ∀ kind, d ≠ ComputeBudgetInstruction.discriminator kind := by
        intro kind hd
        subst hd
        cases kind <;> first | exact h0 rfl | cases hs
      obtain ⟨e, he⟩ := pkg.identify_unknown d operand hk
      exact ⟨e, by rw [Scan.read, he, error_bind]⟩
    | some slot =>
      obtain rfl := Slot.ofDiscriminant?_eq_some_iff.mp hs
      refine Scan.read_slot_of_none pkg ?_ s
      rw [LittleEndian.read?_eq_none_iff]
      exact Nat.not_le.mp fun hle => hn ⟨slot, hs, hle⟩

theorem Scan.step_body :
    Body Scan.ofSlots (Scan.step pkg)
      (fun slots (data : Option Bytes) => data.elim slots (writeSlots slots))
      (fun data => ∀ d ∈ data, Readable d) where
  of_fine slots data h := by
    cases data with
    | none => rfl
    | some d => exact Scan.read_of_readable pkg (h d rfl) slots
  of_not_fine slots data h := by
    cases data with
    | none => simp at h
    | some d => exact Scan.read_of_not_readable pkg (by simpa using h) (Scan.ofSlots slots)

theorem foldl_writeSlots (slots : Slot → Option ℕ) (data : List (Option Bytes)) :
    data.foldl (fun slots d => d.elim slots (writeSlots slots)) slots =
      LastWrite.run slots (data.reduceOption.filterMap writeOf) := by
  induction data generalizing slots with
  | nil => rfl
  | cons d data ih =>
    rw [List.foldl_cons, ih]
    cases d with
    | none => rw [List.reduceOption_cons_of_none, Option.elim_none]
    | some d =>
      rw [List.reduceOption_cons_of_some, Option.elim_some, writeSlots]
      cases hw : writeOf d with
      | none => rw [List.filterMap_cons_none hw, Option.elim_none]
      | some w => rw [List.filterMap_cons_some hw, Option.elim_some, LastWrite.run_cons]

theorem toInt_ceilDiv (n : ℕ) : ((n : ℤ) + 999999).tdiv 1000000 = ((n ⌈/⌉ 1000000 : ℕ) : ℤ) := by
  rw [Nat.ceilDiv_eq_add_pred_div, Int.tdiv_eq_ediv_of_nonneg (by omega)]
  omega

theorem toInt_effectiveLimit (slots : Slot → Option ℕ) (n : ℕ) :
    (slots .computeUnitLimit).getD (defaultComputeUnitLimit pkg n) = effectiveLimit slots n := by
  rw [effectiveLimit, implicitLimit, defaultComputeUnitLimit, pkg.maxComputeUnitLimit_eq,
    defaultComputeUnitsPerInstruction]

theorem forall_mem_reduceOption_iff {data : List (Option Bytes)} :
    (∀ d ∈ data.reduceOption, Readable d) ↔ ∀ d? ∈ data, ∀ d ∈ d?, Readable d := by
  simp only [List.reduceOption_mem_iff, Option.mem_def]
  exact ⟨fun h d? hd? d hd => h d (hd ▸ hd?), fun h d hd => h (some d) hd d rfl⟩

theorem computeBudgetOfInstructionData_of_readable {data : List (Option Bytes)}
    (h : ∀ d ∈ data.reduceOption, Readable d) (instructionCount : ℕ) :
    computeBudgetOfInstructionData pkg data instructionCount =
      .ok (ofBudget (Budget.stated data.reduceOption instructionCount)) := by
  have he : ({} : Scan) = Scan.ofSlots fun _ => none := rfl
  rw [computeBudgetOfInstructionData, he,
    (Scan.step_body pkg).foldlM_eq (forall_mem_reduceOption_iff.mp h), ok_bind,
    foldl_writeSlots, ← slotsOf]
  cases hp : slotsOf data.reduceOption .computeUnitPrice with
  | none => simp [Scan.ofSlots, ofBudget, Budget.stated, Budget.ofSlots, hp]
  | some price =>
    simp only [Scan.ofSlots, hp, Option.map_some, toInt_effectiveLimit, pure_eq_ok, ofBudget,
      Budget.stated, Budget.ofSlots, id_eq, Int.ofNat_eq_natCast, ← Nat.cast_mul, toInt_ceilDiv]

theorem computeBudgetOfInstructionData_of_not_readable {data : List (Option Bytes)}
    (h : ¬ ∀ d ∈ data.reduceOption, Readable d) (instructionCount : ℕ) :
    ∃ e, computeBudgetOfInstructionData pkg data instructionCount = .error e := by
  have hx : ∃ d? ∈ data, ¬ ∀ d ∈ d?, Readable d := by
    simpa [forall_mem_reduceOption_iff] using h
  have he : ({} : Scan) = Scan.ofSlots fun _ => none := rfl
  obtain ⟨e, hs⟩ := (Scan.step_body pkg).foldlM_error hx fun _ => none
  exact ⟨e, by rw [computeBudgetOfInstructionData, he, hs, error_bind]⟩

theorem succeeds_computeBudgetOfInstructionData_iff {data : List (Option Bytes)}
    {instructionCount : ℕ} :
    Succeeds (computeBudgetOfInstructionData pkg data instructionCount) ↔
      ∀ d ∈ data.reduceOption, Readable d := by
  constructor
  · intro hs
    by_contra h
    exact not_succeeds_iff.mpr
      (computeBudgetOfInstructionData_of_not_readable pkg h instructionCount) hs
  · intro h
    rw [computeBudgetOfInstructionData_of_readable pkg h]
    exact succeeds_ok _

theorem isComputeBudgetProgram_eq (accountKey : Option Bytes) :
    isComputeBudgetProgram pkg accountKey = decide (accountKey = some computeBudgetId.bytes) := by
  cases accountKey with
  | none => rfl
  | some key =>
    have hiff : key.length = 32 ∧ pkg.addressDecoder key = pkg.computeBudgetProgramAddress ↔
        key = computeBudgetId.bytes := by
      rw [pkg.computeBudgetProgramAddress_eq]
      constructor
      · rintro ⟨hl, ha⟩
        exact pkg.addressDecoder_inj _ _ hl computeBudgetId.length_bytes ha
      · rintro rfl
        exact ⟨computeBudgetId.length_bytes, rfl⟩
    simp only [isComputeBudgetProgram, Option.some.injEq, ← hiff, Bool.decide_and]

/-- Without a config, the gRPC path hands the data of the ComputeBudget
instructions to the helper, defined throughout. -/
theorem computeBudgetOfMessage_of_config_eq_none {message : GrpcMessage}
    (h : message.config = none) :
    computeBudgetOfMessage pkg message =
      computeBudgetOfInstructionData pkg ((computeBudgetData computeBudgetId message).map some)
        message.instructions.length := by
  have hv : Rust.messageVersion message ≠ .v1 := by simp [Rust.messageVersion_eq_v1_iff, h]
  rw [computeBudgetOfMessage, messageVersion_eq, if_neg hv]
  simp only [isComputeBudgetProgram_eq, computeBudgetData, List.map_map]
  rfl

theorem mapM_bigInt (config : TransactionConfig) :
    (grpcConfig config).priorityFee.mapM bigInt =
      .ok (config.priorityFee.map fun fee => Int.ofNat fee.toNat) := by
  unfold grpcConfig
  cases config.priorityFee with
  | none => rfl
  | some fee =>
    change (some <$> bigInt (toString fee.toNat)) = _
    rw [bigInt_toString]
    rfl

theorem reduceOption_map_some (data : List Bytes) : (data.map some).reduceOption = data := by
  rw [List.reduceOption, List.filterMap_map]
  exact List.filterMap_some

theorem computeBudgetOfMessage_of_config_eq_some {message : Message} {config : TransactionConfig}
    (h : message.config = some config) :
    computeBudgetOfMessage pkg (grpcMessage message) =
      .ok (ofBudget (Rust.ComputeBudget.fromConfig message).toBudget) := by
  have hg : (grpcMessage message).config = some (grpcConfig config) := by
    rw [grpcMessage, MessageOf.mapConfig, h, Option.map_some]
  have hv : Rust.messageVersion (grpcMessage message) = .v1 := by
    rw [Rust.messageVersion_eq_v1_iff, hg, Option.isSome_some]
  rw [computeBudgetOfMessage, messageVersion_eq, if_pos hv, hg, Option.getD_some]
  simp only [mapM_bigInt, ok_bind, pure_eq_ok, Rust.ComputeBudget.fromConfig, h,
    Rust.ComputeBudget.toBudget, ofBudget, Option.map_map]
  rfl

theorem computeBudgetOfMessage_of_readable {message : Message} (hc : message.config = none)
    (hr : ∀ data ∈ computeBudgetData computeBudgetId message, Readable data) :
    computeBudgetOfMessage pkg (grpcMessage message) =
      .ok (ofBudget (Budget.stated (computeBudgetData computeBudgetId message)
        message.instructions.length)) := by
  have hg : (grpcMessage message).config = none := by
    rw [grpcMessage, MessageOf.mapConfig, hc, Option.map_none]
  have hd := computeBudgetData_mapConfig grpcConfig computeBudgetId message
  rw [computeBudgetOfMessage_of_config_eq_none pkg hg, grpcMessage, hd,
    computeBudgetOfInstructionData_of_readable pkg (by rwa [reduceOption_map_some]),
    reduceOption_map_some]
  rfl

/-- The budget of a message can be read: from its config, or from instructions
whose data is readable. -/
def ReadableMessage {κ : Type} (computeBudgetId : Address) (message : MessageOf κ) : Prop :=
  message.config.isSome = true ∨ ∀ data ∈ computeBudgetData computeBudgetId message, Readable data

instance {κ : Type} (computeBudgetId : Address) :
    DecidablePred (ReadableMessage (κ := κ) computeBudgetId) :=
  fun _ => inferInstanceAs (Decidable (_ ∨ _))

theorem succeeds_computeBudgetOfMessage_iff (message : Message) :
    Succeeds (computeBudgetOfMessage pkg (grpcMessage message)) ↔
      ReadableMessage computeBudgetId message := by
  cases hc : message.config with
  | some config =>
    rw [computeBudgetOfMessage_of_config_eq_some pkg hc]
    exact iff_of_true (succeeds_ok _) (Or.inl (by rw [hc]; rfl))
  | none =>
    have hg : (grpcMessage message).config = none := by
      rw [grpcMessage, MessageOf.mapConfig, hc, Option.map_none]
    have hd := computeBudgetData_mapConfig grpcConfig computeBudgetId message
    rw [computeBudgetOfMessage_of_config_eq_none pkg hg,
      succeeds_computeBudgetOfInstructionData_iff, reduceOption_map_some, grpcMessage, hd,
      ReadableMessage, hc]
    simp

end Reading

end TransactionV1.TypeScript

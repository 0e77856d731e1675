import TransactionV1.Budget.Agreement

/-! # The two TypeScript read paths

One transaction reaches the shared helper as wire bytes, where an instruction
without data has none, and as a gRPC message, where its data is empty. The
helper skips the former and throws on the latter.
-/

namespace TransactionV1.TypeScript

open Fallible

variable {computeBudgetId : Address} (pkg : Packages computeBudgetId)

/-- The gRPC message shows the same legacy or v0 transaction as the compiled
message: the static accounts as 32-byte keys, and the instructions in the same
order with data that is empty where there is none. -/
structure Renders (compiled : CompiledTransactionMessage) (message : GrpcMessage) : Prop where
  version : compiled.version = .legacy ∨ compiled.version = .number 0
  versioned : message.versioned = decide (compiled.version ≠ .legacy)
  config : message.config = none
  length_key : ∀ key ∈ message.accountKeys, key.length = 32
  staticAccounts : compiled.staticAccounts = message.accountKeys.map pkg.addressDecoder
  instructions : compiled.instructions.map (fun i => (i.programAddressIndex, i.data.getD [])) =
    message.instructions.map fun i => (i.programIdIndex.toNat, i.data)

/-- Both computations return the same value, or both throw. -/
def SameOutcome {α ε ε' : Type} : Except ε α → Except ε' α → Prop
  | .ok a, .ok b => a = b
  | .error _, .error _ => True
  | _, _ => False

/-- The data of a compiled message's ComputeBudget instructions. -/
def compiledData (compiled : CompiledTransactionMessage) : List (Option Bytes) :=
  (compiled.instructions.filter fun instruction =>
    decide (compiled.staticAccounts[instruction.programAddressIndex]? =
      some pkg.computeBudgetProgramAddress)).map (·.data)

theorem computeBudgetOfCompiled_of_version {compiled : CompiledTransactionMessage}
    (h : compiled.version = .legacy ∨ compiled.version = .number 0) :
    computeBudgetOfCompiled pkg compiled =
      (computeBudgetOfInstructionData pkg (compiledData pkg compiled)
        compiled.instructions.length).map fun budget => (budget, compiled.version) := by
  have hd : computeBudgetOfCompiled pkg compiled = do
      let budget ← computeBudgetOfInstructionData pkg (compiledData pkg compiled)
        compiled.instructions.length
      return (budget, compiled.version) := by
    rcases h with h | h <;> simp only [computeBudgetOfCompiled, h] <;> rfl
  rw [hd]
  cases computeBudgetOfInstructionData pkg (compiledData pkg compiled)
    compiled.instructions.length <;> rfl

theorem version_ne_one {compiled : CompiledTransactionMessage}
    (h : compiled.version = .legacy ∨ compiled.version = .number 0) :
    compiled.version ≠ .number 1 := by
  rcases h with h | h <;> rw [h] <;> decide

theorem data_ne_empty_of_compiledOfBase64 {base64 : String}
    {compiled : CompiledTransactionMessage} (h : compiledOfBase64 pkg base64 = .ok compiled)
    (hv : compiled.version = .legacy ∨ compiled.version = .number 0) :
    ∀ instruction ∈ compiled.instructions, instruction.data ≠ some [] := by
  obtain ⟨_, -, h⟩ := bind_eq_ok_iff.mp h
  obtain ⟨bytes, -, h⟩ := bind_eq_ok_iff.mp h
  exact pkg.data_ne_empty bytes compiled h (version_ne_one hv)

section Rendering

variable {pkg} {compiled : CompiledTransactionMessage} {message : GrpcMessage}

theorem staticAccount_eq_iff (h : Renders pkg compiled message) (i : ℕ) :
    compiled.staticAccounts[i]? = some pkg.computeBudgetProgramAddress ↔
      message.accountKeys[i]? = some computeBudgetId.bytes := by
  rw [h.staticAccounts, List.getElem?_map, pkg.computeBudgetProgramAddress_eq]
  constructor
  · intro he
    obtain ⟨key, hk, ha⟩ := Option.map_eq_some_iff.mp he
    rw [hk, pkg.addressDecoder_inj key _ (h.length_key key (List.mem_of_getElem? hk))
      computeBudgetId.length_bytes ha]
  · intro he
    rw [he, Option.map_some]

theorem compiledData_getD (h : Renders pkg compiled message) :
    (compiledData pkg compiled).map (·.getD []) = computeBudgetData computeBudgetId message := by
  have hm := congrArg (fun l : List (ℕ × Bytes) => (l.filter fun p =>
    decide (message.accountKeys[p.1]? = some computeBudgetId.bytes)).map Prod.snd) h.instructions
  simp only [List.filter_map, List.map_map] at hm
  simp only [compiledData, staticAccount_eq_iff h, List.map_map]
  exact hm

theorem reduceOption_compiledData (h : Renders pkg compiled message)
    (hne : ∀ instruction ∈ compiled.instructions, instruction.data ≠ some []) :
    (compiledData pkg compiled).reduceOption =
      (computeBudgetData computeBudgetId message).filter (· ≠ []) := by
  have hne' : ∀ d ∈ compiledData pkg compiled, d ≠ some [] := by
    intro d hd
    obtain ⟨instruction, hi, rfl⟩ := List.mem_map.mp hd
    exact hne instruction (List.mem_of_mem_filter hi)
  rw [← compiledData_getD h]
  generalize compiledData pkg compiled = data at hne'
  induction data with
  | nil => rfl
  | cons d data ih =>
    have ih := ih fun d hd => hne' d (List.mem_cons_of_mem _ hd)
    cases d with
    | none => simpa using ih
    | some d =>
      have hd : d ≠ [] := fun he => hne' (some d) List.mem_cons_self (by rw [he])
      simp [hd, ih]

end Rendering

theorem map_fst_computeBudgetOfBase64Transaction {base64 : String}
    {compiled : CompiledTransactionMessage} (hs : compiledOfBase64 pkg base64 = .ok compiled)
    (hv : compiled.version = .legacy ∨ compiled.version = .number 0) :
    (computeBudgetOfBase64Transaction pkg base64).map Prod.fst =
      computeBudgetOfInstructionData pkg (compiledData pkg compiled)
        compiled.instructions.length := by
  rw [computeBudgetOfBase64Transaction, hs, ok_bind, computeBudgetOfCompiled_of_version pkg hv]
  cases computeBudgetOfInstructionData pkg (compiledData pkg compiled)
    compiled.instructions.length <;> rfl

/-- The helper's outcome on data with the empty pieces left undefined, against
its outcome on all of it. -/
theorem sameOutcome_filter_iff {data? : List (Option Bytes)} {data : List Bytes} (n : ℕ)
    (h : data?.reduceOption = data.filter (· ≠ [])) :
    SameOutcome (computeBudgetOfInstructionData pkg data? n)
        (computeBudgetOfInstructionData pkg (data.map some) n) ↔
      (∀ d ∈ data, d ≠ []) ∨ ∃ d ∈ data, d ≠ [] ∧ ¬ Readable d := by
  by_cases hw : ∀ d ∈ data?.reduceOption, Readable d
  · have hn : ¬ ∃ d ∈ data, d ≠ [] ∧ ¬ Readable d := by
      rintro ⟨d, hd, hne, hr⟩
      exact hr (hw d (by rw [h]; simp [hd, hne]))
    rw [computeBudgetOfInstructionData_of_readable pkg hw, or_iff_left hn]
    by_cases he : ∀ d ∈ data, d ≠ []
    · have hf : data?.reduceOption = data := by
        rw [h, List.filter_eq_self]
        simpa using he
      have hr : ∀ d ∈ (data.map some).reduceOption, Readable d := by
        rwa [reduceOption_map_some, ← hf]
      rw [computeBudgetOfInstructionData_of_readable pkg hr, reduceOption_map_some, hf]
      exact iff_of_true rfl he
    · have hr : ¬ ∀ d ∈ (data.map some).reduceOption, Readable d := by
        rw [reduceOption_map_some]
        intro hr
        refine he fun d hd hde => not_readable_nil ?_
        rw [← hde]
        exact hr d hd
      obtain ⟨e, hx⟩ := computeBudgetOfInstructionData_of_not_readable pkg hr n
      rw [hx]
      exact iff_of_false id he
  · obtain ⟨e, hx⟩ := computeBudgetOfInstructionData_of_not_readable pkg hw n
    have hu : ∃ d ∈ data, d ≠ [] ∧ ¬ Readable d := by
      rw [h] at hw
      push Not at hw
      obtain ⟨d, hd, hr⟩ := hw
      rw [List.mem_filter, decide_eq_true_eq] at hd
      exact ⟨d, hd.1, hd.2, hr⟩
    have hr : ¬ ∀ d ∈ (data.map some).reduceOption, Readable d := by
      rw [reduceOption_map_some]
      obtain ⟨d, hd, -, hd'⟩ := hu
      exact fun hr => hd' (hr d hd)
    obtain ⟨e', hx'⟩ := computeBudgetOfInstructionData_of_not_readable pkg hr n
    rw [hx, hx']
    exact iff_of_true trivial (Or.inr hu)

/-- The two paths have the same outcome exactly when no ComputeBudget instruction
lacks data, or some data that is present throws on both. -/
theorem readPaths_sameOutcome_iff {base64 : String} {compiled : CompiledTransactionMessage}
    {message : GrpcMessage} (hs : compiledOfBase64 pkg base64 = .ok compiled)
    (hr : Renders pkg compiled message) :
    SameOutcome ((computeBudgetOfBase64Transaction pkg base64).map Prod.fst)
        (computeBudgetOfMessage pkg message) ↔
      (∀ d ∈ computeBudgetData computeBudgetId message, d ≠ []) ∨
        ∃ d ∈ computeBudgetData computeBudgetId message, d ≠ [] ∧ ¬ Readable d := by
  have hl : compiled.instructions.length = message.instructions.length := by
    simpa using congrArg List.length hr.instructions
  rw [map_fst_computeBudgetOfBase64Transaction pkg hs hr.version, hl,
    computeBudgetOfMessage_of_config_eq_none pkg hr.config]
  exact sameOutcome_filter_iff pkg _ (reduceOption_compiledData hr
    (data_ne_empty_of_compiledOfBase64 pkg hs hr.version))

section Dataless

/-! A legacy transaction whose only instruction calls the ComputeBudget program
without data: its wire bytes, what they decode to, and its gRPC rendering. -/

def datalessWire : Bytes :=
  [1] ++ List.replicate 64 0 ++ [1, 0, 1, 2] ++ List.replicate 32 5 ++
    Address.computeBudget.bytes ++ List.replicate 32 0 ++ [1, 1, 0, 0]

def datalessBase64 : String := String.ofList (Base64.encode datalessWire)

def datalessCompiled : CompiledTransactionMessage where
  version := .legacy
  header := ⟨1, 0, 1⟩
  staticAccounts :=
    [Base58.encode (List.replicate 32 5), Base58.encode Address.computeBudget.bytes]
  lifetimeToken := Base58.encode (List.replicate 32 0)
  instructions := [⟨1, [], none⟩]

def datalessMessage : GrpcMessage where
  header := some ⟨1, 0, 1⟩
  accountKeys := [List.replicate 32 5, Address.computeBudget.bytes]
  recentBlockhash := List.replicate 32 0
  instructions := [⟨1, [], []⟩]

theorem decodeMessage_dataless : decodeMessage (datalessWire.drop 65) =
    some
      { version := .legacy
        header := ⟨1, 0, 1⟩
        keys := [List.replicate 32 5, Address.computeBudget.bytes]
        lifetime := List.replicate 32 0
        instructions := [(1, [], [])] } := by
  decide +kernel

theorem messageBytes_dataless : messageBytes datalessWire = some (datalessWire.drop 65) := by
  decide +kernel

theorem compiledOfBase64_dataless :
    compiledOfBase64 (.reference .computeBudget) datalessBase64 = .ok datalessCompiled := by
  have hb := reference_base64Encoder_encode .computeBudget datalessWire
  have ht : (Packages.reference .computeBudget).transactionDecoder datalessWire =
      .ok (datalessWire.drop 65) := by
    simp only [Packages.reference, messageBytes_dataless]
    rfl
  have hd : (Packages.reference .computeBudget).compiledTransactionMessageDecoder
      (datalessWire.drop 65) = .ok datalessCompiled := by
    simp only [Packages.reference, decodeMessage_dataless, Option.map_some, orThrow]
    rfl
  rw [compiledOfBase64, datalessBase64, hb, ok_bind, ht, ok_bind, hd]

theorem renders_dataless :
    Renders (.reference .computeBudget) datalessCompiled datalessMessage where
  version := Or.inl rfl
  versioned := rfl
  config := rfl
  length_key := by decide
  staticAccounts := rfl
  instructions := rfl

/-- The wire path returns an empty budget, and the gRPC path throws. -/
theorem readPaths_differ_of_dataless :
    compiledOfBase64 (.reference .computeBudget) datalessBase64 = .ok datalessCompiled ∧
      Renders (.reference .computeBudget) datalessCompiled datalessMessage ∧
      computeBudgetOfBase64Transaction (.reference .computeBudget) datalessBase64 =
        .ok ({}, .legacy) ∧
      computeBudgetOfMessage (.reference .computeBudget) datalessMessage = .error .packageError ∧
      ¬ SameOutcome
        ((computeBudgetOfBase64Transaction (.reference .computeBudget) datalessBase64).map Prod.fst)
        (computeBudgetOfMessage (.reference .computeBudget) datalessMessage) := by
  have hw : computeBudgetOfBase64Transaction (.reference .computeBudget) datalessBase64 =
      .ok ({}, .legacy) := by
    rw [computeBudgetOfBase64Transaction, compiledOfBase64_dataless, ok_bind,
      computeBudgetOfCompiled_of_version _ (Or.inl rfl)]
    have hd : compiledData (.reference .computeBudget) datalessCompiled = [none] := by
      simp [compiledData, datalessCompiled, Packages.reference]
    rw [hd]
    rfl
  have hg : computeBudgetOfMessage (.reference .computeBudget) datalessMessage =
      .error .packageError := by
    rw [computeBudgetOfMessage_of_config_eq_none _ rfl]
    have hd : computeBudgetData .computeBudget datalessMessage = [[]] := by decide
    rw [hd]
    rfl
  refine ⟨compiledOfBase64_dataless, renders_dataless, hw, hg, ?_⟩
  rw [hw, hg]
  exact id

theorem readPaths_sameOutcome_iff_of_dataless :
    SameOutcome
        ((computeBudgetOfBase64Transaction (.reference .computeBudget) datalessBase64).map Prod.fst)
        (computeBudgetOfMessage (.reference .computeBudget) datalessMessage) ↔
      (∀ d ∈ computeBudgetData .computeBudget datalessMessage, d ≠ []) ∨
        ∃ d ∈ computeBudgetData .computeBudget datalessMessage, d ≠ [] ∧ ¬ Readable d :=
  readPaths_sameOutcome_iff (.reference .computeBudget) compiledOfBase64_dataless renders_dataless

end Dataless

end TransactionV1.TypeScript

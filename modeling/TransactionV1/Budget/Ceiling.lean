import TransactionV1.Budget.Carried
import TransactionV1.Budget.Agreement

/-! # Limits above the ceiling

The ceiling of 1400000 compute units bounds the implicit limit alone. A stated
limit above it is priced as it is stated, so the fee is at least that of the
message with the limit replaced by the ceiling.
-/

namespace TransactionV1

/-- The data of a limit instruction with its operand replaced by 1400000. -/
def ceilingData (data : Bytes) : Bytes :=
  Slot.computeUnitLimit.discriminant :: (LittleEndian.encode 4 1400000 ++ data.drop 5)

/-- The fee of a message that states a limit, and of the message with the limit
replaced by the ceiling. They are equal when a later instruction overrides the
limit, and each is priced on its own limit when none does. -/
structure PricedAsStated (clip : ℕ → ℕ) (overridden : Prop) (price? : Option ℕ) (limit : ℕ)
    (fee ceilingFee : Option ℕ) : Prop where
  eq_of_overridden : overridden → fee = ceilingFee
  fee_eq : ¬ overridden → fee = price?.map fun price => clip (limit * price) ⌈/⌉ 1000000
  ceilingFee_eq : ¬ overridden →
    ceilingFee = price?.map fun price => clip (1400000 * price) ⌈/⌉ 1000000
  isSome_iff : fee.isSome = true ↔ ceilingFee.isSome = true
  ceilingFee_le : ∀ total ∈ fee, ∀ ceilingTotal ∈ ceilingFee, ceilingTotal ≤ total

theorem carries_ceilingData_iff {slot : Slot} {data : Bytes} :
    Carries slot (ceilingData data) ↔ slot = .computeUnitLimit := by
  cases slot <;> simp [Carries, ceilingData, Slot.discriminant]

theorem operand?_ceilingData (data : Bytes) :
    operand? .computeUnitLimit (ceilingData data) = some 1400000 :=
  LittleEndian.read?_encode_append (by decide) (data.drop 5)

theorem readable_ceilingData (data : Bytes) : Readable (ceilingData data) :=
  Or.inr ⟨.computeUnitLimit, rfl, by simp [Slot.width]⟩

theorem carries_iff_of_carries {slot slot' : Slot} {data : Bytes} (h : Carries slot data) :
    Carries slot' data ↔ slot' = slot := by
  unfold Carries at *
  rw [h]
  cases slot <;> cases slot' <;> simp [Slot.discriminant]

theorem readable_of_operand? {slot : Slot} {data : Bytes} {n : ℕ} (hc : Carries slot data)
    (h : operand? slot data = some n) : Readable data := by
  cases data with
  | nil => cases hc
  | cons d operand =>
    refine Or.inr ⟨slot, Slot.ofDiscriminant?_eq_some_iff.mpr (Option.some.inj hc), ?_⟩
    refine Nat.le_of_not_lt fun hlt => ?_
    rw [operand?, List.tail_cons, LittleEndian.read?_eq_none_iff.mpr hlt] at h
    cases h

section Slots

variable {data : Bytes} {limit : ℕ} (hc : Carries .computeUnitLimit data)
  (before after : List Bytes)

include hc

theorem slotsOf_price_of_carries_limit :
    slotsOf (before ++ data :: after) .computeUnitPrice =
      slotsOf (before ++ after) .computeUnitPrice := by
  have hn : ¬ Carries .computeUnitPrice data := by simp [carries_iff_of_carries hc]
  rw [slotsOf_insert_apply, if_neg fun h => hn h.1]

theorem slotsOf_limit_of_carries_limit (ho : operand? .computeUnitLimit data = some limit) :
    slotsOf (before ++ data :: after) .computeUnitLimit =
      if ∃ d ∈ after, Carries .computeUnitLimit d then
        slotsOf (before ++ after) .computeUnitLimit
      else some limit := by
  rw [slotsOf_insert_apply]
  by_cases hx : ∃ d ∈ after, Carries .computeUnitLimit d
  · have hn : ¬ ∀ d ∈ after, ¬ Carries .computeUnitLimit d := by simpa using hx
    rw [if_pos hx, if_neg fun h => hn h.2]
  · have hn : ∀ d ∈ after, ¬ Carries .computeUnitLimit d := by simpa using hx
    rw [if_neg hx, if_pos ⟨hc, hn⟩, ho]

theorem priorityFee_of_carries_limit (ho : operand? .computeUnitLimit data = some limit)
    (clip : ℕ → ℕ) (n : ℕ) :
    (Budget.ofSlots clip (slotsOf (before ++ data :: after)) n).priorityFeeLamports =
      (slotsOf (before ++ after) .computeUnitPrice).map fun price =>
        clip ((if ∃ d ∈ after, Carries .computeUnitLimit d then
          effectiveLimit (slotsOf (before ++ after)) n else limit) * price) ⌈/⌉ 1000000 := by
  simp only [Budget.ofSlots, effectiveLimit, slotsOf_price_of_carries_limit hc,
    slotsOf_limit_of_carries_limit hc before after ho]
  split_ifs <;> rfl

end Slots

theorem ceilDiv_mono {m n : ℕ} (h : m ≤ n) : m ⌈/⌉ 1000000 ≤ n ⌈/⌉ 1000000 := by
  rw [Nat.ceilDiv_eq_add_pred_div, Nat.ceilDiv_eq_add_pred_div]
  exact Nat.div_le_div_right (by omega)

theorem pricedAsStated_ofSlots {clip : ℕ → ℕ} (hclip : Monotone clip) {data : Bytes} {limit : ℕ}
    (hc : Carries .computeUnitLimit data) (ho : operand? .computeUnitLimit data = some limit)
    (hlt : 1400000 < limit) (before after : List Bytes) (n : ℕ) :
    PricedAsStated clip (∃ d ∈ after, Carries .computeUnitLimit d)
      (slotsOf (before ++ data :: after) .computeUnitPrice) limit
      (Budget.ofSlots clip (slotsOf (before ++ data :: after)) n).priorityFeeLamports
      (Budget.ofSlots clip
        (slotsOf (before ++ ceilingData data :: after)) n).priorityFeeLamports := by
  have hf := priorityFee_of_carries_limit hc before after ho clip n
  have hf' := priorityFee_of_carries_limit (carries_ceilingData_iff.mpr rfl) before after
    (operand?_ceilingData data) clip n
  rw [hf, hf', slotsOf_price_of_carries_limit hc]
  refine ⟨fun hx => by simp only [if_pos hx], fun hx => by simp only [if_neg hx],
    fun hx => by simp only [if_neg hx], by simp, ?_⟩
  intro total ht ceilingTotal ht'
  obtain ⟨price, hp, rfl⟩ := Option.map_eq_some_iff.mp ht
  rw [hp, Option.map_some, Option.mem_def, Option.some.injEq] at ht'
  rw [← ht']
  apply ceilDiv_mono
  apply hclip
  apply Nat.mul_le_mul_right
  split_ifs
  · exact le_rfl
  · exact hlt.le

theorem monotone_clip : Monotone Rust.clip := fun _ _ h => min_le_min_right _ h

section Readers

open TypeScript

variable (sdk : Go.SolanaGo) {computeBudgetId : Address} (pkg : Packages computeBudgetId)
  {message : Message}

theorem go_priorityFee (hb : message.Bounded) (hc : message.config = none) :
    ∃ budget, Go.budgetOfMessage sdk computeBudgetId message = .ok budget ∧
      budget.priorityFee.map UInt64.toNat =
        (Budget.ofSlots Rust.clip (slotsOf (computeBudgetData computeBudgetId message))
          message.instructions.length).priorityFeeLamports :=
  ⟨_, Go.budgetOfMessage_eq sdk computeBudgetId hb,
    Rust.ComputeBudget.map_toNat_priorityFeeLamports_ofMessage computeBudgetId hc⟩

theorem typeScript_priorityFee (hc : message.config = none)
    (hs : Fallible.Succeeds (computeBudgetOfMessage pkg (grpcMessage message))) :
    ∃ budget, computeBudgetOfMessage pkg (grpcMessage message) = .ok budget ∧
      budget.priorityFeeLamports =
        (Budget.ofSlots id (slotsOf (computeBudgetData computeBudgetId message))
          message.instructions.length).priorityFeeLamports.map Int.ofNat := by
  have hr := ((succeeds_computeBudgetOfMessage_iff pkg message).mp hs).resolve_left (by simp [hc])
  exact ⟨_, computeBudgetOfMessage_of_readable pkg hc hr, rfl⟩

end Readers

section Messages

open TypeScript

/-- The limit instruction with its operand replaced by the ceiling. -/
def ceilingInstruction (instruction : CompiledInstruction) : CompiledInstruction :=
  { instruction with data := ceilingData instruction.data }

variable (sdk : Go.SolanaGo) {computeBudgetId : Address} (pkg : Packages computeBudgetId)
  (message : Message) (earlier later : List CompiledInstruction)
  {instruction : CompiledInstruction} {limit : ℕ}

theorem computeBudgetData_ceilingInstruction
    (hi : AddressedTo computeBudgetId message.accountKeys instruction) :
    computeBudgetData computeBudgetId
        { message with instructions := earlier ++ ceilingInstruction instruction :: later } =
      computeBudgetData computeBudgetId { message with instructions := earlier } ++
        ceilingData instruction.data ::
          computeBudgetData computeBudgetId { message with instructions := later } := by
  have hi' : AddressedTo computeBudgetId message.accountKeys (ceilingInstruction instruction) := hi
  exact computeBudgetData_of_addressedTo computeBudgetId message earlier later hi'

theorem pricedAsStated_message {clip : ℕ → ℕ} (hclip : Monotone clip)
    (hi : AddressedTo computeBudgetId message.accountKeys instruction)
    (hl : Carries .computeUnitLimit instruction.data)
    (ho : operand? .computeUnitLimit instruction.data = some limit) (hlt : 1400000 < limit)
    (n : ℕ) :
    PricedAsStated clip
      (∃ d ∈ computeBudgetData computeBudgetId { message with instructions := later },
        Carries .computeUnitLimit d)
      (slotsOf (computeBudgetData computeBudgetId
        { message with instructions := earlier ++ instruction :: later }) .computeUnitPrice)
      limit
      (Budget.ofSlots clip (slotsOf (computeBudgetData computeBudgetId
        { message with instructions := earlier ++ instruction :: later })) n).priorityFeeLamports
      (Budget.ofSlots clip (slotsOf (computeBudgetData computeBudgetId
        { message with instructions := earlier ++ ceilingInstruction instruction :: later }))
          n).priorityFeeLamports := by
  rw [computeBudgetData_of_addressedTo computeBudgetId message earlier later hi,
    computeBudgetData_ceilingInstruction message earlier later hi]
  exact pricedAsStated_ofSlots hclip hl ho hlt _ _ n

theorem succeeds_ceilingInstruction_iff
    (hi : AddressedTo computeBudgetId message.accountKeys instruction)
    (hl : Carries .computeUnitLimit instruction.data)
    (ho : operand? .computeUnitLimit instruction.data = some limit) :
    Fallible.Succeeds (computeBudgetOfMessage pkg
        (grpcMessage { message with instructions := earlier ++ instruction :: later })) ↔
      Fallible.Succeeds (computeBudgetOfMessage pkg (grpcMessage
        { message with instructions := earlier ++ ceilingInstruction instruction :: later })) := by
  have hr := readable_of_operand? hl ho
  have hr' := readable_ceilingData instruction.data
  simp only [succeeds_computeBudgetOfMessage_iff, ReadableMessage,
    computeBudgetData_of_addressedTo computeBudgetId message earlier later hi,
    computeBudgetData_ceilingInstruction message earlier later hi, List.forall_mem_append,
    List.forall_mem_cons, hr, hr', true_and]

/-- A limit above the ceiling is priced as it is stated: in Rust and Go with the
product cut off at the largest 64-bit word, in TypeScript exactly. -/
theorem pricedAsStated (hc : message.config = none)
    (hi : AddressedTo computeBudgetId message.accountKeys instruction)
    (hl : Carries .computeUnitLimit instruction.data)
    (ho : operand? .computeUnitLimit instruction.data = some limit) (hlt : 1400000 < limit) :
    let stated : Message := { message with instructions := earlier ++ instruction :: later }
    let ceiling : Message :=
      { message with instructions := earlier ++ ceilingInstruction instruction :: later }
    let overridden :=
      ∃ d ∈ computeBudgetData computeBudgetId { message with instructions := later },
        Carries .computeUnitLimit d
    let price? := slotsOf (computeBudgetData computeBudgetId stated) .computeUnitPrice
    PricedAsStated Rust.clip overridden price? limit
        ((Rust.ComputeBudget.ofMessage computeBudgetId stated).priorityFeeLamports.map UInt64.toNat)
        ((Rust.ComputeBudget.ofMessage computeBudgetId ceiling).priorityFeeLamports.map
          UInt64.toNat) ∧
      (stated.Bounded → ∃ budget ceilingBudget,
        Go.budgetOfMessage sdk computeBudgetId stated = .ok budget ∧
        Go.budgetOfMessage sdk computeBudgetId ceiling = .ok ceilingBudget ∧
        PricedAsStated Rust.clip overridden price? limit (budget.priorityFee.map UInt64.toNat)
          (ceilingBudget.priorityFee.map UInt64.toNat)) ∧
      (Fallible.Succeeds (computeBudgetOfMessage pkg (grpcMessage stated)) ↔
        Fallible.Succeeds (computeBudgetOfMessage pkg (grpcMessage ceiling))) ∧
      (Fallible.Succeeds (computeBudgetOfMessage pkg (grpcMessage stated)) →
        ∃ budget ceilingBudget fee ceilingFee,
          computeBudgetOfMessage pkg (grpcMessage stated) = .ok budget ∧
          computeBudgetOfMessage pkg (grpcMessage ceiling) = .ok ceilingBudget ∧
          budget.priorityFeeLamports = fee.map Int.ofNat ∧
          ceilingBudget.priorityFeeLamports = ceilingFee.map Int.ofNat ∧
          PricedAsStated id overridden price? limit fee ceilingFee) := by
  intro stated ceiling overridden price?
  have hs : stated.config = none := hc
  have hce : ceiling.config = none := hc
  have hlen : ceiling.instructions.length = stated.instructions.length := by
    simp [ceiling, stated]
  have hclip := pricedAsStated_message message earlier later monotone_clip hi hl ho hlt
    stated.instructions.length
  have hid := pricedAsStated_message message earlier later monotone_id hi hl ho hlt
    stated.instructions.length
  have hiff := succeeds_ceilingInstruction_iff pkg message earlier later hi hl ho
  refine ⟨?_, fun hb => ?_, hiff, fun hsucc => ?_⟩
  · rw [Rust.ComputeBudget.map_toNat_priorityFeeLamports_ofMessage computeBudgetId hs,
      Rust.ComputeBudget.map_toNat_priorityFeeLamports_ofMessage computeBudgetId hce, hlen]
    exact hclip
  · have hb' : ceiling.Bounded := ⟨hb.accountKeys_lt, hlen ▸ hb.instructions_lt⟩
    obtain ⟨budget, hg, hf⟩ := go_priorityFee sdk hb hs
    obtain ⟨ceilingBudget, hg', hf'⟩ := go_priorityFee sdk hb' hce
    refine ⟨budget, ceilingBudget, hg, hg', ?_⟩
    rw [hf, hf', hlen]
    exact hclip
  · obtain ⟨budget, ht, hf⟩ := typeScript_priorityFee pkg hs hsucc
    obtain ⟨ceilingBudget, ht', hf'⟩ := typeScript_priorityFee pkg hce (hiff.mp hsucc)
    rw [hlen] at hf'
    exact ⟨budget, ceilingBudget, _, _, ht, ht', hf, hf', hid⟩

end Messages

section AboveCeiling

open TypeScript

/-! A limit of 2800000 and a price of one lamport per compute unit. -/

def aboveCeilingMessage (limitInstruction : CompiledInstruction) : Message where
  accountKeys := [Address.computeBudget.bytes]
  instructions :=
    [] ++ limitInstruction :: [⟨0, [], [3, 64, 66, 15, 0, 0, 0, 0, 0]⟩]

theorem typeScript_fee_of_aboveCeiling {limitInstruction : CompiledInstruction} {fee : ℕ}
    (hr : ∀ data ∈ computeBudgetData .computeBudget (aboveCeilingMessage limitInstruction),
      Readable data)
    (hf : (Budget.stated (computeBudgetData .computeBudget
      (aboveCeilingMessage limitInstruction)) 2).priorityFeeLamports = some fee) :
    (computeBudgetOfMessage (.reference .computeBudget)
        (grpcMessage (aboveCeilingMessage limitInstruction))).map (·.priorityFeeLamports) =
      .ok (some (Int.ofNat fee)) := by
  rw [computeBudgetOfMessage_of_readable (.reference .computeBudget) rfl hr]
  exact congrArg Except.ok (congrArg (Option.map Int.ofNat) hf)

/-- The three accessors report twice the fee of the message with the limit 1400000. -/
theorem aboveCeiling_raises_fee :
    let instruction : CompiledInstruction := ⟨0, [], [2, 128, 185, 42, 0]⟩
    let stated := aboveCeilingMessage instruction
    let ceiling := aboveCeilingMessage (ceilingInstruction instruction)
    operand? .computeUnitLimit instruction.data = some 2800000 ∧
      operand? .computeUnitLimit (ceilingInstruction instruction).data = some 1400000 ∧
      (Rust.ComputeBudget.ofMessage .computeBudget stated).priorityFeeLamports = some 2800000 ∧
      (Rust.ComputeBudget.ofMessage .computeBudget ceiling).priorityFeeLamports = some 1400000 ∧
      (Go.budgetOfMessage .copying .computeBudget stated).map (·.priorityFee) =
        .ok (some 2800000) ∧
      (Go.budgetOfMessage .copying .computeBudget ceiling).map (·.priorityFee) =
        .ok (some 1400000) ∧
      (computeBudgetOfMessage (.reference .computeBudget) (grpcMessage stated)).map
        (·.priorityFeeLamports) = .ok (some 2800000) ∧
      (computeBudgetOfMessage (.reference .computeBudget) (grpcMessage ceiling)).map
        (·.priorityFeeLamports) = .ok (some 1400000) := by
  intro instruction stated ceiling
  have hr : (Rust.ComputeBudget.ofMessage .computeBudget stated).priorityFeeLamports =
      some 2800000 := by decide
  have hr' : (Rust.ComputeBudget.ofMessage .computeBudget ceiling).priorityFeeLamports =
      some 1400000 := by decide
  have hb : stated.Bounded := ⟨by decide, by decide⟩
  have hb' : ceiling.Bounded := ⟨by decide, by decide⟩
  refine ⟨by decide, by decide, hr, hr', ?_, ?_,
    typeScript_fee_of_aboveCeiling (by decide) (by decide),
    typeScript_fee_of_aboveCeiling (by decide) (by decide)⟩
  · rw [Go.budgetOfMessage_eq .copying .computeBudget hb]
    exact congrArg Except.ok hr
  · rw [Go.budgetOfMessage_eq .copying .computeBudget hb']
    exact congrArg Except.ok hr'

theorem pricedAsStated_of_aboveCeiling :
    let stated := aboveCeilingMessage ⟨0, [], [2, 128, 185, 42, 0]⟩
    let ceiling := aboveCeilingMessage (ceilingInstruction ⟨0, [], [2, 128, 185, 42, 0]⟩)
    let overridden := ∃ d ∈ [[3, 64, 66, 15, 0, 0, 0, 0, 0]], Carries .computeUnitLimit d
    let price? := slotsOf (computeBudgetData .computeBudget stated) .computeUnitPrice
    PricedAsStated Rust.clip overridden price? 2800000
        ((Rust.ComputeBudget.ofMessage .computeBudget stated).priorityFeeLamports.map UInt64.toNat)
        ((Rust.ComputeBudget.ofMessage .computeBudget ceiling).priorityFeeLamports.map
          UInt64.toNat) ∧
      (∃ budget ceilingBudget,
        Go.budgetOfMessage .copying .computeBudget stated = .ok budget ∧
        Go.budgetOfMessage .copying .computeBudget ceiling = .ok ceilingBudget ∧
        PricedAsStated Rust.clip overridden price? 2800000 (budget.priorityFee.map UInt64.toNat)
          (ceilingBudget.priorityFee.map UInt64.toNat)) ∧
      ∃ budget ceilingBudget fee ceilingFee,
        computeBudgetOfMessage (.reference .computeBudget) (grpcMessage stated) = .ok budget ∧
        computeBudgetOfMessage (.reference .computeBudget) (grpcMessage ceiling) =
          .ok ceilingBudget ∧
        budget.priorityFeeLamports = fee.map Int.ofNat ∧
        ceilingBudget.priorityFeeLamports = ceilingFee.map Int.ofNat ∧
        PricedAsStated id overridden price? 2800000 fee ceilingFee := by
  intro stated ceiling overridden price?
  have hb : stated.Bounded := ⟨by decide, by decide⟩
  have hs : Fallible.Succeeds (computeBudgetOfMessage (.reference .computeBudget)
      (grpcMessage stated)) :=
    (succeeds_computeBudgetOfMessage_iff _ stated).mpr (Or.inr (by decide))
  have hi : AddressedTo .computeBudget (aboveCeilingMessage ⟨0, [], []⟩).accountKeys
      ⟨0, [], [2, 128, 185, 42, 0]⟩ := by decide
  have ho : operand? .computeUnitLimit [2, 128, 185, 42, 0] = some 2800000 := by decide
  obtain ⟨hrust, hgo, -, hts⟩ := pricedAsStated .copying (.reference .computeBudget)
    (aboveCeilingMessage ⟨0, [], []⟩) [] [⟨0, [], [3, 64, 66, 15, 0, 0, 0, 0, 0]⟩]
    rfl hi (by decide) ho (by decide)
  exact ⟨hrust, hgo hb, hts hs⟩

end AboveCeiling

end TransactionV1

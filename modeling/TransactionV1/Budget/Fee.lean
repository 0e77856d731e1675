import TransactionV1.Budget.Carried
import TransactionV1.Budget.Go

/-! # The fee in whole lamports

The fee the last readable limit and price amount to is the product rounded up.
The Rust and Go accessors cut the product off before they divide, so fees above
18446744073710 lamports are lost although they fit in 64 bits, and a truncated
instruction that follows a readable one takes its value away.
-/

namespace TransactionV1

def lastReadable? (slot : Slot) (data : List Bytes) : Option ℕ :=
  ((data.filter (Carries slot)).filterMap (operand? slot)).getLast?

/-- The last instruction that carries the slot, if any, is readable. -/
def EndsReadable (slot : Slot) (data : List Bytes) : Prop :=
  ∀ d ∈ lastCarrying? slot data, (operand? slot d).isSome = true

instance (slot : Slot) : DecidablePred (EndsReadable slot) :=
  fun data => inferInstanceAs (Decidable (∀ _ ∈ lastCarrying? slot data, _))

/-- The last stated compute unit limit, or the implicit one when none is stated. -/
def statedLimit (data : List Bytes) (instructionCount : ℕ) : ℕ :=
  (lastReadable? .computeUnitLimit data).getD (implicitLimit instructionCount)

/-- The total fee in lamports for a limit and a price in micro-lamports per compute unit. -/
def totalFee (limit price : ℕ) : ℕ := (limit * price) ⌈/⌉ 1000000

theorem slotsOf_of_endsReadable {slot : Slot} {data : List Bytes} (h : EndsReadable slot data) :
    slotsOf data slot = lastReadable? slot data := by
  unfold EndsReadable at h
  rw [slotsOf_apply]
  unfold lastCarrying? lastReadable? at *
  rcases List.eq_nil_or_concat (data.filter (Carries slot)) with hn | ⟨ds, d, hd⟩
  · rw [hn]
    rfl
  · rw [hd, List.concat_eq_append] at h ⊢
    obtain ⟨n, hn⟩ := Option.isSome_iff_exists.mp (h d (by simp))
    simp [hn]

theorem slotsOf_of_not_endsReadable {slot : Slot} {data : List Bytes}
    (h : ¬ EndsReadable slot data) : slotsOf data slot = none := by
  obtain ⟨d, hd, hn⟩ : ∃ d, lastCarrying? slot data = some d ∧ operand? slot d = none := by
    simpa [EndsReadable] using h
  rw [slotsOf_apply, hd, Option.bind_some, hn]

theorem clip_ceilDiv (n : ℕ) :
    Rust.clip n ⌈/⌉ 1000000 = min (n ⌈/⌉ 1000000) 18446744073710 := by
  rw [Rust.clip, Nat.ceilDiv_eq_add_pred_div, Nat.ceilDiv_eq_add_pred_div]
  omega

/-- The readers report the fee when it fits in 64 bits: it is too large for that,
or the price is the last one, the product is not cut off, and the limit is the
last one or losing it makes no difference. -/
def FeeKept (data : List Bytes) (instructionCount price : ℕ) : Prop :=
  2 ^ 64 ≤ totalFee (statedLimit data instructionCount) price ∨
    EndsReadable .computeUnitPrice data ∧
      totalFee (statedLimit data instructionCount) price ≤ 18446744073710 ∧
      (EndsReadable .computeUnitLimit data ∨
        min (totalFee (implicitLimit instructionCount) price) 18446744073710 =
          totalFee (statedLimit data instructionCount) price)

section Reported

variable {data : List Bytes} {instructionCount price : ℕ}

theorem priorityFee_ofSlots_of_endsReadable (hp : price ∈ lastReadable? .computeUnitPrice data)
    (h : EndsReadable .computeUnitPrice data) :
    (Budget.ofSlots Rust.clip (slotsOf data) instructionCount).priorityFeeLamports =
      some (min (totalFee (effectiveLimit (slotsOf data) instructionCount) price)
        18446744073710) := by
  rw [Budget.ofSlots, slotsOf_of_endsReadable h, Option.mem_def.mp hp, Option.map_some,
    clip_ceilDiv]
  rfl

theorem min_totalFee_eq_iff :
    min (totalFee (effectiveLimit (slotsOf data) instructionCount) price) 18446744073710 =
        totalFee (statedLimit data instructionCount) price ↔
      totalFee (statedLimit data instructionCount) price ≤ 18446744073710 ∧
        (EndsReadable .computeUnitLimit data ∨
          min (totalFee (implicitLimit instructionCount) price) 18446744073710 =
            totalFee (statedLimit data instructionCount) price) := by
  by_cases h : EndsReadable .computeUnitLimit data
  · rw [effectiveLimit, slotsOf_of_endsReadable h, ← statedLimit]
    simp [h]
  · rw [effectiveLimit, slotsOf_of_not_endsReadable h, Option.getD_none]
    simp only [h, false_or]
    exact ⟨fun he => ⟨he ▸ min_le_right _ _, he⟩, And.right⟩

theorem priorityFee_ofSlots_iff (hp : price ∈ lastReadable? .computeUnitPrice data) :
    (totalFee (statedLimit data instructionCount) price < 2 ^ 64 →
        (Budget.ofSlots Rust.clip (slotsOf data) instructionCount).priorityFeeLamports =
          some (totalFee (statedLimit data instructionCount) price)) ↔
      FeeKept data instructionCount price := by
  rw [FeeKept, ← Nat.not_lt, ← imp_iff_not_or]
  refine imp_congr_right fun _ => ?_
  by_cases h : EndsReadable .computeUnitPrice data
  · rw [priorityFee_ofSlots_of_endsReadable hp h, Option.some.injEq, min_totalFee_eq_iff]
    simp [h]
  · rw [Budget.ofSlots, slotsOf_of_not_endsReadable h]
    simp [h]

/-- The Rust accessor, and on messages within protobuf's bounds the Go accessor,
reports the fee of the last stated limit and price whenever it is below `2 ^ 64`,
exactly when the fee is kept. -/
theorem reportsFee_iff (sdk : Go.SolanaGo) (computeBudgetId : Address) {message : Message}
    (hc : message.config = none)
    (hp : price ∈ lastReadable? .computeUnitPrice (computeBudgetData computeBudgetId message)) :
    let data := computeBudgetData computeBudgetId message
    let fee := totalFee (statedLimit data message.instructions.length) price
    ((fee < 2 ^ 64 →
        (Rust.ComputeBudget.ofMessage computeBudgetId message).priorityFeeLamports.map
          UInt64.toNat = some fee) ↔
      FeeKept data message.instructions.length price) ∧
    (message.Bounded →
      ((fee < 2 ^ 64 → ∃ budget, Go.budgetOfMessage sdk computeBudgetId message = .ok budget ∧
          budget.priorityFee.map UInt64.toNat = some fee) ↔
        FeeKept data message.instructions.length price)) := by
  intro data fee
  have hr :=
    Rust.ComputeBudget.map_toNat_priorityFeeLamports_ofMessage computeBudgetId hc
  refine ⟨?_, fun hb => ?_⟩
  · rw [hr]
    exact priorityFee_ofSlots_iff hp
  · simp only [Go.budgetOfMessage_eq sdk computeBudgetId hb, Except.ok.injEq, exists_eq_left',
      Go.ofRustBudget, hr]
    exact priorityFee_ofSlots_iff hp

end Reported

section Large

/-- A limit of 1400000 and a price of `2 ^ 44` micro-lamports per compute unit. -/
def largeFeeMessage : Message where
  accountKeys := [Address.computeBudget.bytes]
  instructions := [⟨0, [], [2, 192, 92, 21, 0]⟩, ⟨0, [], [3, 0, 0, 0, 0, 0, 16, 0, 0]⟩]

/-- The fee fits in 64 bits, and both accessors report less than it. -/
theorem largeFee_lost :
    2 ^ 44 ∈ lastReadable? .computeUnitPrice (computeBudgetData .computeBudget largeFeeMessage) ∧
      statedLimit (computeBudgetData .computeBudget largeFeeMessage) 2 = 1400000 ∧
      totalFee 1400000 (2 ^ 44) = 24629060462183 ∧
      (Rust.ComputeBudget.ofMessage .computeBudget largeFeeMessage).priorityFeeLamports =
        some 18446744073710 ∧
      ∃ budget, Go.budgetOfMessage .copying .computeBudget largeFeeMessage = .ok budget ∧
        budget.priorityFee = some 18446744073710 := by
  have hr : (Rust.ComputeBudget.ofMessage .computeBudget largeFeeMessage).priorityFeeLamports =
      some 18446744073710 := by decide
  refine ⟨by decide, by decide, by decide, hr, _, Go.budgetOfMessage_eq .copying .computeBudget
    ⟨by decide, by decide⟩, hr⟩

theorem reportsFee_iff_of_large :
    let data := computeBudgetData .computeBudget largeFeeMessage
    let fee := totalFee (statedLimit data largeFeeMessage.instructions.length) (2 ^ 44)
    ((fee < 2 ^ 64 →
        (Rust.ComputeBudget.ofMessage .computeBudget largeFeeMessage).priorityFeeLamports.map
          UInt64.toNat = some fee) ↔
      FeeKept data largeFeeMessage.instructions.length (2 ^ 44)) ∧
    ((fee < 2 ^ 64 →
        ∃ budget, Go.budgetOfMessage .copying .computeBudget largeFeeMessage = .ok budget ∧
          budget.priorityFee.map UInt64.toNat = some fee) ↔
      FeeKept data largeFeeMessage.instructions.length (2 ^ 44)) := by
  have hb : largeFeeMessage.Bounded := ⟨by decide, by decide⟩
  have hp : 2 ^ 44 ∈
      lastReadable? .computeUnitPrice (computeBudgetData .computeBudget largeFeeMessage) := by
    decide
  obtain ⟨hrust, hgo⟩ := reportsFee_iff .copying .computeBudget rfl hp
  exact ⟨hrust, hgo hb⟩

end Large

end TransactionV1

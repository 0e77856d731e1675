import TransactionV1.Budget.Go
import TransactionV1.Budget.TypeScript
import TransactionV1.TypeScript.Reference

/-! # The accessors agree

The Go accessor returns the Rust accessor's budget for every message within
protobuf's bounds. The TypeScript accessor does so for v1 messages, and for
other messages whose ComputeBudget data is readable and whose product in
micro-lamports fits in 64 bits.
-/

namespace TransactionV1

/-- The Go accessor returns without a panic, and its four fields are Rust's. -/
theorem go_budgetOfMessage_agrees (sdk : Go.SolanaGo) (computeBudgetId : Address)
    {message : Message} (h : message.Bounded) :
    ∃ budget, Go.budgetOfMessage sdk computeBudgetId message = .ok budget ∧
      budget.computeUnitLimit =
        (Rust.ComputeBudget.ofMessage computeBudgetId message).computeUnitLimit ∧
      budget.heapSize = (Rust.ComputeBudget.ofMessage computeBudgetId message).heapSize ∧
      budget.loadedAccountsDataSizeLimit =
        (Rust.ComputeBudget.ofMessage computeBudgetId message).loadedAccountsDataSizeLimit ∧
      budget.priorityFee =
        (Rust.ComputeBudget.ofMessage computeBudgetId message).priorityFeeLamports :=
  ⟨_, Go.budgetOfMessage_eq sdk computeBudgetId h, rfl, rfl, rfl, rfl⟩

/-- At a message with a foreign key of the wrong length, a truncated operand and
an index out of range. -/
theorem go_budgetOfMessage_agrees_of_malformed :
    let message : Message :=
      { accountKeys := [Address.computeBudget.bytes, [1, 2, 3]]
        instructions := [⟨0, [], [3, 1, 0, 0, 0, 0, 0, 0, 0]⟩, ⟨0, [], [2, 64]⟩, ⟨1, [], [2]⟩,
          ⟨7, [], []⟩] }
    ∃ budget, Go.budgetOfMessage .copying .computeBudget message = .ok budget ∧
      budget.computeUnitLimit =
        (Rust.ComputeBudget.ofMessage .computeBudget message).computeUnitLimit ∧
      budget.heapSize = (Rust.ComputeBudget.ofMessage .computeBudget message).heapSize ∧
      budget.loadedAccountsDataSizeLimit =
        (Rust.ComputeBudget.ofMessage .computeBudget message).loadedAccountsDataSizeLimit ∧
      budget.priorityFee =
        (Rust.ComputeBudget.ofMessage .computeBudget message).priorityFeeLamports :=
  go_budgetOfMessage_agrees .copying .computeBudget ⟨by decide, by decide⟩

section TypeScript

open TypeScript

/-- The product of the effective limit and the price fits in 64 bits. -/
def PriceFits (computeBudgetId : Address) (message : Message) : Prop :=
  ∀ price ∈ slotsOf (computeBudgetData computeBudgetId message) .computeUnitPrice,
    effectiveLimit (slotsOf (computeBudgetData computeBudgetId message))
      message.instructions.length * price < 2 ^ 64

instance (computeBudgetId : Address) (message : Message) :
    Decidable (PriceFits computeBudgetId message) := by
  unfold PriceFits; infer_instance

variable {computeBudgetId : Address} (pkg : Packages computeBudgetId)

theorem toBudget_fromInstructions_of_fits {message : Message}
    (h : PriceFits computeBudgetId message) :
    (Rust.ComputeBudget.fromInstructions computeBudgetId message).toBudget =
      .stated (computeBudgetData computeBudgetId message) message.instructions.length := by
  rw [Rust.ComputeBudget.toBudget_fromInstructions, Budget.stated]
  refine Budget.ofSlots_eq_of_clip fun price hp => ?_
  have hlt := h price hp
  exact min_eq_left (by omega)

theorem computeBudgetOfMessage_eq_ofBudget {message : Message}
    (h : message.config.isSome = true ∨
      (∀ data ∈ computeBudgetData computeBudgetId message, Readable data) ∧
        PriceFits computeBudgetId message) :
    computeBudgetOfMessage pkg (grpcMessage message) =
      .ok (ofBudget (Rust.ComputeBudget.ofMessage computeBudgetId message).toBudget) := by
  cases hc : message.config with
  | some config =>
    rw [computeBudgetOfMessage_of_config_eq_some pkg hc,
      Rust.ComputeBudget.ofMessage_of_config_isSome computeBudgetId (by rw [hc]; rfl)]
  | none =>
    obtain ⟨hr, hp⟩ := h.resolve_left (by simp [hc])
    rw [computeBudgetOfMessage_of_readable pkg hc hr,
      Rust.ComputeBudget.ofMessage_of_config_eq_none computeBudgetId hc,
      toBudget_fromInstructions_of_fits hp]

/-- The TypeScript accessor returns, and its four fields are Rust's. -/
theorem typeScript_computeBudgetOfMessage_agrees {message : Message}
    (h : message.config.isSome = true ∨
      (∀ data ∈ computeBudgetData computeBudgetId message, Readable data) ∧
        PriceFits computeBudgetId message) :
    ∃ budget, computeBudgetOfMessage pkg (grpcMessage message) = .ok budget ∧
      budget.computeUnitLimit = (Rust.ComputeBudget.ofMessage computeBudgetId
        message).computeUnitLimit.map UInt32.toNat ∧
      budget.heapSize = (Rust.ComputeBudget.ofMessage computeBudgetId
        message).heapSize.map UInt32.toNat ∧
      budget.loadedAccountsDataSizeLimit = (Rust.ComputeBudget.ofMessage computeBudgetId
        message).loadedAccountsDataSizeLimit.map UInt32.toNat ∧
      budget.priorityFeeLamports = (Rust.ComputeBudget.ofMessage computeBudgetId
        message).priorityFeeLamports.map fun fee => Int.ofNat fee.toNat := by
  refine ⟨_, computeBudgetOfMessage_eq_ofBudget pkg h, rfl, rfl, rfl, ?_⟩
  rw [ofBudget, Rust.ComputeBudget.toBudget, Option.map_map]
  rfl

end TypeScript

theorem typeScript_computeBudgetOfMessage_agrees_of_repeated :
    let message : Message :=
      { accountKeys := [Address.computeBudget.bytes]
        instructions := [⟨0, [], [2, 1, 0, 0, 0]⟩, ⟨0, [], [3, 1, 0, 0, 0, 0, 0, 0, 0, 7]⟩,
          ⟨0, [], [2, 64, 66, 15, 0]⟩, ⟨0, [], [0]⟩] }
    ∃ budget, TypeScript.computeBudgetOfMessage (.reference .computeBudget)
        (TypeScript.grpcMessage message) = .ok budget ∧
      budget.computeUnitLimit = (Rust.ComputeBudget.ofMessage .computeBudget
        message).computeUnitLimit.map UInt32.toNat ∧
      budget.heapSize = (Rust.ComputeBudget.ofMessage .computeBudget
        message).heapSize.map UInt32.toNat ∧
      budget.loadedAccountsDataSizeLimit = (Rust.ComputeBudget.ofMessage .computeBudget
        message).loadedAccountsDataSizeLimit.map UInt32.toNat ∧
      budget.priorityFeeLamports = (Rust.ComputeBudget.ofMessage .computeBudget
        message).priorityFeeLamports.map fun fee => Int.ofNat fee.toNat :=
  typeScript_computeBudgetOfMessage_agrees (.reference .computeBudget)
    (Or.inr ⟨by decide, by decide⟩)

end TransactionV1

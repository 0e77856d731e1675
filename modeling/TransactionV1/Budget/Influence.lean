import TransactionV1.Budget.Rust

/-! # What a budget depends on

With a config the budget is a function of the config alone. Without one it is a
function of the number of instructions and of the data of the ComputeBudget
instructions; nothing else in the message can influence it.
-/

namespace TransactionV1

/-- Messages that state the same budget: the same config, or no config, equally
many instructions and the same data for the ComputeBudget program. -/
def SameStatement (computeBudgetId : Address) (message message' : Message) : Prop :=
  (message.config.isSome = true ∧ message.config = message'.config) ∨
    (message.config = none ∧ message'.config = none ∧
      message.instructions.length = message'.instructions.length ∧
      computeBudgetData computeBudgetId message = computeBudgetData computeBudgetId message')

instance (computeBudgetId : Address) (message message' : Message) :
    Decidable (SameStatement computeBudgetId message message') := by
  unfold SameStatement; infer_instance

theorem fromConfig_congr {message message' : Message} (h : message.config = message'.config) :
    Rust.ComputeBudget.fromConfig message = Rust.ComputeBudget.fromConfig message' := by
  rw [Rust.ComputeBudget.fromConfig, Rust.ComputeBudget.fromConfig, h]

/-- Messages that state the same budget have the same budget. -/
theorem ofMessage_eq_of_sameStatement (computeBudgetId : Address) {message message' : Message}
    (h : SameStatement computeBudgetId message message') :
    Rust.ComputeBudget.ofMessage computeBudgetId message =
      Rust.ComputeBudget.ofMessage computeBudgetId message' := by
  rcases h with ⟨hs, hc⟩ | ⟨hc, hc', hl, hd⟩
  · rw [Rust.ComputeBudget.ofMessage_of_config_isSome computeBudgetId hs,
      Rust.ComputeBudget.ofMessage_of_config_isSome computeBudgetId (hc ▸ hs)]
    exact fromConfig_congr hc
  · rw [Rust.ComputeBudget.ofMessage_of_config_eq_none computeBudgetId hc,
      Rust.ComputeBudget.ofMessage_of_config_eq_none computeBudgetId hc',
      Rust.ComputeBudget.fromInstructions_eq, Rust.ComputeBudget.fromInstructions_eq, hd, hl]

/-- At messages whose keys, versions and foreign instructions differ. -/
theorem ofMessage_eq_of_sameStatement_of_reordered :
    Rust.ComputeBudget.ofMessage .computeBudget
        { accountKeys := [Address.computeBudget.bytes, List.replicate 32 0]
          instructions := [⟨1, [0], [2, 9, 9, 9, 9]⟩, ⟨0, [], [3, 1, 0, 0, 0, 0, 0, 0, 0]⟩] } =
      Rust.ComputeBudget.ofMessage .computeBudget
        { accountKeys := [List.replicate 32 1, [], Address.computeBudget.bytes]
          instructions := [⟨2, [], [3, 1, 0, 0, 0, 0, 0, 0, 0]⟩, ⟨5, [], [1]⟩]
          versioned := true } :=
  ofMessage_eq_of_sameStatement .computeBudget (Or.inr ⟨rfl, rfl, rfl, by decide⟩)

end TransactionV1

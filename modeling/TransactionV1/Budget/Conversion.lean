import TransactionV1.Budget.TypeScript
import TransactionV1.TypeScript.Reference

/-! # A total as a price, and back

`ts/kit/src/decode-budget.ts` states the total fee of a v1 config as a price per
compute unit, rounded down. The accessor rounds the price times the limit up
again, and returns the total for every limit up to a million.
-/

namespace TransactionV1.TypeScript

/-- `EQUIVALENT_PRICE_MICRO_LAMPORTS_PER_CU`, for the total and the limit of a config. -/
def equivalentPriceMicroLamportsPerCu (priorityFeeLamports : ℤ) (computeUnitLimit : ℕ) : ℤ :=
  (priorityFeeLamports * 1000000).tdiv computeUnitLimit

/-- The price of `EXAMPLE_CONFIG`. -/
example : equivalentPriceMicroLamportsPerCu 5000 20000 = 250000 := by decide

theorem equivalentPrice_natCast (total limit : ℕ) :
    equivalentPriceMicroLamportsPerCu total limit = (total * 1000000 / limit : ℕ) := by
  rw [equivalentPriceMicroLamportsPerCu, Int.tdiv_eq_ediv_of_nonneg (by omega)]
  norm_cast

section Conversion

variable {computeBudgetId : Address} (pkg : Packages computeBudgetId)
  {data : List (Option Bytes)} {limit price total : ℕ}

theorem priorityFee_of_stated (hr : ∀ d ∈ data.reduceOption, Readable d)
    (hl : slotsOf data.reduceOption .computeUnitLimit = some limit)
    (hp : slotsOf data.reduceOption .computeUnitPrice = some price) (instructionCount : ℕ) :
    ∃ budget, computeBudgetOfInstructionData pkg data instructionCount = .ok budget ∧
      budget.priorityFeeLamports = some (((limit * price) ⌈/⌉ 1000000 : ℕ) : ℤ) := by
  refine ⟨_, computeBudgetOfInstructionData_of_readable pkg hr instructionCount, ?_⟩
  simp only [ofBudget, Budget.stated, Budget.ofSlots, effectiveLimit, hl, hp, Option.map_some,
    Option.getD_some, id_eq]
  rfl

/-- A total stated as a price is reported back without overstating it, short of it
by at most the limit in whole millions, and exactly for limits up to a million. -/
theorem priorityFee_of_equivalentPrice (hr : ∀ d ∈ data.reduceOption, Readable d)
    (hl : slotsOf data.reduceOption .computeUnitLimit = some limit) (h1 : 1 ≤ limit)
    (hp : slotsOf data.reduceOption .computeUnitPrice = some price)
    (he : (price : ℤ) = equivalentPriceMicroLamportsPerCu total limit) (instructionCount : ℕ) :
    ∃ budget fee, computeBudgetOfInstructionData pkg data instructionCount = .ok budget ∧
      budget.priorityFeeLamports = some fee ∧
      (total : ℤ) - ((limit : ℤ) - 1) / 1000000 ≤ fee ∧ fee ≤ total ∧
      (limit ≤ 1000000 → fee = total) := by
  obtain ⟨budget, hb, hf⟩ := priorityFee_of_stated pkg hr hl hp instructionCount
  have hprice : price = total * 1000000 / limit := by
    rw [equivalentPrice_natCast] at he
    exact_mod_cast he
  have hle := Accumulation.ceilDiv_mul_div_le total limit (b := 1000000) (by decide)
  have hge := Accumulation.le_ceilDiv_mul_div_add total (b := 1000000) (by decide) h1
  rw [← hprice] at hle hge
  refine ⟨budget, _, hb, hf, by omega, by omega, ?_⟩
  intro hlimit
  have h0 : (limit - 1) / 1000000 = 0 := Nat.div_eq_of_lt (by omega)
  omega

end Conversion

/-- At a limit and a total whose price leaves a remainder. -/
theorem priorityFee_of_equivalentPrice_of_remainder :
    ∃ budget fee, computeBudgetOfInstructionData (.reference .computeBudget)
        [some [3, 9, 46, 2, 0, 0, 0, 0, 0], some [2, 7, 0, 0, 0]] 2 = .ok budget ∧
      budget.priorityFeeLamports = some fee ∧
      ((1 : ℕ) : ℤ) - (((7 : ℕ) : ℤ) - 1) / 1000000 ≤ fee ∧ fee ≤ ((1 : ℕ) : ℤ) ∧
      (7 ≤ 1000000 → fee = ((1 : ℕ) : ℤ)) :=
  priorityFee_of_equivalentPrice (.reference .computeBudget) (by decide)
    (show _ = some 7 by decide) (by decide) (show _ = some 142857 by decide) (by decide) 2

end TransactionV1.TypeScript

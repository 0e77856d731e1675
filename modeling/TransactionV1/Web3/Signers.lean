import TransactionV1.Foundations.InsertionMap
import TransactionV1.TypeScript.BigInt

/-! # The signers on a plan

`instructionSigners` of `ts/web3js-v3/src/lib/confidential.ts`. A plan names its signers on
the instructions themselves, some of them more than once. Each signs once, in the place
where it is first met.
-/

namespace TransactionV1.Web3

open TypeScript

inductive Leaf (ι : Type) where
  | single (instruction : ι)
  | messagePacker

/-- What `@solana/kit` says of instruction plans and the signers on them. -/
structure Plans where
  InstructionPlan : Type
  Instruction : Type
  Signer : Type
  flattenInstructionPlan : InstructionPlan → List (Leaf Instruction)
  getSignersFromInstruction : Instruction → Except JsError (List Signer)
  isTransactionPartialSigner : Signer → Bool
  address : Signer → String

section Signers

variable (plans : Plans)

/-- The body of the loop over the signers of an instruction. -/
def collectSigner (signers : InsertionMap String plans.Signer) (signer : plans.Signer) :
    InsertionMap String plans.Signer :=
  if plans.isTransactionPartialSigner signer then signers.set (plans.address signer) signer
  else signers

def collectLeaf (signers : InsertionMap String plans.Signer) :
    Leaf plans.Instruction → Except JsError (InsertionMap String plans.Signer)
  | .messagePacker => return signers
  | .single instruction => do
    let listed ← plans.getSignersFromInstruction instruction
    return listed.foldl (collectSigner plans) signers

def instructionSigners (input : plans.InstructionPlan) : Except JsError (List plans.Signer) := do
  let signers ← (plans.flattenInstructionPlan input).foldlM (collectLeaf plans) .empty
  return signers.values

def leafSigners : Leaf plans.Instruction → Except JsError (List plans.Signer)
  | .messagePacker => return []
  | .single instruction => plans.getSignersFromInstruction instruction

/-- The partial signers on a plan, as often as they are named. -/
def listedSigners (input : plans.InstructionPlan) : Except JsError (List plans.Signer) := do
  let listed ← (plans.flattenInstructionPlan input).mapM (leafSigners plans)
  return listed.flatten.filter plans.isTransactionPartialSigner

variable {plans}

def signerWrites (signers : List plans.Signer) : List (String × plans.Signer) :=
  InsertionMap.keyed plans.address (signers.filter plans.isTransactionPartialSigner)

theorem foldl_collectSigner (m : InsertionMap String plans.Signer) (signers : List plans.Signer) :
    signers.foldl (collectSigner plans) m = m.write (signerWrites signers) := by
  induction signers generalizing m with
  | nil => rfl
  | cons signer signers ih =>
    rw [List.foldl_cons, ih, collectSigner]
    by_cases hp : plans.isTransactionPartialSigner signer = true
    · rw [if_pos hp, signerWrites, signerWrites, List.filter_cons_of_pos hp]
      rfl
    · rw [if_neg hp, signerWrites, signerWrites, List.filter_cons_of_neg hp]

theorem signerWrites_append (signers signers' : List plans.Signer) :
    signerWrites (signers ++ signers') = signerWrites signers ++ signerWrites signers' := by
  rw [signerWrites, InsertionMap.keyed, List.filter_append, List.map_append]
  rfl

theorem foldlM_collectLeaf (m : InsertionMap String plans.Signer)
    (leaves : List (Leaf plans.Instruction)) :
    leaves.foldlM (collectLeaf plans) m =
      (leaves.mapM (leafSigners plans)).map fun listed =>
        m.write (signerWrites listed.flatten) := by
  induction leaves generalizing m with
  | nil => rfl
  | cons leaf leaves ih =>
    rw [List.foldlM_cons, List.mapM_cons]
    cases leaf with
    | messagePacker =>
      refine (ih m).trans ?_
      cases leaves.mapM (leafSigners plans) <;> rfl
    | single instruction =>
      rw [collectLeaf, leafSigners]
      cases plans.getSignersFromInstruction instruction with
      | error e => rfl
      | ok listed =>
        refine (ih _).trans ?_
        rw [foldl_collectSigner]
        cases leaves.mapM (leafSigners plans) with
        | error e => rfl
        | ok rest =>
          refine congrArg Except.ok ?_
          dsimp only
          rw [List.flatten_cons, signerWrites_append, InsertionMap.write_append]

/-- A plan is signed by the last of the partial signers listed under each address, in the
order in which the addresses come first. -/
theorem instructionSigners_unique {input : plans.InstructionPlan} {signers : List plans.Signer}
    (h : instructionSigners plans input = .ok signers) :
    ∃ listed, listedSigners plans input = .ok listed ∧
      signers.map plans.address = (listed.map plans.address).eraseDups ∧
      ∀ signer, signer ∈ signers ↔
        (listed.filter (plans.address · = plans.address signer)).getLast? = some signer := by
  rw [instructionSigners, foldlM_collectLeaf] at h
  cases hm : (plans.flattenInstructionPlan input).mapM (leafSigners plans) with
  | error e =>
    rw [hm] at h
    cases h
  | ok leaves =>
    rw [hm] at h
    obtain rfl := Except.ok.inj h
    refine ⟨leaves.flatten.filter plans.isTransactionPartialSigner, ?_, ?_, fun signer => ?_⟩
    · rw [listedSigners, hm]
      rfl
    · exact InsertionMap.map_key_values plans.address _
    · exact InsertionMap.mem_values plans.address _

/-- Plans that are lists of signers, whose addresses are their names. -/
def Plans.named : Plans where
  InstructionPlan := List (List (String × ℕ))
  Instruction := List (String × ℕ)
  Signer := String × ℕ
  flattenInstructionPlan := List.map .single
  getSignersFromInstruction := .ok
  isTransactionPartialSigner := fun signer => signer.2 ≠ 0
  address := Prod.fst

theorem instructionSigners_unique_of_named :
    ∃ listed, listedSigners .named [[("mint", 1), ("payer", 0)], [("payer", 2), ("mint", 3)]] =
        .ok listed ∧
      [("mint", 3), ("payer", 2)].map Plans.named.address =
        (listed.map Plans.named.address).eraseDups ∧
      ∀ signer, signer ∈ [("mint", 3), ("payer", 2)] ↔
        (listed.filter (Plans.named.address · = Plans.named.address signer)).getLast? =
          some signer :=
  instructionSigners_unique rfl

end Signers

end TransactionV1.Web3

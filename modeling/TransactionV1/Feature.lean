import TransactionV1.Foundations.Base58
import TransactionV1.Foundations.Base64
import TransactionV1.Foundations.Fallible
import TransactionV1.Message.Proto

/-! # Is transaction v1 active

The three readers of the `enable_tx_v1` feature account. An activated account is
owned by the feature program and holds a bincode `Option<u64>` that is set: the
tag byte 1 and an activation slot of eight bytes. Go does not look at what the
tag is beyond zero, and Python looks at neither the owner nor the length.
-/

namespace TransactionV1

structure Account where
  owner : Address
  data : Bytes
  deriving DecidableEq

def enableTxV1Feature : String := "txv1aq4pp281K9um3tnPgkfX8UqtFT6wcVW3hNezGLL"

namespace Go

inductive RpcError where
  | notFound
  | other (message : String)

/-- `IsV1Active`, for a client that answers `GetAccountInfo`. -/
def isV1Active (featureProgramId : Address)
    (getAccountInfo : String → Except RpcError Account) : Except String Bool :=
  match getAccountInfo enableTxV1Feature with
  | .error .notFound => .ok false
  | .error (.other message) =>
    .error ("failed to read the enable_tx_v1 feature account: " ++ message)
  | .ok account =>
    if account.owner ≠ featureProgramId then .ok false
    else
      match account.data with
      | [] => .ok false
      | tag :: slot =>
        if tag = 0 then .ok false
        else if (tag :: slot).length < 1 + 8 then
          .error ("feature account holds " ++ toString (tag :: slot).length ++
            " bytes, too few for an activation slot")
        else .ok true

end Go

namespace Python

inductive PyError where
  | indexError
  | valueError
  | binasciiError

structure JsonAccount where
  owner : String
  data : List String

/-- `base64.b64decode`, which rejects text that is not ASCII and skips characters
outside the alphabet. -/
def b64decode (s : String) : Except PyError Bytes :=
  if s.toList.any fun c => decide (128 ≤ c.toNat) then .error .valueError
  else
    match Base64.decode s.toList with
    | some bytes => .ok bytes
    | none => .error .binasciiError

/-- `is_v1_active`, for a client that answers `get_account_info`. -/
def isV1Active (getAccountInfo : String → Except PyError (Option JsonAccount)) :
    Except PyError Bool := do
  match ← getAccountInfo enableTxV1Feature with
  | none => return false
  | some account =>
    match account.data[0]? with
    | none => .error .indexError
    | some encoded => do
      let data ← b64decode encoded
      return decide (data.length > 0) && decide (data[0]? = some 1)

theorem b64decode_encode (bytes : Bytes) :
    b64decode (String.ofList (Base64.encode bytes)) = .ok bytes := by
  have ha : ((Base64.encode bytes).any fun c => decide (128 ≤ c.toNat)) = false := by
    rw [List.any_eq_false]
    intro c hc
    simpa using Base64.toNat_lt_of_mem_encode hc
  rw [b64decode, String.toList_ofList, ha, Base64.decode_encode]
  rfl

end Python

namespace Rust

structure Feature where
  activatedAt : Option UInt64

/-- `is_v1_active`, for a client that answers `get_account_with_commitment`. -/
def isV1Active (fromAccount : Account → Option Feature)
    (getAccount : String → Except String (Option Account)) : Except String Bool :=
  match getAccount enableTxV1Feature with
  | .error message => .error ("failed to read the enable_tx_v1 feature account: " ++ message)
  | .ok account => .ok ((account.bind fromAccount).any fun feature => feature.activatedAt.isSome)

end Rust

/-- The bincode encoding of an `Option<u64>` at the front of some data. -/
def decodeOptionU64 : Bytes → Option (Option UInt64)
  | [] => none
  | tag :: slot =>
    if tag = 0 then some none
    else if tag = 1 then
      (LittleEndian.read? 8 slot).map fun n => some (UInt64.ofNat n)
    else none

/-- An account owned by the feature program whose data is tag byte 1 and at least
eight bytes of activation slot. -/
def Activated (featureProgramId : Address) (account : Account) : Prop :=
  account.owner = featureProgramId ∧ account.data[0]? = some 1 ∧ 9 ≤ account.data.length

instance (featureProgramId : Address) : DecidablePred (Activated featureProgramId) :=
  fun _ => inferInstanceAs (Decidable (_ ∧ _ ∧ _))

section Clients

/-! What each client answers when the read of the account has the given result. -/

def goClient (read : Option Account) (_ : String) : Except Go.RpcError Account :=
  match read with
  | none => .error .notFound
  | some account => .ok account

/-- JSON-RPC shows data as its base64 text and the name of the encoding. -/
def pythonClient (read : Option Account) (_ : String) :
    Except Python.PyError (Option Python.JsonAccount) :=
  .ok (read.map fun account =>
    { owner := Base58.encode account.owner.bytes
      data := [String.ofList (Base64.encode account.data), "base64"] })

def rustClient (read : Option Account) (_ : String) : Except String (Option Account) := .ok read

end Clients

section Active

variable (featureProgramId : Address) (read : Option Account)

theorem go_isV1Active_iff :
    Go.isV1Active featureProgramId (goClient read) = .ok true ↔
      ∃ account ∈ read, account.owner = featureProgramId ∧ account.data[0]? ≠ some 0 ∧
        9 ≤ account.data.length := by
  cases read with
  | none => simp [Go.isV1Active, goClient]
  | some account =>
    simp only [Go.isV1Active, goClient, Option.mem_def, Option.some.injEq, exists_eq_left']
    cases hd : account.data with
    | nil => rcases eq_or_ne account.owner featureProgramId with ho | ho <;> simp [ho]
    | cons tag slot =>
      rcases eq_or_ne account.owner featureProgramId with ho | ho
      · rcases eq_or_ne tag 0 with rfl | ht
        · simp [ho]
        · simp [ho, ht]
      · simp [ho]

theorem python_isV1Active_iff :
    Python.isV1Active (pythonClient read) = .ok true ↔
      ∃ account ∈ read, account.data[0]? = some 1 := by
  cases read with
  | none => simp [Python.isV1Active, pythonClient]
  | some account =>
    have hd : Python.isV1Active (pythonClient (some account)) =
        .ok (decide (account.data.length > 0) && decide (account.data[0]? = some 1)) := by
      simp [Python.isV1Active, pythonClient, Python.b64decode_encode]
    simp only [hd, Option.mem_def, Option.some.injEq, exists_eq_left']
    cases account.data <;> simp

/-- Rust reads what the encoding of the option says, for accounts of the feature program. -/
theorem rust_isV1Active_iff {fromAccount : Account → Option Rust.Feature}
    (h : ∀ account, fromAccount account =
      if account.owner = featureProgramId then (decodeOptionU64 account.data).map Rust.Feature.mk
      else none) :
    Rust.isV1Active fromAccount (rustClient read) = .ok true ↔
      ∃ account ∈ read, Activated featureProgramId account := by
  cases read with
  | none => simp [Rust.isV1Active, rustClient]
  | some account =>
    simp only [Rust.isV1Active, rustClient, Option.bind_some, h, Option.mem_def,
      Option.some.injEq, exists_eq_left', Activated, Except.ok.injEq]
    rcases eq_or_ne account.owner featureProgramId with ho | ho
    · cases hd : account.data with
      | nil => simp [ho, decodeOptionU64]
      | cons tag slot =>
        rcases eq_or_ne tag 0 with rfl | h0
        · simp [ho, decodeOptionU64]
        · rcases eq_or_ne tag 1 with rfl | h1
          · rcases Nat.lt_or_ge slot.length 8 with hl | hl
            · simp [ho, decodeOptionU64, LittleEndian.read?_eq_none_iff.mpr hl, hl]
            · simp [ho, decodeOptionU64, LittleEndian.read?_of_le hl, hl]
          · simp [ho, decodeOptionU64, h0, h1]
    · simp [ho]

/-- The readers answer active on exactly the activated accounts. -/
def ReadersAgree (fromAccount : Account → Option Rust.Feature) : Prop :=
  (Go.isV1Active featureProgramId (goClient read) = .ok true ↔
      ∃ account ∈ read, Activated featureProgramId account) ∧
    (Python.isV1Active (pythonClient read) = .ok true ↔
      ∃ account ∈ read, Activated featureProgramId account) ∧
    (Rust.isV1Active fromAccount (rustClient read) = .ok true ↔
      ∃ account ∈ read, Activated featureProgramId account)

theorem tag_le_one_iff {tag : UInt8} : tag ≤ 1 ↔ tag = 0 ∨ tag = 1 := by
  rw [UInt8.le_iff_toNat_le, ← UInt8.toNat_inj, ← UInt8.toNat_inj, UInt8.toNat_zero,
    UInt8.toNat_one]
  omega

/-- The readers answer active on exactly the activated accounts unless the account
has tag 1 without the owner or the length, or has both and a tag above 1. -/
theorem readersAgree_iff {fromAccount : Account → Option Rust.Feature}
    (h : ∀ account, fromAccount account =
      if account.owner = featureProgramId then (decodeOptionU64 account.data).map Rust.Feature.mk
      else none) :
    ReadersAgree featureProgramId read fromAccount ↔
      ∀ account ∈ read, ∀ tag ∈ account.data[0]?,
        (tag = 1 → account.owner = featureProgramId ∧ 9 ≤ account.data.length) ∧
          (account.owner = featureProgramId ∧ 9 ≤ account.data.length → tag ≤ 1) := by
  rw [ReadersAgree, go_isV1Active_iff, python_isV1Active_iff,
    and_iff_left (rust_isV1Active_iff featureProgramId read h)]
  cases read with
  | none => simp
  | some account =>
    simp only [Option.mem_def, Option.some.injEq, exists_eq_left', forall_eq', Activated,
      tag_le_one_iff]
    cases account.data with
    | nil => simp
    | cons tag slot =>
      simp only [List.getElem?_cons_zero, Option.some.injEq, forall_eq']
      rcases eq_or_ne tag 0 with rfl | h0
      · simp
      · rcases eq_or_ne tag 1 with rfl | h1
        · simp
        · simp [h0, h1]

end Active

section Accounts

/-- The feature program, `Feature111111111111111111111111111111111111`. -/
def Address.featureProgram : Address where
  bytes := [3, 192, 160, 205, 203, 6, 210, 218, 239, 174, 130, 209, 111, 238, 122, 207, 97, 236,
    115, 123, 35, 72, 27, 33, 148, 106, 118, 112, 0, 0, 0, 0]
  length_bytes := rfl

def fromFeatureAccount (account : Account) : Option Rust.Feature :=
  if account.owner = .featureProgram then (decodeOptionU64 account.data).map Rust.Feature.mk
  else none

def activatedAccount : Account := ⟨.featureProgram, [1, 7, 0, 0, 0, 0, 0, 0, 0]⟩

theorem readersAgree_iff_of_activatedAccount :
    ReadersAgree .featureProgram (some activatedAccount) fromFeatureAccount ↔
      ∀ account ∈ some activatedAccount, ∀ tag ∈ account.data[0]?,
        (tag = 1 → account.owner = .featureProgram ∧ 9 ≤ account.data.length) ∧
          (account.owner = .featureProgram ∧ 9 ≤ account.data.length → tag ≤ 1) :=
  readersAgree_iff .featureProgram (some activatedAccount) fun _ => rfl

def strayAccount : Account := ⟨.computeBudget, [1]⟩

/-- An account of the feature program with a tag that no option has. -/
def otherTagAccount : Account := ⟨.featureProgram, [2, 7, 0, 0, 0, 0, 0, 0, 0]⟩

/-- Python takes the one account for active, and Go the other. -/
theorem not_readersAgree_strayAccount :
    (Python.isV1Active (pythonClient (some strayAccount)) = .ok true ∧
      ¬ ReadersAgree .featureProgram (some strayAccount) fromFeatureAccount) ∧
    (Go.isV1Active .featureProgram (goClient (some otherTagAccount)) = .ok true ∧
      ¬ ReadersAgree .featureProgram (some otherTagAccount) fromFeatureAccount) := by
  have hp : Python.isV1Active (pythonClient (some strayAccount)) = .ok true := by
    rw [python_isV1Active_iff]
    decide
  have hg : Go.isV1Active .featureProgram (goClient (some otherTagAccount)) = .ok true := by
    rw [go_isV1Active_iff]
    decide
  refine ⟨⟨hp, fun h => ?_⟩, hg, fun h => ?_⟩
  · exact absurd (h.2.1.mp hp) (by decide)
  · exact absurd (h.1.mp hg) (by decide)

end Accounts

end TransactionV1

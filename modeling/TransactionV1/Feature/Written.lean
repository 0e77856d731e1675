import TransactionV1.Feature
import TransactionV1.TypeScript.Packages

/-! # Feature accounts as they are written

The TypeScript reader of the feature account, and the accounts the feature program
itself writes: on those, whatever bytes follow the option, all four readers answer alike.
-/

namespace TransactionV1

namespace TypeScript

/-- An account as the RPC client delivers it, its data as text and the encoding's name. -/
structure RpcAccount where
  owner : String
  data : String × String

/-- What the feature check uses of `@solana/kit`: the base64 encoder and the decoder of an
optional `u64`, for which any tag but 1 is an unset option. -/
structure FeatureCodecs where
  base64Encoder : String → Except JsError Bytes
  base64Encoder_encode : ∀ bytes, base64Encoder (String.ofList (Base64.encode bytes)) = .ok bytes
  featureDecoder : Bytes → Except JsError (Option ℕ)
  featureDecoder_of_ne_one : ∀ tag slot, tag ≠ 1 → featureDecoder (tag :: slot) = .ok none
  featureDecoder_of_some : ∀ slot n, LittleEndian.read? 8 slot = some n →
    featureDecoder (1 :: slot) = .ok (some n)

/-- `isV1Active`, for a client that answers `getAccountInfo`. -/
def isV1Active (codecs : FeatureCodecs)
    (getAccountInfo : String → Except JsError (Option RpcAccount)) : Except JsError Bool := do
  match ← getAccountInfo enableTxV1Feature with
  | none => return false
  | some account =>
    let data ← codecs.base64Encoder account.data.1
    let feature ← codecs.featureDecoder data
    return feature.isSome

end TypeScript

/-- What the client answers when the read of the account has the given result. -/
def typeScriptClient (read : Option Account) (_ : String) :
    Except TypeScript.JsError (Option TypeScript.RpcAccount) :=
  .ok (read.map fun account =>
    { owner := Base58.encode account.owner.bytes
      data := (String.ofList (Base64.encode account.data), "base64") })

theorem typeScript_isV1Active_some (codecs : TypeScript.FeatureCodecs) (account : Account) :
    TypeScript.isV1Active codecs (typeScriptClient (some account)) =
      (codecs.featureDecoder account.data).map Option.isSome := by
  simp only [TypeScript.isV1Active, typeScriptClient, Option.map_some, Fallible.ok_bind,
    codecs.base64Encoder_encode]
  rfl

/-- The bincode encoding of an `Option<u64>`. -/
def encodeOptionU64 : Option UInt64 → Bytes
  | none => [0]
  | some slot => 1 :: LittleEndian.encode 8 slot.toNat

theorem decodeOptionU64_encode_append (activatedAt : Option UInt64) (rest : Bytes) :
    decodeOptionU64 (encodeOptionU64 activatedAt ++ rest) = some activatedAt := by
  cases activatedAt with
  | none => rfl
  | some slot =>
    have hs := LittleEndian.read?_encode_append (w := 8) (n := slot.toNat) slot.toNat_lt rest
    simp [encodeOptionU64, decodeOptionU64, hs]

/-- An account the feature program has written, with whatever bytes are left in it. -/
def writtenAccount (featureProgramId : Address) (rest : Bytes) (activatedAt : Option UInt64) :
    Account where
  owner := featureProgramId
  data := encodeOptionU64 activatedAt ++ rest

theorem go_isV1Active_written (featureProgramId : Address) (rest : Bytes)
    (activatedAt : Option UInt64) :
    Go.isV1Active featureProgramId
      (goClient (some (writtenAccount featureProgramId rest activatedAt))) =
      .ok activatedAt.isSome := by
  cases activatedAt <;> simp [Go.isV1Active, goClient, writtenAccount, encodeOptionU64]

theorem python_isV1Active_written (featureProgramId : Address) (rest : Bytes)
    (activatedAt : Option UInt64) :
    Python.isV1Active (pythonClient (some (writtenAccount featureProgramId rest activatedAt))) =
      .ok activatedAt.isSome := by
  cases activatedAt <;>
    simp [Python.isV1Active, pythonClient, writtenAccount, encodeOptionU64,
      Python.b64decode_encode]

theorem rust_isV1Active_written {featureProgramId : Address}
    {fromAccount : Account → Option Rust.Feature}
    (h : ∀ account, account.owner = featureProgramId →
      fromAccount account = (decodeOptionU64 account.data).map Rust.Feature.mk) (rest : Bytes)
    (activatedAt : Option UInt64) :
    Rust.isV1Active fromAccount
      (rustClient (some (writtenAccount featureProgramId rest activatedAt))) =
      .ok activatedAt.isSome := by
  simp [Rust.isV1Active, rustClient, h, writtenAccount, decodeOptionU64_encode_append]

theorem typeScript_isV1Active_written (codecs : TypeScript.FeatureCodecs)
    (featureProgramId : Address) (rest : Bytes) (activatedAt : Option UInt64) :
    TypeScript.isV1Active codecs
      (typeScriptClient (some (writtenAccount featureProgramId rest activatedAt))) =
      .ok activatedAt.isSome := by
  rw [typeScript_isV1Active_some]
  cases activatedAt with
  | none =>
    rw [writtenAccount, encodeOptionU64, List.singleton_append,
      codecs.featureDecoder_of_ne_one 0 rest (by decide)]
    rfl
  | some slot =>
    rw [writtenAccount, encodeOptionU64, List.cons_append,
      codecs.featureDecoder_of_some _ _ (LittleEndian.read?_encode_append slot.toNat_lt rest)]
    rfl

/-- On a feature account the feature program wrote, and on none, the four readers give one
answer: whether it has a slot the feature was activated at. -/
theorem readers_agree_on_written {featureProgramId : Address}
    {fromAccount : Account → Option Rust.Feature}
    (h : ∀ account, account.owner = featureProgramId →
      fromAccount account = (decodeOptionU64 account.data).map Rust.Feature.mk)
    (codecs : TypeScript.FeatureCodecs) (rest : Bytes) (feature : Option (Option UInt64)) :
    let read := feature.map (writtenAccount featureProgramId rest)
    Go.isV1Active featureProgramId (goClient read) = .ok feature.join.isSome ∧
      Python.isV1Active (pythonClient read) = .ok feature.join.isSome ∧
      Rust.isV1Active fromAccount (rustClient read) = .ok feature.join.isSome ∧
      TypeScript.isV1Active codecs (typeScriptClient read) = .ok feature.join.isSome := by
  cases feature with
  | none => exact ⟨rfl, rfl, rfl, rfl⟩
  | some activatedAt =>
    exact ⟨go_isV1Active_written featureProgramId rest activatedAt,
      python_isV1Active_written featureProgramId rest activatedAt,
      rust_isV1Active_written h rest activatedAt,
      typeScript_isV1Active_written codecs featureProgramId rest activatedAt⟩

/-- Codecs with which the TypeScript reader decodes an optional `u64`. -/
def TypeScript.FeatureCodecs.reference : TypeScript.FeatureCodecs where
  base64Encoder s := ((Base64.decode s.toList).map Except.ok).getD (.error .packageError)
  base64Encoder_encode bytes := by simp [Base64.decode_encode]
  featureDecoder
    | [] => .error .packageError
    | tag :: slot =>
      if tag = 1 then
        ((LittleEndian.read? 8 slot).map (.ok ∘ some)).getD (.error .packageError)
      else .ok none
  featureDecoder_of_ne_one _ _ h := if_neg h
  featureDecoder_of_some slot n h := by simp [h]

/-- A feature activated at slot 7. -/
theorem readers_agree_on_written_of_slot :
    let read := some (writtenAccount .featureProgram [] (some 7))
    Go.isV1Active .featureProgram (goClient read) = .ok true ∧
      Python.isV1Active (pythonClient read) = .ok true ∧
      Rust.isV1Active fromFeatureAccount (rustClient read) = .ok true ∧
      TypeScript.isV1Active .reference (typeScriptClient read) = .ok true :=
  readers_agree_on_written (fun _ ho => if_pos ho) .reference [] (some (some 7))

end TransactionV1

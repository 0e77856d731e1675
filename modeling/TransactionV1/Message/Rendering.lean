import Mathlib.Data.Set.Image
import TransactionV1.Foundations.Labelled
import TransactionV1.Foundations.Numeral
import TransactionV1.Message.Text

/-! # What a printed config says

`python/src/txv1/v1.py` prints a config as Rust and Go do. The text determines the
config, so it tells an absent field from every value and one field from another,
as Go's comparison of configs does.
-/

namespace TransactionV1

namespace Python

def formatConfig (config : Option TransactionConfig) (indent : String) : String :=
  match config with
  | none => indent ++ "no transaction config"
  | some config =>
    let described (value : Option ℕ) (absent : String) : String :=
      match value with
      | none => absent
      | some value => toString value
    let priorityFee := match config.priorityFee with
      | none => "unset (0)"
      | some fee => toString fee.toNat ++ " lamports (total, not micro-lamports/CU)"
    let loadedAccounts :=
      described (config.loadedAccountsDataSizeLimit.map UInt32.toNat) "unset (0)"
    String.intercalate "\n"
      [indent ++ "priority_fee:                    " ++ priorityFee,
        indent ++ "compute_unit_limit:              " ++
          described (config.computeUnitLimit.map UInt32.toNat) "unset (0)",
        indent ++ "loaded_accounts_data_size_limit: " ++ loadedAccounts,
        indent ++ "heap_size:                       " ++
          described (config.heapSize.map UInt32.toNat) "unset (32KB default)"]

end Python

namespace Go

-- Two pointers of which one is nil are equal when the other is nil too.
def equalUint32 (a b : Option UInt32) : Bool :=
  match a, b with
  | some a, some b => a == b
  | a, b => a.isNone && b.isNone

def equalUint64 (a b : Option UInt64) : Bool :=
  match a, b with
  | some a, some b => a == b
  | a, b => a.isNone && b.isNone

def configsEqual (a b : TransactionConfig) : Bool :=
  equalUint64 a.priorityFee b.priorityFee &&
    equalUint32 a.computeUnitLimit b.computeUnitLimit &&
    equalUint32 a.loadedAccountsDataSizeLimit b.loadedAccountsDataSizeLimit &&
    equalUint32 a.heapSize b.heapSize

theorem equalUint32_iff {a b : Option UInt32} : equalUint32 a b = true ↔ a = b := by
  cases a <;> cases b <;> simp [equalUint32]

theorem equalUint64_iff {a b : Option UInt64} : equalUint64 a b = true ↔ a = b := by
  cases a <;> cases b <;> simp [equalUint64]

theorem configsEqual_iff {a b : TransactionConfig} : configsEqual a b = true ↔ a = b := by
  obtain ⟨fee, limit, loaded, heap⟩ := a
  obtain ⟨fee', limit', loaded', heap'⟩ := b
  simp [configsEqual, equalUint32_iff, equalUint64_iff, and_assoc]

end Go

def configLabels (indent : String) : List String :=
  [indent ++ "priority_fee:                    ", indent ++ "compute_unit_limit:              ",
    indent ++ "loaded_accounts_data_size_limit: ", indent ++ "heap_size:                       "]

def describeFee (fee : Option UInt64) : String :=
  match fee with
  | some lamports => toString lamports.toNat ++ " lamports (total, not micro-lamports/CU)"
  | none => "unset (0)"

def configFields (config : TransactionConfig) : List String :=
  [describeFee config.priorityFee, Rust.optionalU32 config.computeUnitLimit "0",
    Rust.optionalU32 config.loadedAccountsDataSizeLimit "0",
    Rust.optionalU32 config.heapSize "32KB default"]

theorem describeConfig_eq (config : TransactionConfig) (indent : String) :
    Rust.describeConfig config indent =
      String.intercalate "\n" (List.zipWith (· ++ ·) (configLabels indent) (configFields config)) :=
  rfl

theorem isDigit_of_mem_toString {n : ℕ} {c : Char} (h : c ∈ (toString n).toList) :
    c.isDigit = true :=
  Nat.isDigit_of_mem_toDigits (by decide) (by decide) (Nat.toList_repr ▸ h)

theorem optionalU32_injective (unsetMeaning : String) :
    Function.Injective fun value => Rust.optionalU32 value unsetMeaning := by
  rw [Option.injective_iff]
  constructor
  · intro a b h
    exact UInt32.toNat_inj.mp (Numeral.toString_inj.mp h)
  · -- a value is printed in digits, and no absent field is
    rintro ⟨a, ha⟩
    have he : toString a.toNat = "unset (" ++ unsetMeaning ++ ")" := ha
    have hu : 'u' ∈ (toString a.toNat).toList := by simp [he]
    exact absurd (isDigit_of_mem_toString hu) (by decide)

theorem describeFee_injective : Function.Injective describeFee := by
  rw [Option.injective_iff]
  constructor
  · intro a b h
    exact UInt64.toNat_inj.mp (Numeral.toString_inj.mp ((String.append_left_inj _).mp h))
  · rintro ⟨a, ha⟩
    have he : toString a.toNat ++ " lamports (total, not micro-lamports/CU)" = "unset (0)" := ha
    have hm : 'm' ∈ "unset (0)".toList := by simp [← he]
    exact absurd hm (by decide)

theorem newline_not_mem_optionalU32 (value : Option UInt32) {unsetMeaning : String}
    (h : '\n' ∉ unsetMeaning.toList) : '\n' ∉ (Rust.optionalU32 value unsetMeaning).toList := by
  cases value with
  | none => simp [Rust.optionalU32, h]
  | some value => exact fun hn => absurd (isDigit_of_mem_toString hn) (by decide)

theorem newline_not_mem_describeFee (fee : Option UInt64) : '\n' ∉ (describeFee fee).toList := by
  cases fee with
  | none => decide
  | some fee =>
    rw [describeFee, String.toList_append, List.mem_append]
    rintro (hn | hn)
    · exact absurd (isDigit_of_mem_toString hn) (by decide)
    · exact absurd hn (by decide)

theorem formatGRPCConfig_eq (config : TransactionConfig) (indent : String) :
    Go.formatGRPCConfig config indent = Rust.describeConfig config indent := by
  obtain ⟨fee, limit, loaded, heap⟩ := config
  cases fee <;> cases limit <;> cases loaded <;> cases heap <;> rfl

theorem formatConfig_eq (config : TransactionConfig) (indent : String) :
    Python.formatConfig (some config) indent = Rust.describeConfig config indent := by
  obtain ⟨fee, limit, loaded, heap⟩ := config
  cases fee <;> cases limit <;> cases loaded <;> cases heap <;> rfl

theorem configFields_inj {a b : TransactionConfig} {indent : String}
    (h : Rust.describeConfig a indent = Rust.describeConfig b indent) :
    configFields a = configFields b := by
  have hn : ∀ config, ∀ field ∈ (configFields config).map String.toList, '\n' ∉ field := by
    intro config field hf
    simp only [configFields, List.map_cons, List.map_nil, List.mem_cons, List.not_mem_nil,
      or_false] at hf
    rcases hf with rfl | rfl | rfl | rfl
    · exact newline_not_mem_describeFee config.priorityFee
    all_goals exact newline_not_mem_optionalU32 _ (by decide)
  have hz : ∀ config, (List.zipWith (· ++ ·) (configLabels indent) (configFields config)).map
      String.toList = List.zipWith (· ++ ·) ((configLabels indent).map String.toList)
        ((configFields config).map String.toList) := by
    intro config
    simp [configLabels, configFields]
  have hlen : ∀ config, ((configFields config).map String.toList).length =
      ((configLabels indent).map String.toList).length := fun _ => rfl
  have hl := congrArg String.toList h
  rw [describeConfig_eq, describeConfig_eq, String.toList_intercalate, String.toList_intercalate,
    hz, hz] at hl
  exact List.map_injective_iff.mpr (fun _ _ => String.toList_injective)
    (Labelled.intercalate_zipWith_inj (hlen a) (hlen b) (hn a) (hn b) hl)

/-- The three languages print a config alike, and the text tells two configs apart
exactly when Go's comparison does. -/
theorem rendering_agrees (a b : TransactionConfig) (indent : String) :
    Go.formatGRPCConfig a indent = Rust.describeConfig a indent ∧
      Python.formatConfig (some a) indent = Rust.describeConfig a indent ∧
      (Rust.describeConfig a indent = Rust.describeConfig b indent ↔
        Go.configsEqual a b = true) := by
  refine ⟨formatGRPCConfig_eq a indent, formatConfig_eq a indent, ?_⟩
  rw [Go.configsEqual_iff]
  constructor
  · intro h
    have hf := configFields_inj h
    simp only [configFields, List.cons.injEq, and_true] at hf
    obtain ⟨h1, h2, h3, h4⟩ := hf
    obtain ⟨fee, limit, loaded, heap⟩ := a
    obtain ⟨fee', limit', loaded', heap'⟩ := b
    obtain rfl : fee = fee' := describeFee_injective h1
    obtain rfl : limit = limit' := optionalU32_injective _ h2
    obtain rfl : loaded = loaded' := optionalU32_injective _ h3
    obtain rfl : heap = heap' := optionalU32_injective _ h4
    rfl
  · rintro rfl
    rfl

/-- An absent limit is not printed as the explicit zero. -/
example : Rust.describeConfig ⟨none, none, none, none⟩ "  " ≠
    Rust.describeConfig ⟨none, some 0, none, none⟩ "  " := by
  decide

end TransactionV1

import TransactionV1.Budget.TypeScript
import TransactionV1.Message.Rendering

/-! # The block reports

The examples that fetch a block over JSON-RPC: `rust/src/bin/get-block.rs`,
`go/cmd/get-block`, `ts/kit/src/get-block.ts` and `python/examples/get_block.py`.
Each tallies the versions of the transactions and lists the v1 ones. A response
that cannot be decoded, or that has no transactions to list, ends without a report.
-/

namespace TransactionV1

inductive JsonVersion where
  | legacy
  | number (n : ℤ)
  deriving DecidableEq

/-- A transaction of a block with its version and what else a client delivers of it. -/
structure BlockTransaction (ν τ : Type) where
  version : ν
  transaction : τ

def decodeVersions {ν ν' τ : Type} (decode : ν → Option ν')
    (transactions : List (BlockTransaction ν τ)) : Option (List (BlockTransaction ν' τ)) :=
  transactions.mapM fun t => (decode t.version).map fun version => ⟨version, t.transaction⟩

/-- What a report prints: the versions it warns about, the tally and its total, and
the v1 transactions. -/
structure VersionReport (ω ε : Type) where
  unrecognised : List ω := []
  tally : VersionTally := {}
  total : ℕ := 0
  v1Lines : List ε := []

/-- The local state of the loops that skip an unrecognised version. -/
structure VersionScan (ω ε : Type) where
  unrecognised : List ω := []
  tally : VersionTally := {}
  v1Lines : List ε := []

/-- One transaction of such a loop: warn and continue, or record the version and
list the transaction if it is a v1 one that can be shown. -/
def VersionScan.visit {ω ε : Type} (record : VersionTally → MessageVersion → VersionTally)
    (s : VersionScan ω ε) (version : Except ω MessageVersion) (v1Line : Option ε) :
    VersionScan ω ε :=
  match version with
  | .error other => { s with unrecognised := s.unrecognised ++ [other] }
  | .ok version =>
    let s := { s with tally := record s.tally version }
    if version ≠ .v1 then s
    else
      match v1Line with
      | none => s
      | some line => { s with v1Lines := s.v1Lines ++ [line] }

def VersionScan.report {ω ε : Type} (s : VersionScan ω ε) : VersionReport ω ε where
  unrecognised := s.unrecognised
  tally := s.tally
  total := s.tally.total
  v1Lines := s.v1Lines

structure JsonTransaction (γ : Type) where
  signatures : List String
  transactionConfig : γ

namespace Rust

/-- `TransactionVersion` of the client, whose number is a `u8`. -/
inductive TransactionVersion where
  | legacy
  | number (n : UInt8)
  deriving DecidableEq

/-- `EncodedTransaction`. The raw and the parsed message both have a config member. -/
inductive EncodedTransaction where
  | json (ui : JsonTransaction (Option TransactionConfig))
  | other

/-- What the code uses of `solana-transaction-status-client-types`: the decoding of the
version member, which may be absent and whose number is a `u8`. -/
structure ClientTypes where
  decodeVersion : Option JsonVersion → Option (Option TransactionVersion)
  decodeVersion_none : decodeVersion none = some none
  decodeVersion_legacy : decodeVersion (some .legacy) = some (some .legacy)
  decodeVersion_number : ∀ n : UInt8,
    decodeVersion (some (.number n.toNat)) = some (some (.number n))
  decodeVersion_other : ∀ n : ℤ, (∀ m : UInt8, n ≠ m.toNat) →
    decodeVersion (some (.number n)) = none

/-- The crate with a decoding that tests the range. -/
def ClientTypes.ranged : ClientTypes where
  decodeVersion
    | none => some none
    | some .legacy => some (some .legacy)
    | some (.number n) =>
      if 0 ≤ n ∧ n < 256 then some (some (.number (UInt8.ofNat n.toNat))) else none
  decodeVersion_none := rfl
  decodeVersion_legacy := rfl
  decodeVersion_number n := by
    have hn : 0 ≤ (n.toNat : ℤ) ∧ (n.toNat : ℤ) < 256 := ⟨by omega, by exact_mod_cast n.toNat_lt⟩
    simp [hn]
  decodeVersion_other n h := by
    refine if_neg fun hn => h (UInt8.ofNat n.toNat) ?_
    rw [UInt8.toNat_ofNat_of_lt' (show n.toNat < 256 by omega)]
    omega

/-- The `match transaction.version` of `report`. -/
def versionOf : Option TransactionVersion → Except UInt8 MessageVersion
  | some (.number n) => if n = 1 then .ok .v1 else if n = 0 then .ok .v0 else .error n
  | _ => .ok .legacy

/-- `{:?}` of an optional number. -/
def debugOption : Option ℕ → String
  | none => "None"
  | some n => "Some(" ++ toString n ++ ")"

def v1Line : EncodedTransaction → Option String
  | .other => none
  | .json ui =>
    let signature := ui.signatures.head?.getD "?"
    some (match ui.transactionConfig with
      | some config =>
        "  " ++ signature ++ "\n    priority_fee=" ++
          debugOption (config.priorityFee.map UInt64.toNat) ++ " compute_unit_limit=" ++
          debugOption (config.computeUnitLimit.map UInt32.toNat) ++
          " loaded_accounts_data_size_limit=" ++
          debugOption (config.loadedAccountsDataSizeLimit.map UInt32.toNat) ++ " heap_size=" ++
          debugOption (config.heapSize.map UInt32.toNat)
      | none => "  " ++ signature ++ "\n    no transactionConfig on a v1 transaction")

/-- The body of the loop of `report`. -/
def reportStep (s : VersionScan UInt8 String)
    (t : BlockTransaction (Option TransactionVersion) EncodedTransaction) :
    VersionScan UInt8 String :=
  s.visit record (versionOf t.version) (v1Line t.transaction)

/-- `report`, whose block may lack the list of transactions. -/
def report (transactions : Option (List (BlockTransaction (Option TransactionVersion)
    EncodedTransaction))) : Option (VersionReport UInt8 String) :=
  transactions.map fun transactions => (transactions.foldl reportStep {}).report

def reportOfResponse (types : ClientTypes) (transactions : Option (List (BlockTransaction
    (Option JsonVersion) EncodedTransaction))) : Option (VersionReport UInt8 String) := do
  let block ← transactions.mapM (decodeVersions types.decodeVersion)
  report block

end Rust

namespace Go

/-- What the code uses of `solana-go`'s `rpc` package: the version it decodes "legacy" to,
which is neither 0 nor 1, and the decoding of the version member into an `int`. An absent
member leaves the zero value. -/
structure SolanaRpc where
  legacyTransactionVersion : ℤ
  legacyTransactionVersion_ne_zero : legacyTransactionVersion ≠ 0
  legacyTransactionVersion_ne_one : legacyTransactionVersion ≠ 1
  decodeVersion : Option JsonVersion → Option ℤ
  decodeVersion_none : decodeVersion none = some 0
  decodeVersion_legacy : decodeVersion (some .legacy) = some legacyTransactionVersion
  decodeVersion_number : ∀ n : ℤ, -(2 ^ 63) ≤ n ∧ n < 2 ^ 63 →
    decodeVersion (some (.number n)) = some n
  decodeVersion_other : ∀ n : ℤ, ¬ (-(2 ^ 63) ≤ n ∧ n < 2 ^ 63) →
    decodeVersion (some (.number n)) = none

/-- The package with its own constant. -/
def SolanaRpc.negative : SolanaRpc where
  legacyTransactionVersion := -1
  legacyTransactionVersion_ne_zero := by decide
  legacyTransactionVersion_ne_one := by decide
  decodeVersion
    | none => some 0
    | some .legacy => some (-1)
    | some (.number n) => if -(2 ^ 63) ≤ n ∧ n < 2 ^ 63 then some n else none
  decodeVersion_none := rfl
  decodeVersion_legacy := rfl
  decodeVersion_number _ h := if_pos h
  decodeVersion_other _ h := if_neg h

variable (rpc : SolanaRpc)

def versionOfResponse (version : ℤ) : Except String MessageVersion :=
  if version = rpc.legacyTransactionVersion then .ok .legacy
  else if version = 0 then .ok .v0
  else if version = 1 then .ok .v1
  else .error ("unrecognised transaction version " ++ toString version)

def formatConfig (config : TransactionConfig) (indent : String) : String :=
  let priorityFee := match config.priorityFee with
    | none => "unset (0)"
    | some fee => toString fee.toNat ++ " lamports (total, not micro-lamports/CU)"
  String.intercalate "\n"
    [indent ++ "priorityFee:                  " ++ priorityFee,
      indent ++ "computeUnitLimit:             " ++ optionalUint32 config.computeUnitLimit "0",
      indent ++ "loadedAccountsDataSizeLimit:  " ++
        optionalUint32 config.loadedAccountsDataSizeLimit "0",
      indent ++ "heapSize:                     " ++ optionalUint32 config.heapSize "32KB default"]

/-- `config.IsEmpty()`. -/
def isEmpty (config : TransactionConfig) : Bool :=
  config.priorityFee.isNone && config.computeUnitLimit.isNone &&
    config.loadedAccountsDataSizeLimit.isNone && config.heapSize.isNone

/-- `describe`, for a config that is a value and empty when the response has none. -/
def describe (config : TransactionConfig) : String :=
  if isEmpty config then "    no transactionConfig on a v1 transaction"
  else formatConfig config "    "

/-- The line of a v1 transaction. `entry.GetTransaction` may fail. -/
def v1Line (transaction : Option (JsonTransaction TransactionConfig)) : Option String :=
  transaction.map fun transaction =>
    "  " ++ transaction.signatures.head?.getD "?" ++ "\n" ++ describe transaction.transactionConfig

/-- The body of the loop of `report`. -/
def reportStep (s : VersionScan String String)
    (t : BlockTransaction ℤ (Option (JsonTransaction TransactionConfig))) :
    VersionScan String String :=
  s.visit record (versionOfResponse rpc t.version) (v1Line t.transaction)

/-- `report`. An empty list and a list the response lacks are one. -/
def report (transactions : List (BlockTransaction ℤ (Option (JsonTransaction TransactionConfig)))) :
    Option (VersionReport String String) :=
  if transactions.length = 0 then none
  else some (transactions.foldl (reportStep rpc) {}).report

def reportOfResponse (transactions : Option (List (BlockTransaction (Option JsonVersion)
    (Option (JsonTransaction TransactionConfig))))) : Option (VersionReport String String) := do
  let transactions ← decodeVersions rpc.decodeVersion (transactions.getD [])
  report rpc transactions

end Go

/-- What a loop prints whose body may throw: the values before the first error, and the error. -/
def printUntil {ε α : Type} : List (Except ε α) → List α × Option ε
  | [] => ([], none)
  | .error e :: _ => ([], some e)
  | .ok a :: rest => (a :: (printUntil rest).1, (printUntil rest).2)

namespace TypeScript

/-- The branches on `transaction.version`. -/
def countVersion (tally : VersionTally) (version : Option JsonVersion) : VersionTally :=
  if version = some (.number 1) then { tally with v1 := tally.v1 + 1 }
  else if version = some (.number 0) then { tally with v0 := tally.v0 + 1 }
  else { tally with legacy := tally.legacy + 1 }

def formatTransactionConfig (config : Option ComputeBudget) (indent : String) : String :=
  match config with
  | none => indent ++ "no config: not a v1 transaction"
  | some config => formatComputeBudget config indent

/-- `get-block.ts` after the response. The loop that lists the v1 transactions runs
after the tally is printed, and the decoder it calls may throw. -/
def getBlock (decodeBase64Transaction : String → Except JsError (Option ComputeBudget × String))
    (slot : ℕ) (transactions : Option (List (BlockTransaction (Option JsonVersion) String))) :
    Except JsError (VersionReport Empty String × Option JsError) :=
  match transactions with
  | none => .error (.error ("slot " ++ toString slot ++ " has no transaction details"))
  | some transactions =>
    let tally := transactions.foldl (fun tally t => countVersion tally t.version) {}
    let v1 := transactions.filter fun t => t.version = some (.number 1)
    let printed := printUntil (v1.map fun t => (decodeBase64Transaction t.transaction).map
      fun (config, signature) =>
        "  v1 " ++ signature ++ "\n" ++ formatTransactionConfig config "    ")
    .ok ({ tally := tally, total := transactions.length, v1Lines := printed.1 }, printed.2)

end TypeScript

namespace Python

inductive BlockError where
  | runtimeError (message : String)
  | indexError

def countVersion (tally : VersionTally) (version : Option JsonVersion) : VersionTally :=
  if version = some (.number 1) then { tally with v1 := tally.v1 + 1 }
  else if version = some (.number 0) then { tally with v0 := tally.v0 + 1 }
  else { tally with legacy := tally.legacy + 1 }

def formatTransactionConfig (config : Option TransactionConfig) (indent : String) : String :=
  match config with
  | none => indent ++ "no transactionConfig"
  | some config => formatConfig (some config) indent

def v1Line (transaction : JsonTransaction (Option TransactionConfig)) : Except BlockError String :=
  match transaction.signatures with
  | [] => .error .indexError
  | signature :: _ =>
    .ok ("  v1 " ++ signature ++ "\n" ++
      formatTransactionConfig transaction.transactionConfig "    ")

/-- `main` of `get_block.py` after the response. -/
def getBlock (slot : ℕ) (transactions : Option (List (BlockTransaction (Option JsonVersion)
    (JsonTransaction (Option TransactionConfig))))) :
    Except BlockError (VersionReport Empty String × Option BlockError) :=
  match transactions with
  | none => .error (.runtimeError ("slot " ++ toString slot ++ " has no transaction details"))
  | some transactions =>
    let tally := transactions.foldl (fun tally t => countVersion tally t.version) {}
    let v1 := transactions.filter fun t => t.version = some (.number 1)
    let printed := printUntil (v1.map fun t => v1Line t.transaction)
    .ok ({ tally := tally, total := transactions.length, v1Lines := printed.1 }, printed.2)

end Python

end TransactionV1

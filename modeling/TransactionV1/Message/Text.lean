import TransactionV1.Message.Proto

/-! # Configs as text

The indexers print the config of a v1 message under the field names of the wire.
An absent field is shown as unset, not as a value.
-/

namespace TransactionV1

namespace Rust

def optionalU32 (value : Option UInt32) (unsetMeaning : String) : String :=
  match value with
  | some value => toString value.toNat
  | none => "unset (" ++ unsetMeaning ++ ")"

def describeConfig (config : TransactionConfig) (indent : String) : String :=
  let priorityFee := match config.priorityFee with
    | some lamports => toString lamports.toNat ++ " lamports (total, not micro-lamports/CU)"
    | none => "unset (0)"
  String.intercalate "\n"
    [indent ++ "priority_fee:                    " ++ priorityFee,
      indent ++ "compute_unit_limit:              " ++ optionalU32 config.computeUnitLimit "0",
      indent ++ "loaded_accounts_data_size_limit: " ++
        optionalU32 config.loadedAccountsDataSizeLimit "0",
      indent ++ "heap_size:                       " ++ optionalU32 config.heapSize "32KB default"]

end Rust

namespace Go

def optionalUint32 (value : Option UInt32) (unsetMeaning : String) : String :=
  match value with
  | none => "unset (" ++ unsetMeaning ++ ")"
  | some value => toString value.toNat

def formatGRPCConfig (config : TransactionConfig) (indent : String) : String :=
  let priorityFee := match config.priorityFee with
    | none => "unset (0)"
    | some fee => toString fee.toNat ++ " lamports (total, not micro-lamports/CU)"
  String.intercalate "\n"
    [indent ++ "priority_fee:                    " ++ priorityFee,
      indent ++ "compute_unit_limit:              " ++ optionalUint32 config.computeUnitLimit "0",
      indent ++ "loaded_accounts_data_size_limit: " ++
        optionalUint32 config.loadedAccountsDataSizeLimit "0",
      indent ++ "heap_size:                       " ++
        optionalUint32 config.heapSize "32KB default"]

end Go

end TransactionV1

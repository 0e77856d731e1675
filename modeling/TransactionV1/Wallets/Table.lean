import Mathlib.Data.Finset.Insert
import Mathlib.Data.String.Basic
import TransactionV1.Foundations.StableSort

/-! # The wallet table

What the page shows of the wallets it knows: the Solana wallets, those that support v1
first and each group by name, with one mark for each transaction version.
-/

namespace TransactionV1.Wallets

/-- What the table reads of a wallet. A feature may say nothing of versions, and a
version may be any value. -/
structure Wallet (ν : Type*) where
  name : String
  icon : String
  chains : List String
  features : String → Option (Option (List ν))

def solanaSignAndSendTransaction : String := "solana:signAndSendTransaction"

def solanaSignTransaction : String := "solana:signTransaction"

section Readers

variable {ν : Type*}

def isSolanaWallet (wallet : Wallet ν) : Bool :=
  wallet.chains.any fun chain => "solana:".toList.isPrefixOf chain.toList

variable (string : ν → String)

def supportedTransactionVersions (wallet : Wallet ν) : Finset String :=
  [solanaSignAndSendTransaction, solanaSignTransaction].foldl
    (fun versions name => ((wallet.features name).join.getD []).foldl
      (fun versions version => insert (string version) versions) versions) ∅

def supportsV1 (wallet : Wallet ν) : Bool :=
  decide ("1" ∈ supportedTransactionVersions string wallet)

end Readers

section App

variable {ν : Type*} (localeCompare : String → String → ℤ) (string : ν → String)

/-- The comparison of the table's `sort`. -/
def compareWallets (a b : Wallet ν) : ℤ :=
  let support := (supportsV1 string b).toInt - (supportsV1 string a).toInt
  if support ≠ 0 then support else localeCompare a.name b.name

def sortedWallets (wallets : List (Wallet ν)) : List (Wallet ν) :=
  (wallets.filter isSolanaWallet).mergeSort fun a b =>
    decide (compareWallets localeCompare string a b ≤ 0)

structure WalletRow where
  icon : String
  name : String
  supported : List Bool
  deriving DecidableEq

def walletRow (wallet : Wallet ν) : WalletRow where
  icon := wallet.icon
  name := wallet.name
  supported := ["legacy", "0", "1"].map fun version =>
    decide (version ∈ supportedTransactionVersions string wallet)

inductive Screen where
  | noSolanaWallet
  | table (rows : List WalletRow)
  deriving DecidableEq

/-- `App`, for the wallets `useWallets` returns. -/
def app (wallets : List (Wallet ν)) : Screen :=
  match sortedWallets localeCompare string wallets with
  | [] => .noSolanaWallet
  | sorted => .table (sorted.map (walletRow string))

end App

section Order

variable {ν : Type*} {localeCompare : String → String → ℤ} {string : ν → String}

/-- `localeCompare` orders all strings, and changes its sign with their order. -/
structure ConsistentComparator (localeCompare : String → String → ℤ) : Prop where
  symm : ∀ a b, localeCompare a b < 0 ↔ 0 < localeCompare b a
  trans : ∀ a b c, localeCompare a b ≤ 0 → localeCompare b c ≤ 0 → localeCompare a c ≤ 0

theorem ConsistentComparator.total (h : ConsistentComparator localeCompare) (a b : String) :
    localeCompare a b ≤ 0 ∨ localeCompare b a ≤ 0 := by
  rcases le_or_gt (localeCompare a b) 0 with hle | hlt
  · exact Or.inl hle
  · exact Or.inr ((h.symm b a).mpr hlt).le

def byName (localeCompare : String → String → ℤ) (a b : Wallet ν) : Bool :=
  decide (localeCompare a.name b.name ≤ 0)

theorem decide_compareWallets_le (a b : Wallet ν) :
    decide (compareWallets localeCompare string a b ≤ 0) =
      StableSort.byClass (supportsV1 string) (byName localeCompare) a b := by
  unfold compareWallets StableSort.byClass byName
  cases supportsV1 string a <;> cases supportsV1 string b <;> simp

theorem byName_trans (h : ConsistentComparator localeCompare) (a b c : Wallet ν)
    (hab : byName localeCompare a b) (hbc : byName localeCompare b c) :
    byName localeCompare a c :=
  decide_eq_true (h.trans _ _ _ (of_decide_eq_true hab) (of_decide_eq_true hbc))

theorem byName_total (h : ConsistentComparator localeCompare) (a b : Wallet ν) :
    byName localeCompare a b || byName localeCompare b a := by
  rcases h.total a.name b.name with hab | hba
  · simp [byName, hab]
  · simp [byName, hba]

theorem sortedWallets_eq (h : ConsistentComparator localeCompare) (wallets : List (Wallet ν)) :
    sortedWallets localeCompare string wallets =
      ((wallets.filter isSolanaWallet).filter (supportsV1 string)).mergeSort
          (byName localeCompare) ++
        ((wallets.filter isSolanaWallet).filter (! supportsV1 string ·)).mergeSort
          (byName localeCompare) := by
  unfold sortedWallets
  rw [funext fun a => funext fun b => decide_compareWallets_le a b]
  exact StableSort.mergeSort_byClass (byName_trans h) (byName_total h) _

theorem app_of_sortedWallets {wallets sorted : List (Wallet ν)}
    (h : sortedWallets localeCompare string wallets = sorted) :
    app localeCompare string wallets =
      if sorted = [] then .noSolanaWallet else .table (sorted.map (walletRow string)) := by
  unfold app
  rw [h]
  cases sorted with
  | nil => rfl
  | cons wallet sorted => rfl

theorem map_getLast?_supported {wallets : List (Wallet ν)} {b : Bool}
    (h : ∀ wallet ∈ wallets, supportsV1 string wallet = b) :
    (wallets.map (walletRow string)).map (·.supported.getLast?) =
      List.replicate wallets.length (some b) := by
  rw [List.map_map, List.eq_replicate_iff]
  refine ⟨List.length_map _, fun mark hm => ?_⟩
  obtain ⟨wallet, hw, rfl⟩ := List.mem_map.mp hm
  rw [← h wallet hw]
  rfl

end Order

/-- The page lists every Solana wallet it is given and no other, one row for each. The
wallets that support v1 are on top, so the marks of the last column are ticks over
crosses; each of the two groups is sorted by name, and wallets of one name keep their
order. Where there is no Solana wallet it says so. -/
theorem app_lists_v1_first {ν : Type*} {localeCompare : String → String → ℤ}
    (h : ConsistentComparator localeCompare) (string : ν → String) (wallets : List (Wallet ν)) :
    ∃ supporters others : List (Wallet ν),
      StableSort.IsStableSort (byName localeCompare)
        (wallets.filter fun w => supportsV1 string w && isSolanaWallet w) supporters ∧
      StableSort.IsStableSort (byName localeCompare)
        (wallets.filter fun w => ! supportsV1 string w && isSolanaWallet w) others ∧
      app localeCompare string wallets =
        (if supporters ++ others = [] then .noSolanaWallet
          else .table ((supporters ++ others).map (walletRow string))) ∧
      ((supporters ++ others).map (walletRow string)).map (·.supported.getLast?) =
        List.replicate supporters.length (some true) ++
          List.replicate others.length (some false) := by
  have heq : sortedWallets localeCompare string wallets = _ := sortedWallets_eq h wallets
  simp only [List.filter_filter] at heq
  refine ⟨_, _, StableSort.isStableSort_mergeSort (byName_trans h) (byName_total h) _,
    StableSort.isStableSort_mergeSort (byName_trans h) (byName_total h) _,
    app_of_sortedWallets heq, ?_⟩
  rw [List.map_append, List.map_append]
  congr 1
  · apply map_getLast?_supported
    intro wallet hw
    rw [List.mem_mergeSort, List.mem_filter, Bool.and_eq_true] at hw
    exact hw.2.1
  · apply map_getLast?_supported
    intro wallet hw
    rw [List.mem_mergeSort, List.mem_filter, Bool.and_eq_true, Bool.not_eq_true'] at hw
    exact hw.2.1

def compareCodeUnits (a b : String) : ℤ := if a < b then -1 else if a = b then 0 else 1

theorem compareCodeUnits_consistent : ConsistentComparator compareCodeUnits := by
  have hle (a b : String) : compareCodeUnits a b ≤ 0 ↔ a ≤ b := by
    unfold compareCodeUnits
    rcases lt_trichotomy a b with hlt | heq | hgt
    · simp [hlt, hlt.le]
    · simp [heq]
    · simp [hgt.not_gt, hgt.ne', hgt.not_ge]
  constructor
  · intro a b
    unfold compareCodeUnits
    rcases lt_trichotomy a b with hlt | heq | hgt
    · simp [hlt, hlt.not_gt, hlt.ne']
    · simp [heq]
    · simp [hgt, hgt.not_gt, hgt.ne']
  · intro a b c
    simp only [hle]
    exact le_trans

/-- Two wallets without v1 come to stand below one with it. -/
theorem app_lists_v1_first_of_lastSupporter :
    let signs (name : String) (versions : List String) : Wallet String :=
      ⟨name, "", ["solana:mainnet"], fun feature =>
        if feature = solanaSignTransaction then some (some versions) else none⟩
    ∃ rows, app compareCodeUnits id [signs "B" ["legacy", "0"], signs "A" ["legacy"],
        signs "C" ["legacy", "0", "1"]] = .table rows ∧
      rows.map (·.supported.getLast?) = [some true, some false, some false] := by
  intro signs
  obtain ⟨supporters, others, hs, ho, happ, hmarks⟩ := app_lists_v1_first
    compareCodeUnits_consistent id [signs "B" ["legacy", "0"], signs "A" ["legacy"],
      signs "C" ["legacy", "0", "1"]]
  have hs' : supporters.length = 1 := hs.perm.length_eq
  have ho' : others.length = 2 := ho.perm.length_eq
  rw [if_neg fun hnil => by simp [List.append_eq_nil_iff.mp hnil] at hs'] at happ
  exact ⟨_, happ, by rw [hmarks, hs', ho']; rfl⟩

end TransactionV1.Wallets

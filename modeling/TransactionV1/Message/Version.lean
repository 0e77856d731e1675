import TransactionV1.Message.Proto

/-! # Message versions

Every reader tells a v1 message by the presence of its config and counts the
versions it has seen in a tally. A tally fed one version at a time counts how
often each version occurred.
-/

namespace TransactionV1

inductive MessageVersion where
  | legacy
  | v0
  | v1
  deriving DecidableEq, Repr

/-- A running count of transaction versions. The source counts in 64-bit words,
or in numbers in TypeScript; no run receives enough messages to tell these from ℕ. -/
@[ext] structure VersionTally where
  legacy : ℕ := 0
  v0 : ℕ := 0
  v1 : ℕ := 0
  deriving DecidableEq, Repr

namespace VersionTally

def total (tally : VersionTally) : ℕ := tally.legacy + tally.v0 + tally.v1

def ofVersions (versions : List MessageVersion) : VersionTally where
  legacy := versions.count .legacy
  v0 := versions.count .v0
  v1 := versions.count .v1

@[simp] theorem total_ofVersions (versions : List MessageVersion) :
    (ofVersions versions).total = versions.length := by
  induction versions with
  | nil => rfl
  | cons version versions ih =>
    simp only [total, ofVersions] at ih ⊢
    cases version <;> simp <;> omega

end VersionTally

namespace Rust

variable {κ : Type}

/-- `message_version` in `rust/src/grpc.rs`. -/
def messageVersion (message : MessageOf κ) : MessageVersion :=
  match message.config, message.versioned with
  | some _, _ => .v1
  | none, true => .v0
  | none, false => .legacy

/-- `VersionTally::record`. -/
def record (tally : VersionTally) (version : MessageVersion) : VersionTally :=
  match version with
  | .legacy => { tally with legacy := tally.legacy + 1 }
  | .v0 => { tally with v0 := tally.v0 + 1 }
  | .v1 => { tally with v1 := tally.v1 + 1 }

theorem messageVersion_eq_v1_iff {message : MessageOf κ} :
    messageVersion message = .v1 ↔ message.config.isSome = true := by
  unfold messageVersion
  split <;> simp_all

theorem foldl_record (tally : VersionTally) (versions : List MessageVersion) :
    versions.foldl record tally =
      ⟨tally.legacy + versions.count .legacy, tally.v0 + versions.count .v0,
        tally.v1 + versions.count .v1⟩ := by
  induction versions generalizing tally with
  | nil => rfl
  | cons version versions ih =>
    rw [List.foldl_cons, ih]
    cases version <;> simp [record] <;> omega

theorem foldl_record_empty (versions : List MessageVersion) :
    versions.foldl record {} = VersionTally.ofVersions versions := by
  simp [foldl_record, VersionTally.ofVersions]

end Rust

namespace Go

variable {κ : Type}

/-- `MessageVersionOf` in `go/txv1/grpc.go`. -/
def messageVersionOf (message : MessageOf κ) : MessageVersion :=
  if message.config.isSome then .v1
  else if message.versioned then .v0
  else .legacy

/-- `VersionTally.Record`, whose default case counts a message as legacy. -/
def record (tally : VersionTally) (version : MessageVersion) : VersionTally :=
  if version = .v0 then { tally with v0 := tally.v0 + 1 }
  else if version = .v1 then { tally with v1 := tally.v1 + 1 }
  else { tally with legacy := tally.legacy + 1 }

@[simp] theorem messageVersionOf_eq (message : MessageOf κ) :
    messageVersionOf message = Rust.messageVersion message := by
  unfold messageVersionOf Rust.messageVersion
  cases message.config <;> cases message.versioned <;> rfl

@[simp] theorem record_eq (tally : VersionTally) (version : MessageVersion) :
    record tally version = Rust.record tally version := by
  cases version <;> rfl

end Go

namespace TypeScript

variable {κ : Type}

/-- `messageVersion` in `ts/kit/src/lib/grpc.ts`. -/
def messageVersion (message : MessageOf κ) : MessageVersion :=
  if message.config.isSome then .v1
  else if message.versioned then .v0 else .legacy

/-- `tally[version] += 1` in the TypeScript indexers. -/
def record (tally : VersionTally) (version : MessageVersion) : VersionTally where
  legacy := if version = .legacy then tally.legacy + 1 else tally.legacy
  v0 := if version = .v0 then tally.v0 + 1 else tally.v0
  v1 := if version = .v1 then tally.v1 + 1 else tally.v1

@[simp] theorem messageVersion_eq (message : MessageOf κ) :
    messageVersion message = Rust.messageVersion message := by
  unfold messageVersion Rust.messageVersion
  cases message.config <;> cases message.versioned <;> rfl

@[simp] theorem record_eq (tally : VersionTally) (version : MessageVersion) :
    record tally version = Rust.record tally version := by
  cases version <;> rfl

end TypeScript

@[simp] theorem messageVersion_mapConfig {κ κ' : Type} (f : κ → κ') (message : MessageOf κ) :
    Rust.messageVersion (message.mapConfig f) = Rust.messageVersion message := by
  cases h : message.config <;> cases hv : message.versioned <;>
    simp [Rust.messageVersion, MessageOf.mapConfig, h, hv]

end TransactionV1

import Mathlib.Logic.Function.Iterate
import TransactionV1.Foundations.Listeners

/-! # The wallet table's subscription

React subscribes to the wallets the registry lists. The subscription listens to the
registry's two events and to the change event of every wallet that exposes
`standard:events`. Whatever events arrive, it listens to the registered wallets and
to no other, and the function it returns leaves no listener behind.
-/

namespace TransactionV1.Wallets

open Listeners

section Model

/-- The registry and the wallets: what `wallets.get()` lists, the listeners of the
registry's two events, and those of each wallet's change event. -/
structure World (ω : Type*) {κ : Type*} (R E : EventSource κ) where
  registered : List ω
  onRegister : R.State
  onUnregister : R.State
  changes : ω → E.State

/-- One subscription: the registry, the map of the functions that detach it from the
wallets, the snapshot, and how often it has called React's `onChange`. -/
structure Subscription (ω : Type*) {κ : Type*} (R E : EventSource κ) where
  registered : List ω
  onRegister : R.State
  onUnregister : R.State
  offChanges : Ledger ω E
  snapshot : List ω
  offRegister : R.Off
  offUnregister : R.Off
  calls : ℕ

/-- What reaches a subscription. The registry's list is updated before the registry
emits. -/
inductive Event (ω : Type*) where
  | register (registered : List ω)
  | unregister (registered : List ω)
  | change (wallet : ω)

variable {ω κ : Type*} [DecidableEq ω] {R E : EventSource κ}
variable (exposes : ω → Bool) (listener : κ)

/-- Detach from the wallets that have left, then attach to those that are new. -/
def refresh (current : List ω) (offChanges : Ledger ω E) : Ledger ω E :=
  let kept := offChanges.offs.foldl
    (fun l entry => if entry.1 ∈ current then l else l.detach entry) offChanges
  current.foldl (fun l wallet => if wallet ∈ l.keys then l else l.attach listener exposes wallet)
    kept

def update (s : Subscription ω R E) : Subscription ω R E :=
  { s with
    offChanges := refresh exposes listener s.registered s.offChanges
    snapshot := s.registered
    calls := s.calls + 1 }

def subscribe (world : World ω R E) : Subscription ω R E where
  registered := world.registered
  onRegister := (R.on world.onRegister listener).1
  onUnregister := (R.on world.onUnregister listener).1
  offChanges := refresh exposes listener world.registered ⟨world.changes, []⟩
  snapshot := world.registered
  offRegister := (R.on world.onRegister listener).2
  offUnregister := (R.on world.onUnregister listener).2
  calls := 0

/-- The function `subscribe` returns. -/
def teardown (s : Subscription ω R E) : World ω R E where
  registered := s.registered
  onRegister := R.off s.onRegister s.offRegister
  onUnregister := R.off s.onUnregister s.offUnregister
  changes := (s.offChanges.offs.foldl Ledger.release s.offChanges).states

/-- An emitter runs the listener once for each of its live registrations. -/
def receive (s : Subscription ω R E) : Event ω → Subscription ω R E
  | .register registered =>
    (update exposes listener)^[R.count s.onRegister listener] { s with registered := registered }
  | .unregister registered =>
    (update exposes listener)^[R.count s.onUnregister listener] { s with registered := registered }
  | .change wallet =>
    (update exposes listener)^[E.count (s.offChanges.states wallet) listener] s

def run (world : World ω R E) (events : List (Event ω)) : Subscription ω R E :=
  events.foldl (receive exposes listener) (subscribe exposes listener world)

def Event.registered (before : List ω) : Event ω → List ω
  | .register registered | .unregister registered => registered
  | .change _ => before

/-- The registry can always emit, a wallet only while it is registered and when it
exposes `standard:events`. -/
def Event.CanOccur (registered : List ω) : Event ω → Prop
  | .register _ | .unregister _ => True
  | .change wallet => wallet ∈ registered ∧ exposes wallet = true

/-- Every event can occur where it stands. -/
def CanOccur : List ω → List (Event ω) → Prop
  | _, [] => True
  | registered, event :: events =>
    event.CanOccur exposes registered ∧ CanOccur (event.registered registered) events

structure World.Fresh (listener : κ) (world : World ω R E) : Prop where
  onRegister : R.count world.onRegister listener = 0
  onUnregister : R.count world.onUnregister listener = 0
  changes : ∀ wallet, E.count (world.changes wallet) listener = 0

end Model

section Invariant

variable {ω κ : Type*} [DecidableEq ω] {R E : EventSource κ}
variable {exposes : ω → Bool} {listener : κ}

/-- The subscription listens once to each registry event and to the registered wallets
that expose theirs, and its snapshot is the registry's list. -/
structure Follows (exposes : ω → Bool) (listener : κ) (s : Subscription ω R E) : Prop where
  tracks : s.offChanges.Tracks listener exposes
  mem_keys : ∀ wallet, wallet ∈ s.offChanges.keys ↔ wallet ∈ s.registered
  snapshot_eq : s.snapshot = s.registered
  count_register : R.count s.onRegister listener = 1
  count_unregister : R.count s.onUnregister listener = 1
  live_register : R.Live s.onRegister s.offRegister listener
  live_unregister : R.Live s.onUnregister s.offUnregister listener

theorem refresh_tracks {l : Ledger ω E} (h : l.Tracks listener exposes) (current : List ω) :
    (refresh exposes listener current l).Tracks listener exposes ∧
      ∀ wallet, wallet ∈ (refresh exposes listener current l).keys ↔ wallet ∈ current := by
  obtain ⟨hkept, hkeys⟩ := h.foldl_detach (· ∈ current) (fun _ he => he) h.nodup
  obtain ⟨hnew, hkeys'⟩ := hkept.foldl_attach current
  refine ⟨hnew, fun wallet => (hkeys' wallet).trans ?_⟩
  rw [hkeys]
  constructor
  · rintro (⟨hw, hc⟩ | hc)
    · exact hc hw
    · exact hc
  · exact Or.inr

theorem tracks_empty {changes : ω → E.State} (h : ∀ wallet, E.count (changes wallet) listener = 0) :
    (⟨changes, []⟩ : Ledger ω E).Tracks listener exposes where
  nodup := List.nodup_nil
  count_eq wallet := by simp [h wallet, Ledger.keys]
  live _ _ hm := absurd hm List.not_mem_nil
  isSome_eq _ hm := absurd hm List.not_mem_nil

theorem subscribe_follows {world : World ω R E} (h : world.Fresh listener) :
    Follows exposes listener (subscribe exposes listener world) where
  tracks := (refresh_tracks (tracks_empty h.changes) world.registered).1
  mem_keys := (refresh_tracks (tracks_empty h.changes) world.registered).2
  snapshot_eq := rfl
  count_register := by rw [subscribe, R.count_on, h.onRegister]
  count_unregister := by rw [subscribe, R.count_on, h.onUnregister]
  live_register := R.live_on world.onRegister listener
  live_unregister := R.live_on world.onUnregister listener

theorem Follows.update {s : Subscription ω R E} (h : Follows exposes listener s)
    (registered : List ω) :
    Follows exposes listener (update exposes listener { s with registered := registered }) where
  tracks := (refresh_tracks h.tracks registered).1
  mem_keys := (refresh_tracks h.tracks registered).2
  snapshot_eq := rfl
  count_register := h.count_register
  count_unregister := h.count_unregister
  live_register := h.live_register
  live_unregister := h.live_unregister

theorem Follows.count_changes {s : Subscription ω R E} (h : Follows exposes listener s)
    (wallet : ω) : E.count (s.offChanges.states wallet) listener =
      if wallet ∈ s.registered ∧ exposes wallet = true then 1 else 0 := by
  simp only [h.tracks.count_eq, h.mem_keys]

/-- An event that can occur runs the update exactly once, on the registry's new list. -/
theorem Follows.receive_eq {s : Subscription ω R E} (h : Follows exposes listener s)
    {event : Event ω} (hevent : event.CanOccur exposes s.registered) :
    receive exposes listener s event =
      Wallets.update exposes listener { s with registered := event.registered s.registered } := by
  cases event with
  | register registered =>
    rw [receive, h.count_register]
    rfl
  | unregister registered =>
    rw [receive, h.count_unregister]
    rfl
  | change wallet =>
    obtain ⟨hw, he⟩ := hevent
    rw [receive, h.count_changes, if_pos ⟨hw, he⟩]
    rfl

/-- Over a run the subscription keeps following the registry, and it has called
`onChange` once for each event. -/
theorem Follows.foldl_receive {s : Subscription ω R E} (h : Follows exposes listener s)
    {events : List (Event ω)} (hevents : CanOccur exposes s.registered events) :
    Follows exposes listener (events.foldl (receive exposes listener) s) ∧
      (events.foldl (receive exposes listener) s).registered =
        events.foldl Event.registered s.registered ∧
      (events.foldl (receive exposes listener) s).calls = s.calls + events.length := by
  induction events generalizing s with
  | nil => exact ⟨h, rfl, rfl⟩
  | cons event events ih =>
    obtain ⟨hevent, hrest⟩ := hevents
    rw [List.foldl_cons, List.foldl_cons, h.receive_eq hevent]
    obtain ⟨hf, hregistered, hcalls⟩ := ih (h.update (event.registered s.registered)) hrest
    refine ⟨hf, hregistered, hcalls.trans ?_⟩
    rw [List.length_cons]
    exact Nat.add_right_comm s.calls 1 events.length

theorem Follows.count_teardown {s : Subscription ω R E} (h : Follows exposes listener s) :
    (teardown s).Fresh listener where
  onRegister := R.count_off _ _ _ h.live_register h.count_register
  onUnregister := R.count_off _ _ _ h.live_unregister h.count_unregister
  changes := h.tracks.count_foldl_release

end Invariant

/-- After any events between the subscription and its teardown, the listener is on
the registered wallets that expose `standard:events`, once on each, and on no other;
the snapshot is the registry's list; `onChange` has been called once for each event;
and the teardown leaves the listener nowhere. -/
theorem run_follows {ω κ : Type*} [DecidableEq ω] {R E : EventSource κ} {exposes : ω → Bool}
    {listener : κ} {world : World ω R E} (hfresh : world.Fresh listener)
    {events : List (Event ω)} (hevents : CanOccur exposes world.registered events) :
    let s := run exposes listener world events
    s.registered = events.foldl Event.registered world.registered ∧
      (∀ wallet, E.count (s.offChanges.states wallet) listener =
        if wallet ∈ s.registered ∧ exposes wallet = true then 1 else 0) ∧
      s.snapshot = s.registered ∧ s.calls = events.length ∧ (teardown s).Fresh listener := by
  obtain ⟨hf, hregistered, hcalls⟩ := (subscribe_follows hfresh).foldl_receive hevents
  refine ⟨hregistered, hf.count_changes, hf.snapshot_eq, ?_, hf.count_teardown⟩
  rw [run, hcalls]
  exact Nat.zero_add _

/-- A wallet comes, announces a change, leaves and comes back behind another. -/
theorem run_follows_of_return :
    let world : World ℕ (EventSource.list ℕ) (EventSource.list ℕ) := ⟨[0], [], [], fun _ => [5]⟩
    let events : List (Event ℕ) := [.register [0, 1, 2], .change 1, .unregister [0, 2], .change 2,
      .register [0, 2, 1], .change 1]
    let s := run (· ≠ 0) 7 world events
    (s.snapshot = [0, 2, 1] ∧ s.calls = 6) ∧
      (EventSource.list ℕ).count (s.offChanges.states 1) 7 = 1 ∧
      (EventSource.list ℕ).count ((teardown s).changes 1) 7 = 0 := by
  intro world events
  have hfresh : world.Fresh 7 := ⟨rfl, rfl, fun _ => rfl⟩
  have hevents : CanOccur (· ≠ 0) world.registered events := by
    simp [events, CanOccur, Event.CanOccur, Event.registered]
  obtain ⟨hregistered, hcount, hsnapshot, hcalls, hdown⟩ := run_follows hfresh hevents
  refine ⟨⟨hsnapshot.trans hregistered, hcalls⟩, ?_, hdown.changes 1⟩
  rw [hcount, hregistered]
  rfl

end TransactionV1.Wallets

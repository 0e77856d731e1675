import TransactionV1.Wallets.Subscribe
import TransactionV1.Wallets.Table

/-! # The page over its life

React may subscribe and unsubscribe many times while wallets come, go and change what
they say of themselves. While it is subscribed the page shows what the registered
wallets say now. While it is not, nothing of it is attached anywhere.
-/

namespace TransactionV1.Wallets

section Model

/-- Where the component stands. A listener of an ended subscription that is called has
leaked. -/
inductive Mount (ω : Type*) {κ : Type*} (R E : Listeners.EventSource κ) where
  | detached (world : World ω R E) (snapshot : List ω)
  | attached (subscription : Subscription ω R E)
  | leaked

/-- What the wallets say of themselves, the component, and what was rendered last. -/
structure Page (ω ν : Type*) {κ : Type*} (R E : Listeners.EventSource κ) where
  wallets : ω → Wallet ν
  mount : Mount ω R E
  screen : Screen

/-- What happens to the page. Wallets may say something new with an event, and those
nobody listens to without one. -/
inductive Moment (ω ν : Type*) where
  | mount
  | unmount
  | event (event : Event ω) (wallets : ω → Wallet ν)
  | silence (wallets : ω → Wallet ν)

variable {ω ν κ : Type*} [DecidableEq ω] {R E : Listeners.EventSource κ}
variable (localeCompare : String → String → ℤ) (string : ν → String)
variable (exposes : ω → Bool) (listener : κ)

def World.heard (world : World ω R E) : Event ω → ℕ
  | .register _ => R.count world.onRegister listener
  | .unregister _ => R.count world.onUnregister listener
  | .change wallet => E.count (world.changes wallet) listener

def render (wallets : ω → Wallet ν) (snapshot : List ω) : Screen :=
  app localeCompare string (snapshot.map wallets)

/-- `useSyncExternalStore` subscribes when the component mounts and renders the snapshot
it finds after that, and renders again when `onChange` is called. -/
def Page.step (page : Page ω ν R E) : Moment ω ν → Page ω ν R E
  | .mount =>
    match page.mount with
    | .detached world _ =>
      let s := subscribe exposes listener world
      { page with mount := .attached s
                  screen := render localeCompare string page.wallets s.snapshot }
    | _ => page
  | .unmount =>
    match page.mount with
    | .attached s => { page with mount := .detached (teardown s) s.snapshot }
    | _ => page
  | .event event wallets =>
    match page.mount with
    | .detached world snapshot =>
      if world.heard listener event = 0 then
        { page with
          wallets := wallets
          mount := .detached { world with registered := event.registered world.registered }
            snapshot }
      else { page with wallets := wallets, mount := .leaked }
    | .attached s =>
      let s' := receive exposes listener s event
      { wallets := wallets
        mount := .attached s'
        screen := if s'.calls = s.calls then page.screen
          else render localeCompare string wallets s'.snapshot }
    | .leaked => { page with wallets := wallets }
  | .silence wallets => { page with wallets := wallets }

def load (wallets : ω → Wallet ν) (world : World ω R E) : Page ω ν R E where
  wallets := wallets
  mount := .detached world world.registered
  screen := render localeCompare string wallets world.registered

def Page.registered (page : Page ω ν R E) : List ω :=
  match page.mount with
  | .detached world _ => world.registered
  | .attached s => s.registered
  | .leaked => []

/-- An event comes from where it can, and a registered wallet announces what it has
to say. -/
def Moment.CanHappen (page : Page ω ν R E) : Moment ω ν → Prop
  | .mount | .unmount => True
  | .event emitted _ => emitted.CanOccur exposes page.registered
  | .silence wallets => ∀ wallet ∈ page.registered, wallets wallet = page.wallets wallet

def CanHappen : Page ω ν R E → List (Moment ω ν) → Prop
  | _, [] => True
  | page, moment :: moments => moment.CanHappen exposes page ∧
      CanHappen (page.step localeCompare string exposes listener moment) moments

end Model

section Invariant

variable {ω ν κ : Type*} [DecidableEq ω] {R E : Listeners.EventSource κ}
variable {localeCompare : String → String → ℤ} {string : ν → String}
variable {exposes : ω → Bool} {listener : κ}

/-- What holds of the page at every moment. -/
def Page.Sound (localeCompare : String → String → ℤ) (string : ν → String) (exposes : ω → Bool)
    (listener : κ) (page : Page ω ν R E) : Prop :=
  match page.mount with
  | .detached world _ => world.Fresh listener
  | .attached s => Follows exposes listener s ∧
      page.screen = render localeCompare string page.wallets s.registered
  | .leaked => False

omit [DecidableEq ω] in
theorem World.Fresh.heard {world : World ω R E} (h : world.Fresh listener) (event : Event ω) :
    world.heard listener event = 0 := by
  cases event with
  | register _ => exact h.onRegister
  | unregister _ => exact h.onUnregister
  | change wallet => exact h.changes wallet

omit [DecidableEq ω] in
theorem render_congr {wallets wallets' : ω → Wallet ν} {snapshot : List ω}
    (h : ∀ wallet ∈ snapshot, wallets' wallet = wallets wallet) :
    render localeCompare string wallets' snapshot = render localeCompare string wallets snapshot :=
  congrArg (app localeCompare string) (List.map_congr_left h)

/-- A subscription that follows the registry hears every event and renders after it. -/
theorem Page.Sound.receive {s : Subscription ω R E} (h : Follows exposes listener s)
    {event : Event ω} (hevent : event.CanOccur exposes s.registered) :
    Follows exposes listener (receive exposes listener s event) ∧
      (receive exposes listener s event).calls ≠ s.calls ∧
      (receive exposes listener s event).registered = event.registered s.registered := by
  rw [h.receive_eq hevent]
  exact ⟨h.update _, Nat.succ_ne_self s.calls, rfl⟩

theorem Page.Sound.step {page : Page ω ν R E}
    (h : page.Sound localeCompare string exposes listener) {moment : Moment ω ν}
    (hm : moment.CanHappen exposes page) :
    (page.step localeCompare string exposes listener moment).Sound localeCompare string exposes
      listener := by
  obtain ⟨wallets, mount, screen⟩ := page
  cases mount with
  | leaked => exact h.elim
  | detached world snapshot =>
    cases moment with
    | mount => exact ⟨subscribe_follows h, rfl⟩
    | unmount => exact h
    | silence wallets' => exact h
    | event event wallets' =>
      simp only [Page.step, World.Fresh.heard h event, if_true]
      exact ⟨h.onRegister, h.onUnregister, h.changes⟩
  | attached s =>
    obtain ⟨hf, hscreen⟩ := h
    cases moment with
    | mount => exact ⟨hf, hscreen⟩
    | unmount => exact hf.count_teardown
    | silence wallets' => exact ⟨hf, hscreen.trans (render_congr hm).symm⟩
    | event event wallets' =>
      obtain ⟨hf', hcalls, hregistered⟩ := Page.Sound.receive hf hm
      refine ⟨hf', ?_⟩
      simp only [Page.step, if_neg hcalls, hf'.snapshot_eq]

/-- The registry after a moment, whoever listens to it. -/
def Moment.registered (before : List ω) : Moment ω ν → List ω
  | .event emitted _ => emitted.registered before
  | _ => before

/-- What the wallets say after a moment. -/
def Moment.wallets (before : ω → Wallet ν) : Moment ω ν → ω → Wallet ν
  | .event _ said | .silence said => said
  | _ => before

theorem Page.wallets_step (page : Page ω ν R E) (moment : Moment ω ν) :
    (page.step localeCompare string exposes listener moment).wallets =
      moment.wallets page.wallets := by
  obtain ⟨wallets, mount, screen⟩ := page
  cases moment <;> cases mount <;> simp only [Page.step, Moment.wallets]
  split <;> rfl

theorem Page.Sound.registered_step {page : Page ω ν R E}
    (h : page.Sound localeCompare string exposes listener) {moment : Moment ω ν}
    (hm : moment.CanHappen exposes page) :
    (page.step localeCompare string exposes listener moment).registered =
      moment.registered page.registered := by
  obtain ⟨wallets, mount, screen⟩ := page
  cases mount with
  | leaked => exact h.elim
  | detached world snapshot =>
    cases moment with
    | event event wallets' =>
      simp only [Page.step, World.Fresh.heard h event, if_true]
      rfl
    | _ => rfl
  | attached s =>
    cases moment with
    | event event wallets' => exact (Page.Sound.receive h.1 hm).2.2
    | _ => rfl

/-- Over any moments the page stays sound, and its registry and wallets are those the
events have left. -/
theorem Page.Sound.run {page : Page ω ν R E}
    (h : page.Sound localeCompare string exposes listener) {moments : List (Moment ω ν)}
    (hm : CanHappen localeCompare string exposes listener page moments) :
    let page' := moments.foldl (Page.step localeCompare string exposes listener) page
    page'.Sound localeCompare string exposes listener ∧
      page'.registered = moments.foldl Moment.registered page.registered ∧
      page'.wallets = moments.foldl Moment.wallets page.wallets := by
  induction moments generalizing page with
  | nil => exact ⟨h, rfl, rfl⟩
  | cons moment moments ih =>
    obtain ⟨hmoment, hrest⟩ := hm
    obtain ⟨hs, hregistered, hwallets⟩ := ih (h.step hmoment) hrest
    rw [h.registered_step hmoment] at hregistered
    rw [Page.wallets_step] at hwallets
    exact ⟨hs, hregistered, hwallets⟩

end Invariant

/-- However often the component mounts and unmounts while wallets come, go and change,
no listener of an ended subscription is ever called. While it is mounted it listens once
to each registered wallet that emits, to no other, and the screen shows what the
registered wallets say now; while it is not, it listens to nothing. -/
theorem page_shows_registry {ω ν κ : Type*} [DecidableEq ω] {R E : Listeners.EventSource κ}
    {exposes : ω → Bool} {listener : κ} {world : World ω R E} (hfresh : world.Fresh listener)
    (localeCompare : String → String → ℤ) (string : ν → String) (wallets : ω → Wallet ν)
    {moments : List (Moment ω ν)}
    (hm : CanHappen localeCompare string exposes listener (load localeCompare string wallets world)
      moments) :
    let page := moments.foldl (Page.step localeCompare string exposes listener)
      (load localeCompare string wallets world)
    let registered := moments.foldl Moment.registered world.registered
    match page.mount with
    | .detached world' _ => world'.registered = registered ∧ world'.Fresh listener
    | .attached s => s.registered = registered ∧
        (∀ wallet, E.count (s.offChanges.states wallet) listener =
          if wallet ∈ registered ∧ exposes wallet = true then 1 else 0) ∧
        page.screen = app localeCompare string
          (registered.map (moments.foldl Moment.wallets wallets))
    | .leaked => False := by
  intro page registered
  have hload : (load localeCompare string wallets world).Sound localeCompare string exposes
      listener := hfresh
  obtain ⟨hs, hregistered, hwallets⟩ := hload.run hm
  change page.Sound localeCompare string exposes listener at hs
  change page.registered = registered at hregistered
  change page.wallets = moments.foldl Moment.wallets wallets at hwallets
  unfold Page.Sound at hs
  unfold Page.registered at hregistered
  cases hmount : page.mount with
  | leaked =>
    rw [hmount] at hs
    exact hs
  | detached world' snapshot =>
    rw [hmount] at hs hregistered
    exact ⟨hregistered, hs⟩
  | attached s =>
    rw [hmount] at hs hregistered
    change s.registered = registered at hregistered
    obtain ⟨hf, hscreen⟩ := hs
    refine ⟨hregistered, ?_, ?_⟩
    · rw [← hregistered]
      exact hf.count_changes
    · rw [hscreen, hregistered, hwallets]
      rfl

/-- The component mounts twice, as in strict mode, and a wallet that came in between
changes its versions. -/
theorem page_shows_registry_of_remount :
    let world : World ℕ (Listeners.EventSource.list ℕ) (Listeners.EventSource.list ℕ) :=
      ⟨[0], [], [], fun _ => []⟩
    let signs (versions : List String) (w : ℕ) : Wallet String :=
      ⟨toString w, "", ["solana:mainnet"], fun feature =>
        if feature = solanaSignTransaction ∧ w = 1 then some (some versions) else none⟩
    let moments : List (Moment ℕ String) := [.mount, .unmount,
      .event (.register [0, 1]) (signs ["0"]), .mount, .event (.change 1) (signs ["0", "1"])]
    let page := moments.foldl (Page.step compareCodeUnits id (· ≠ 0) 7)
      (load compareCodeUnits id (signs ["0"]) world)
    ∃ s, page.mount = .attached s ∧
      (Listeners.EventSource.list ℕ).count (s.offChanges.states 1) 7 = 1 ∧
      page.screen = app compareCodeUnits id [signs ["0", "1"] 0, signs ["0", "1"] 1] := by
  intro world signs moments page
  have hfresh : world.Fresh 7 := ⟨rfl, rfl, fun _ => rfl⟩
  have hm : CanHappen compareCodeUnits id (· ≠ 0) 7 (load compareCodeUnits id (signs ["0"]) world)
      moments := ⟨trivial, trivial, trivial, trivial, ⟨by decide, rfl⟩, trivial⟩
  obtain ⟨-, hcount, hscreen⟩ := page_shows_registry hfresh compareCodeUnits id (signs ["0"]) hm
  exact ⟨_, rfl, hcount 1, hscreen⟩

end TransactionV1.Wallets

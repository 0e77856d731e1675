import TransactionV1.Foundations.Protocol
import TransactionV1.Indexer.StopRule

/-! # The Go indexers and their connection

`Subscribe` in `go/txv1/grpc.go` and the `run` of both Go indexers: a connection is
opened, a request sent over it, and updates read until the loop ends, the stream does
or the process is interrupted. The connection is released in the end.
-/

namespace TransactionV1.Go

open Dialogue EventLoop

structure Url where
  scheme : String
  host : String

inductive Transport where
  | insecure
  | tls
  deriving DecidableEq

/-- `dialTarget`, for a `url.Parse` and the `%q` of a string. -/
def dialTarget (parse : String → Except String Url) (quote : String → String)
    (endpoint : String) : Except String (String × Transport) :=
  match parse endpoint with
  | .error _ => .ok (endpoint, .insecure)
  | .ok parsed =>
    if parsed.host = "" then .ok (endpoint, .insecure)
    else if parsed.scheme = "https" then .ok (parsed.host, .tls)
    else if parsed.scheme = "http" then .ok (parsed.host, .insecure)
    else .error ("unsupported gRPC endpoint scheme " ++ quote parsed.scheme ++ " in " ++ endpoint)

inductive CommitmentLevel where
  | processed
  | confirmed
  | finalized

structure SubscribeRequestFilterTransactions where
  vote : Option Bool
  failed : Option Bool

structure SubscribeRequestFilterBlocks where
  includeTransactions : Option Bool

/-- The members of a `SubscribeRequest` that are set. -/
structure SubscribeRequest where
  commitment : Option CommitmentLevel
  transactions : List (String × SubscribeRequestFilterTransactions) := []
  blocks : List (String × SubscribeRequestFilterBlocks) := []

def allTransactionsRequest : SubscribeRequest where
  commitment := some .confirmed
  transactions := [("all", { failed := some false, vote := some false })]

def allBlocksRequest : SubscribeRequest where
  blocks := [("all", { includeTransactions := some true })]
  commitment := some .confirmed

inductive StreamQuestion where
  | newClient (target : String) (transport : Transport)
  | subscribe
  | send (request : SubscribeRequest)
  | recv
  | contextErr
  | close

inductive RecvError where
  | eof
  | failed (message : String)

def StreamAnswer : StreamQuestion → Type
  | .newClient _ _ => Except String Unit
  | .subscribe => Except String Unit
  | .send _ => Except String Unit
  | .recv => Except RecvError (SubscribeUpdate Message)
  | .contextErr => Bool
  | .close => Unit

inductive Failure where
  | error (message : String)
  | panic (panic : Panic)

abbrev Stream := Dialogue StreamQuestion StreamAnswer Failure

section Calls

def newClient (target : String) (transport : Transport) : Stream (Except String Unit) :=
  query (StreamQuestion.newClient target transport)

def openStream : Stream (Except String Unit) := query StreamQuestion.subscribe

def send (request : SubscribeRequest) : Stream (Except String Unit) :=
  query (StreamQuestion.send request)

def recv : Stream (Except RecvError (SubscribeUpdate Message)) := query StreamQuestion.recv

def contextErr : Stream Bool := query StreamQuestion.contextErr

def close : Stream Unit := query StreamQuestion.close

end Calls

/-- `Subscribe`, which closes the connection when it cannot use it. -/
def subscribe (parse : String → Except String Url) (quote : String → String) (endpoint : String)
    (request : SubscribeRequest) : Stream Unit :=
  match dialTarget parse quote endpoint with
  | .error err => threw (.error err)
  | .ok (target, transport) => do
    match ← newClient target transport with
    | .error err => threw (.error ("failed to connect to " ++ endpoint ++ ": " ++ err))
    | .ok () => do
      match ← openStream with
      | .error err => do
        close
        threw (.error ("failed to open the subscription: " ++ err))
      | .ok () => do
        match ← send request with
        | .error err => do
          close
          threw (.error ("failed to send the subscription request: " ++ err))
        | .ok () => return ()

section Indexing

variable {σ : Type} (body : σ → SubscribeUpdate Message → Except Panic (Verdict σ))

/-- One round of the loop of `run`. It ends the loop with what `run` returns, or
panics. -/
def readUpdate (s : σ) : Stream (σ ⊕ Except Failure σ) := do
  match ← recv with
  | .error .eof => return .inr (.ok s)
  | .error (.failed message) =>
    if ← contextErr then return .inr (.ok s)
    else return .inr (.error (.error ("stream failed: " ++ message)))
  | .ok update =>
    if ← contextErr then return .inr (.ok s)
    else
      match body s update with
      | .ok (.next s') => return .inl s'
      | .ok (.stop s') => return .inr (.ok s')
      | .error p => return .inr (.error (.panic p))

/-- `run`, for so many rounds at most, with what it has printed. The deferred `Close`
runs however the loop ends. -/
def runIndexer (parse : String → Except String Url) (quote : String → String)
    (request : SubscribeRequest) (s : σ) (rounds : ℕ) (endpoint : String) : Stream σ := do
  subscribe parse quote endpoint request
  let result ← iterate (readUpdate body) rounds s
  close
  ofExcept result

end Indexing

/-- `run` of `go/cmd/grpc-tx-indexer`. -/
def runTxIndexer (sdk : SolanaGo) (computeBudgetId : Address)
    (parse : String → Except String Url) (quote : String → String) (rounds : ℕ)
    (endpoint : String) (exitAfterV1 : UInt64) : Stream (TxState UInt32 UInt64) :=
  runIndexer (txBody sdk computeBudgetId exitAfterV1) parse quote allTransactionsRequest {} rounds
    endpoint

/-- `run` of `go/cmd/grpc-block-indexer`. -/
def runBlockIndexer (sdk : SolanaGo) (computeBudgetId : Address)
    (parse : String → Except String Url) (quote : String → String) (rounds : ℕ)
    (endpoint : String) (exitAfterV1Blocks : UInt64) :
    Stream (BlockState UInt64 V1Transaction) :=
  runIndexer (blockBody sdk computeBudgetId exitAfterV1Blocks) parse quote allBlocksRequest {}
    rounds endpoint

section Link

/-- Why a subscriber asks for no more updates. It has ended with the stream or with the
context. -/
inductive Cause where
  | unopened
  | ended
  | failed (message : String)
  | stopped

def Cause.error? : Cause → Option String
  | .failed message => some message
  | _ => none

def Cause.ends : Cause → ℕ
  | .ended => 1
  | _ => 0

/-- Where a subscription stands, with the updates that were handled. -/
inductive Link where
  | idle
  | refused
  | connected
  | subscribed
  | reading (seen : List (SubscribeUpdate Message))
  | received (seen : List (SubscribeUpdate Message)) (update : SubscribeUpdate Message)
  | failing (seen : List (SubscribeUpdate Message)) (message : String)
  | finished (seen : List (SubscribeUpdate Message)) (cause : Cause)
  | closed (seen : List (SubscribeUpdate Message)) (cause : Cause)

/-- What one exchange does to a subscription. An update that arrives after the context
is done is not handled, and an error after that is none. -/
inductive Link.Step : Link → Exchange StreamAnswer → Link → Prop where
  | refuse {target : String} {transport : Transport} {err : String} :
      Step .idle ⟨.newClient target transport, Except.error err⟩ .refused
  | connect {target : String} {transport : Transport} :
      Step .idle ⟨.newClient target transport, Except.ok ()⟩ .connected
  | noStream {err : String} :
      Step .connected ⟨.subscribe, Except.error err⟩ (.finished [] .unopened)
  | subscribe : Step .connected ⟨.subscribe, Except.ok ()⟩ .subscribed
  | noRequest {request : SubscribeRequest} {err : String} :
      Step .subscribed ⟨.send request, Except.error err⟩ (.finished [] .unopened)
  | request {request : SubscribeRequest} :
      Step .subscribed ⟨.send request, Except.ok ()⟩ (.reading [])
  | receive {seen : List (SubscribeUpdate Message)} {update : SubscribeUpdate Message} :
      Step (.reading seen) ⟨.recv, Except.ok update⟩ (.received seen update)
  | handle {seen : List (SubscribeUpdate Message)} {update : SubscribeUpdate Message} :
      Step (.received seen update) ⟨.contextErr, false⟩ (.reading (seen ++ [update]))
  | cancel {seen : List (SubscribeUpdate Message)} {update : SubscribeUpdate Message} :
      Step (.received seen update) ⟨.contextErr, true⟩ (.finished seen .ended)
  | finish {seen : List (SubscribeUpdate Message)} :
      Step (.reading seen) ⟨.recv, Except.error .eof⟩ (.finished seen .ended)
  | fail {seen : List (SubscribeUpdate Message)} {message : String} :
      Step (.reading seen) ⟨.recv, Except.error (.failed message)⟩ (.failing seen message)
  | excuse {seen : List (SubscribeUpdate Message)} {message : String} :
      Step (.failing seen message) ⟨.contextErr, true⟩ (.finished seen .ended)
  | blame {seen : List (SubscribeUpdate Message)} {message : String} :
      Step (.failing seen message) ⟨.contextErr, false⟩ (.finished seen (.failed message))
  | leave {seen : List (SubscribeUpdate Message)} :
      Step (.reading seen) ⟨.close, ()⟩ (.closed seen .stopped)
  | close {seen : List (SubscribeUpdate Message)} {cause : Cause} :
      Step (.finished seen cause) ⟨.close, ()⟩ (.closed seen cause)

namespace Link

def seen : Link → List (SubscribeUpdate Message)
  | .idle | .refused | .connected | .subscribed => []
  | .reading seen | .received seen _ | .failing seen _ | .finished seen _ | .closed seen _ => seen

/-- The error that a read has failed with, which the context does not excuse. -/
def error? : Link → Option String
  | .failing _ message => some message
  | .finished _ cause | .closed _ cause => cause.error?
  | _ => none

def ends : Link → ℕ
  | .finished _ cause | .closed _ cause => cause.ends
  | _ => 0

def Unopened : Link → Prop
  | .refused => True
  | .finished _ cause | .closed _ cause => cause = .unopened
  | _ => False

def opened : Link → ℕ
  | .idle | .refused => 0
  | _ => 1

def released : Link → ℕ
  | .closed _ _ => 1
  | _ => 0

end Link

def isOpen : Exchange StreamAnswer → Bool
  | ⟨.newClient _ _, .ok _⟩ => true
  | _ => false

/-- The exchange tells that a subscription could not be opened. -/
def isRefusal : Exchange StreamAnswer → Bool
  | ⟨.newClient _ _, .error _⟩ | ⟨.subscribe, .error _⟩ | ⟨.send _, .error _⟩ => true
  | _ => false

def isClose : Exchange StreamAnswer → Bool
  | ⟨.close, _⟩ => true
  | _ => false

variable {p q : Link} {x : Exchange StreamAnswer} {t : List (Exchange StreamAnswer)}

theorem Link.Step.opened_eq (h : Link.Step p x q) :
    (if isOpen x then 1 else 0) + p.opened = q.opened := by
  cases h <;> rfl

theorem Link.Step.released_eq (h : Link.Step p x q) :
    (if isClose x then 1 else 0) + p.released = q.released := by
  cases h <;> rfl

/-- The exchange tells that the stream has ended, or that the context is done. -/
def isEnd : Exchange StreamAnswer → Bool
  | ⟨.recv, .error .eof⟩ => true
  | ⟨.contextErr, true⟩ => true
  | _ => false

def failure? : Exchange StreamAnswer → Option String
  | ⟨.recv, .error (.failed message)⟩ => some message
  | _ => none

theorem Link.Step.ends_eq (h : Link.Step p x q) :
    (if isEnd x then 1 else 0) + p.ends = q.ends := by
  cases h with
  | close => exact Nat.zero_add _
  | _ => rfl

theorem Link.Step.error?_eq (h : Link.Step p x q) {message : String}
    (hq : q.error? = some message) : p.error? = some message ∨ failure? x = some message := by
  cases h with
  | fail => exact Or.inr hq
  | excuse => cases hq
  | _ => exact Or.inl hq

theorem Link.Step.unopened (h : Link.Step p x q) (hq : q.Unopened) :
    p.Unopened ∨ isRefusal x = true := by
  cases h with
  | close => exact Or.inl hq
  | refuse | noStream | noRequest => exact Or.inr rfl
  | _ => cases hq

theorem Link.eq_nil_of_idle (h : Protocol.Runs Link.Step .idle t .idle) : t = [] := by
  have hr : Link.idle = .idle → [] ++ t = [] := by
    refine h.preserves (I := fun q t => q = .idle → t = []) ?_ fun _ => rfl
    rintro p x q past hs - rfl
    cases hs
  exact hr rfl

theorem Link.mem_of_error? (h : Protocol.Runs Link.Step .idle t q) {message : String}
    (hq : q.error? = some message) : ∃ x ∈ t, failure? x = some message := by
  have hr : ∀ message, q.error? = some message → ∃ x ∈ [] ++ t, failure? x = some message := by
    refine h.preserves (I := fun q t => ∀ message, q.error? = some message →
      ∃ x ∈ t, failure? x = some message) ?_ (fun _ h => nomatch h)
    intro p x q past hs hp message hq
    rcases hs.error?_eq hq with he | he
    · obtain ⟨y, hy, he⟩ := hp message he
      exact ⟨y, List.mem_append_left [x] hy, he⟩
    · exact ⟨x, List.mem_append_right past (List.mem_singleton_self x), he⟩
  exact hr message hq

theorem Link.mem_of_unopened (h : Protocol.Runs Link.Step .idle t q) (hq : q.Unopened) :
    ∃ x ∈ t, isRefusal x = true := by
  have hr : q.Unopened → ∃ x ∈ [] ++ t, isRefusal x = true := by
    refine h.preserves (I := fun q t => q.Unopened → ∃ x ∈ t, isRefusal x = true) ?_
      fun hq => hq.elim
    intro p x q past hs hp hq
    rcases hs.unopened hq with hu | hx
    · obtain ⟨y, hy, he⟩ := hp hu
      exact ⟨y, List.mem_append_left [x] hy, he⟩
    · exact ⟨x, List.mem_append_right past (List.mem_singleton_self x), hx⟩
  exact hr hq

def HasEnded (t : List (Exchange StreamAnswer)) : Prop := ∃ x ∈ t, isEnd x = true

theorem Link.hasEnded_iff (h : Protocol.Runs Link.Step .idle t q) : HasEnded t ↔ q.ends ≠ 0 := by
  have hc : t.countP isEnd = q.ends := h.countP_add_eq fun _ _ _ => Link.Step.ends_eq
  rw [HasEnded, ← List.countP_pos_iff, hc, Nat.pos_iff_ne_zero]

/-- Every connection that was opened is closed, at most one is, and nothing is asked
after that. -/
structure Released (t : List (Exchange StreamAnswer)) : Prop where
  balanced : t.countP isOpen = t.countP isClose
  once : t.countP isClose ≤ 1
  last : ∀ before after, t = before ++ ⟨.close, ()⟩ :: after → after = []

theorem Link.released_of_runs (h : Protocol.Runs Link.Step .idle t q)
    (hq : q.opened = q.released) : Released t where
  balanced := by
    have ho := h.countP_add_eq fun _ _ _ => Link.Step.opened_eq
    have hc := h.countP_add_eq fun _ _ _ => Link.Step.released_eq
    exact ho.trans (hq.trans hc.symm)
  once := by
    have hc : t.countP isClose = q.released := h.countP_add_eq fun _ _ _ => Link.Step.released_eq
    rw [hc]
    cases q <;> first | exact Nat.le_refl 1 | exact Nat.zero_le 1
  last before after ht := by
    subst ht
    obtain ⟨p, -, hp⟩ := h.split
    cases hp with
    | cons hs hr =>
      cases hs with
      | leave =>
        cases hr with
        | nil => rfl
        | cons hs _ => cases hs
      | close =>
        cases hr with
        | nil => rfl
        | cons hs _ => cases hs

end Link

section Following

variable {σ : Type} {body : σ → SubscribeUpdate Message → Except Panic (Verdict σ)} {s₀ : σ}
  {rounds : ℕ} {outcome : Outcome σ Panic} {e : Ending Failure σ} {q : Link}
  {t : List (Exchange StreamAnswer)} {target : Except String (String × Transport)}

/-- How a process ends whose loop has the outcome on the updates it handled. It returns when
the loop stops, or the stream or the context ends while the loop reads on. It fails when the
endpoint is no target, when the subscription is refused, or with the error of a read. It is
given up only after the rounds it is given. -/
def Ends (target : Except String (String × Transport)) (rounds : ℕ)
    (t : List (Exchange StreamAnswer)) (seen : List (SubscribeUpdate Message))
    (outcome : Outcome σ Panic) : Ending Failure σ → Prop
  | .returned s => outcome = .reading s ∧ HasEnded t ∨
      (∃ read, outcome = .stopped read s) ∧ ¬ HasEnded t
  | .threw (.panic p) => (∃ read, outcome = .failed read p) ∧ ¬ HasEnded t
  | .threw (.error message) => (∃ s, outcome = .reading s) ∧ ¬ HasEnded t ∧
      (t = [] ∧ target = .error message ∨ (∃ x ∈ t, isRefusal x = true) ∨
        ∃ text, message = "stream failed: " ++ text ∧ ∃ x ∈ t, failure? x = some text)
  | .pending => (∃ s, outcome = .reading s) ∧ ¬ HasEnded t ∧ seen.length = rounds

/-- The same of a subscription, which records what the conversation has seen. -/
def Link.Fits (target : Except String (String × Transport)) (rounds : ℕ)
    (outcome : Outcome σ Panic) (q : Link) : Ending Failure σ → Prop
  | .returned s => outcome = .reading s ∧ q.ends ≠ 0 ∨
      (∃ read, outcome = .stopped read s) ∧ q.ends = 0
  | .threw (.panic p) => (∃ read, outcome = .failed read p) ∧ q.ends = 0
  | .threw (.error message) => (∃ s, outcome = .reading s) ∧ q.ends = 0 ∧
      (q = .idle ∧ target = .error message ∨ q.Unopened ∨
        ∃ text, message = "stream failed: " ++ text ∧ q.error? = some text)
  | .pending => (∃ s, outcome = .reading s) ∧ q.ends = 0 ∧ q.seen.length = rounds

theorem Link.Fits.ends (hf : q.Fits target rounds outcome e)
    (h : Protocol.Runs Link.Step .idle t q) : Ends target rounds t q.seen outcome e := by
  have hended := Link.hasEnded_iff h
  have hn (hq : q.ends = 0) : ¬ HasEnded t := fun ht => hended.mp ht hq
  rcases e with s | (message | p) | _
  · rcases hf with ⟨ho, hq⟩ | ⟨ho, hq⟩
    · exact Or.inl ⟨ho, hended.mpr hq⟩
    · exact Or.inr ⟨ho, hn hq⟩
  · obtain ⟨ho, hq, ⟨rfl, hm⟩ | hu | ⟨text, hm, ht⟩⟩ := hf
    · exact ⟨ho, hn hq, Or.inl ⟨Link.eq_nil_of_idle h, hm⟩⟩
    · exact ⟨ho, hn hq, Or.inr (Or.inl (Link.mem_of_unopened h hu))⟩
    · exact ⟨ho, hn hq, Or.inr (Or.inr ⟨text, hm, Link.mem_of_error? h ht⟩)⟩
  · exact ⟨hf.1, hn hf.2⟩
  · exact ⟨hf.1, hn hf.2.1, hf.2.2⟩

def Link.CanClose : Link → Prop
  | .reading _ | .finished _ _ => True
  | _ => False

def Link.close : Link → Link
  | .finished seen cause => .closed seen cause
  | q => .closed q.seen .stopped

theorem Link.Fits.close (hf : q.Fits target rounds outcome e) (hq : q.CanClose) :
    q.close.Fits target rounds outcome e := by
  cases q with
  | finished seen cause =>
    rcases e with s | (message | p) | _
    · exact hf
    · obtain ⟨ho, hz, ⟨hi, _⟩ | hu⟩ := hf
      · cases hi
      · exact ⟨ho, hz, Or.inr hu⟩
    · exact hf
    · exact hf
  | reading seen =>
    rcases e with s | (message | p) | _
    · exact hf
    · obtain ⟨_, _, ⟨hi, _⟩ | hu | ⟨text, _, ht⟩⟩ := hf
      · cases hi
      · exact hu.elim
      · cases ht
    · exact hf
    · exact hf
  | _ => exact hq.elim

theorem follows_close {f : Unit → Stream σ} {final : Ending Failure σ → Link → Prop}
    (hq : q.CanClose) (hf : Protocol.Follows Link.Step q.close (f ()) final) :
    Protocol.Follows Link.Step q (close >>= f) final := by
  refine .request (fun _ => ensures_query) fun _ => ⟨q.close, ?_, hf⟩
  cases q with
  | reading seen => exact .leave
  | finished seen cause => exact .close
  | _ => exact hq.elim

theorem subscribe_follows {parse : String → Except String Url} {quote : String → String}
    {endpoint : String} {request : SubscribeRequest} :
    Protocol.Follows Link.Step .idle (subscribe parse quote endpoint request) fun e q =>
      match e with
      | .returned _ => q = .reading []
      | .threw (.error message) => q.opened = q.released ∧ q.seen = [] ∧ q.ends = 0 ∧
          (q = .idle ∧ dialTarget parse quote endpoint = .error message ∨ q.Unopened)
      | .threw (.panic _) | .pending => False := by
  unfold subscribe
  rcases dialTarget parse quote endpoint with err | ⟨target, transport⟩
  · exact .threw ⟨rfl, rfl, rfl, Or.inl ⟨rfl, rfl⟩⟩
  refine .request (fun _ => ensures_query) fun answer => ?_
  rcases answer with err | _
  · exact ⟨_, .refuse, .threw ⟨rfl, rfl, rfl, Or.inr trivial⟩⟩
  refine ⟨_, .connect, .request (fun _ => ensures_query) fun answer => ?_⟩
  rcases answer with err | _
  · exact ⟨_, .noStream, .request (fun _ => ensures_query)
      fun _ => ⟨_, .close, .threw ⟨rfl, rfl, rfl, Or.inr rfl⟩⟩⟩
  refine ⟨_, .subscribe, .request (fun _ => ensures_query) fun answer => ?_⟩
  rcases answer with err | _
  · exact ⟨_, .noRequest, .request (fun _ => ensures_query)
      fun _ => ⟨_, .close, .threw ⟨rfl, rfl, rfl, Or.inr rfl⟩⟩⟩
  · exact ⟨_, .request, .returned rfl⟩

/-- The loop reads on in a state it has come to with the updates handled. -/
def ReadsOn (body : σ → SubscribeUpdate Message → Except Panic (Verdict σ)) (s₀ : σ) (k : ℕ)
    (s : σ) (q : Link) : Prop :=
  ∃ seen, q = .reading seen ∧ run body s₀ seen = .reading s ∧ seen.length = k

/-- What ends the loop fits the updates handled. -/
def LoopEnds (target : Except String (String × Transport))
    (body : σ → SubscribeUpdate Message → Except Panic (Verdict σ)) (s₀ : σ) (rounds : ℕ) :
    Ending Failure (Except Failure σ) → Link → Prop
  | .returned result, q => q.CanClose ∧
      q.Fits target rounds (run body s₀ q.seen) (Ending.ofExcept result)
  | .threw _, _ => False
  | .pending, q => q.Fits target rounds (run body s₀ q.seen) .pending

theorem readUpdate_follows {k : ℕ} {s : σ} (h : ReadsOn body s₀ k s q) :
    Protocol.Follows Link.Step q (readUpdate body s) fun e r =>
      e.continue (fun a => a.elim (ReadsOn body s₀ (k + 1) · r)
        fun a => LoopEnds target body s₀ rounds (.returned a) r)
        fun e' => LoopEnds target body s₀ rounds e' r := by
  obtain ⟨seen, rfl, h, hk⟩ := h
  refine .request (fun _ => ensures_query) fun answer => ?_
  rcases answer with (_ | message) | update
  · exact ⟨_, .finish, .returned ⟨trivial, Or.inl ⟨h, Nat.one_ne_zero⟩⟩⟩
  · refine ⟨_, .fail, .request (fun _ => ensures_query) fun done => ?_⟩
    cases done with
    | true => exact ⟨_, .excuse, .returned ⟨trivial, Or.inl ⟨h, Nat.one_ne_zero⟩⟩⟩
    | false =>
      exact ⟨_, .blame, .returned
        ⟨trivial, ⟨s, h⟩, rfl, Or.inr (Or.inr ⟨message, rfl, rfl⟩)⟩⟩
  · refine ⟨_, .receive, .request (fun _ => ensures_query) fun done => ?_⟩
    cases done with
    | true => exact ⟨_, .cancel, .returned ⟨trivial, Or.inl ⟨h, Nat.one_ne_zero⟩⟩⟩
    | false =>
      refine ⟨_, .handle, ?_⟩
      have hc := run_concat h update
      rcases hb : body s update with p | (s' | s')
      · rw [hb] at hc
        exact .returned ⟨trivial, ⟨_, hc⟩, rfl⟩
      · rw [hb] at hc
        exact .returned ⟨_, rfl, hc, by rw [List.length_append, hk, List.length_singleton]⟩
      · rw [hb] at hc
        exact .returned ⟨trivial, Or.inr ⟨⟨_, hc⟩, rfl⟩⟩

theorem loop_follows (target : Except String (String × Transport)) (rounds : ℕ) :
    Protocol.Follows Link.Step (.reading []) (iterate (readUpdate body) rounds s₀)
      (LoopEnds target body s₀ rounds) := by
  refine .iterate (ReadsOn body s₀) (fun k s q h => readUpdate_follows h) ?_ ⟨[], rfl, rfl, rfl⟩
  rintro s _ ⟨seen, rfl, h, hk⟩
  exact ⟨⟨s, h⟩, rfl, hk⟩

/-- Whatever the loop, the process opens at most one connection, closes it in the end,
and comes to what the loop makes of the updates it handled. -/
theorem runIndexer_follows {parse : String → Except String Url} {quote : String → String}
    {request : SubscribeRequest} (rounds : ℕ) (endpoint : String) :
    Protocol.Follows Link.Step .idle (runIndexer body parse quote request s₀ rounds endpoint)
      fun e q => q.Fits (dialTarget parse quote endpoint) rounds (run body s₀ q.seen) e ∧
        (e ≠ .pending → q.opened = q.released) := by
  refine subscribe_follows.bind fun e q he => ?_
  rcases e with _ | (err | p) | _
  · obtain rfl := he
    refine (loop_follows (dialTarget parse quote endpoint) rounds).bind fun e q he => ?_
    rcases e with result | failure | _
    · obtain ⟨hq, hf⟩ := he
      refine follows_close hq (ensures_ofExcept.mpr ⟨_, .nil, ?_, fun _ => ?_⟩)
      · have hseen : q.close.seen = q.seen := by cases q <;> rfl
        rw [hseen]
        exact hf.close hq
      · cases q <;> rfl
    · exact he.elim
    · exact ⟨he, fun h => absurd rfl h⟩
  · obtain ⟨ho, hs, hz, hu⟩ := he
    exact ⟨⟨⟨s₀, by rw [hs]; rfl⟩, hz, hu.imp_right Or.inl⟩, fun _ => ho⟩
  · exact he.elim
  · exact he.elim

end Following

/-- In every conversation of a Go indexer with gRPC and its context, the connection it
opens is closed, unless it is still reading, and nothing is asked after that. It handles
the updates as its loop does, which obeys the limit. It returns when the loop stops, and
before that exactly when the stream or the context has ended. Otherwise it reads on, unless
it cannot subscribe or a read fails. -/
theorem indexers_release (sdk : SolanaGo) (computeBudgetId : Address)
    (parse : String → Except String Url) (quote : String → String) (rounds : ℕ)
    (endpoint : String) (limit : UInt64) :
    Ensures (runTxIndexer sdk computeBudgetId parse quote rounds endpoint limit) (fun t e =>
        (e ≠ .pending → Released t) ∧ ∃ q, Protocol.Runs Link.Step .idle t q ∧
          Ends (dialTarget parse quote endpoint) rounds t q.seen
            (txRun sdk computeBudgetId limit q.seen) e ∧
          TxObeys limit q.seen (txRun sdk computeBudgetId limit q.seen)) ∧
      Ensures (runBlockIndexer sdk computeBudgetId parse quote rounds endpoint limit) (fun t e =>
        (e ≠ .pending → Released t) ∧ ∃ q, Protocol.Runs Link.Step .idle t q ∧
          Ends (dialTarget parse quote endpoint) rounds t q.seen
            (blockRun sdk computeBudgetId limit q.seen) e ∧
          BlockObeys limit q.seen (blockRun sdk computeBudgetId limit q.seen)) := by
  constructor
  · refine Ensures.mono (runIndexer_follows rounds endpoint) fun t e he => ?_
    obtain ⟨q, hq, hf, ho⟩ := he
    exact ⟨fun h => Link.released_of_runs hq (ho h), q, hq, hf.ends hq,
      txObeys sdk computeBudgetId limit _⟩
  · refine Ensures.mono (runIndexer_follows rounds endpoint) fun t e he => ?_
    obtain ⟨q, hq, hf, ho⟩ := he
    exact ⟨fun h => Link.released_of_runs hq (ho h), q, hq, hf.ends hq,
      blockObeys sdk computeBudgetId limit _⟩

end TransactionV1.Go

import PdEdge.State.Start
import PdEdge.Upstream.Interim

/-!
# How often a request is delivered

The life of an exchange, from its creation to the response that is made from it: any sequence
of the calls that may send its request. No more than one complete copy of the request is
written if no exchange breaks once its request was written, and if the program does not ask
for a native forward of an exchange that already has its response. Otherwise the request is
repeated, whatever its method: by the pool loop, by the next call behind a failed one, and by
the native forward.
-/

namespace PdEdge.State

open Journal Wire Text Upstream List

/-! ## Complete copies -/

/-- The body with no more than this many items of its stream. -/
def upTo (count : Nat) : OutboundHttp1RequestBody → OutboundHttp1RequestBody
  | .streaming contentLength stream => .streaming contentLength (stream.take count)
  | body => body

/-- The bytes are a complete copy of the request; a stream may go on behind the length that it
has declared. -/
def Copied (request : SerializedOutboundHttp1Request) (sent : List UInt8) : Prop :=
  ∃ count,
    { request with body := upTo count request.body : SerializedOutboundHttp1Request }.Complete
    sent

/-- All of the request was sent. -/
def Sending.Whole : Sending → Prop
  | .http1 request sent => Copied request sent
  | .carrier whole => whole

/-! ## Exchanges that do not break behind the request -/

/-- The upstream answers on this connection with a head the client accepts, or the task is
dropped while it waits for one. -/
inductive Answered (libraries : Libraries) (method : Method)
    (connection : PlainHttp1PooledConnection) (answer : Socket IoError) : Prop
  | head {text rest : List UInt8} {raw : HttparseResponse} {head : ParsedResponseHead}
    (parsed : libraries.responses.parse text = .complete raw text.length)
    (accepted : acceptHead method raw = .ok head)
    (arrives : connection.buffered ++ arriving (connection.socket ++ answer) = text ++ rest)
  | interrupted {rest : Socket IoError} (waits : libraries.responses.Waits
      (connection.buffered ++ arriving (connection.socket ++ answer)))
    (cut : later (connection.socket ++ answer) = .dropped :: rest)

section

variable {κ : Type} [DecidableEq κ] (libraries : Libraries)

/-- Once a request is on its connection as a whole, its body has ended and it is answered. -/
def CalmAt (phase : Phase κ) (event : Event) : Prop :=
  match event, phase with
  | .exchange (.ok request) outcomes answer, .acquired _ connection =>
    Copied request (sendRequest request ⟨outcomes, []⟩).2.sent →
      (sendRequest request ⟨outcomes, []⟩).1 = .ready () ∧
        Answered libraries request.method connection answer
  | _, _ => True

/-- So in every event of a call. -/
def Calm : Upstream.Task κ → List (PlainHttp1SenderPool κ × Event) → Prop
  | _, [] => True
  | task, (pool, event) :: events =>
    CalmAt libraries task.phase event ∧
      Calm { task with phase := (task.step libraries pool event).2 } events

def ForwardCall.Calm (call : ForwardCall κ) : Prop :=
  State.Calm libraries ⟨call.key, call.capacity, call.origin, .acquiring false⟩ call.events

/-- A carrier that fails has not sent the whole request. -/
def Reply.Calm {ε : Type} : Reply ε κ → Prop
  | .failed whole _ => whole = false
  | _ => True

def Negotiated.Calm : Negotiated κ → Prop
  | .fallback => True
  | .carried reply => reply.Calm

/-- No carrier fails behind a whole request, and nothing goes wrong behind a response. -/
structure StartCall.Calm (call : StartCall κ) : Prop where
  fast : call.fast.Calm libraries
  fastSettled : call.fast.settled = .ok ()
  attached : call.attached.Calm
  http3 : call.http3.Calm
  http2 : call.http2.Calm
  pool : call.pool.Calm libraries
  settled : call.settled = .ok ()

end

/-! ## The life of an exchange

The calls of a life follow one another, as the host calls of a program do. -/

/-- The calls that may send the request of an exchange; the last three are made where the
downstream response is resolved. -/
inductive LifeEvent (κ : Type) where
  | start (route : Route) (call : StartCall κ)
  | schedule (route : Route) (forward : ForwardCall κ) (call : StartCall κ)
  | takeNativeHttp1
  | takeNativeFastPath
  | resolveNativeForward (route : Route) (native pool : ForwardCall κ)

section

variable {κ : Type} [DecidableEq κ] (libraries : Libraries) (handle : Int)

/-- The state behind a call; none where its task was dropped. -/
def unlessDropped {α : Type} (called : Starts α × ExchangeState κ) :
    List Sending × Option (ExchangeState κ) :=
  match called with
  | (⟨.dropped, journal⟩, _) => (journal, none)
  | (⟨_, journal⟩, state) => (journal, some state)

/-- The state behind a part of the resolution; none where the response is resolved. -/
def unlessTaken (taken : NativeOutcome κ × ExchangeState κ) :
    List Sending × Option (ExchangeState κ) :=
  match taken with
  | (some _, _) => ([], none)
  | (none, state) => ([], some state)

/-- So where the request was sent again for it. -/
def unlessResolved {α : Type} (resolved : Starts (Option α) × ExchangeState κ) :
    List Sending × Option (ExchangeState κ) :=
  match resolved with
  | (⟨.ready none, journal⟩, state) => (journal, some state)
  | (⟨_, journal⟩, _) => (journal, none)

/-- What a call sends, and the state behind it unless the life of the exchange is over; only
the default exchange is forwarded natively. -/
def LifeEvent.run (event : LifeEvent κ) (state : ExchangeState κ) :
    List Sending × Option (ExchangeState κ) :=
  match event with
  | .start route call =>
    unlessDropped (startOutboundExchangeResponse libraries handle route call state)
  | .schedule route forward call =>
    if handle = defaultUpstreamExchangeHandle then
      unlessDropped (scheduleDefaultUpstreamHttpForward libraries route forward call state)
    else ([], some state)
  | .takeNativeHttp1 =>
    if handle = defaultUpstreamExchangeHandle then unlessTaken (State.takeNativeHttp1 state)
    else ([], some state)
  | .takeNativeFastPath =>
    if handle = defaultUpstreamExchangeHandle then unlessTaken (State.takeNativeFastPath state)
    else ([], some state)
  | .resolveNativeForward route native pool =>
    if handle = defaultUpstreamExchangeHandle then
      unlessResolved (State.resolveNativeForward libraries route native pool state)
    else ([], some state)

/-- All that is sent in the life of an exchange. -/
def life : List (LifeEvent κ) → ExchangeState κ → List Sending
  | [], _ => []
  | event :: events, state =>
    match event.run libraries handle state with
    | (journal, none) => journal
    | (journal, some next) => journal ++ life events next

/-- Nothing breaks behind a whole request, and an exchange with a response is not forwarded
natively. -/
def LifeEvent.Calm (event : LifeEvent κ) (state : ExchangeState κ) : Prop :=
  match event with
  | .start _ call => call.Calm libraries
  | .schedule route forward call =>
    forward.Calm libraries ∧ forward.settled = .ok () ∧ call.Calm libraries ∧
      (state.response = none ∨ route.forwardsNatively = false)
  | .resolveNativeForward _ native pool =>
    (native.Calm libraries ∧ native.settled = .ok ()) ∧ pool.Calm libraries ∧ pool.settled = .ok ()
  | _ => True

/-- So in every call of a life. -/
def CalmLife : List (LifeEvent κ) → ExchangeState κ → Prop
  | [], _ => True
  | event :: events, state =>
    event.Calm libraries state ∧
      ∀ next, (event.run libraries handle state).2 = some next → CalmLife events next

end

/-! ## One call -/

section

variable {κ : Type} [DecidableEq κ] {libraries : Libraries} {handle : Int}
variable {connection : PlainHttp1PooledConnection} {answer : Socket IoError}
variable {events : List (LifeEvent κ)}

/-- An answer does not fail. -/
theorem Answered.not_failed {method : Method}
    (answered : Answered libraries method connection answer) (err : VmError) :
    (parseResponseHead libraries.responses method (connection.socket ++ answer)
      connection.buffered).1 ≠ .failed err := by
  cases answered with
  | head parsed accepted arrives =>
    obtain ⟨after, found, -⟩ := parseResponseHead_front parsed accepted arrives
    rw [found]
    simp
  | interrupted waits cut =>
    obtain ⟨after,
      found⟩ := @parseResponseHead_interrupted libraries.responses method _ _ _ waits cut
    rw [found]
    simp

variable {task : Upstream.Task κ} {call : StartCall κ} {state : ExchangeState κ}

/-- A call whose request was sent and answered has ended, and not with an error. -/
theorem exchange_answered {pool : PlainHttp1SenderPool κ} {retried : Bool}
    {request : SerializedOutboundHttp1Request} {outcomes : List (Awaited IoError Unit)}
    (sent : (sendRequest request ⟨outcomes, []⟩).1 = .ready ())
    (answered : Answered libraries request.method connection answer) :
    let phase := (task.exchange libraries pool retried connection request outcomes answer).2
    waits phase = false ∧ ∀ err, returned phase ≠ .failed err := by
  have whole : sendRequest request ⟨outcomes, []⟩ =
      (.ready (), (sendRequest request ⟨outcomes, []⟩).2) := Prod.ext sent rfl
  have result := @sendAndParse_sent libraries connection request outcomes answer _ whole
  have fine := answered.not_failed
  generalize parseResponseHead libraries.responses request.method
    (connection.socket ++ answer) connection.buffered = outcome at result fine
  obtain ⟨awaited, after⟩ := outcome
  rw [Task.exchange, result]
  cases awaited with
  | ready head | dropped => exact ⟨rfl, fun err same => by cases same⟩
  | failed err => exact absurd rfl (fine err)

/-- A call that has ended sends nothing more. -/
theorem forward_over (past : waits task.phase = false)
    (events : List (PlainHttp1SenderPool κ × Event)) :
    forwardSerializedViaSenderPool libraries task events = ⟨returned task.phase, []⟩ := by
  cases events with
  | nil => rfl
  | cons event events => simp [forwardSerializedViaSenderPool, past]

/-- An event sends no whole request, or ends the call without an error. -/
theorem sending_calm {event : Event} (calm : CalmAt libraries task.phase event)
    {pool : PlainHttp1SenderPool κ} :
    NoneOf Sending.Whole (sending task.phase event) ∨
      AtMostOne Sending.Whole (sending task.phase event) ∧
        waits (task.step libraries pool event).2 = false ∧
        ∀ err, returned (task.step libraries pool event).2 ≠ .failed err := by
  obtain ⟨key, capacity, origin, phase⟩ := task
  dsimp only at calm ⊢
  unfold sending
  split
  · rename_i request outcomes answer retried connection
    by_cases whole : Copied request (sendRequest request ⟨outcomes, []⟩).2.sent
    · obtain ⟨sent, answered⟩ := calm whole
      exact Or.inr ⟨.singleton _, exchange_answered sent answered⟩
    · exact Or.inl fun entry member => by
        rw [mem_singleton.mp member]
        exact whole
  · exact Or.inl fun entry member => absurd member not_mem_nil

/-- The pool loop sends a whole request once, and none if it fails. -/
theorem forward_once {events : List (PlainHttp1SenderPool κ × Event)}
    (calm : Calm libraries task events) :
    (forwardSerializedViaSenderPool libraries task events).Once Sending.Whole := by
  induction events generalizing task with
  | nil => exact .of_none fun entry member => absurd member not_mem_nil
  | cons first events ih =>
    obtain ⟨here, later⟩ := calm
    have rest := ih later
    cases going : waits task.phase with
    | false =>
      rw [forward_over going]
      exact .of_none fun entry member => absurd member not_mem_nil
    | true =>
      rw [forwardSerializedViaSenderPool, if_pos going]
      rcases sending_calm here with clear | ⟨once, past, fine⟩
      · exact ⟨.append clear rest.once, fun err failed => .append clear (rest.failed err failed)⟩
      · rw [forward_over past]
        exact ⟨by simpa using once, fun err failed => absurd failed (fine err)⟩

theorem forwardOver_once {call : ForwardCall κ} (calm : call.Calm libraries) :
    (forwardOver libraries call).Once Sending.Whole :=
  (forward_once calm).mapError

variable (route : Route)

theorem forwardNative_once {call : ForwardCall κ} (calm : call.Calm libraries)
    (settled : call.settled = .ok ()) :
    (forwardNativeDefaultUpstreamHttpViaSenderPool libraries route call).Once
      Sending.Whole := by
  unfold forwardNativeDefaultUpstreamHttpViaSenderPool
  split
  · apply Journaled.Once.await
    intro prepared
    apply (forwardOver_once calm).settle
    intro response
    rw [settled]
    exact ⟨response, rfl⟩
  · exact .fail _

theorem startViaPool_once {call : ForwardCall κ} (calm : call.Calm libraries) :
    (startUpstreamResponseViaPlainHttp1SenderPool libraries route call).Once
      Sending.Whole := by
  unfold startUpstreamResponseViaPlainHttp1SenderPool
  split
  · apply Journaled.Once.await
    intro prepared
    exact (forwardOver_once calm).map
  · exact .fail _

theorem snapshot_none : NoneOf Sending.Whole (snapshotDefaultUpstreamRequest route).journal := by
  unfold snapshotDefaultUpstreamRequest
  split <;> exact fun _ member => absurd member not_mem_nil

/-- Where the fast path does not apply, it has sent nothing. -/
theorem fastPath_offers {call : ForwardCall κ} (calm : call.Calm libraries)
    (settled : call.settled = .ok ()) :
    (startDefaultUpstreamPlainHttp1FastPath libraries route call).Offers Sending.Whole := by
  apply Journaled.Offers.after (snapshot_none route)
  intro passed
  split
  · exact .decline
  split
  · exact .fail _
  · split
    · exact .decline
    · exact .some (forwardNative_once route calm settled)

omit [DecidableEq κ] in
theorem Reply.send_once {ε : Type} {form : ε → UpstreamResponseStartError} {reply : Reply ε κ}
    (calm : reply.Calm) : (reply.send form).Once Sending.Whole := by
  refine ⟨?_, ?_⟩
  · cases reply <;> exact .singleton _
  intro err failed
  cases reply with
  | answered response | dropped whole => cases failed
  | failed whole err =>
    intro entry member
    rw [mem_singleton.mp member, show whole = false from calm]
    exact Bool.false_ne_true

section

variable (calm : call.Calm libraries)
include calm

theorem startViaHttp2_once : (startViaHttp2 libraries handle route call).Once Sending.Whole := by
  have http2 := calm.http2
  unfold startViaHttp2
  split
  · rename_i reply carried
    rw [carried] at http2
    exact Reply.send_once http2
  · exact startViaPool_once route calm.pool

theorem startByVersion_once : (startByVersion libraries handle route call).Once Sending.Whole := by
  have http3 := calm.http3
  unfold startByVersion
  split
  · split
    · rename_i reply carried
      rw [carried] at http3
      exact Reply.send_once http3
    · split
      · exact startViaHttp2_once route calm
      · exact startViaPool_once route calm.pool
  · split
    · exact startViaHttp2_once route calm
    · exact startViaPool_once route calm.pool

/-- A start without a shortcut sends a whole request once, and none if it fails. -/
theorem startOnCarrier_once : (startOnCarrier libraries handle route call).Once Sending.Whole := by
  apply Journaled.Once.after
  · unfold preparedOutboundExchangeRequest snapshotDefaultUpstreamRequest
    split_ifs <;> exact fun _ member => absurd member not_mem_nil
  intro passed
  -- what is noted behind the response
  have noted (response : StartedUpstreamResponse κ) : ∃ settled,
      (Journaled.ofExcept call.settled >>= fun _ => pure response : Starts _) = pure settled := by
    rw [calm.settled]
    exact ⟨response, rfl⟩
  split
  · apply Journaled.Once.await
    intro body
    exact (Reply.send_once calm.attached).settle noted
  apply Journaled.Once.ofExcept
  intro tls
  apply Journaled.Once.await
  intro body
  exact (startByVersion_once route calm).settle noted

theorem obtainResponse_once (stored : NativeOutcome κ) :
    (obtainResponse libraries handle route call stored).Once Sending.Whole := by
  have carried : (Obtained.started <$> startOnCarrier libraries handle route call).Once
      Sending.Whole := (startOnCarrier_once route calm).map
  unfold obtainResponse
  split
  · split
    · exact .pure _
    · exact (fastPath_offers route calm.fast calm.fastSettled).bind (fun _ => ⟨_, rfl⟩) carried
  · exact carried

end

theorem tryResolve_offers {native pool : ForwardCall κ} (calm : native.Calm libraries)
    (settled : native.settled = .ok ()) (calmPool : pool.Calm libraries)
    (settledPool : pool.settled = .ok ()) :
    (tryResolveNativeDefaultUpstreamHttpForwardResponse libraries route native pool).Offers
      Sending.Whole := by
  apply Journaled.Offers.after (snapshot_none route)
  intro passed
  split
  · exact .decline
  split
  · exact .fail _
  split
  · exact .decline
  apply Journaled.Offers.some
  have viaPool : (do
      let response ← startUpstreamResponseViaPlainHttp1SenderPool libraries route pool
      let _ ← .ofExcept pool.settled
      pure (.started response) : Starts (Obtained κ)).Once Sending.Whole := by
    apply (startViaPool_once route calmPool).settle
    intro response
    rw [settledPool]
    exact ⟨.started response, rfl⟩
  split
  · exact (forwardNative_once route calm settled).map.orElse viaPool
  · exact viaPool

/-! ## One step of a life -/

/-- The exchange has its response, or that of a native forward. -/
def ExchangeState.Has (handle : Int) (state : ExchangeState κ) : Prop :=
  state.response ≠ none ∨ handle = defaultUpstreamExchangeHandle ∧
    ∃ response, state.nativeDefaultUpstreamForwardResponse = some (.ok response)

/-- What a step does: nothing is sent for an exchange that has its response; otherwise one
whole request at most, and then there is a response or the life is over. -/
structure Stepped (handle : Int) (state : ExchangeState κ)
    (called : List Sending × Option (ExchangeState κ)) : Prop where
  kept : state.Has handle → called.1 = [] ∧ ∀ next, called.2 = some next → next.Has handle
  once : AtMostOne Sending.Whole called.1
  pending : ∀ next, called.2 = some next → next.Has handle ∨ NoneOf Sending.Whole called.1

omit [DecidableEq κ] in
/-- A step that sends nothing and leaves what there is. -/
theorem Stepped.still {next : ExchangeState κ} (same : state.Has handle → next.Has handle) :
    Stepped handle state ([], some next) where
  kept has := ⟨rfl, fun other found => by
    cases found
    exact same has⟩
  once := .nil
  pending _ _ := Or.inr fun _ member => absurd member not_mem_nil

omit [DecidableEq κ] in
/-- A step that sends nothing and is the last. -/
theorem Stepped.last : Stepped handle state ([], none) where
  kept _ := ⟨rfl, fun _ found => by cases found⟩
  once := .nil
  pending _ found := by cases found

omit [DecidableEq κ] in
/-- A step of an exchange without a response, from what it may send. -/
theorem Stepped.sends {called : List Sending × Option (ExchangeState κ)}
    (lacks : ¬ state.Has handle) (once : AtMostOne Sending.Whole called.1)
    (pending : ∀ next, called.2 = some next → next.Has handle ∨ NoneOf Sending.Whole called.1) :
    Stepped handle state called :=
  ⟨fun has => absurd has lacks, once, pending⟩

omit [DecidableEq κ] in
theorem has_store (state : ExchangeState κ) (obtained : Obtained κ) :
    (state.store obtained).Has handle := by
  apply Or.inl
  cases obtained <;> exact Option.some_ne_none _

theorem start_stepped (calm : call.Calm libraries) {state : ExchangeState κ} :
    Stepped handle state
      (unlessDropped (startOutboundExchangeResponse libraries handle route call state)) := by
  unfold startOutboundExchangeResponse
  split
  · exact .still id
  rename_i missing
  by_cases has : state.Has handle
  · -- the response of the native forward is stored without sending anything
    rcases has with responded | ⟨isDefault, response, stored⟩
    · exact absurd missing responded
    have native : obtainResponse libraries handle route call
        state.nativeDefaultUpstreamForwardResponse = ⟨.ready (.native response), []⟩ := by
      rw [stored]
      exact if_pos isDefault
    rw [native]
    exact .still fun _ => has_store _ _
  · have once : (obtainResponse libraries handle route call
        state.nativeDefaultUpstreamForwardResponse).Once Sending.Whole :=
      obtainResponse_once route calm _
    generalize obtainResponse libraries handle route call
      state.nativeDefaultUpstreamForwardResponse = obtained at once
    obtain ⟨result, journal⟩ := obtained
    cases result with
    | ready response =>
      apply Stepped.sends has once.once
      intro next found
      cases found
      exact Or.inl (has_store _ _)
    | failed err =>
      apply Stepped.sends has once.once
      intro next found
      exact Or.inr (once.failed err rfl)
    | dropped =>
      apply Stepped.sends has once.once
      intro next found
      cases found

theorem schedule_stepped {forward : ForwardCall κ} {route : Route}
    (isDefault : handle = defaultUpstreamExchangeHandle)
    (calm : (LifeEvent.schedule route forward call).Calm libraries state) :
    Stepped handle state
      (unlessDropped (scheduleDefaultUpstreamHttpForward libraries route forward call state)) := by
  obtain ⟨calmForward, settled, calmCall, fresh⟩ := calm
  unfold scheduleDefaultUpstreamHttpForward
  split
  · exact .still id
  rename_i idle
  split
  · rename_i native
    have missing : state.response = none := fresh.resolve_right (by simp [native])
    have lacks : ¬ state.Has handle := by
      intro has
      rcases has with responded | ⟨-, response, stored⟩
      · exact responded missing
      · exact idle (by simp [stored])
    have once := forwardNative_once route calmForward settled
    generalize forwardNativeDefaultUpstreamHttpViaSenderPool libraries route forward =
      forwarded at once
    obtain ⟨result, journal⟩ := forwarded
    cases result with
    | ready response =>
      apply Stepped.sends lacks once.once
      intro next found
      cases found
      exact Or.inl (Or.inr ⟨isDefault, response, rfl⟩)
    | failed err =>
      apply Stepped.sends lacks once.once
      intro next found
      exact Or.inr (once.failed err rfl)
    | dropped =>
      apply Stepped.sends lacks once.once
      intro next found
      cases found
  · rw [← isDefault]
    exact start_stepped route calmCall

omit [DecidableEq κ] in
/-- Taking an error of the native forward leaves a response where it is. -/
theorem has_takeForward (has : state.Has handle)
    (broken : ∀ response, state.nativeDefaultUpstreamForwardResponse ≠ some (.ok response)) :
    state.takeForward.Has handle := by
  rcases has with responded | ⟨-, response, stored⟩
  · exact Or.inl responded
  · exact absurd stored (broken response)

omit [DecidableEq κ] in
theorem takeNativeHttp1_stepped {state : ExchangeState κ} :
    Stepped handle state (unlessTaken (State.takeNativeHttp1 state)) := by
  unfold State.takeNativeHttp1
  split
  · split
    · exact .still id
    · rename_i stored
      exact .still fun has => has_takeForward has fun response found => by
        rw [stored] at found
        cases found
    · exact .last
  · exact .still id

omit [DecidableEq κ] in
theorem takeNativeFastPath_stepped {state : ExchangeState κ} :
    Stepped handle state (unlessTaken (State.takeNativeFastPath state)) := by
  unfold State.takeNativeFastPath
  split
  · exact .still id
  · exact .last

theorem resolve_stepped {native pool : ForwardCall κ} {route : Route}
    (calm : (LifeEvent.resolveNativeForward route native pool).Calm libraries state) :
    Stepped handle state
      (unlessResolved (State.resolveNativeForward libraries route native pool state)) := by
  obtain ⟨⟨calmNative, settled⟩, calmPool, settledPool⟩ := calm
  unfold State.resolveNativeForward
  split
  · rename_i unanswered
    split
    · exact .last
    rename_i broken
    have missing : state.response = none := by
      have both := (Bool.and_eq_true_iff.mp unanswered).2
      exact Option.isNone_iff_eq_none.mp both
    have lacks : ¬ state.Has handle := by
      intro has
      rcases has with responded | ⟨-, response, stored⟩
      · exact responded missing
      · exact broken response stored
    have offers := tryResolve_offers route calmNative settled calmPool settledPool
    generalize tryResolveNativeDefaultUpstreamHttpForwardResponse libraries route native pool =
      resolved at offers
    obtain ⟨result, journal⟩ := resolved
    cases result with
    | ready value =>
      cases value with
      | none =>
        apply Stepped.sends lacks offers.once
        intro next found
        exact Or.inr (offers.declined rfl)
      | some obtained =>
        apply Stepped.sends lacks offers.once
        intro next found
        cases found
    | failed err =>
      cases err with
      | missingTarget =>
        apply Stepped.sends lacks offers.once
        intro next found
        exact Or.inr (offers.failed _ rfl)
      | _ =>
        apply Stepped.sends lacks offers.once
        intro next found
        cases found
    | dropped =>
      apply Stepped.sends lacks offers.once
      intro next found
      cases found
  · exact .still id

/-- Every step of a calm life. -/
theorem run_stepped {event : LifeEvent κ} (calm : event.Calm libraries state) :
    Stepped handle state (event.run libraries handle state) := by
  cases event with
  | start route call => exact start_stepped route calm
  | schedule route forward call =>
    unfold LifeEvent.run
    dsimp only
    split
    · rename_i isDefault
      exact schedule_stepped isDefault calm
    · exact .still id
  | takeNativeHttp1 =>
    unfold LifeEvent.run
    dsimp only
    split
    · exact takeNativeHttp1_stepped
    · exact .still id
  | takeNativeFastPath =>
    unfold LifeEvent.run
    dsimp only
    split
    · exact takeNativeFastPath_stepped
    · exact .still id
  | resolveNativeForward route native pool =>
    unfold LifeEvent.run
    dsimp only
    split
    · exact resolve_stepped calm
    · exact .still id

/-! ## A whole life -/

/-- Nothing is sent once the exchange has its response. -/
theorem life_kept (has : state.Has handle) (calm : CalmLife libraries handle events state) :
    life libraries handle events state = [] := by
  induction events generalizing state with
  | nil => rfl
  | cons event events ih =>
    obtain ⟨here, rest⟩ := calm
    have stepped : Stepped handle state (event.run libraries handle state) := run_stepped here
    obtain ⟨nothing, keeps⟩ := stepped.kept has
    rw [life]
    generalize event.run libraries handle state = called at nothing keeps rest
    obtain ⟨journal, following⟩ := called
    cases following with
    | none => exact nothing
    | some next =>
      dsimp only at nothing
      rw [nothing]
      exact ih (keeps next rfl) (rest next rfl)

/-- In a calm life at most one complete copy of the request is written, from any state of the
exchange. -/
theorem life_once (calm : CalmLife libraries handle events state) :
    AtMostOne Sending.Whole (life libraries handle events state) := by
  induction events generalizing state with
  | nil => exact .nil
  | cons event events ih =>
    obtain ⟨here, rest⟩ := calm
    have stepped : Stepped handle state (event.run libraries handle state) := run_stepped here
    have once := stepped.once
    have pending := stepped.pending
    rw [life]
    generalize event.run libraries handle state = called at once pending rest
    obtain ⟨journal, following⟩ := called
    cases following with
    | none => exact once
    | some next =>
      rcases pending next rfl with has | clear
      · dsimp only
        rw [life_kept has (rest next rfl), append_nil]
        exact once
      · exact .append clear (ih (rest next rfl))

/-- Over the life of an exchange at most one complete copy of its request is written, if
nothing breaks behind a complete one and an exchange with a response is not forwarded
natively. -/
theorem delivered_at_most_once (libraries : Libraries) (handle : Int) (events : List (LifeEvent κ))
    (calm : CalmLife libraries handle events .new) :
    AtMostOne Sending.Whole (life libraries handle events .new) :=
  life_once calm

end

deriving instance DecidableEq for Awaited, Bytes, OutboundHttp1RequestBody,
  SerializedOutboundHttp1Request, Sending

/-- A request to place an order. -/
def placeOrder : SerializedOutboundHttp1Request :=
  ⟨ascii "POST /orders HTTP/1.1\r\nhost: a\r\ncontent-length: 1\r\n\r\n", ⟨ascii "POST"⟩,
    .bytes ⟨ascii "x", by decide⟩, false⟩

/-- The methods that may be repeated. -/
def isIdempotent (method : Method) : Bool :=
  method.name ∈ ["GET", "HEAD", "OPTIONS", "TRACE", "PUT", "DELETE"].map ascii

/-- A target that is reached over the pool. -/
def plainRoute : Route := ⟨false, true, false, .auto, false, true, false, false, false⟩

/-- A call of the pool loop with these events. -/
def forwardCall (events : List Event) : ForwardCall Unit :=
  ⟨.ready (), (), 8, "http://a", events.map (PlainHttp1SenderPool.empty, ·), .ok ()⟩

/-- A start of the default exchange that takes the fast path. -/
def startCall (events : List Event) : StartCall Unit :=
  ⟨forwardCall events, .ok (), .ready (), .dropped false, .fallback, .fallback, forwardCall [],
    .ok ()⟩

/-- The upstream closes a new connection behind the whole request. -/
def closedBehind : List Event := [.acquire (.ready []), .exchange (.ok placeOrder) [] []]

/-- The upstream answers the request. -/
def answeredWhole : List Event :=
  [.acquire (.ready []), .exchange (.ok placeOrder) [] [.data ⟨emptyOk.text, by decide⟩]]

/-- The upstream closes a new connection behind the head of the request. -/
def brokenOff : List Event :=
  [.acquire (.ready []), .exchange (.ok placeOrder) [.ready (), .failed ⟨.brokenPipe, "broken pipe"⟩] []]

/-- A request in memory is copied by its head and its body. -/
theorem copied_bytes {request : SerializedOutboundHttp1Request} {body : Bytes}
    (bytes : request.body = .bytes body) {sent : List UInt8} :
    Copied request sent ↔ sent = request.head ++ body.data := by
  constructor
  · rintro ⟨count, encoded, whole, rfl⟩
    rw [bytes] at whole
    cases whole
    rfl
  · rintro rfl
    refine ⟨0, body.data, ?_, rfl⟩
    rw [bytes]
    exact .bytes

/-- An exchange on a new connection whose request is answered is calm. -/
theorem calmAt_answered (retried : Bool) :
    CalmAt twoHeads (.acquired (κ := Unit) retried ⟨[], []⟩)
      (.exchange (.ok placeOrder) [] [.data ⟨emptyOk.text, by decide⟩]) := by
  intro copied
  exact ⟨rfl, .head reads_emptyOk.parsed (show acceptHead placeOrder.method emptyOk.raw = .ok
      ⟨200, [(.contentLength, ⟨ascii "0", by decide +kernel⟩)], .http11, some 0, true, none⟩ by
        decide +kernel) (append_nil _).symm⟩

/-- A call whose first attempt breaks off behind the head and whose second is answered is calm. -/
theorem calm_retried : (forwardCall (brokenOff ++ answeredWhole)).Calm twoHeads := by
  refine ⟨trivial, ?_, trivial, calmAt_answered _, trivial⟩
  intro copied
  have whole := (@copied_bytes placeOrder ⟨ascii "x", by decide⟩ rfl _).mp copied
  exact absurd whole (by decide +kernel)

/-- A call that is answered at its first attempt is calm. -/
theorem calm_answered : (forwardCall answeredWhole).Calm twoHeads :=
  ⟨trivial, calmAt_answered _, trivial⟩

/-- An attempt that breaks off is tried again, and a second start sends nothing: one complete
copy is written. -/
theorem delivered_once_sample :
    let events := [.start plainRoute (startCall (brokenOff ++ answeredWhole)),
      .start plainRoute (startCall answeredWhole)]
    life twoHeads defaultUpstreamExchangeHandle events .new =
        [.http1 placeOrder placeOrder.head, .http1 placeOrder (placeOrder.head ++ ascii "x")] ∧
      AtMostOne Sending.Whole (life twoHeads defaultUpstreamExchangeHandle events .new) := by
  intro events
  refine ⟨by decide +kernel, delivered_at_most_once _ _ events ?_⟩
  exact ⟨⟨calm_retried, rfl, trivial, trivial, trivial, trivial, rfl⟩, fun _ _ =>
    ⟨⟨calm_answered, rfl, trivial, trivial, trivial, trivial, rfl⟩, fun _ _ => trivial⟩⟩

/-- A request that was written whole and not answered is written whole again, though its
method is not idempotent. -/
theorem order_placed_twice : ¬ ∀ (libraries : Libraries) (handle : Int)
    (events : List (LifeEvent Unit)),
    (∀ request sent, .http1 request sent ∈ life libraries handle events .new →
      isIdempotent request.method = false) →
    AtMostOne Sending.Whole (life libraries handle events .new) := by
  intro all
  have sent : life twoHeads defaultUpstreamExchangeHandle
      [.start plainRoute (startCall (closedBehind ++ answeredWhole))] .new =
        [.http1 placeOrder (placeOrder.head ++ ascii "x"),
          .http1 placeOrder (placeOrder.head ++ ascii "x")] := by
    decide +kernel
  have whole : Sending.Whole (.http1 placeOrder (placeOrder.head ++ ascii "x")) :=
    (@copied_bytes placeOrder ⟨ascii "x", by decide⟩ rfl _).mpr rfl
  have once := all twoHeads defaultUpstreamExchangeHandle
    [.start plainRoute (startCall (closedBehind ++ answeredWhole))] (by
      intro request bytes member
      rw [sent] at member
      have same : Sending.http1 request bytes = .http1 placeOrder (placeOrder.head ++ ascii "x") := by
        simpa using member
      cases same
      decide)
  rw [sent] at once
  exact (pairwise_cons.mp once).1 _ (mem_singleton_self _) ⟨whole, whole⟩

end PdEdge.State

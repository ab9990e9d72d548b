import PdEdge.Lib.Journal
import PdEdge.State.Outbound
import PdEdge.State.UpstreamBody
import PdEdge.Upstream.World

/-!
# Starting the response of an exchange

`start_outbound_exchange_response` and the functions around it that send the request of an
exchange: over the pool of HTTP/1.1 connections, over HTTP/2 and HTTP/3 with their fallbacks,
or over a transport the program has attached. The default exchange can also be forwarded
natively; the outcome is then stored until it is asked for. What was written to the upstream
is kept in a journal.
-/

namespace PdEdge.State

open Journal Wire Upstream

/-- A request on its way: what was sent of it on a connection of the pool, or whether a
carrier of another library has sent all of it. -/
inductive Sending where
  | http1 (request : SerializedOutboundHttp1Request) (sent : List UInt8)
  | carrier (whole : Bool)

/-- `UpstreamResponseStartError`. -/
inductive UpstreamResponseStartError where
  | unknownExchangeHandle (handle : Int)
  | missingTarget
  | missingClient
  | protocol (message : String)
  | resolveOutboundBody (message : String)
  | upstreamRequest (message : String)
  deriving DecidableEq

/-- A computation that may send requests. -/
abbrev Starts (α : Type) := Journaled Sending UpstreamResponseStartError α

/-! ## Over the pool -/

/-- `OutboundHttp1ForwardResponse`; the body with its length, if there is one. -/
structure OutboundHttp1ForwardResponse (κ : Type) where
  status : Nat
  headers : HeaderMap
  version : Version
  body : Option (PlainHttp1ResponseBody κ × Option Nat)

section

variable {κ : Type} [DecidableEq κ]

/-- What an event sends. -/
def sending (phase : Phase κ) (event : Event) : List Sending :=
  match event, phase with
  | .exchange (.ok request) outcomes _, .acquired _ _ =>
    [.http1 request (sendRequest request ⟨outcomes, []⟩).2.sent]
  | _, _ => []

/-- What a call has returned. -/
def returned : Phase κ → Awaited VmError (OutboundHttp1ForwardResponse κ)
  | .responded trace body =>
    .ready ⟨trace.head.status, trace.head.headers, trace.head.version,
      body.map (·, trace.head.contentLength)⟩
  | .failed err => .failed err
  | .acquiring _ => .dropped
  | .acquired _ _ => .dropped
  | .dropped => .dropped

/-- The call goes on. -/
def waits : Phase κ → Bool
  | .acquiring _ => true
  | .acquired _ _ => true
  | .responded _ _ => false
  | .failed _ => false
  | .dropped => false

/-- `forward_serialized_via_sender_pool`, event by event; each finds the pool as the other
calls have left it. A call without a next event is never heard of again. -/
def forwardSerializedViaSenderPool (libraries : Libraries) :
    Upstream.Task κ → List (PlainHttp1SenderPool κ × Event) →
      Journaled Sending VmError (OutboundHttp1ForwardResponse κ)
  | task, [] => ⟨returned task.phase, []⟩
  | task, (pool, event) :: events =>
    if waits task.phase then
      let next := forwardSerializedViaSenderPool libraries
        { task with phase := (task.step libraries pool event).2 } events
      ⟨next.result, sending task.phase event ++ next.journal⟩
    else ⟨returned task.phase, []⟩

end

/-! ## Inputs of a start -/

/-- What is read of the exchange and of the services before a request is sent. -/
structure Route where
  /-- The exchange is owned by a WebSocket connection. -/
  isWebsocketMode : Bool
  hasTarget : Bool
  /-- The program has attached a transport. -/
  attachedTransport : Bool
  versionPreference : HttpVersionPreference
  requiresCustomClient : Bool
  plainHttp1SenderPool : Bool
  useHttp2 : Bool
  useHttp3 : Bool
  /-- The rest of the request body has to be read before it can be sent. -/
  bufferRemaining : Bool

/-- A request over the pool: what may go wrong before it (the host, the port, the body), its
events, and what may go wrong behind its response. -/
structure ForwardCall (κ : Type) where
  prepared : Awaited UpstreamResponseStartError Unit
  key : κ
  capacity : Nat
  origin : String
  events : List (PlainHttp1SenderPool κ × Event)
  settled : Except UpstreamResponseStartError Unit

/-- `StartedUpstreamResponse`. -/
structure StartedUpstreamResponse (κ : Type) where
  status : Nat
  headers : HeaderMap
  version : Version
  body : UpstreamResponseBodyState κ

/-- What becomes of a request on a carrier of another library. -/
inductive Reply (ε κ : Type) where
  | answered (response : StartedUpstreamResponse κ)
  /-- With an error, before or after the whole request was sent. -/
  | failed (whole : Bool) (err : ε)
  | dropped (whole : Bool)

/-- A carrier that falls back to an older protocol does so before it sends the request. -/
inductive Negotiated (κ : Type) where
  | fallback
  | carried (reply : Reply String κ)

/-- The inputs of `start_outbound_exchange_response`. -/
structure StartCall (κ : Type) where
  /-- The forward of the plain fast path. -/
  fast : ForwardCall κ
  /-- The state of the TLS handshake is looked up. -/
  tls : Except UpstreamResponseStartError Unit
  /-- The body is resolved. -/
  body : Awaited UpstreamResponseStartError Unit
  attached : Reply UpstreamResponseStartError κ
  http3 : Negotiated κ
  http2 : Negotiated κ
  pool : ForwardCall κ
  /-- What is noted of the handshake behind the response. -/
  settled : Except UpstreamResponseStartError Unit

section

variable {κ : Type} [DecidableEq κ] (libraries : Libraries)

/-- `outbound_http1_fast_path_eligible`, of an exchange without an attached transport. -/
def Route.outboundHttp1FastPathEligible (route : Route) : Bool :=
  route.hasTarget && route.plainHttp1SenderPool &&
    (route.versionPreference = .auto || route.versionPreference = .http1) &&
    !route.useHttp2 && !route.useHttp3

/-- `snapshot_default_upstream_request`. -/
def snapshotDefaultUpstreamRequest (route : Route) : Starts Unit :=
  if route.isWebsocketMode then
    .fail (.protocol "default upstream exchange is already owned by the websocket DAG")
  else pure ()

/-- `DEFAULT_UPSTREAM_EXCHANGE_HANDLE`. -/
def defaultUpstreamExchangeHandle : Int := 1

/-- `prepared_outbound_exchange_request`. -/
def preparedOutboundExchangeRequest (handle : Int) (route : Route) : Starts Unit :=
  if route.isWebsocketMode then
    if handle = defaultUpstreamExchangeHandle then snapshotDefaultUpstreamRequest route
    else .fail (.protocol
      s!"outbound exchange handle {handle} is already owned by the websocket DAG")
  else if route.hasTarget then pure ()
  else .fail .missingTarget

/-- The pool loop, with its errors as those of a start. -/
def forwardOver (call : ForwardCall κ) : Starts (OutboundHttp1ForwardResponse κ) :=
  (forwardSerializedViaSenderPool libraries ⟨call.key, call.capacity, call.origin, .acquiring false⟩
    call.events).mapError fun err => .upstreamRequest (libraries.display err)

/-- `forward_native_default_upstream_http_via_sender_pool`. -/
def forwardNativeDefaultUpstreamHttpViaSenderPool (route : Route) (call : ForwardCall κ) :
    Starts (OutboundHttp1ForwardResponse κ) :=
  if route.plainHttp1SenderPool then do
    .await call.prepared
    let response ← forwardOver libraries call
    let _ ← .ofExcept call.settled
    pure response
  else .fail .missingClient

/-- `started_upstream_response_from_plain_http1_forward`. -/
def startedUpstreamResponseFromPlainHttp1Forward (response : OutboundHttp1ForwardResponse κ) :
    StartedUpstreamResponse κ where
  status := response.status
  headers := response.headers
  version := response.version
  body :=
    match response.body with
    | none => .empty
    | some (body, contentLength) => .fromPlainHttp1 body contentLength

/-- `start_upstream_response_via_plain_http1_sender_pool`, and the same of the default
exchange. -/
def startUpstreamResponseViaPlainHttp1SenderPool (route : Route) (call : ForwardCall κ) :
    Starts (StartedUpstreamResponse κ) :=
  if route.plainHttp1SenderPool then do
    .await call.prepared
    startedUpstreamResponseFromPlainHttp1Forward <$> forwardOver libraries call
  else .fail .missingClient

/-- `start_default_upstream_plain_http1_fast_path`, before its response is stored. -/
def startDefaultUpstreamPlainHttp1FastPath (route : Route) (call : ForwardCall κ) :
    Starts (Option (OutboundHttp1ForwardResponse κ)) := do
  snapshotDefaultUpstreamRequest route
  if route.attachedTransport then pure none
  else if !route.hasTarget then .fail .missingTarget
  else if route.requiresCustomClient || !route.outboundHttp1FastPathEligible then pure none
  else some <$> forwardNativeDefaultUpstreamHttpViaSenderPool libraries route call

/-- A request on another carrier; a response comes behind the whole request. -/
def Reply.send {ε : Type} (form : ε → UpstreamResponseStartError) :
    Reply ε κ → Starts (StartedUpstreamResponse κ)
  | .answered response => ⟨.ready response, [.carrier true]⟩
  | .failed whole err => ⟨.failed (form err), [.carrier whole]⟩
  | .dropped whole => ⟨.dropped, [.carrier whole]⟩

/-- The error of a carrier, as `start_outbound_exchange_response` reports it. -/
def carrierError (handle : Int) (message : String) : UpstreamResponseStartError :=
  .upstreamRequest s!"outbound exchange {handle} failed while evaluating host call: {message}"

/-- `start_upstream_response_via_http2`, and HTTP/1.1 where it falls back. -/
def startViaHttp2 (handle : Int) (route : Route) (call : StartCall κ) :
    Starts (StartedUpstreamResponse κ) :=
  match call.http2 with
  | .carried reply => reply.send (carrierError handle)
  | .fallback => startUpstreamResponseViaPlainHttp1SenderPool libraries route call.pool

/-- The newest protocol in use, and an older one where it falls back. -/
def startByVersion (handle : Int) (route : Route) (call : StartCall κ) :
    Starts (StartedUpstreamResponse κ) :=
  if route.useHttp3 then
    match call.http3 with
    | .carried reply => reply.send (carrierError handle)
    | .fallback =>
      if route.useHttp2 then startViaHttp2 libraries handle route call
      else startUpstreamResponseViaPlainHttp1SenderPool libraries route call.pool
  else if route.useHttp2 then startViaHttp2 libraries handle route call
  else startUpstreamResponseViaPlainHttp1SenderPool libraries route call.pool

/-- What `start_outbound_exchange_response` does where there is no shortcut. -/
def startOnCarrier (handle : Int) (route : Route) (call : StartCall κ) :
    Starts (StartedUpstreamResponse κ) := do
  preparedOutboundExchangeRequest handle route
  if route.attachedTransport then do
    .await call.body
    let response ← call.attached.send id
    let _ ← .ofExcept call.settled
    pure response
  else do
    let _ ← .ofExcept call.tls
    .await call.body
    let response ← startByVersion libraries handle route call
    let _ ← .ofExcept call.settled
    pure response

/-! ## The state of an exchange -/

/-- `HttpUpstreamResponseSnapshot`. -/
structure HttpUpstreamResponseSnapshot (κ : Type) where
  status : Nat
  headers : HeaderMap
  body : UpstreamResponseBodyState κ

/-- What is stored for an exchange: its response and, for the default exchange, the outcome of
the native forward. -/
structure ExchangeState (κ : Type) where
  /-- `response`, where it is ready. -/
  response : Option (HttpUpstreamResponseSnapshot κ)
  nativeDefaultUpstreamHttpForward : Bool
  nativeDefaultUpstreamForwardResponse :
    Option (Except UpstreamResponseStartError (OutboundHttp1ForwardResponse κ))

namespace ExchangeState

/-- Nothing was sent. -/
def new : ExchangeState κ := ⟨none, false, none⟩

/-- `clear_native_default_upstream_http_forward`. -/
def clearNativeDefaultUpstreamHttpForward (state : ExchangeState κ) : ExchangeState κ :=
  { state with
    nativeDefaultUpstreamHttpForward := false
    nativeDefaultUpstreamForwardResponse := none }

/-- `store_native_default_upstream_forward_response` and
`store_native_default_upstream_forward_error`. -/
def storeForward (state : ExchangeState κ)
    (outcome : Except UpstreamResponseStartError (OutboundHttp1ForwardResponse κ)) :
    ExchangeState κ :=
  { state with
    nativeDefaultUpstreamHttpForward := true
    nativeDefaultUpstreamForwardResponse := some outcome }

/-- `take_native_default_upstream_forward_response`, as far as it changes the state. -/
def takeForward (state : ExchangeState κ) : ExchangeState κ :=
  { state with nativeDefaultUpstreamForwardResponse := none }

/-- `started_upstream_response_into_snapshot` and `store_response`. -/
def storeResponse (state : ExchangeState κ) (response : StartedUpstreamResponse κ) :
    ExchangeState κ :=
  { state with response := some ⟨response.status, response.headers, response.body⟩ }

/-- `materialize_native_default_upstream_forward_response`, of an exchange without a
response. -/
def materialize (state : ExchangeState κ) (response : OutboundHttp1ForwardResponse κ) :
    ExchangeState κ :=
  (state.storeResponse (startedUpstreamResponseFromPlainHttp1Forward
    response)).clearNativeDefaultUpstreamHttpForward

end ExchangeState

/-! ## What sends the request of an exchange -/

/-- A response to the request of an exchange, from a native forward or not. -/
inductive Obtained (κ : Type) where
  | native (response : OutboundHttp1ForwardResponse κ)
  | started (response : StartedUpstreamResponse κ)

/-- The response of an exchange that has none yet. An error of the native forward is passed
over. -/
def obtainResponse (handle : Int) (route : Route) (call : StartCall κ)
    (stored : Option (Except UpstreamResponseStartError (OutboundHttp1ForwardResponse κ))) :
    Starts (Obtained κ) :=
  if handle = defaultUpstreamExchangeHandle then
    match stored with
    | some (.ok response) => pure (.native response)
    | _ => do
      match ← startDefaultUpstreamPlainHttp1FastPath libraries route call.fast with
      | some response => pure (.native response)
      | none => .started <$> startOnCarrier libraries handle route call
  else .started <$> startOnCarrier libraries handle route call

/-- Where the response is stored. -/
def ExchangeState.store (state : ExchangeState κ) : Obtained κ → ExchangeState κ
  | .native response => state.materialize response
  | .started response => state.storeResponse response

/-- `start_outbound_exchange_response`: whether it returned, and the state behind it. -/
def startOutboundExchangeResponse (handle : Int) (route : Route) (call : StartCall κ)
    (state : ExchangeState κ) : Starts Unit × ExchangeState κ :=
  match state.response with
  | some _ => (pure (), state)
  | none =>
    match obtainResponse libraries handle route call state.nativeDefaultUpstreamForwardResponse with
    | ⟨.ready obtained, journal⟩ => (⟨.ready (), journal⟩, state.takeForward.store obtained)
    | ⟨.failed err, journal⟩ => (⟨.failed err, journal⟩, state.takeForward)
    | ⟨.dropped, journal⟩ => (⟨.dropped, journal⟩, state.takeForward)

/-- The default exchange is forwarded natively. -/
def Route.forwardsNatively (route : Route) : Bool :=
  !route.isWebsocketMode && !route.attachedTransport && route.outboundHttp1FastPathEligible &&
    !route.bufferRemaining

/-- `schedule_default_upstream_http_forward` with
`start_native_default_upstream_http_forward_response`. -/
def scheduleDefaultUpstreamHttpForward (route : Route) (forward : ForwardCall κ)
    (call : StartCall κ) (state : ExchangeState κ) : Starts Unit × ExchangeState κ :=
  if state.nativeDefaultUpstreamForwardResponse.isSome ||
      state.nativeDefaultUpstreamHttpForward then (pure (), state)
  else if route.forwardsNatively then
    match forwardNativeDefaultUpstreamHttpViaSenderPool libraries route forward with
    | ⟨.ready response, journal⟩ => (⟨.ready (), journal⟩, state.storeForward (.ok response))
    | ⟨.failed err, journal⟩ => (⟨.ready (), journal⟩, state.storeForward (.error err))
    | ⟨.dropped, journal⟩ => (⟨.dropped, journal⟩, state)
  else startOutboundExchangeResponse libraries defaultUpstreamExchangeHandle route call state

/-! ## What the resolution of the downstream response does with a native forward -/

/-- An outcome of the native forward that answers the downstream request. -/
abbrev NativeOutcome (κ : Type) :=
  Option (Except UpstreamResponseStartError (OutboundHttp1ForwardResponse κ))

/-- The part of `try_resolve_native_http1_downstream_response` behind its other conditions. -/
def takeNativeHttp1 (state : ExchangeState κ) : NativeOutcome κ × ExchangeState κ :=
  if state.nativeDefaultUpstreamHttpForward then
    match state.nativeDefaultUpstreamForwardResponse with
    | none => (none, state)
    | some (.error .missingTarget) => (none, state.takeForward)
    | some outcome => (some outcome, state.clearNativeDefaultUpstreamHttpForward)
  else (none, state)

/-- The first thing `resolve_http_graph_response_inner` looks at. -/
def takeNativeFastPath (state : ExchangeState κ) : NativeOutcome κ × ExchangeState κ :=
  match state.nativeDefaultUpstreamForwardResponse with
  | none => (none, state)
  | some outcome => (some outcome, state.clearNativeDefaultUpstreamHttpForward)

/-- `try_resolve_native_default_upstream_http_forward_response`: where the native forward
fails, the request is sent again. -/
def tryResolveNativeDefaultUpstreamHttpForwardResponse (route : Route)
    (native pool : ForwardCall κ) : Starts (Option (Obtained κ)) := do
  snapshotDefaultUpstreamRequest route
  if route.attachedTransport then pure none
  else if !route.hasTarget then .fail .missingTarget
  else if route.useHttp2 || route.useHttp3 then pure none
  else
    let viaPool : Starts (Obtained κ) := do
      let response ← startUpstreamResponseViaPlainHttp1SenderPool libraries route pool
      let _ ← .ofExcept pool.settled
      pure (.started response)
    some <$> if route.outboundHttp1FastPathEligible then
      (Obtained.native <$>
        forwardNativeDefaultUpstreamHttpViaSenderPool libraries route native).orElse viaPool
    else viaPool

/-- The part of `resolve_http_graph_response_inner` for a native forward whose response is not
there. -/
def resolveNativeForward (route : Route) (native pool : ForwardCall κ)
    (state : ExchangeState κ) : Starts (Option (Obtained κ)) × ExchangeState κ :=
  if state.nativeDefaultUpstreamHttpForward && state.response.isNone then
    match state.nativeDefaultUpstreamForwardResponse with
    | some (.ok response) =>
      (pure (some (.native response)), state.clearNativeDefaultUpstreamHttpForward)
    | _ =>
      match tryResolveNativeDefaultUpstreamHttpForwardResponse libraries route native pool with
      | ⟨.ready none, journal⟩ => (⟨.ready none, journal⟩, state.takeForward)
      | ⟨.failed .missingTarget, journal⟩ => (⟨.ready none, journal⟩, state.takeForward)
      | other => (other, state.clearNativeDefaultUpstreamHttpForward)
  else (pure none, state)

end

end PdEdge.State

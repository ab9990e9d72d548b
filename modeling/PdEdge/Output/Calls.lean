import PdEdge.Output.Stream
import PdEdge.State.Start

/-!
# What a program leaves behind for the downstream response

The part of a request context that decides on the response: the output node with the headers,
the status and the body a program has chosen, the outcome of a native forward of the default
exchange, the responses of the exchanges, and which of their bodies were read. Each call of a
program that changes one of these is a function on the context. At most one kind of body is
chosen at any time, and a stored outcome marks the forward as active; every run of calls keeps
to that.
-/

namespace PdEdge.Output

open Downstream State

/-- `HttpResponseOutputNode`. -/
structure HttpResponseOutputNode where
  headers : HeaderMap
  body : Option Bytes
  bodyStream : Option DownstreamResponseBodyStream
  status : Option Nat
  bodySourceExchange : Option Int

namespace HttpResponseOutputNode

/-- `HttpResponseOutputNode::default`. -/
def default : HttpResponseOutputNode := ⟨[], none, none, none, none⟩

variable (node : HttpResponseOutputNode)

/-- `has_local_body`. -/
def hasLocalBody : Bool := node.body.isSome || node.bodyStream.isSome

/-- `stream_committed`. -/
def streamCommitted : Bool := node.bodyStream.any DownstreamResponseBodyStream.committed

/-- `ensure_stream_mut` and an operation on the stream. -/
def onStream {α : Type}
    (operation : DownstreamResponseBodyStream → α × DownstreamResponseBodyStream) :
    α × HttpResponseOutputNode :=
  let operated := operation (node.bodyStream.getD .new)
  (operated.1,
    { node with body := none, bodySourceExchange := none, bodyStream := some operated.2 })

/-- `sync_response_output_stream_headers`. -/
def syncStreamHeaders : HttpResponseOutputNode :=
  { node with headers := node.headers.remove .contentLength }

/-- `sync_response_output_body_headers`. -/
def syncBodyHeaders : HttpResponseOutputNode :=
  let node := { node with bodyStream := none }
  match node.body with
  | none => node
  | some body =>
    let headers := node.headers.remove .transferEncoding
    match HeaderValue.ofNumber body.data.length with
    | some value => { node with headers := headers.insert .contentLength value }
    | none => { node with headers }

/-- The result of a call that returns nothing, and the node behind it. -/
abbrev Called := Except VmError Unit × HttpResponseOutputNode

/-- What an operation on the stream returns is for waking the response up. -/
def returned (called : Except VmError Bool × HttpResponseOutputNode) : Called :=
  (called.1.map fun _ => (), called.2)

@[simp] theorem returned_node (called : Except VmError Bool × HttpResponseOutputNode) :
    (returned called).2 = called.2 := rfl

/-- `start_downstream_response_stream`. -/
def startStream : Called :=
  if node.body.isSome || node.bodySourceExchange.isSome then
    (.error (.hostError "downstream response stream cannot begin after a buffered body or exchange body is already selected"),
      node)
  else returned (node.syncStreamHeaders.onStream DownstreamResponseBodyStream.start)

/-- The content type that a write gives a response without one. -/
def defaultContentType (bytes : List UInt8) : HttpResponseOutputNode :=
  if !bytes.isEmpty && !node.headers.containsKey .contentType then
    { node with headers := node.headers.insert .contentType .textPlain }
  else node

/-- `write_downstream_response_stream_bytes`. -/
def writeStreamBytes (bytes : List UInt8) (mode : DownstreamResponseStreamWriteMode) : Called :=
  if node.body.isSome || node.bodySourceExchange.isSome then
    (.error (.hostError "downstream response stream cannot accept writes after a buffered body or exchange body is already selected"),
      node)
  else
    returned ((node.syncStreamHeaders.defaultContentType bytes).onStream fun stream =>
      stream.writeBytes bytes mode)

/-- `finish_downstream_response_stream`. -/
def finishStream : Called :=
  match node.bodyStream with
  | none => (.ok (), node)
  | some stream => returned (stream.finish.1, { node with bodyStream := some stream.finish.2 })

/-- The body of a `set_body`. -/
def setBody (body : Bytes) : Called :=
  if node.bodyStream.isSome then
    (.error (.hostError "http::response::set_body is unavailable after response streaming begins"),
      node)
  else
    (.ok (), { node with bodySourceExchange := none, body := some body }.syncBodyHeaders)

/-- The closure of `add_header` and `clear_header`. -/
def editHeaders (edit : HeaderMap → HeaderMap) : Called :=
  if node.streamCommitted then
    (.error (.hostError "downstream response headers are immutable after response streaming begins"),
      node)
  else (.ok (), { node with headers := edit node.headers })

end HttpResponseOutputNode

/-! ## The request context -/

/-- `NativeDefaultUpstreamForwardResponse`; a body whose announced length is zero has no
frames. -/
structure NativeDefaultUpstreamForwardResponse where
  status : Nat
  headers : HeaderMap
  version : Version
  body : OutboundHttp1ForwardBody
  settled : body.knownLength = some 0 → body.frames = []

/-- `HttpUpstreamResponseSnapshot`, with what is left of the body; it is absent when it is known
to be empty. -/
structure ResponseSnapshot where
  status : Nat
  headers : HeaderMap
  body : Option (List Frame)

/-- The response of a forward as that of an exchange. -/
def NativeDefaultUpstreamForwardResponse.snapshot
    (response : NativeDefaultUpstreamForwardResponse) : ResponseSnapshot :=
  ⟨response.status, response.headers,
    if response.body.knownLength = some 0 then none else some response.body.frames⟩

/-- `NativeDefaultUpstreamForwardResult`; also the answer to any request of an exchange. -/
abbrev ForwardResult := Except UpstreamResponseStartError NativeDefaultUpstreamForwardResponse

/-- `as_vm_error`. -/
def asVmError : UpstreamResponseStartError → VmError
  | .unknownExchangeHandle handle => .hostError s!"unknown outbound exchange handle {handle}"
  | .missingTarget => .hostError
      "upstream target is unavailable before configuring the default upstream exchange target"
  | .missingClient => .hostError "upstream client is unavailable outside the HTTP data plane"
  | .protocol message => .hostError message
  | .resolveOutboundBody message => .hostError message
  | .upstreamRequest message => .hostError message

/-- `DownstreamPostResponsePlan`. -/
inductive DownstreamPostResponsePlan where
  | connectTunnel
  | webSocketTunnel (selectedSubprotocol : Option (List Char))

/-- `ProxyVmContext`, as far as it decides on the response. -/
structure ProxyVmContext where
  responseOutput : HttpResponseOutputNode
  postResponsePlan : Option DownstreamPostResponsePlan
  nativeDefaultUpstreamHttpForward : Bool
  nativeDefaultUpstreamForwardResponse : Option ForwardResult
  /-- `exchange_response_body_reads`. -/
  bodyReads : List Int
  /-- The request of the default exchange. -/
  route : Route
  /-- The responses that are ready, by exchange. -/
  responses : Int → Option ResponseSnapshot

namespace ProxyVmContext

/-- The context of a request before its program has run. -/
def new (route : Route) : ProxyVmContext := ⟨.default, none, false, none, [], route, fun _ => none⟩

variable (context : ProxyVmContext)

/-- Change the output node. -/
def onOutput (call : HttpResponseOutputNode → HttpResponseOutputNode.Called) :
    Except VmError Unit × ProxyVmContext :=
  let called := call context.responseOutput
  (called.1, { context with responseOutput := called.2 })

/-- `take_native_default_upstream_forward_response`, as far as it changes the context. -/
def takeForward : ProxyVmContext := { context with nativeDefaultUpstreamForwardResponse := none }

/-- `clear_native_default_upstream_http_forward`. -/
def clearNativeDefaultUpstreamHttpForward : ProxyVmContext :=
  { context with
    nativeDefaultUpstreamHttpForward := false
    nativeDefaultUpstreamForwardResponse := none }

/-- `store_native_default_upstream_forward_response` and its variant for errors. -/
def storeForward (outcome : ForwardResult) : ProxyVmContext :=
  { context with
    nativeDefaultUpstreamHttpForward := true
    nativeDefaultUpstreamForwardResponse := some outcome }

/-- `store_response`. -/
def storeResponse (handle : Int) (snapshot : ResponseSnapshot) : ProxyVmContext :=
  { context with responses := fun other =>
      if other = handle then some snapshot else context.responses other }

/-- `note_exchange_response_body_read`. -/
def noteExchangeResponseBodyRead (handle : Int) : ProxyVmContext :=
  { context with bodyReads := handle :: context.bodyReads }

/-! ## Head of the response -/

/-- `ensure_downstream_response_head_mutable`. -/
def ensureDownstreamResponseHeadMutable : Except VmError Unit :=
  if context.responseOutput.streamCommitted then
    .error (.hostError "downstream response headers and status are immutable after response streaming begins")
  else .ok ()

/-- The response of a native forward that is changed in place: there is no other response, and
nothing was set for one. -/
def editableForward : Option NativeDefaultUpstreamForwardResponse :=
  if context.postResponsePlan.isNone && !context.responseOutput.hasLocalBody &&
      context.responseOutput.bodySourceExchange.isNone && context.responseOutput.status.isNone &&
      context.responseOutput.headers.isEmpty then
    match context.nativeDefaultUpstreamForwardResponse with
    | some (.ok response) => some response
    | _ => none
  else none

/-- Replace the stored response of a native forward. -/
def setForward (response : NativeDefaultUpstreamForwardResponse) : ProxyVmContext :=
  { context with nativeDefaultUpstreamForwardResponse := some (.ok response) }

/-- `insert_downstream_response_headers`; with one entry, `insert_downstream_response_header`. -/
def insertDownstreamResponseHeaders (headers : HeaderMap) : Except VmError Unit × ProxyVmContext :=
  match context.ensureDownstreamResponseHeadMutable with
  | .error err => (.error err, context)
  | .ok () =>
    match context.editableForward with
    | some response =>
      (.ok (),
        context.setForward { response with headers := response.headers.mergeHeaders headers })
    | none =>
      context.onOutput fun node => (.ok (),
        { node with headers := node.headers.mergeHeaders headers })

/-- `set_downstream_response_status`. -/
def setDownstreamResponseStatus (status : Nat) : Except VmError Unit × ProxyVmContext :=
  match context.ensureDownstreamResponseHeadMutable with
  | .error err => (.error err, context)
  | .ok () =>
    match context.editableForward with
    | some response => (.ok (), context.setForward { response with status })
    | none => context.onOutput fun node => (.ok (), { node with status := some status })

/-! ## Exchanges -/

/-- The fast path of the default exchange stores its response as a native forward does. -/
def startsNatively (route : Route) : Bool :=
  !route.attachedTransport && !route.requiresCustomClient && route.outboundHttp1FastPathEligible

/-- The end of `start_outbound_exchange_response`, with the answer to a request that it sends. -/
def sendExchangeRequest (answer : ForwardResult) (handle : Int) :
    Except UpstreamResponseStartError ResponseSnapshot × ProxyVmContext :=
  match answer with
  | .error err => (.error err, context)
  | .ok response =>
    let stored := context.storeResponse handle response.snapshot
    (.ok response.snapshot,
      if handle = defaultUpstreamExchangeHandle && startsNatively context.route then
        stored.clearNativeDefaultUpstreamHttpForward
      else stored)

/-- `start_outbound_exchange_response`; an error of the native forward is passed over. -/
def startOutboundExchangeResponse (answer : ForwardResult) (handle : Int) :
    Except UpstreamResponseStartError ResponseSnapshot × ProxyVmContext :=
  match context.responses handle with
  | some snapshot => (.ok snapshot, context)
  | none =>
    if handle = defaultUpstreamExchangeHandle then
      match context.nativeDefaultUpstreamForwardResponse with
      | some (.ok response) =>
        (.ok response.snapshot,
          (context.storeResponse handle response.snapshot).clearNativeDefaultUpstreamHttpForward)
      | _ => context.takeForward.sendExchangeRequest answer handle
    else context.sendExchangeRequest answer handle

/-- `ensure_outbound_exchange_response_started`. -/
def startExchange (answer : ForwardResult) (handle : Int) :
    Except VmError Unit × ProxyVmContext :=
  let started := context.startOutboundExchangeResponse answer handle
  ((started.1.mapError asVmError).map fun _ => (), started.2)

/-- `apply_exchange`: copy the response of an exchange, with the message for a stream that has
begun. -/
def applyExchange (unavailable : String) (answer : ForwardResult) (exchange : Int) :
    Except VmError Unit × ProxyVmContext :=
  match context.startOutboundExchangeResponse answer exchange with
  | (.error err, context) => (.error (asVmError err), context)
  | (.ok snapshot, context) =>
    context.onOutput fun node =>
      if node.bodyStream.isSome then (.error (.hostError unavailable), node)
      else
        (.ok (), { node with
          status := some snapshot.status
          body := none
          bodySourceExchange := some exchange
          headers := node.headers.mergeHeaders
            (snapshot.headers.filter fun entry => !isHopByHopHeader entry.1) })

/-- `materialize_downstream_response_body_source`, with the bytes that reading the body of the
exchange gives. -/
def materializeDownstreamResponseBodySource (answer : ForwardResult)
    (read : Except VmError Bytes) : Except VmError Unit × ProxyVmContext :=
  if context.responseOutput.hasLocalBody then (.ok (), context)
  else
    match context.responseOutput.bodySourceExchange with
    | none => (.ok (), context)
    | some exchange =>
      match (context.noteExchangeResponseBodyRead exchange).startOutboundExchangeResponse answer
        exchange with
      | (.error err, context) => (.error (asVmError err), context)
      | (.ok _, context) =>
        match read with
        | .error err => (.error err, context)
        | .ok body => context.onOutput fun node =>
          (.ok (), { node with bodySourceExchange := none, body := some body }.syncBodyHeaders)

/-- A read of the body of an exchange; the program leaves this much of it. -/
def readExchangeBody (answer : ForwardResult) (exchange : Int) (left : Option (List Frame)) :
    Except VmError Unit × ProxyVmContext :=
  match (context.noteExchangeResponseBodyRead exchange).startOutboundExchangeResponse answer
    exchange with
  | (.error err, context) => (.error (asVmError err), context)
  | (.ok snapshot, context) => (.ok (),
    context.storeResponse exchange { snapshot with body := left })

/-- `schedule_default_upstream_http_forward`, with the outcome of the native forward and the
answer to a request that is sent otherwise. -/
def scheduleDefaultUpstreamHttpForward (outcome answer : ForwardResult) :
    Except VmError Unit × ProxyVmContext :=
  if context.nativeDefaultUpstreamForwardResponse.isSome ||
      context.nativeDefaultUpstreamHttpForward then (.ok (), context)
  else if context.route.forwardsNatively then (.ok (), context.storeForward outcome)
  else
    context.startExchange answer defaultUpstreamExchangeHandle

/-- `schedule_downstream_post_response_plan`. -/
def scheduleDownstreamPostResponsePlan (plan : DownstreamPostResponsePlan) :
    Except VmError Unit × ProxyVmContext :=
  if context.postResponsePlan.isSome then
    (.error (.hostError "downstream post-response transport plan is already scheduled"), context)
  else (.ok (), { context with postResponsePlan := some plan })

end ProxyVmContext

/-! ## Programs -/

/-- `validate_response_status`. -/
def validateResponseStatus (status : Int) : Except VmError Nat :=
  if 100 ≤ status ∧ status ≤ 599 then .ok status.toNat
  else .error (.hostError s!"status code must be in range 100..=599, got '{status}'")

/-- The calls of a program that change what is left behind for the response, with what the
upstream answers. -/
inductive ProgramCall where
  | setStatus (status : Int)
  | setHeader (name value : List Char)
  | setHeaders (headers : HeaderBatch)
  | addHeader (name value : List Char)
  | clearHeader (name : List Char)
  | setBody (body : Bytes)
  | startStream
  | writeStream (chunk : List UInt8)
  | finishStream
  /-- `append_response_output_body_bytes`, by which other host functions write. -/
  | appendBody (bytes : List UInt8)
  | applyExchange (exchange : Int) (answer : ForwardResult)
  | applyExchangeWithHeaders (exchange : Int) (headers : HeaderBatch) (answer : ForwardResult)
  | getBody (answer : ForwardResult) (read : Except VmError Bytes)
  | startExchange (exchange : Int) (answer : ForwardResult)
  | readExchangeBody (exchange : Int) (answer : ForwardResult) (left : Option (List Frame))
  | forwardDefault (outcome answer : ForwardResult)
  | configureDefault (route : Route)
  | schedulePlan (plan : DownstreamPostResponsePlan)

namespace ProgramCall

/-- Go on with a result that was checked. -/
def checked {α : Type} (context : ProxyVmContext) (check : Except VmError α)
    (call : α → Except VmError Unit × ProxyVmContext) : Except VmError Unit × ProxyVmContext :=
  match check with
  | .error err => (.error err, context)
  | .ok value => call value

/-- The host functions. -/
def run (context : ProxyVmContext) : ProgramCall → Except VmError Unit × ProxyVmContext
  | setStatus status =>
    checked context (validateResponseStatus status) context.setDownstreamResponseStatus
  | setHeader name value => checked context (parseHeader name value) fun entry =>
    context.insertDownstreamResponseHeaders [entry]
  | setHeaders headers => checked context (parseStringHeaderBatch headers)
    context.insertDownstreamResponseHeaders
  | addHeader name value => checked context (parseHeader name value) fun entry =>
    context.onOutput (·.editHeaders (·.add entry.1 entry.2))
  | clearHeader name => checked context (parseHeaderName name) fun name =>
    context.onOutput (·.editHeaders (·.remove name))
  | setBody body => context.onOutput (·.setBody body)
  | startStream => context.onOutput (·.startStream)
  | writeStream chunk => context.onOutput (·.writeStreamBytes chunk .explicitImmediate)
  | finishStream => context.onOutput (·.finishStream)
  | appendBody bytes => context.onOutput (·.writeStreamBytes bytes .implicitBuffered)
  | applyExchange exchange answer => context.applyExchange
    "http::response::apply_exchange is unavailable after response streaming begins" answer exchange
  | applyExchangeWithHeaders exchange headers answer =>
    checked context (parseStringHeaderBatch headers) fun parsed =>
      match context.applyExchange
          "http::response::apply_exchange_with_headers is unavailable after response streaming begins"
          answer exchange with
      | (.error err, context) => (.error err, context)
      | (.ok (), context) => context.insertDownstreamResponseHeaders parsed
  | getBody answer read => context.materializeDownstreamResponseBodySource answer read
  | startExchange exchange answer => context.startExchange answer exchange
  | readExchangeBody exchange answer left => context.readExchangeBody answer exchange left
  | forwardDefault outcome answer => context.scheduleDefaultUpstreamHttpForward outcome answer
  | configureDefault route =>
    -- The pool belongs to the services, which no call changes.
    (.ok (), { context with
      route := { route with plainHttp1SenderPool := context.route.plainHttp1SenderPool } })
  | schedulePlan plan => context.scheduleDownstreamPostResponsePlan plan

end ProgramCall

/-- The context behind some calls; a program that goes on after an error has handled it. -/
def runCalls (context : ProxyVmContext) : List ProgramCall → ProxyVmContext
  | [] => context
  | call :: calls => runCalls (call.run context).2 calls

/-! ## What holds in every context -/

/-- At most one kind of body is chosen, a stream is in order and has its receiver, and a status
that does not come with a body is one. -/
structure HttpResponseOutputNode.Sound (node : HttpResponseOutputNode) : Prop where
  streams : node.bodyStream.isSome → node.body = none ∧ node.bodySourceExchange = none
  buffers : node.body.isSome → node.bodySourceExchange = none
  stream : ∀ stream ∈ node.bodyStream, stream.Sound ∧ stream.heard ∧ stream.receiver
  status : node.body = none → node.bodySourceExchange = none →
    ∀ status ∈ node.status, 100 ≤ status ∧ status < 1000

/-- Neither a body nor an exchange is chosen. -/
theorem unchosen {node : HttpResponseOutputNode}
    (absent : ¬ (node.body.isSome || node.bodySourceExchange.isSome) = true) :
    node.body = none ∧ node.bodySourceExchange = none := by
  simpa only [Bool.or_eq_true, not_or, Bool.not_eq_true, Option.isSome_eq_false_iff,
    Option.isNone_iff_eq_none] using absent

/-- A content type does not change what is chosen. -/
theorem HttpResponseOutputNode.defaultContentType_same (node : HttpResponseOutputNode)
    (bytes : List UInt8) : (node.defaultContentType bytes).body = node.body ∧
      (node.defaultContentType bytes).bodySourceExchange = node.bodySourceExchange := by
  rw [defaultContentType]
  split <;> exact ⟨rfl, rfl⟩

namespace HttpResponseOutputNode.Sound

variable {node : HttpResponseOutputNode}

attribute [local simp] HttpResponseOutputNode.default

theorem default : HttpResponseOutputNode.default.Sound :=
  ⟨by simp, by simp, by simp, by simp⟩

section

variable (sound : node.Sound)
include sound

theorem withHeaders (headers : HeaderMap) : { node with headers }.Sound :=
  ⟨sound.streams, sound.buffers, sound.stream, sound.status⟩

theorem withStatus {status : Nat} (range : 100 ≤ status ∧ status < 1000) :
    { node with status := some status }.Sound := by
  refine ⟨sound.streams, sound.buffers, sound.stream, fun _ _ code given => ?_⟩
  obtain rfl : status = code := by simpa using given
  exact range

theorem synced : node.syncStreamHeaders.Sound := sound.withHeaders _

theorem editHeaders (edit : HeaderMap → HeaderMap) : (node.editHeaders edit).2.Sound := by
  rw [HttpResponseOutputNode.editHeaders]
  split
  · exact sound
  · exact sound.withHeaders _

theorem syncBodyHeaders : node.syncBodyHeaders.Sound := by
  have alone : { node with bodyStream := none }.Sound :=
    ⟨by simp, sound.buffers, by simp, sound.status⟩
  rw [HttpResponseOutputNode.syncBodyHeaders]
  split
  · exact alone
  · split <;> exact alone.withHeaders _

end

theorem chooseBody (body : Bytes) (stream : node.bodyStream = none) :
    { node with bodySourceExchange := none, body := some body }.syncBodyHeaders.Sound :=
  syncBodyHeaders ⟨by simp [stream], by simp, by simp [stream], by simp⟩

variable (sound : node.Sound)
include sound

theorem setBody (body : Bytes) : (node.setBody body).2.Sound := by
  rw [HttpResponseOutputNode.setBody]
  split
  · exact sound
  · rename_i absent
    exact chooseBody body (by simpa using absent)

/-- An operation that keeps the stream in order keeps the node in order. -/
theorem onStream {α : Type} (free : node.body = none) (loose : node.bodySourceExchange = none)
    {operation : DownstreamResponseBodyStream → α × DownstreamResponseBodyStream}
    (keeps : ∀ stream : DownstreamResponseBodyStream,
      stream.Sound ∧ stream.heard ∧ stream.receiver →
      (operation stream).2.Sound ∧ (operation stream).2.heard ∧ (operation stream).2.receiver) :
    (node.onStream operation).2.Sound := by
  have before : (node.bodyStream.getD .new).Sound ∧ (node.bodyStream.getD .new).heard ∧
      (node.bodyStream.getD .new).receiver := by
    cases held : node.bodyStream with
    | none => exact ⟨DownstreamResponseBodyStream.sound_new, rfl, rfl⟩
    | some stream => exact sound.stream stream held
  refine ⟨fun _ => ⟨rfl, rfl⟩, by simp [HttpResponseOutputNode.onStream], ?_,
    fun _ _ => sound.status free loose⟩
  intro stream held
  obtain rfl : (operation (node.bodyStream.getD .new)).2 = stream := by
    simpa [HttpResponseOutputNode.onStream] using held
  exact keeps _ before

theorem defaultContentType (bytes : List UInt8) : (node.defaultContentType bytes).Sound := by
  rw [HttpResponseOutputNode.defaultContentType]
  split
  · exact sound.withHeaders _
  · exact sound

theorem startStream : node.startStream.2.Sound := by
  rw [HttpResponseOutputNode.startStream]
  split
  · exact sound
  rename_i absent
  obtain ⟨free, loose⟩ := unchosen absent
  refine onStream (synced sound) free loose fun stream order => ?_
  cases finished : stream.finished with
  | true => rw [stream.start_finished finished]; exact order
  | false =>
    have started := (stream.start_spec order.1 finished).1
    exact ⟨started.sound, started.heard.trans order.2.1, started.receiver.trans order.2.2⟩

theorem writeStreamBytes (bytes : List UInt8) (mode : DownstreamResponseStreamWriteMode) :
    (node.writeStreamBytes bytes mode).2.Sound := by
  rw [HttpResponseOutputNode.writeStreamBytes]
  split
  · exact sound
  rename_i absent
  obtain ⟨free, loose⟩ := unchosen absent
  have same := node.syncStreamHeaders.defaultContentType_same bytes
  rw [returned_node]
  refine onStream (defaultContentType (synced sound) bytes) (same.1.trans free)
    (same.2.trans loose) fun stream order => ?_
  cases finished : stream.finished with
  | true => rw [stream.writeBytes_finished finished]; exact order
  | false =>
    have written := (stream.writeBytes_spec order.1 finished order.2.1 bytes mode).1
    exact ⟨written.sound, written.heard.trans order.2.1, written.receiver.trans order.2.2⟩

theorem finishStream : node.finishStream.2.Sound := by
  rw [HttpResponseOutputNode.finishStream]
  split
  · exact sound
  rename_i stream held
  obtain ⟨order, heard, receiver⟩ := sound.stream stream held
  obtain ⟨-, ordered, same, -, listens, -⟩ := stream.finish_spec order heard
  refine ⟨fun _ => sound.streams (by simp [held]), sound.buffers, ?_, sound.status⟩
  intro after finished
  obtain rfl : stream.finish.2 = after := by simpa using finished
  exact ⟨ordered, listens.trans heard, same.trans receiver⟩

end HttpResponseOutputNode.Sound

/-- The output node is in order, a stored outcome marks the forward as active, and only with a
pool there is one. -/
structure ProxyVmContext.Sound (context : ProxyVmContext) : Prop where
  output : context.responseOutput.Sound
  active : context.nativeDefaultUpstreamForwardResponse.isSome →
    context.nativeDefaultUpstreamHttpForward
  pooled : context.nativeDefaultUpstreamHttpForward → context.route.plainHttp1SenderPool

/-- Starting an exchange leaves the output alone. -/
theorem ProxyVmContext.start_keeps (context : ProxyVmContext) (answer : ForwardResult)
    (handle : Int) :
    (context.startOutboundExchangeResponse answer handle).2.responseOutput =
      context.responseOutput := by
  have sent (context : ProxyVmContext) :
      (context.sendExchangeRequest answer handle).2.responseOutput = context.responseOutput := by
    cases answer with
    | error err => rfl
    | ok response =>
      rw [sendExchangeRequest]
      split <;> rfl
  rw [startOutboundExchangeResponse]
  split
  · rfl
  split
  · split
    · rfl
    · exact sent context.takeForward
  · exact sent context

/-- What every call keeps: the context is in order, and a plan stays. -/
structure ProxyVmContext.Follows (before after : ProxyVmContext) : Prop where
  sound : after.Sound
  plan : before.postResponsePlan.isSome → after.postResponsePlan.isSome

/-- One change behind another. -/
theorem ProxyVmContext.Follows.trans {before between after : ProxyVmContext}
    (first : Follows before between) (second : Follows between after) : Follows before after :=
  ⟨second.sound, fun planned => second.plan (first.plan planned)⟩

namespace ProxyVmContext.Sound

variable {context : ProxyVmContext}

theorem new (route : Route) : (ProxyVmContext.new route).Sound :=
  ⟨.default, by simp [ProxyVmContext.new], by simp [ProxyVmContext.new]⟩

variable (sound : context.Sound)
include sound

theorem follows : Follows context context := ⟨sound, id⟩

theorem onOutput {call : HttpResponseOutputNode → HttpResponseOutputNode.Called}
    (keeps : (call context.responseOutput).2.Sound) : Follows context (context.onOutput call).2 :=
  ⟨⟨keeps, sound.active, sound.pooled⟩, id⟩

theorem takeForward : Follows context context.takeForward :=
  ⟨⟨sound.output, by simp [ProxyVmContext.takeForward], sound.pooled⟩, id⟩

theorem storeResponse (handle : Int) (snapshot : ResponseSnapshot) :
    Follows context (context.storeResponse handle snapshot) :=
  ⟨⟨sound.output, sound.active, sound.pooled⟩, id⟩

attribute [local simp] clearNativeDefaultUpstreamHttpForward

theorem storeLast (handle : Int) (snapshot : ResponseSnapshot) :
    Follows context (context.storeResponse handle snapshot).clearNativeDefaultUpstreamHttpForward :=
  ⟨⟨sound.output, by simp, by simp⟩, id⟩

section

variable (answer : ForwardResult)
include answer

theorem sendExchangeRequest (handle : Int) :
    Follows context (context.sendExchangeRequest answer handle).2 := by
  cases answer with
  | error err => exact sound.follows
  | ok response =>
    rw [ProxyVmContext.sendExchangeRequest]
    split
    · exact sound.storeLast handle _
    · exact sound.storeResponse handle _

theorem start (handle : Int) :
    Follows context (context.startOutboundExchangeResponse answer handle).2 := by
  rw [startOutboundExchangeResponse]
  split
  · exact sound.follows
  split
  · split
    · exact sound.storeLast handle _
    · exact sound.takeForward.trans (sound.takeForward.sound.sendExchangeRequest answer handle)
  · exact sound.sendExchangeRequest answer handle

/-- An exchange is started whose body is read. -/
theorem startRead (exchange : Int) :
    Follows context ((context.noteExchangeResponseBodyRead exchange).startOutboundExchangeResponse
      answer exchange).2 := by
  have noted : Follows context (context.noteExchangeResponseBodyRead exchange) :=
    ⟨⟨sound.output, sound.active, sound.pooled⟩, id⟩
  exact noted.trans (noted.sound.start answer exchange)

end

/-- A response that is changed in place was stored. -/
theorem setForward {response : NativeDefaultUpstreamForwardResponse}
    (editable : context.editableForward = some response)
    (changed : NativeDefaultUpstreamForwardResponse) :
    Follows context (context.setForward changed) := by
  refine ⟨⟨sound.output, fun _ => ?_, sound.pooled⟩, id⟩
  rw [editableForward] at editable
  split at editable
  · split at editable
    · rename_i stored
      exact sound.active (by simp [stored])
    · cases editable
  · cases editable

theorem insertHeaders (headers : HeaderMap) :
    Follows context (context.insertDownstreamResponseHeaders headers).2 := by
  rw [insertDownstreamResponseHeaders]
  split
  · exact sound.follows
  split
  · rename_i response editable
    exact sound.setForward editable _
  · exact sound.onOutput (sound.output.withHeaders _)

theorem setStatus (status : Nat) (range : 100 ≤ status ∧ status < 1000) :
    Follows context (context.setDownstreamResponseStatus status).2 := by
  rw [setDownstreamResponseStatus]
  split
  · exact sound.follows
  split
  · rename_i response editable
    exact sound.setForward editable _
  · exact sound.onOutput (sound.output.withStatus range)

theorem applyExchange (unavailable : String) (answer : ForwardResult) (exchange : Int) :
    Follows context (context.applyExchange unavailable answer exchange).2 := by
  have started := sound.start answer exchange
  rw [ProxyVmContext.applyExchange]
  split
  · rename_i same
    exact (congrArg Prod.snd same) ▸ started
  rename_i snapshot after same
  rw [same] at started
  have order := started.sound.output
  refine started.trans (started.sound.onOutput ?_)
  split
  · exact order
  · refine ⟨?_, by simp, ?_, by simp⟩ <;> simp_all

theorem materialize (answer : ForwardResult) (read : Except VmError Bytes) :
    Follows context (context.materializeDownstreamResponseBodySource answer read).2 := by
  rw [materializeDownstreamResponseBodySource]
  split
  · exact sound.follows
  split
  · exact sound.follows
  rename_i exchange chosen
  have started := sound.startRead answer exchange
  have kept := (context.noteExchangeResponseBodyRead exchange).start_keeps answer exchange
  split
  · rename_i same
    exact (congrArg Prod.snd same) ▸ started
  rename_i snapshot after same
  rw [same] at started kept
  split
  · exact started
  rename_i body
  refine started.trans (started.sound.onOutput (.chooseBody body ?_))
  have none : context.responseOutput.bodyStream = none := by
    simp_all [HttpResponseOutputNode.hasLocalBody]
  exact (congrArg HttpResponseOutputNode.bodyStream kept).trans none

theorem readExchangeBody (answer : ForwardResult) (exchange : Int) (left : Option (List Frame)) :
    Follows context (context.readExchangeBody answer exchange left).2 := by
  have started := sound.startRead answer exchange
  rw [ProxyVmContext.readExchangeBody]
  split
  · rename_i same
    exact (congrArg Prod.snd same) ▸ started
  · rename_i snapshot after same
    rw [same] at started
    exact started.trans (started.sound.storeResponse exchange _)

theorem schedule (outcome answer : ForwardResult) :
    Follows context (context.scheduleDefaultUpstreamHttpForward outcome answer).2 := by
  rw [scheduleDefaultUpstreamHttpForward]
  split
  · exact sound.follows
  split
  · rename_i natively
    refine ⟨⟨sound.output, fun _ => rfl, fun _ => ?_⟩, id⟩
    simp only [Route.forwardsNatively, Route.outboundHttp1FastPathEligible,
      Bool.and_eq_true] at natively
    exact natively.1.2.1.1.1.2
  · exact sound.start answer defaultUpstreamExchangeHandle

theorem schedulePlan (plan : DownstreamPostResponsePlan) :
    Follows context (context.scheduleDownstreamPostResponsePlan plan).2 := by
  rw [scheduleDownstreamPostResponsePlan]
  split
  · exact sound.follows
  · exact ⟨⟨sound.output, sound.active, sound.pooled⟩, fun _ => rfl⟩

theorem checked {α : Type} {check : Except VmError α}
    {call : α → Except VmError Unit × ProxyVmContext}
    (keeps : ∀ value, check = .ok value → Follows context (call value).2) :
    Follows context (ProgramCall.checked context check call).2 := by
  cases found : check with
  | error err => exact sound.follows
  | ok value => exact keeps value found

/-- Every call keeps the context in order, and a plan. -/
theorem run (call : ProgramCall) : Follows context (call.run context).2 := by
  cases call with
  | setStatus status =>
    refine sound.checked fun code valid => sound.setStatus code ?_
    rw [validateResponseStatus] at valid
    split at valid
    · cases valid
      omega
    · cases valid
  | setHeader name value => exact sound.checked fun entry _ => sound.insertHeaders [entry]
  | setHeaders headers => exact sound.checked fun parsed _ => sound.insertHeaders parsed
  | addHeader name value =>
    exact sound.checked fun entry _ => sound.onOutput (sound.output.editHeaders _)
  | clearHeader name =>
    exact sound.checked fun name _ => sound.onOutput (sound.output.editHeaders _)
  | setBody body => exact sound.onOutput (sound.output.setBody body)
  | startStream => exact sound.onOutput sound.output.startStream
  | writeStream chunk => exact sound.onOutput (sound.output.writeStreamBytes chunk _)
  | finishStream => exact sound.onOutput sound.output.finishStream
  | appendBody bytes => exact sound.onOutput (sound.output.writeStreamBytes bytes _)
  | applyExchange exchange answer => exact sound.applyExchange _ answer exchange
  | applyExchangeWithHeaders exchange headers answer =>
    refine sound.checked fun parsed _ => ?_
    have applied := sound.applyExchange "http::response::apply_exchange_with_headers is unavailable after response streaming begins" answer exchange
    split
    · rename_i same
      exact (congrArg Prod.snd same) ▸ applied
    · rename_i after same
      rw [same] at applied
      exact applied.trans (applied.sound.insertHeaders parsed)
  | getBody answer read => exact sound.materialize answer read
  | startExchange exchange answer => exact sound.start answer exchange
  | readExchangeBody exchange answer left => exact sound.readExchangeBody answer exchange left
  | forwardDefault outcome answer => exact sound.schedule outcome answer
  | configureDefault route => exact ⟨⟨sound.output, sound.active, sound.pooled⟩, id⟩
  | schedulePlan plan => exact sound.schedulePlan plan

/-- Every program leaves a context behind that is in order, and every plan. -/
theorem runCalls (calls : List ProgramCall) : Follows context (Output.runCalls context calls) := by
  induction calls generalizing context with
  | nil => exact sound.follows
  | cons call calls ih => exact (sound.run call).trans (ih (sound.run call).sound)

end ProxyVmContext.Sound

end PdEdge.Output

import PdEdge.Output.Calls

/-!
# Resolving the downstream response

`resolve_http_graph_response_inner` finds the response to a request from the context that its
program left behind. On an HTTP/1 connection three shortcuts are tried before it: a body in
memory, the stored response of a native forward, and the response of an exchange. A request that
is sent during the resolution gets the answer that is given for its exchange. With each response
goes the source that it was taken from.
-/

namespace PdEdge.Output

open Downstream State Text HttpResponseOutputNode

/-- Where a response comes from: the program, an exchange, the stored outcome of the native
forward, a tunnel, or nowhere. -/
inductive ResponseSource where
  | program
  | exchange (handle : Int)
  | nativeForward
  | tunnel
  | nobody
  deriving DecidableEq

/-- `Body`: bytes, the receiving end of a stream, or the frames of an upstream body. -/
inductive ResponseBody where
  | full (bytes : List UInt8)
  /-- What is on the channel, and whether nothing can follow. -/
  | channel (sent : List (List UInt8)) (closed : Bool)
  | frames (list : List Frame)

/-- The bytes of a body. -/
def ResponseBody.content : ResponseBody → List UInt8
  | .full bytes => bytes
  | .channel sent _ => sent.flatten
  | .frames list => list.flatMap Frame.payload

/-- `Response<Body>`. -/
structure GraphResponse where
  version : Version
  status : StatusCode
  headers : HeaderMap
  body : ResponseBody

/-- `ResolvedHttpGraphResponse`. -/
structure Resolved where
  response : GraphResponse
  source : ResponseSource

/-- What other libraries contribute to a resolution. -/
structure ResolutionLibraries where
  /-- `Display` of `VmError`. -/
  display : VmError → List Char
  /-- `derive_accept_key`. -/
  deriveAcceptKey : List UInt8 → List UInt8

/-! ## Responses -/

/-- `text_response`. -/
def textResponse (status : StatusCode) (text : List Char) : GraphResponse :=
  ⟨.http11, status, [], .full (toUtf8 text)⟩

def internalServerError (text : List Char) : GraphResponse :=
  textResponse .internalServerError text

def badGateway : GraphResponse := textResponse .badGateway "bad gateway".toList

def notFound : GraphResponse := textResponse .notFound "not found".toList

/-- The response to an error of a start. -/
def startFailure (libraries : ResolutionLibraries) : UpstreamResponseStartError → GraphResponse
  | .upstreamRequest _ => badGateway
  | err => internalServerError (libraries.display (asVmError err))

/-- The headers of `response_from_output`. -/
def outputHeaders (body : List UInt8) (headers : HeaderMap) : HeaderMap :=
  let headers := HeaderMap.mergeHeaders [] headers
  if body.isEmpty then
    if headers.containsKey .contentLength then headers
    else
      match HeaderValue.ofNumber 0 with
      | some zero => headers.insert .contentLength zero
      | none => headers
  else if !headers.containsKey .contentType then headers.insert .contentType .textPlain
  else headers

/-- The status a program has set, if it is one. -/
def outputStatus (status : Option Nat) : StatusCode := (status.bind StatusCode.fromU16).getD .ok

/-- `response_from_output`. -/
def responseFromOutput (body : Bytes) (headers : HeaderMap) (status : Option Nat) :
    GraphResponse :=
  ⟨.http11, outputStatus status, outputHeaders body.data headers, .full body.data⟩

/-- `response_from_output_stream`. -/
def responseFromOutputStream (stream : DownstreamResponseBodyStream) (headers : HeaderMap)
    (status : Option Nat) : GraphResponse :=
  ⟨.http11, outputStatus status, HeaderMap.mergeHeaders [] headers,
    .channel stream.sent stream.finished⟩

/-- `response_from_connect_tunnel`. -/
def responseFromConnectTunnel (headers : HeaderMap) : GraphResponse :=
  ⟨.http11, .ok,
    ((HeaderMap.mergeHeaders [] headers).remove .contentType).remove .contentLength, .full []⟩

/-- Set a header whose name is given as text. -/
def insertNamed (headers : HeaderMap) (name : String) (value : HeaderValue) : HeaderMap :=
  match HeaderName.fromBytes (ascii name) with
  | some name => headers.insert name value
  | none => headers

/-- `response_from_websocket_tunnel`; the caller does not look at the error. -/
def responseFromWebsocketTunnel (libraries : ResolutionLibraries) (requestHeaders : HeaderMap)
    (headers : HeaderMap) (selectedSubprotocol : Option (List Char)) : Option GraphResponse := do
  let name ← HeaderName.fromBytes (ascii "sec-websocket-key")
  let requestKey ← (requestHeaders.get name).bind HeaderValue.toStr
  let accept ← HeaderValue.fromBytes (libraries.deriveAcceptKey (toUtf8 requestKey))
  let upgrade ← HeaderValue.fromBytes (ascii "Upgrade")
  let websocket ← HeaderValue.fromBytes (ascii "websocket")
  let headers := (HeaderMap.mergeHeaders [] headers).insert .connection upgrade
  let headers := insertNamed (headers.insert .upgrade websocket) "sec-websocket-accept" accept
  let headers ←
    match selectedSubprotocol with
    | none => some headers
    | some subprotocol =>
      (HeaderValue.fromBytes (toUtf8 subprotocol)).map (insertNamed headers "sec-websocket-protocol")
  some ⟨.http11, .switchingProtocols,
    (headers.remove .contentType).remove .contentLength, .full []⟩

/-- `streaming_body_from_upstream_snapshot`. -/
def ResponseSnapshot.streamingBody (snapshot : ResponseSnapshot) : ResponseBody :=
  match snapshot.body with
  | none => .full []
  | some frames => .frames frames

/-- `response_from_upstream_snapshot_head`. -/
def responseFromUpstreamSnapshotHead (snapshot : ResponseSnapshot) (status : Nat)
    (headers : HeaderMap) : GraphResponse :=
  ⟨.http11, (StatusCode.fromU16 status).getD .ok, headers, snapshot.streamingBody⟩

/-- `filtered_snapshot_headers`. -/
def filteredSnapshotHeaders (snapshot : ResponseSnapshot) : HeaderMap :=
  HeaderMap.mergeHeaders [] (snapshot.headers.filter fun entry => !isHopByHopHeader entry.1)

/-- `response_from_upstream_snapshot`. -/
def responseFromUpstreamSnapshot (snapshot : ResponseSnapshot) (responseHeaders : HeaderMap)
    (responseStatus : Option Nat) : GraphResponse :=
  responseFromUpstreamSnapshotHead snapshot (responseStatus.getD snapshot.status)
    ((filteredSnapshotHeaders snapshot).mergeHeaders responseHeaders)

/-- `response_from_started_upstream_response`. -/
def responseFromStartedUpstreamResponse (response : NativeDefaultUpstreamForwardResponse)
    (responseHeaders : HeaderMap) (responseStatus : Option Nat) : GraphResponse :=
  ⟨response.version,
    (responseStatus.bind StatusCode.fromU16).getD ((StatusCode.fromU16 response.status).getD .ok),
    HeaderMap.mergeHeaders (response.headers.filter fun entry => !isHopByHopHeader entry.1)
      responseHeaders,
    response.snapshot.streamingBody⟩

/-! ## The graph -/

section

variable (libraries : ResolutionLibraries) (requestHeaders : HeaderMap)
  (answers : Int → ForwardResult) (context : ProxyVmContext)

/-- Where the response comes from that a start gives: the default exchange takes that of a
native forward. -/
def startSource (handle : Int) : ResponseSource :=
  match context.responses handle, context.nativeDefaultUpstreamForwardResponse with
  | none, some (.ok _) =>
    if handle = defaultUpstreamExchangeHandle then .nativeForward else .exchange handle
  | _, _ => .exchange handle

/-- The stored outcome that is looked at before everything else. -/
def nativeFastPath : Option ForwardResult :=
  if context.postResponsePlan.isNone && !context.responseOutput.hasLocalBody then
    context.nativeDefaultUpstreamForwardResponse
  else none

/-- The response for a stored outcome. -/
def resolveNativeOutcome : ForwardResult → Resolved
  | .ok response =>
    ⟨responseFromStartedUpstreamResponse response context.responseOutput.headers
      context.responseOutput.status, .nativeForward⟩
  | .error err => ⟨startFailure libraries err, .nativeForward⟩

/-- The receiving end of the stream, if it is committed once it may have been finished. -/
def openStream (finishResponseStream : Bool) (node : HttpResponseOutputNode) :
    Except VmError (Option DownstreamResponseBodyStream) :=
  match node.bodyStream with
  | none => .ok none
  | some stream =>
    match if finishResponseStream then stream.finish else (.ok false, stream) with
    | (.error err, _) => .error err
    | (.ok _, stream) =>
      if stream.committed then
        match stream.takeReceiver with
        | (.error err, _) => .error err
        | (.ok (), stream) => .ok (some stream)
      else .ok none

/-- The response before a tunnel. -/
def resolvePlan : DownstreamPostResponsePlan → Resolved
  | .connectTunnel => ⟨responseFromConnectTunnel context.responseOutput.headers, .tunnel⟩
  | .webSocketTunnel selectedSubprotocol =>
    ⟨(responseFromWebsocketTunnel libraries requestHeaders context.responseOutput.headers
      selectedSubprotocol).getD (internalServerError "internal server error".toList), .tunnel⟩

/-- The response with the body of a chosen exchange. -/
def resolveExchange (exchange : Int) : Resolved :=
  match (context.startOutboundExchangeResponse (answers exchange) exchange).1 with
  | .ok snapshot =>
    ⟨responseFromUpstreamSnapshotHead snapshot
      (context.responseOutput.status.getD snapshot.status) context.responseOutput.headers,
      startSource context exchange⟩
  | .error .missingTarget => ⟨notFound, .exchange exchange⟩
  | .error err => ⟨startFailure libraries err, .exchange exchange⟩

/-- `try_resolve_native_default_upstream_http_forward_response`. -/
def tryResolveNativeForward : Except UpstreamResponseStartError (Option GraphResponse) :=
  if context.route.isWebsocketMode then
    .error (.protocol "default upstream exchange is already owned by the websocket DAG")
  else if context.route.attachedTransport then .ok none
  else if !context.route.hasTarget then .error .missingTarget
  else if context.route.useHttp2 || context.route.useHttp3 then .ok none
  else if !context.route.plainHttp1SenderPool then .error .missingClient
  else
    match answers defaultUpstreamExchangeHandle with
    | .error err => .error err
    | .ok response =>
      .ok (some (if context.route.outboundHttp1FastPathEligible then
        responseFromStartedUpstreamResponse response context.responseOutput.headers
          context.responseOutput.status
      else
        responseFromUpstreamSnapshot response.snapshot context.responseOutput.headers
          context.responseOutput.status))

/-- A native forward is active and has given no response to the exchange. -/
def forwardPending : Bool :=
  context.nativeDefaultUpstreamHttpForward && (context.responses defaultUpstreamExchangeHandle).isNone

/-- The response of a native forward that is active. -/
def resolvePending : Option Resolved :=
  if forwardPending context then
    match context.nativeDefaultUpstreamForwardResponse with
    | some (.ok response) => some (resolveNativeOutcome libraries context (.ok response))
    | _ =>
      match tryResolveNativeForward answers context with
      | .ok none => none
      | .ok (some response) => some ⟨response, .exchange defaultUpstreamExchangeHandle⟩
      | .error .missingTarget => none
      | .error err => some ⟨startFailure libraries err, .exchange defaultUpstreamExchangeHandle⟩
  else none

/-- The default exchange has a response, or can get one. -/
def upstreamConfigured : Bool :=
  (context.responses defaultUpstreamExchangeHandle).isSome ||
    context.route.hasTarget && !context.route.isWebsocketMode

/-- The response of the default exchange. -/
def resolveUpstream : Resolved :=
  if upstreamConfigured context then
    match (context.startOutboundExchangeResponse (answers defaultUpstreamExchangeHandle)
      defaultUpstreamExchangeHandle).1 with
    | .ok snapshot =>
      ⟨responseFromUpstreamSnapshot snapshot context.responseOutput.headers
        context.responseOutput.status, startSource context defaultUpstreamExchangeHandle⟩
    | .error .missingTarget => ⟨notFound, .nobody⟩
    | .error err => ⟨startFailure libraries err, .exchange defaultUpstreamExchangeHandle⟩
  else ⟨notFound, .nobody⟩

/-- The response without one of the program. -/
def resolveForwarded : Resolved :=
  match context.responseOutput.bodySourceExchange with
  | some exchange => resolveExchange libraries answers context exchange
  | none =>
    match resolvePending libraries answers context with
    | some resolved => resolved
    | none =>
      resolveUpstream libraries answers
        (if forwardPending context then context.takeForward else context)

/-- `resolve_http_graph_response_inner`. -/
def resolveHttpGraphResponseInner (finishResponseStream : Bool) : Resolved :=
  match nativeFastPath context with
  | some outcome => resolveNativeOutcome libraries context outcome
  | none =>
    match openStream finishResponseStream context.responseOutput with
    | .error err => ⟨internalServerError (libraries.display err), .program⟩
    | .ok stream =>
      match context.postResponsePlan, context.responseOutput.body, stream with
      | some plan, _, _ => resolvePlan libraries requestHeaders context plan
      | none, some body, _ =>
        ⟨responseFromOutput body context.responseOutput.headers context.responseOutput.status,
          .program⟩
      | none, none, some stream =>
        ⟨responseFromOutputStream stream context.responseOutput.headers
          context.responseOutput.status, .program⟩
      | none, none, none => resolveForwarded libraries answers context

/-- `resolve_http_graph_response`. -/
def resolveHttpGraphResponse : Resolved :=
  resolveHttpGraphResponseInner libraries requestHeaders answers context true

/-- `resolve_committed_http_graph_response`. -/
def resolveCommittedHttpGraphResponse : Resolved :=
  resolveHttpGraphResponseInner libraries requestHeaders answers context false

/-! ## The shortcuts of HTTP/1 -/

/-- `try_take_native_local_http1_downstream_response`. -/
def tryTakeNativeLocal : Option ResolvedNativeLocalHttp1DownstreamResponse :=
  if context.postResponsePlan.isSome || context.responseOutput.streamCommitted ||
      context.responseOutput.bodySourceExchange.isSome then none
  else context.responseOutput.body.map fun body =>
    ⟨context.responseOutput.status.getD 200, context.responseOutput.headers, body, true⟩

/-- `try_resolve_native_http1_downstream_response`, and the context behind it. -/
def tryResolveNative :
    Option (Except GraphResponse ResolvedNativeHttp1DownstreamResponse) × ProxyVmContext :=
  if context.postResponsePlan.isSome || context.responseOutput.hasLocalBody ||
      !context.nativeDefaultUpstreamHttpForward ||
      context.bodyReads.contains defaultUpstreamExchangeHandle then (none, context)
  else
    match context.nativeDefaultUpstreamForwardResponse with
    | none => (none, context)
    | some (.error .missingTarget) => (none, context.takeForward)
    | some (.error err) =>
      (some (.error (startFailure libraries err)), context.clearNativeDefaultUpstreamHttpForward)
    | some (.ok response) =>
      (some (.ok ⟨response.status, response.headers, response.version, response.body,
        context.responseOutput.headers, context.responseOutput.status⟩),
        context.clearNativeDefaultUpstreamHttpForward)

/-- The exchange whose response a shortcut uses, and the headers it makes of those of the
response. -/
def snapshotPlan : Option (Int × (HeaderMap → SnapshotHttp1DownstreamHeaders)) :=
  if context.postResponsePlan.isSome || context.responseOutput.hasLocalBody then none
  else
    match context.responseOutput.bodySourceExchange with
    | some exchange =>
      if context.bodyReads.contains exchange then none
      else some (exchange, fun _ => .explicit context.responseOutput.headers)
    | none =>
      if upstreamConfigured context then
        some (defaultUpstreamExchangeHandle, fun base =>
          .snapshot base context.responseOutput.headers)
      else none

/-- `try_resolve_snapshot_http1_downstream_response`, with the source of the response and the
context behind it. -/
def tryResolveSnapshot :
    Option (ResponseSource × Except GraphResponse ResolvedSnapshotHttp1DownstreamResponse) ×
      ProxyVmContext :=
  match snapshotPlan context with
  | none => (none, context)
  | some (exchange, headers) =>
    match context.startOutboundExchangeResponse (answers exchange) exchange with
    | (.ok snapshot, after) =>
      (some (startSource context exchange,
        .ok ⟨context.responseOutput.status.getD snapshot.status, headers snapshot.headers, .http11,
          snapshot.body⟩), after)
    | (.error .missingTarget, after) => (none, after)
    | (.error err, after) => (some (.exchange exchange, .error (startFailure libraries err)), after)

/-- `Http1DownstreamResolution`. -/
inductive Http1Resolution where
  | nativeLocal (resolved : ResolvedNativeLocalHttp1DownstreamResponse)
  | native (result : Except GraphResponse ResolvedNativeHttp1DownstreamResponse)
  | snapshot (source : ResponseSource)
    (result : Except GraphResponse ResolvedSnapshotHttp1DownstreamResponse)
  | graph (resolved : Resolved)

/-- `resolve_http1_downstream_response`. -/
def resolveHttp1DownstreamResponse : Http1Resolution :=
  match tryTakeNativeLocal context with
  | some resolved => .nativeLocal resolved
  | none =>
    match tryResolveNative libraries context with
    | (some result, _) => .native result
    | (none, context) =>
      match tryResolveSnapshot libraries answers context with
      | (some (source, result), _) => .snapshot source result
      | (none, context) =>
        .graph (resolveHttpGraphResponse libraries requestHeaders answers context)

end

/-! ## What the client sees of a response -/

/-- The headers that say how a body is delimited and whether the connection is kept; each writer
sets them for itself. -/
def framesMessage (name : HeaderName) : Bool :=
  name = .contentLength || name = .transferEncoding || name = .connection

/-- The values of the other headers. -/
def visibleHeaders (headers : HeaderMap) (name : HeaderName) : List HeaderValue :=
  if framesMessage name then [] else headers.getAll name

/-- The status, the headers and the body of a response, and its source. -/
structure Seen where
  status : StatusCode
  headers : HeaderName → List HeaderValue
  body : List UInt8
  source : ResponseSource

/-- A response as the client sees it. -/
def Resolved.seen (resolved : Resolved) : Seen :=
  ⟨resolved.response.status, visibleHeaders resolved.response.headers,
    resolved.response.body.content, resolved.source⟩

/-- The headers that `write_native_local_http1_response` writes, without those for the framing. -/
def nativeLocalHeaders (method : Method) (resolved : ResolvedNativeLocalHttp1DownstreamResponse) :
    HeaderMap :=
  let status := (StatusCode.fromU16 resolved.status).getD .ok
  if resolved.defaultContentType && !http1ResponseHasNoBody status method &&
      !resolved.body.data.isEmpty && !resolved.headers.containsKey .contentType then
    resolved.headers.insert .contentType .textPlain
  else resolved.headers

/-- What the client sees of the response that each writer of HTTP/1 is given. -/
def Http1Resolution.seen (method : Method) : Http1Resolution → Seen
  | .nativeLocal resolved =>
    ⟨(StatusCode.fromU16 resolved.status).getD .ok,
      visibleHeaders (nativeLocalHeaders method resolved), resolved.body.data, .program⟩
  | .native (.ok resolved) =>
    ⟨resolved.statusCode, visibleHeaders resolved.preparedHeaders,
      resolved.body.frames.flatMap Frame.payload, .nativeForward⟩
  | .native (.error response) => Resolved.seen ⟨response, .nativeForward⟩
  | .snapshot source (.ok resolved) =>
    ⟨(StatusCode.fromU16 resolved.status).getD .ok, visibleHeaders resolved.headers.view,
      (resolved.body.getD []).flatMap Frame.payload, source⟩
  | .snapshot source (.error response) => Resolved.seen ⟨response, source⟩
  | .graph resolved => resolved.seen

/-! ## Streams -/

section

variable (libraries : ResolutionLibraries) (requestHeaders : HeaderMap)
  (answers : Int → ForwardResult) {context : ProxyVmContext}

theorem startSource_ne (context : ProxyVmContext) (handle : Int) :
    startSource context handle ≠ .program := by
  rw [startSource]
  split
  · split <;> simp
  · simp

theorem resolveUpstream_source (context : ProxyVmContext) :
    (resolveUpstream libraries answers context).source ≠ .program := by
  rw [resolveUpstream]
  split
  · split <;> first | exact startSource_ne _ _ | simp
  · simp

/-- A response that no program made is not the program's. -/
theorem resolveForwarded_source {context : ProxyVmContext} :
    (resolveForwarded libraries answers context).source ≠ .program := by
  rw [resolveForwarded]
  split
  · rw [resolveExchange]
    split <;> first | exact startSource_ne _ _ | simp
  split
  · rename_i resolved found
    rw [resolvePending] at found
    split at found
    · split at found
      · cases found
        simp [resolveNativeOutcome]
      · split at found <;> cases found <;> simp
    · cases found
  · exact resolveUpstream_source libraries answers _

variable {stream : DownstreamResponseBodyStream}

/-- Finishing a stream that is used opens it with all that was written. -/
theorem openStream_finish {node : HttpResponseOutputNode} (held : node.bodyStream = some stream)
    (sound : stream.Sound) (heard : stream.heard) (receiver : stream.receiver) :
    ∃ after : DownstreamResponseBodyStream, after.sent.flatten = stream.written ∧
      after.finished = true ∧
      openStream true node = .ok (if stream.commits then some after else none) := by
  obtain ⟨⟨now, ok⟩, -, same, ended, -, whole, committed⟩ := stream.finish_spec sound heard
  refine ⟨{ stream.finish.2 with receiver := false }, whole, ended, ?_⟩
  have there := same.trans receiver
  rw [openStream, held]
  dsimp only [↓reduceIte]
  generalize stream.finish = result at ok there committed
  obtain ⟨outcome, after⟩ := result
  cases used : stream.commits <;> simp_all [DownstreamResponseBodyStream.takeReceiver]

/-- With a stream that is used, the response is the program's; with another one it is that of an
exchange. -/
theorem resolveHttpGraphResponse_stream (sound : context.Sound)
    (unplanned : context.postResponsePlan = none)
    (held : context.responseOutput.bodyStream = some stream) :
    ∃ after : DownstreamResponseBodyStream, after.sent.flatten = stream.written ∧
      after.finished = true ∧
      resolveHttpGraphResponse libraries requestHeaders answers context = if stream.commits then
          ⟨responseFromOutputStream after context.responseOutput.headers
            context.responseOutput.status, .program⟩
        else resolveForwarded libraries answers context := by
  obtain ⟨order, heard, receiver⟩ := sound.output.stream stream held
  obtain ⟨after, whole, ended, opened⟩ := openStream_finish held order heard receiver
  have free := (sound.output.streams (by simp [held])).1
  have local' : nativeFastPath context = none := by simp [nativeFastPath, hasLocalBody, held]
  refine ⟨after, whole, ended, ?_⟩
  rw [resolveHttpGraphResponse, resolveHttpGraphResponseInner, local', opened, unplanned, free]
  cases stream.commits <;> rfl

/-- With a stream there is no shortcut. -/
theorem resolveHttp1_stream (sound : context.Sound)
    (held : context.responseOutput.bodyStream.isSome) :
    resolveHttp1DownstreamResponse libraries requestHeaders answers context =
      .graph (resolveHttpGraphResponse libraries requestHeaders answers context) := by
  have free := (sound.output.streams held).1
  have present : context.responseOutput.hasLocalBody = true := by simp [hasLocalBody, held]
  have first : tryTakeNativeLocal context = none := by
    rw [tryTakeNativeLocal, free]
    split <;> rfl
  have second : tryResolveNative libraries context = (none, context) := by
    simp [tryResolveNative, present]
  have third : tryResolveSnapshot libraries answers context = (none, context) := by
    simp [tryResolveSnapshot, snapshotPlan, present]
  rw [resolveHttp1DownstreamResponse, first, second]
  dsimp only
  rw [third]

end

section

variable (libraries : ResolutionLibraries) (requestHeaders : HeaderMap)
  (answers : Int → ForwardResult) {context : ProxyVmContext} {body : Bytes}

section

variable (sound : context.Sound)
include sound

/-- With a body in memory there is neither a stream nor an exchange. -/
theorem alone_of_body (held : context.responseOutput.body = some body) :
    context.responseOutput.bodyStream = none ∧
      context.responseOutput.bodySourceExchange = none := by
  refine ⟨?_, sound.output.buffers (by simp [held])⟩
  by_contra streamed
  have free := (sound.output.streams (Option.isSome_iff_ne_none.mpr streamed)).1
  rw [held] at free
  cases free

/-- A body in memory is the response of the graph. -/
theorem resolveHttpGraphResponse_body (unplanned : context.postResponsePlan = none)
    (held : context.responseOutput.body = some body) :
    resolveHttpGraphResponse libraries requestHeaders answers context =
      ⟨responseFromOutput body context.responseOutput.headers context.responseOutput.status,
        .program⟩ := by
  simp [resolveHttpGraphResponse, resolveHttpGraphResponseInner, nativeFastPath, unplanned,
    hasLocalBody, held, openStream, (alone_of_body sound held).1]

/-- A body in memory is written by the writer of local responses. -/
theorem resolveHttp1_body (unplanned : context.postResponsePlan = none)
    (held : context.responseOutput.body = some body) :
    resolveHttp1DownstreamResponse libraries requestHeaders answers context =
      .nativeLocal ⟨context.responseOutput.status.getD 200, context.responseOutput.headers, body,
        true⟩ := by
  obtain ⟨unstreamed, loose⟩ := alone_of_body sound held
  simp [resolveHttp1DownstreamResponse, tryTakeNativeLocal, unplanned, loose, held,
    streamCommitted, unstreamed]

end

theorem localStatus (status : Option Nat) :
    (StatusCode.fromU16 (status.getD 200)).getD .ok = outputStatus status := by
  cases status <;> rfl

end

end PdEdge.Output

import PdEdge.Downstream.Http10
import PdEdge.Output.Fidelity

/-!
# The shortcuts of HTTP/1 against the graph

The same context is resolved by `resolve_http_graph_response` and, on an HTTP/1 connection, by
one of three shortcuts before it. `Selection` says which body a program has chosen, `intended`
what the client should see of it: every value of a header that the program gave, over the values
of the upstream. The two resolutions show that same response exactly under the condition
`Agreeing`, which looks at the context alone.
-/

namespace PdEdge.Output

open Downstream State HeaderMap

/-! ## What the program has selected -/

/-- The body that a program has selected for the response. -/
inductive Selection where
  | tunnel
  | body (body : Bytes)
  | stream (stream : DownstreamResponseBodyStream)
  | exchange (handle : Int)
  | forward (outcome : ForwardResult)
  | upstream

/-- The selection that a context holds: the body of the program before that of an exchange, and
the stored outcome of a native forward before the response of the default exchange. -/
def selection (context : ProxyVmContext) : Selection :=
  if context.postResponsePlan.isSome then .tunnel
  else
    match context.responseOutput.body, context.responseOutput.bodyStream,
      context.responseOutput.bodySourceExchange, context.nativeDefaultUpstreamForwardResponse with
    | some body, _, _, _ => .body body
    | none, some stream, _, _ => .stream stream
    | none, none, some exchange, _ => .exchange exchange
    | none, none, none, some outcome => .forward outcome
    | none, none, none, none => .upstream

/-- A body has a content type, the one of the program or the default one. -/
def typedHeaders (body : List UInt8) (headers : HeaderMap) : HeaderMap :=
  if !body.isEmpty && !headers.containsKey .contentType then
    headers.insert .contentType .textPlain
  else headers

/-- The headers of an upstream response, without those of the hop, under those of the program. -/
def overlaid (base overlay : HeaderMap) (name : HeaderName) : List HeaderValue :=
  if framesMessage name then []
  else if overlay.containsKey name then overlay.getAll name
  else if isHopByHopHeader name then []
  else base.getAll name

/-- The status of the program, or else that of the upstream. -/
def statusOver (status : Option Nat) (upstream : Nat) : StatusCode :=
  (StatusCode.fromU16 (status.getD upstream)).getD .ok

section

variable (libraries : ResolutionLibraries) (answers : Int → ForwardResult)
  (context : ProxyVmContext)

/-- The response of an exchange: the one that is ready, or the answer to its request. -/
def answered (handle : Int) : Except UpstreamResponseStartError ResponseSnapshot :=
  match context.responses handle with
  | some snapshot => .ok snapshot
  | none => (answers handle).map NativeDefaultUpstreamForwardResponse.snapshot

/-- What the client is to see of an exchange that is selected. -/
def intendedExchange (handle : Int) : Seen :=
  match answered answers context handle with
  | .ok snapshot =>
    ⟨statusOver context.responseOutput.status snapshot.status,
      visibleHeaders context.responseOutput.headers, snapshot.streamingBody.content,
      .exchange handle⟩
  | .error .missingTarget => Resolved.seen ⟨notFound, .exchange handle⟩
  | .error err => Resolved.seen ⟨startFailure libraries err, .exchange handle⟩

/-- What the client is to see of an outcome that is stored. -/
def intendedForward : ForwardResult → Seen
  | .ok response =>
    ⟨statusOver context.responseOutput.status response.status,
      overlaid response.headers context.responseOutput.headers,
      response.body.frames.flatMap Frame.payload, .nativeForward⟩
  | .error err => Resolved.seen ⟨startFailure libraries err, .nativeForward⟩

/-- What the client is to see of the default exchange, if that has a target. -/
def intendedUpstream : Option Seen :=
  if upstreamConfigured context then
    match answered answers context defaultUpstreamExchangeHandle with
    | .ok snapshot => some ⟨statusOver context.responseOutput.status snapshot.status,
        overlaid snapshot.headers context.responseOutput.headers, snapshot.streamingBody.content,
        .exchange defaultUpstreamExchangeHandle⟩
    | .error .missingTarget => none
    | .error err =>
      some (Resolved.seen ⟨startFailure libraries err, .exchange defaultUpstreamExchangeHandle⟩)
  else none

/-- What the client is to see of a selection; a tunnel has no response of its own, and neither
has a request without an upstream. -/
def intended : Selection → Option Seen
  | .tunnel => none
  | .body body => some ⟨outputStatus context.responseOutput.status,
      visibleHeaders (typedHeaders body.data context.responseOutput.headers), body.data, .program⟩
  | .stream stream => some
    ⟨outputStatus context.responseOutput.status, visibleHeaders context.responseOutput.headers,
      stream.written, .program⟩
  | .exchange handle => some (intendedExchange libraries answers context handle)
  | .forward outcome => some (intendedForward libraries context outcome)
  | .upstream => intendedUpstream libraries answers context

end

/-- Both resolutions of a context show the client the same response, the one of the body that
the program has selected. -/
structure Agrees (libraries : ResolutionLibraries) (requestHeaders : HeaderMap)
    (answers : Int → ForwardResult) (method : Method) (context : ProxyVmContext) : Prop where
  same : (resolveHttp1DownstreamResponse libraries requestHeaders answers context).seen method =
    (resolveHttpGraphResponse libraries requestHeaders answers context).seen
  right : ∀ seen ∈ intended libraries answers context (selection context),
    (resolveHttpGraphResponse libraries requestHeaders answers context).seen = seen

/-! ## When they agree -/

/-- No header outside the framing has more than one value. -/
def Unrepeated (headers : HeaderMap) : Prop :=
  ∀ name, framesMessage name = false → (headers.getAll name).length ≤ 1

/-- No header of the upstream that is shown has more than one value. -/
def UnrepeatedUnder (base overlay : HeaderMap) : Prop :=
  ∀ name, framesMessage name = false → isHopByHopHeader name = false →
    overlay.containsKey name = false → (base.getAll name).length ≤ 1

/-- The graph sends the request of the default exchange on the path of native forwards. -/
def sendsNatively (context : ProxyVmContext) : Bool :=
  forwardPending context && !context.route.attachedTransport &&
    !(context.route.useHttp2 || context.route.useHttp3) &&
    context.route.outboundHttp1FastPathEligible

/-- When the resolutions agree on a selection. -/
def Agreeing (answers : Int → ForwardResult) (method : Method) (context : ProxyVmContext) :
    Selection → Prop
  | .tunnel => True
  | .body body => Unrepeated context.responseOutput.headers ∧
    (body.data = [] ∨
      http1ResponseHasNoBody (outputStatus context.responseOutput.status) method = false ∨
      context.responseOutput.headers.containsKey .contentType)
  | .stream stream => stream.commits ∧ Unrepeated context.responseOutput.headers
  | .exchange _ => context.nativeDefaultUpstreamForwardResponse = none
  | .forward (.ok _) => Unrepeated context.responseOutput.headers ∧
    (defaultUpstreamExchangeHandle ∈ context.bodyReads →
      context.responses defaultUpstreamExchangeHandle = none)
  | .forward (.error err) =>
    if defaultUpstreamExchangeHandle ∈ context.bodyReads then upstreamConfigured context = false
    else err ≠ .missingTarget
  | .upstream => ∀ snapshot, upstreamConfigured context →
    answered answers context defaultUpstreamExchangeHandle = .ok snapshot →
    Unrepeated context.responseOutput.headers ∧
      (sendsNatively context ∨ UnrepeatedUnder snapshot.headers context.responseOutput.headers)

/-! ## Headers -/

section

variable (base overlay target headers : HeaderMap)

/-- Merging into nothing shows all headers exactly if none is repeated. -/
theorem visible_merge_nil_iff :
    visibleHeaders (mergeHeaders [] headers) = visibleHeaders headers ↔ Unrepeated headers := by
  rw [funext_iff]
  refine forall_congr' fun name => ?_
  rw [visibleHeaders, visibleHeaders]
  cases framesMessage name with
  | true => simp
  | false => simp [getAll_merge_nil_iff]

/-- The last of several values is not all of them. -/
theorem getLast_only_iff {values : List HeaderValue} (some : values ≠ [])
    (others : List HeaderValue) :
    (values.getLast?.map fun value => [value]).getD others = values ↔ values.length ≤ 1 := by
  rcases values with - | ⟨first, - | ⟨second, rest⟩⟩
  · contradiction
  · simp
  · refine iff_of_false (fun same => ?_) (by simp)
    have lengths := congrArg List.length same
    simp [List.getLast?_cons] at lengths

/-- Merging shows what it should exactly if the overlay repeats nothing and the target has the
values of the base. -/
theorem visible_merge_iff :
    visibleHeaders (target.mergeHeaders overlay) = overlaid base overlay ↔
      Unrepeated overlay ∧ ∀ name, framesMessage name = false →
        overlay.containsKey name = false →
        target.getAll name = if isHopByHopHeader name then [] else base.getAll name := by
  rw [funext_iff, Unrepeated, ← forall_and]
  refine forall_congr' fun name => ?_
  rw [visibleHeaders, overlaid, getAll_mergeHeaders]
  cases framesMessage name with
  | true => simp
  | false =>
    cases given : overlay.containsKey name with
    | true =>
      have there := (overlay.containsKey_iff name).mp given
      simp [getLast_only_iff there]
    | false => simp [getAll_absent given]

variable {name : HeaderName}

theorem getAll_unhopped :
    getAll (base.filter fun entry => !isHopByHopHeader entry.1) name =
      if isHopByHopHeader name then [] else base.getAll name := by
  rw [getAll_filter base name fun name => !isHopByHopHeader name]
  cases isHopByHopHeader name <;> rfl

/-- Over the headers as the upstream sent them, only those of the program can be lost. -/
theorem visible_native_iff :
    visibleHeaders (mergeHeaders
      (base.filter fun entry => !isHopByHopHeader entry.1) overlay) = overlaid base overlay ↔
      Unrepeated overlay := by
  rw [visible_merge_iff]
  exact and_iff_left fun name _ _ => getAll_unhopped base

/-- Over the headers of a snapshot that were merged before, those of the upstream can be lost
too. -/
theorem visible_snapshot_iff :
    visibleHeaders (mergeHeaders (mergeHeaders []
      (base.filter fun entry => !isHopByHopHeader entry.1)) overlay) = overlaid base overlay ↔
      Unrepeated overlay ∧ UnrepeatedUnder base overlay := by
  rw [visible_merge_iff]
  refine and_congr_right fun _ => forall_congr' fun name => ?_
  rw [← getAll_unhopped base, getAll_merge_nil_iff, getAll_unhopped]
  cases isHopByHopHeader name <;> simp

/-- The headers of a snapshot are written over those of the upstream with every value. -/
theorem visible_view :
    visibleHeaders (SnapshotHttp1DownstreamHeaders.view (.snapshot base overlay)) =
      overlaid base overlay := by
  funext name
  rw [visibleHeaders, overlaid, SnapshotHttp1DownstreamHeaders.getAll_view]

/-- A header of the framing is not seen. -/
theorem visible_insert (frames : framesMessage name) (value : HeaderValue) :
    visibleHeaders (headers.insert name value) = visibleHeaders headers := by
  funext other
  rw [visibleHeaders, visibleHeaders, getAll_insert]
  by_cases same : other = name
  · simp [same, frames]
  · simp [same]

/-- The length that is put in front of a native body is not seen. -/
theorem visible_prepared (native : ResolvedNativeHttp1DownstreamResponse) :
    visibleHeaders native.preparedHeaders = visibleHeaders (mergeHeaders
      (native.headers.filter fun entry => !isHopByHopHeader entry.1) native.responseHeaders) := by
  rw [ResolvedNativeHttp1DownstreamResponse.preparedHeaders]
  split
  · split
    · exact visible_insert _ (by decide) _
    · rfl
  · rfl

/-- Adding one header to two maps that lack it does not change whether they show the same. -/
theorem visible_insert_iff {headers others : HeaderMap}
    (absent : headers.containsKey name = false) (missing : others.containsKey name = false)
    (value : HeaderValue) :
    visibleHeaders (headers.insert name value) = visibleHeaders (others.insert name value) ↔
      visibleHeaders headers = visibleHeaders others := by
  rw [funext_iff, funext_iff]
  refine forall_congr' fun other => ?_
  simp only [visibleHeaders, getAll_insert]
  by_cases same : other = name
  · subst same
    simp [getAll_absent absent, getAll_absent missing]
  · simp [same]

/-- The headers of `response_from_output` are those they should be exactly if none is
repeated. -/
theorem visible_output_iff (body : List UInt8) :
    visibleHeaders (outputHeaders body headers) = visibleHeaders (typedHeaders body headers) ↔
      Unrepeated headers := by
  rw [← visible_merge_nil_iff]
  have kept := containsKey_merge_nil headers .contentType
  cases empty : body.isEmpty with
  | true =>
    have same : visibleHeaders (outputHeaders body headers) =
        visibleHeaders (mergeHeaders [] headers) := by
      simp only [outputHeaders, empty, ↓reduceIte]
      split
      · rfl
      · split
        · exact visible_insert _ (by decide) _
        · rfl
    simp [same, typedHeaders, empty]
  | false =>
    cases given : headers.containsKey .contentType with
    | true => simp [outputHeaders, typedHeaders, empty, kept, given]
    | false =>
      simp only [outputHeaders, typedHeaders, empty, kept, given, Bool.false_eq_true, ↓reduceIte,
        Bool.not_false, Bool.and_self]
      exact visible_insert_iff (kept.trans given) given _

/-- The writer of local responses leaves the default content type out where it writes no body. -/
theorem visible_local_iff (method : Method) (status : Nat) (body : Bytes) :
    visibleHeaders (nativeLocalHeaders method ⟨status, headers, body, true⟩) =
        visibleHeaders (typedHeaders body.data headers) ↔
      body.data = [] ∨
        http1ResponseHasNoBody ((StatusCode.fromU16 status).getD .ok) method = false ∨
        headers.containsKey .contentType := by
  rw [nativeLocalHeaders, typedHeaders]
  cases http1ResponseHasNoBody ((StatusCode.fromU16 status).getD .ok) method with
  | false => simp
  | true =>
    cases given : headers.containsKey .contentType with
    | true => simp
    | false =>
      cases empty : body.data with
      | nil => simp
      | cons byte rest =>
        refine iff_of_false (fun same => ?_) (by simp)
        have differ := congrFun same .contentType
        have plain : framesMessage .contentType = false := by decide
        simp [visibleHeaders, getAll_insert, getAll_absent given, plain] at differ

end

/-! ## Starting an exchange -/

section

variable (answers : Int → ForwardResult) {context : ProxyVmContext}

/-- Without a stored outcome a start gives the response of the exchange. -/
theorem start_unstored (unstored : context.nativeDefaultUpstreamForwardResponse = none)
    (handle : Int) :
    (context.startOutboundExchangeResponse (answers handle) handle).1 =
      answered answers context handle := by
  rw [ProxyVmContext.startOutboundExchangeResponse, answered, unstored]
  cases context.responses handle with
  | some snapshot => rfl
  | none =>
    dsimp only
    cases answers handle <;> split <;> rfl

variable {answer : ForwardResult} {handle : Int} {err : UpstreamResponseStartError}

/-- A start that fails takes the outcome that is stored for its exchange. -/
theorem start_failed
    (failed : (context.startOutboundExchangeResponse answer handle).1 = .error err) :
    (context.startOutboundExchangeResponse answer handle).2 =
      if handle = defaultUpstreamExchangeHandle then context.takeForward else context := by
  have sent (context : ProxyVmContext)
      (failed : (context.sendExchangeRequest answer handle).1 = .error err) :
      (context.sendExchangeRequest answer handle).2 = context := by
    cases answer with
    | error err => rfl
    | ok response => cases failed
  rw [ProxyVmContext.startOutboundExchangeResponse] at failed ⊢
  split at failed
  · cases failed
  split at failed
  · rename_i default
    split at failed
    · cases failed
    · rw [if_pos default, if_pos default]
      exact sent _ failed
  · rename_i other
    rw [if_neg other, if_neg other]
    exact sent _ failed

section

variable (unstored : context.nativeDefaultUpstreamForwardResponse = none)
include unstored

theorem takeForward_unstored : context.takeForward = context := by
  rw [ProxyVmContext.takeForward, ← unstored]

theorem start_failed_unstored
    (failed : (context.startOutboundExchangeResponse answer handle).1 = .error err) :
    (context.startOutboundExchangeResponse answer handle).2 = context := by
  rw [start_failed failed, takeForward_unstored unstored, ite_self]

end

/-- Unless a response is stored for it, the response of a start is that of the exchange. -/
theorem startSource_exchange
    (unstored : ∀ response, context.nativeDefaultUpstreamForwardResponse = some (.ok response) →
      (context.responses handle).isSome) : startSource context handle = .exchange handle := by
  rw [startSource]
  split
  · rename_i response unanswered stored
    simp [unanswered] at unstored
    exact absurd stored (unstored response)
  · rfl

/-- The body of a response is the same as a native body and as that of a snapshot. -/
theorem snapshot_content (response : NativeDefaultUpstreamForwardResponse) :
    response.snapshot.streamingBody.content = response.body.frames.flatMap Frame.payload := by
  rw [NativeDefaultUpstreamForwardResponse.snapshot, ResponseSnapshot.streamingBody]
  by_cases known : response.body.knownLength = some 0
  · simp [known, response.settled known, ResponseBody.content]
  · simp [known, ResponseBody.content]

/-- The body of a snapshot is the same to its writer and as the body of a response. -/
theorem streamingBody_content (snapshot : ResponseSnapshot) :
    snapshot.streamingBody.content = (snapshot.body.getD []).flatMap Frame.payload := by
  rw [ResponseSnapshot.streamingBody]
  cases snapshot.body <;> rfl

/-- A status that is one replaces that of the upstream in both forms. -/
theorem statusOver_eq {status : Option Nat} (valid : ∀ code ∈ status, 100 ≤ code ∧ code < 1000)
    (upstream : Nat) :
    (status.bind StatusCode.fromU16).getD ((StatusCode.fromU16 upstream).getD .ok) =
      statusOver status upstream := by
  cases status with
  | none => rfl
  | some code =>
    have range := valid code rfl
    simp [statusOver, StatusCode.fromU16, range]

end

/-! ## The selections one by one -/

section

variable {libraries : ResolutionLibraries} {requestHeaders : HeaderMap}
  {answers : Int → ForwardResult} {method : Method} {context : ProxyVmContext}

/-- Without a shortcut the resolution is that of the graph. -/
theorem seen_graph (first : tryTakeNativeLocal context = none)
    (unresolved : tryResolveNative libraries context = (none, context))
    (unplanned : snapshotPlan context = none) :
    (resolveHttp1DownstreamResponse libraries requestHeaders answers context).seen method =
      (resolveHttpGraphResponse libraries requestHeaders answers context).seen := by
  rw [resolveHttp1DownstreamResponse, first, unresolved]
  dsimp only
  rw [tryResolveSnapshot, unplanned]
  rfl

theorem tryTakeNativeLocal_free (free : context.responseOutput.body = none) :
    tryTakeNativeLocal context = none := by
  simp [tryTakeNativeLocal, free]

/-- With a plan there is no shortcut. -/
theorem agrees_tunnel (planned : context.postResponsePlan.isSome) :
    Agrees libraries requestHeaders answers method context := by
  have selected : selection context = .tunnel := by rw [selection, if_pos planned]
  exact ⟨seen_graph (by simp [tryTakeNativeLocal, planned]) (by simp [tryResolveNative, planned])
    (by simp [snapshotPlan, planned]), by simp [selected, intended]⟩

/-- A body in memory is written by the writer of local responses. -/
theorem agrees_body_iff (sound : context.Sound) (unplanned : context.postResponsePlan = none)
    {body : Bytes} (held : context.responseOutput.body = some body) :
    Agrees libraries requestHeaders answers method context ↔
      Agreeing answers method context (.body body) := by
  have selected : selection context = .body body := by simp [selection, unplanned, held]
  have status := localStatus context.responseOutput.status
  have fast := resolveHttp1_body libraries requestHeaders answers sound unplanned held
  have graph := resolveHttpGraphResponse_body libraries requestHeaders answers sound unplanned held
  have local' := visible_local_iff context.responseOutput.headers method
    (context.responseOutput.status.getD 200) body
  have output := visible_output_iff context.responseOutput.headers body.data
  rw [status] at local'
  rw [Agreeing, ← local', ← output]
  constructor
  · rintro ⟨same, right⟩
    rw [selected] at right
    have shown := right _ rfl
    rw [graph] at same shown
    rw [fast] at same
    have programs := congrArg Seen.headers (same.trans shown)
    exact ⟨congrArg Seen.headers shown, programs⟩
  · rintro ⟨merged, typed⟩
    refine ⟨?_, ?_⟩
    · rw [fast, graph, Http1Resolution.seen, Resolved.seen, status, typed, ← merged]
      rfl
    rw [selected, graph]
    intro seen intends
    cases intends
    rw [Resolved.seen, ← merged]
    rfl

/-- The receiving end of a stream is used by the graph alone. -/
theorem agrees_stream_iff (sound : context.Sound) (unplanned : context.postResponsePlan = none)
    {stream : DownstreamResponseBodyStream}
    (held : context.responseOutput.bodyStream = some stream) :
    Agrees libraries requestHeaders answers method context ↔
      Agreeing answers method context (.stream stream) := by
  have free := (sound.output.streams (by simp [held])).1
  have selected : selection context = .stream stream := by simp [selection, unplanned, free, held]
  have fast := resolveHttp1_stream libraries requestHeaders answers sound (by simp [held])
  obtain ⟨after, whole, -, graph⟩ :=
    resolveHttpGraphResponse_stream libraries requestHeaders answers sound unplanned held
  rw [Agreeing, ← visible_merge_nil_iff]
  constructor
  · rintro ⟨-, right⟩
    rw [selected, graph] at right
    have shown := right _ rfl
    cases used : stream.commits with
    | true =>
      simp only [used, ↓reduceIte] at shown
      exact ⟨rfl, congrArg Seen.headers shown⟩
    | false =>
      simp only [used, Bool.false_eq_true, ↓reduceIte] at shown
      exact absurd (congrArg Seen.source shown) (resolveForwarded_source libraries answers)
  · rintro ⟨used, merged⟩
    rw [used, if_pos rfl] at graph
    refine ⟨by rw [fast]; rfl, ?_⟩
    rw [selected, graph]
    intro seen intends
    cases intends
    rw [← whole, ← merged]
    rfl

theorem tryResolveNative_unstored (unstored : context.nativeDefaultUpstreamForwardResponse = none) :
    tryResolveNative libraries context = (none, context) := by
  rw [tryResolveNative, unstored]
  split <;> rfl

/-- What the client sees of the shortcut by a snapshot; without a target it is the response of
the graph. -/
def snapshotSeen (libraries : ResolutionLibraries) (context : ProxyVmContext) (exchange : Int)
    (headers : HeaderMap → SnapshotHttp1DownstreamHeaders) (graph : Seen) :
    Except UpstreamResponseStartError ResponseSnapshot → Seen
  | .ok snapshot =>
    ⟨statusOver context.responseOutput.status snapshot.status,
      visibleHeaders (headers snapshot.headers).view, snapshot.streamingBody.content,
      startSource context exchange⟩
  | .error .missingTarget => graph
  | .error err => Resolved.seen ⟨startFailure libraries err, .exchange exchange⟩

/-- Where neither of the first two shortcuts is taken, the third one decides. -/
theorem resolveHttp1_snapshot (free : context.responseOutput.body = none)
    (unresolved : tryResolveNative libraries context = (none, context)) {exchange : Int}
    {headers : HeaderMap → SnapshotHttp1DownstreamHeaders}
    (planned : snapshotPlan context = some (exchange, headers)) :
    (resolveHttp1DownstreamResponse libraries requestHeaders answers context).seen method =
      snapshotSeen libraries context exchange headers
        (resolveHttpGraphResponse libraries requestHeaders answers
          (context.startOutboundExchangeResponse (answers exchange) exchange).2).seen
        (context.startOutboundExchangeResponse (answers exchange) exchange).1 := by
  rw [resolveHttp1DownstreamResponse, tryTakeNativeLocal_free free, unresolved]
  dsimp only
  rw [tryResolveSnapshot, planned]
  dsimp only
  rcases context.startOutboundExchangeResponse (answers exchange) exchange with
    ⟨(err | snapshot), after⟩
  · cases err <;> rfl
  · dsimp only [Http1Resolution.seen, snapshotSeen]
    rw [streamingBody_content]
    rfl

/-- A body source of an exchange that is intended. -/
theorem intendedExchange_source (handle : Int) :
    (intendedExchange libraries answers context handle).source = .exchange handle := by
  rw [intendedExchange]
  split <;> rfl

/-- Without a stored outcome, the graph shows the exchange that is selected. -/
theorem resolveExchange_seen (unstored : context.nativeDefaultUpstreamForwardResponse = none)
    (exchange : Int) :
    (resolveExchange libraries answers context exchange).seen =
      intendedExchange libraries answers context exchange := by
  have source : startSource context exchange = .exchange exchange :=
    startSource_exchange (by simp [unstored])
  rw [resolveExchange, start_unstored answers unstored, intendedExchange, source]
  rcases answered answers context exchange with (err | snapshot)
  · cases err <;> rfl
  · rfl

attribute [local simp] resolveHttpGraphResponseInner

/-- The exchange that a program has selected is shown unless an outcome is stored. -/
theorem agrees_exchange_iff (unplanned : context.postResponsePlan = none)
    (free : context.responseOutput.body = none)
    (unstreamed : context.responseOutput.bodyStream = none) {exchange : Int}
    (chosen : context.responseOutput.bodySourceExchange = some exchange) :
    Agrees libraries requestHeaders answers method context ↔
      Agreeing answers method context (.exchange exchange) := by
  have selected : selection context = .exchange exchange := by
    simp [selection, unplanned, free, unstreamed, chosen]
  have bare : context.responseOutput.hasLocalBody = false := by
    simp [HttpResponseOutputNode.hasLocalBody, free, unstreamed]
  rw [Agreeing]
  constructor
  · rintro ⟨-, right⟩
    rw [selected] at right
    have sources := congrArg Seen.source (right _ rfl)
    rw [intendedExchange_source] at sources
    by_contra stored
    obtain ⟨outcome, stored⟩ := Option.ne_none_iff_exists'.mp stored
    have native : (resolveHttpGraphResponse libraries requestHeaders answers context).source =
        .nativeForward := by
      simp only [resolveHttpGraphResponse, resolveHttpGraphResponseInner, nativeFastPath,
        unplanned, bare, stored, Option.isNone_none, Bool.not_false, Bool.and_self, ↓reduceIte]
      cases outcome <;> rfl
    cases native.symm.trans sources
  · intro unstored
    have graph : resolveHttpGraphResponse libraries requestHeaders answers context =
        resolveExchange libraries answers context exchange := by
      simp [resolveHttpGraphResponse, nativeFastPath, bare, unstored, openStream, unstreamed,
        unplanned, free, resolveForwarded, chosen]
    have shown := @resolveExchange_seen libraries answers context unstored exchange
    refine ⟨?_, ?_⟩
    · have unresolved := @tryResolveNative_unstored libraries context unstored
      by_cases read : exchange ∈ context.bodyReads
      · have none : snapshotPlan context = none := by
          simp [snapshotPlan, unplanned, bare, chosen, read]
        exact seen_graph (tryTakeNativeLocal_free free) unresolved none
      have planned : snapshotPlan context = some (exchange, fun _ =>
          .explicit context.responseOutput.headers) := by
        simp [snapshotPlan, unplanned, bare, chosen, read]
      have started := start_unstored answers unstored exchange
      rw [resolveHttp1_snapshot free unresolved planned]
      cases found : answered answers context exchange with
      | error err =>
        have failed := started.trans found
        rw [start_failed_unstored unstored failed, failed, graph, shown, intendedExchange, found]
        cases err <;> rfl
      | ok snapshot =>
        rw [started, graph, shown, intendedExchange, found, snapshotSeen,
          startSource_exchange (by simp [unstored])]
        rfl
    · rw [selected, graph, shown]
      rintro seen ⟨⟩
      rfl

/-- Nothing is selected but what the upstream sends. -/
structure Unselected (context : ProxyVmContext) : Prop where
  unplanned : context.postResponsePlan = none
  free : context.responseOutput.body = none
  unstreamed : context.responseOutput.bodyStream = none
  loose : context.responseOutput.bodySourceExchange = none

namespace Unselected

variable (unselected : Unselected context)
include unselected

theorem bare : context.responseOutput.hasLocalBody = false := by
  simp [HttpResponseOutputNode.hasLocalBody, unselected.free, unselected.unstreamed]

theorem takeForward : Unselected context.takeForward :=
  ⟨unselected.unplanned, unselected.free, unselected.unstreamed, unselected.loose⟩

/-- A stored outcome is the response of the graph. -/
theorem graph_stored {outcome : ForwardResult}
    (stored : context.nativeDefaultUpstreamForwardResponse = some outcome) :
    resolveHttpGraphResponse libraries requestHeaders answers context =
      resolveNativeOutcome libraries context outcome := by
  simp [resolveHttpGraphResponse, nativeFastPath, unselected.unplanned, unselected.bare, stored]

/-- Without one the graph looks at the default exchange. -/
theorem graph_unstored (unstored : context.nativeDefaultUpstreamForwardResponse = none) :
    resolveHttpGraphResponse libraries requestHeaders answers context =
      ((resolvePending libraries answers context).getD
        (resolveUpstream libraries answers context)) := by
  have same : (if forwardPending context then context.takeForward else context) = context := by
    rw [takeForward_unstored unstored, ite_self]
  simp only [resolveHttpGraphResponse, resolveHttpGraphResponseInner, nativeFastPath,
    unselected.unplanned, unselected.bare, unstored, openStream, unselected.unstreamed,
    unselected.free, resolveForwarded, unselected.loose, same, ite_self]
  cases resolvePending libraries answers context <;> rfl

/-- The plan of the third shortcut is the default exchange. -/
theorem plan (configured : upstreamConfigured context) :
    snapshotPlan context = some (defaultUpstreamExchangeHandle, fun base =>
      .snapshot base context.responseOutput.headers) := by
  simp [snapshotPlan, unselected.unplanned, unselected.bare, unselected.loose, configured]

/-- Without a target there is none. -/
theorem seen_unconfigured (unresolved : tryResolveNative libraries context = (none, context))
    (unconfigured : upstreamConfigured context = false) :
    (resolveHttp1DownstreamResponse libraries requestHeaders answers context).seen method =
      (resolveHttpGraphResponse libraries requestHeaders answers context).seen :=
  seen_graph (tryTakeNativeLocal_free unselected.free) unresolved (by
    simp [snapshotPlan, unselected.unplanned, unselected.bare, unselected.loose, unconfigured])

/-- What is selected is the stored outcome, or else what the upstream sends. -/
theorem selects : selection context =
    (context.nativeDefaultUpstreamForwardResponse.map Selection.forward).getD .upstream := by
  rw [selection, unselected.unplanned, unselected.free, unselected.unstreamed, unselected.loose]
  cases context.nativeDefaultUpstreamForwardResponse <;> rfl

/-- Without a stored outcome the graph does not show one. -/
theorem graph_source (unstored : context.nativeDefaultUpstreamForwardResponse = none) :
    (resolveHttpGraphResponse libraries requestHeaders answers context).source ≠
      .nativeForward := by
  have source : startSource context defaultUpstreamExchangeHandle =
      .exchange defaultUpstreamExchangeHandle := startSource_exchange (by simp [unstored])
  have upstream : (resolveUpstream libraries answers context).source ≠ .nativeForward := by
    rw [resolveUpstream, source]
    split
    · split <;> simp
    · simp
  rw [unselected.graph_unstored unstored, resolvePending, unstored]
  split
  · dsimp only
    split
    · exact upstream
    · simp
    · exact upstream
    · simp
  · exact upstream

/-- Without a stored response the third shortcut does not show one. -/
theorem snapshot_source
    (unstored : ∀ response, context.nativeDefaultUpstreamForwardResponse ≠ some (.ok response))
    (unresolved : tryResolveNative libraries context = (none, context))
    (configured : upstreamConfigured context) :
    ((resolveHttp1DownstreamResponse libraries requestHeaders answers context).seen
      method).source ≠ .nativeForward := by
  rw [resolveHttp1_snapshot unselected.free unresolved (unselected.plan configured)]
  cases found : (context.startOutboundExchangeResponse (answers defaultUpstreamExchangeHandle)
      defaultUpstreamExchangeHandle).1 with
  | ok snapshot =>
    rw [snapshotSeen, startSource_exchange fun response stored =>
      absurd stored (unstored response)]
    simp
  | error err =>
    have graph := @graph_source libraries requestHeaders answers _ unselected.takeForward rfl
    rw [start_failed found, if_pos rfl]
    cases err <;> first | exact graph | simp [snapshotSeen, Resolved.seen]

/-- Without a stored outcome no path shows one. -/
theorem unstored_source (unstored : context.nativeDefaultUpstreamForwardResponse = none) :
    ((resolveHttp1DownstreamResponse libraries requestHeaders answers context).seen
      method).source ≠ .nativeForward := by
  have unresolved := @tryResolveNative_unstored libraries context unstored
  cases configured : upstreamConfigured context with
  | true =>
    exact unselected.snapshot_source (by simp [unstored]) unresolved configured
  | false =>
    rw [unselected.seen_unconfigured unresolved configured]
    exact unselected.graph_source unstored

end Unselected

/-- The graph puts the program's headers over those of a stored response. -/
theorem native_seen_iff (sound : context.Sound) (unselected : Unselected context)
    (response : NativeDefaultUpstreamForwardResponse) :
    (resolveNativeOutcome libraries context (.ok response)).seen =
        intendedForward libraries context (.ok response) ↔
      Unrepeated context.responseOutput.headers := by
  have status := statusOver_eq (sound.output.status unselected.free unselected.loose)
    response.status
  rw [← visible_native_iff response.headers]
  constructor
  · exact congrArg Seen.headers
  · intro merged
    rw [intendedForward, ← status, ← merged, ← snapshot_content]
    rfl

/-- A stored response is used by each path unless the default exchange, whose body was read, has
a response of its own. -/
theorem agrees_response_iff (sound : context.Sound) (unselected : Unselected context)
    {response : NativeDefaultUpstreamForwardResponse}
    (stored : context.nativeDefaultUpstreamForwardResponse = some (.ok response)) :
    Agrees libraries requestHeaders answers method context ↔
      Agreeing answers method context (.forward (.ok response)) := by
  have selected : selection context = .forward (.ok response) := by
    rw [unselected.selects, stored]
    rfl
  have active := sound.active (by simp [stored])
  have graph := @Unselected.graph_stored libraries requestHeaders answers _ unselected _ stored
  have shown := @native_seen_iff libraries context sound unselected response
  have right : (∀ seen ∈ intended libraries answers context (selection context),
      (resolveHttpGraphResponse libraries requestHeaders answers context).seen = seen) ↔
      Unrepeated context.responseOutput.headers := by
    rw [selected, graph, ← shown]
    simp [intended, eq_comm]
  rw [Agreeing]
  by_cases read : defaultUpstreamExchangeHandle ∈ context.bodyReads
  · have unresolved : tryResolveNative libraries context = (none, context) := by
      simp [tryResolveNative, read]
    cases ready : context.responses defaultUpstreamExchangeHandle with
    | some snapshot =>
      refine iff_of_false (fun agrees => ?_) (by simp [read])
      have source : ((resolveHttp1DownstreamResponse libraries requestHeaders answers
          context).seen method).source = .exchange defaultUpstreamExchangeHandle := by
        rw [resolveHttp1_snapshot unselected.free
          unresolved (unselected.plan (by simp [upstreamConfigured, ready])),
          ProxyVmContext.startOutboundExchangeResponse, ready]
        exact startSource_exchange (by simp [ready])
      rw [agrees.same, graph] at source
      cases source
    | none =>
      rw [and_iff_left fun _ => rfl, ← right]
      refine ⟨fun agrees => agrees.right, fun shows => ⟨?_, shows⟩⟩
      cases configured : upstreamConfigured context with
      | false => exact unselected.seen_unconfigured unresolved configured
      | true =>
        have source : startSource context defaultUpstreamExchangeHandle = .nativeForward := by
          simp [startSource, ready, stored]
        have started : (context.startOutboundExchangeResponse
            (answers defaultUpstreamExchangeHandle) defaultUpstreamExchangeHandle).1 =
              .ok response.snapshot := by
          simp [ProxyVmContext.startOutboundExchangeResponse, ready, stored]
        rw [resolveHttp1_snapshot unselected.free
          unresolved (unselected.plan configured), started, snapshotSeen, visible_view, source,
          graph, shown.mpr (right.mp shows), intendedForward, ← snapshot_content]
        rfl
  · have fast : resolveHttp1DownstreamResponse libraries requestHeaders answers context =
        .native (.ok ⟨response.status, response.headers, response.version, response.body,
          context.responseOutput.headers, context.responseOutput.status⟩) := by
      simp [resolveHttp1DownstreamResponse, tryTakeNativeLocal, unselected.free, tryResolveNative,
        unselected.unplanned, unselected.bare, active, read, stored]
    rw [← right]
    refine ⟨fun agrees => ⟨agrees.right, fun reads => absurd reads read⟩,
      fun shows => ⟨?_, shows.1⟩⟩
    rw [fast, graph, Http1Resolution.seen, visible_prepared, ← snapshot_content]
    rfl

variable {err : UpstreamResponseStartError}

/-- A stored error is reported by each path, unless there is no target or the default exchange
was read and is asked again. -/
theorem agrees_error_iff (sound : context.Sound) (unselected : Unselected context)
    (stored : context.nativeDefaultUpstreamForwardResponse = some (.error err)) :
    Agrees libraries requestHeaders answers method context ↔
      Agreeing answers method context (.forward (.error err)) := by
  have selected : selection context = .forward (.error err) := by
    rw [unselected.selects, stored]
    rfl
  have active := sound.active (by simp [stored])
  have graph := @Unselected.graph_stored libraries requestHeaders answers _ unselected _ stored
  have right : ∀ seen ∈ intended libraries answers context (selection context),
      (resolveHttpGraphResponse libraries requestHeaders answers context).seen = seen := by
    rw [selected, graph]
    rintro seen ⟨⟩
    rfl
  -- What another source shows is not the stored error.
  have differs (other : ((resolveHttp1DownstreamResponse libraries requestHeaders answers
      context).seen method).source ≠ .nativeForward) :
      ¬ Agrees libraries requestHeaders answers method context := by
    intro agrees
    rw [agrees.same, graph] at other
    exact other rfl
  rw [Agreeing]
  by_cases read : defaultUpstreamExchangeHandle ∈ context.bodyReads
  · have unresolved : tryResolveNative libraries context = (none, context) := by
      simp [tryResolveNative, read]
    rw [if_pos read]
    cases configured : upstreamConfigured context with
    | false =>
      exact iff_of_true ⟨unselected.seen_unconfigured unresolved configured, right⟩ rfl
    | true =>
      refine iff_of_false (differs ?_) (by simp)
      exact unselected.snapshot_source (by simp [stored]) unresolved configured
  · rw [if_neg read]
    by_cases missing : err = .missingTarget
    · refine iff_of_false (differs ?_) (by simp [missing])
      have taken : resolveHttp1DownstreamResponse libraries requestHeaders answers context =
          resolveHttp1DownstreamResponse libraries requestHeaders answers context.takeForward := by
        have later := @tryResolveNative_unstored libraries context.takeForward rfl
        rw [resolveHttp1DownstreamResponse, resolveHttp1DownstreamResponse, later]
        simp [tryTakeNativeLocal, unselected.free, tryResolveNative, unselected.unplanned,
          unselected.bare, active, read, stored, missing, ProxyVmContext.takeForward]
      rw [taken]
      exact unselected.takeForward.unstored_source rfl
    · refine iff_of_true ⟨?_, right⟩ missing
      have fast : resolveHttp1DownstreamResponse libraries requestHeaders answers context =
          .native (.error (startFailure libraries err)) := by
        cases err <;> first
          | exact absurd rfl missing
          | simp [resolveHttp1DownstreamResponse, tryTakeNativeLocal, unselected.free,
              tryResolveNative, unselected.unplanned, unselected.bare, active, read, stored]
      rw [fast, graph]
      rfl

attribute [local simp] Except.map

/-- The headers that the graph makes of those of the default exchange. -/
def upstreamHeaders (context : ProxyVmContext) (base : HeaderMap) : HeaderMap :=
  let kept := base.filter fun entry => !isHopByHopHeader entry.1
  if sendsNatively context then HeaderMap.mergeHeaders kept context.responseOutput.headers
  else (HeaderMap.mergeHeaders [] kept).mergeHeaders context.responseOutput.headers

/-- What the graph shows of the response of the default exchange, or of its error. -/
def upstreamSeen (libraries : ResolutionLibraries) (context : ProxyVmContext) :
    Except UpstreamResponseStartError ResponseSnapshot → Seen
  | .ok snapshot => ⟨statusOver context.responseOutput.status snapshot.status,
      visibleHeaders (upstreamHeaders context snapshot.headers), snapshot.streamingBody.content,
      .exchange defaultUpstreamExchangeHandle⟩
  | .error err =>
    Resolved.seen ⟨startFailure libraries err, .exchange defaultUpstreamExchangeHandle⟩

/-- The graph shows the default exchange, whether it sends the request natively or not. -/
theorem graph_upstream (sound : context.Sound) (unselected : Unselected context)
    (unstored : context.nativeDefaultUpstreamForwardResponse = none)
    (configured : upstreamConfigured context)
    (targeted : answered answers context defaultUpstreamExchangeHandle ≠ .error .missingTarget) :
    (resolveHttpGraphResponse libraries requestHeaders answers context).seen =
      upstreamSeen libraries context (answered answers context defaultUpstreamExchangeHandle) := by
  have source : startSource context defaultUpstreamExchangeHandle =
      .exchange defaultUpstreamExchangeHandle := startSource_exchange (by simp [unstored])
  rw [unselected.graph_unstored unstored, resolveUpstream, if_pos configured,
    start_unstored answers unstored, source, resolvePending, unstored]
  cases pending : forwardPending context with
  | false =>
    generalize answered answers context defaultUpstreamExchangeHandle = outcome at targeted ⊢
    rcases outcome with (err | snapshot)
    · cases err <;> first | rfl | exact absurd rfl targeted
    · simp only [upstreamSeen, upstreamHeaders, sendsNatively, pending]
      rfl
  | true =>
    have native : sendsNatively context = (!context.route.attachedTransport &&
        !(context.route.useHttp2 || context.route.useHttp3) &&
        context.route.outboundHttp1FastPathEligible) := by
      rw [sendsNatively, pending, Bool.true_and]
    simp only [forwardPending, Bool.and_eq_true, Option.isNone_iff_eq_none] at pending
    have pooled := sound.pooled pending.1
    obtain ⟨target, open'⟩ : context.route.hasTarget = true ∧
        context.route.isWebsocketMode = false := by
      simpa [upstreamConfigured, pending.2] using configured
    rw [answered, pending.2] at targeted ⊢
    simp only [tryResolveNativeForward, target, open', pooled, Bool.false_eq_true, ↓reduceIte,
      Bool.not_true]
    generalize answers defaultUpstreamExchangeHandle = answer at targeted ⊢
    rcases answer with (err | response)
    · have refused : err ≠ .missingTarget := fun missing => targeted (missing ▸ rfl)
      cases context.route.attachedTransport <;>
        cases context.route.useHttp2 || context.route.useHttp3 <;>
        cases err <;> first | rfl | exact absurd rfl refused
    · have status := statusOver_eq (sound.output.status unselected.free unselected.loose)
        response.status
      simp only [Except.map, upstreamSeen, upstreamHeaders, native]
      cases context.route.attachedTransport <;>
        cases context.route.useHttp2 || context.route.useHttp3 <;>
        cases context.route.outboundHttp1FastPathEligible <;> first
          | rfl
          | (simp only [Bool.false_eq_true, ↓reduceIte, Option.getD_some, Resolved.seen,
              responseFromStartedUpstreamResponse, status]; rfl)

/-- Those headers are the ones they should be. -/
theorem upstreamHeaders_iff (base : HeaderMap) :
    visibleHeaders (upstreamHeaders context base) = overlaid base context.responseOutput.headers ↔
      Unrepeated context.responseOutput.headers ∧
        (sendsNatively context ∨ UnrepeatedUnder base context.responseOutput.headers) := by
  rw [upstreamHeaders]
  cases sendsNatively context with
  | true => simpa using visible_native_iff base context.responseOutput.headers
  | false => simpa using visible_snapshot_iff base context.responseOutput.headers

/-- The default exchange is shown by each path, but the graph merges its headers. -/
theorem agrees_upstream_iff (sound : context.Sound) (unselected : Unselected context)
    (unstored : context.nativeDefaultUpstreamForwardResponse = none) :
    Agrees libraries requestHeaders answers method context ↔
      Agreeing answers method context .upstream := by
  have selected : selection context = .upstream := by
    rw [unselected.selects, unstored]
    rfl
  have unresolved := @tryResolveNative_unstored libraries context unstored
  rw [Agreeing]
  cases configured : upstreamConfigured context with
  | false =>
    exact iff_of_true ⟨unselected.seen_unconfigured unresolved configured,
      by simp [selected, intended, intendedUpstream, configured]⟩ (by simp)
  | true =>
    have started := start_unstored answers unstored defaultUpstreamExchangeHandle
    have fast := @resolveHttp1_snapshot _ requestHeaders answers method _ unselected.free unresolved
      _ _ (unselected.plan configured)
    cases found : answered answers context defaultUpstreamExchangeHandle with
    | error err =>
      have failed := started.trans found
      rw [start_failed_unstored unstored failed, failed] at fast
      refine iff_of_true ?_ (by simp)
      by_cases missing : err = .missingTarget
      · subst missing
        exact ⟨fast, by simp [selected, intended, intendedUpstream, configured, found]⟩
      have graph := @graph_upstream libraries requestHeaders answers _ sound unselected unstored
        configured (by simpa [found] using missing)
      rw [found, upstreamSeen] at graph
      refine ⟨?_, ?_⟩
      · rw [fast, graph]
        cases err <;> rfl
      rw [selected, graph, intended, intendedUpstream, if_pos configured, found]
      cases err <;> first
        | exact absurd rfl missing
        | (rintro seen ⟨⟩; rfl)
    | ok snapshot =>
      have graph := @graph_upstream libraries requestHeaders answers _ sound unselected unstored
        configured (by simp [found])
      rw [found, upstreamSeen] at graph
      rw [started, found, snapshotSeen, visible_view,
        startSource_exchange (by simp [unstored])] at fast
      have only : (∀ other : ResponseSnapshot, true = true →
          (Except.ok snapshot : Except UpstreamResponseStartError _) = .ok other →
          Unrepeated context.responseOutput.headers ∧ (sendsNatively context ∨
            UnrepeatedUnder other.headers context.responseOutput.headers)) ↔
          visibleHeaders (upstreamHeaders context snapshot.headers) =
            overlaid snapshot.headers context.responseOutput.headers := by
        rw [upstreamHeaders_iff]
        simp
      rw [only]
      constructor
      · intro agrees
        have same := agrees.same
        rw [fast, graph] at same
        exact (congrArg Seen.headers same).symm
      intro merged
      rw [merged] at graph
      refine ⟨fast.trans graph.symm, ?_⟩
      rw [selected, graph, intended, intendedUpstream, if_pos configured, found]
      rintro seen ⟨⟩
      rfl

end

/-! ## Every context -/

/-- In a context that is in order the resolutions agree exactly under the condition on what is
selected. -/
theorem agrees_iff {libraries : ResolutionLibraries} {requestHeaders : HeaderMap}
    {answers : Int → ForwardResult} {method : Method} {context : ProxyVmContext}
    (sound : context.Sound) :
    Agrees libraries requestHeaders answers method context ↔
      Agreeing answers method context (selection context) := by
  by_cases planned : context.postResponsePlan.isSome
  · have selected : selection context = .tunnel := by rw [selection, if_pos planned]
    rw [selected]
    exact iff_of_true (agrees_tunnel planned) trivial
  have unplanned : context.postResponsePlan = none := by simpa using planned
  rw [selection, if_neg planned]
  cases held : context.responseOutput.body with
  | some body => exact agrees_body_iff sound unplanned held
  | none =>
    cases streamed : context.responseOutput.bodyStream with
    | some stream => exact agrees_stream_iff sound unplanned streamed
    | none =>
      cases chosen : context.responseOutput.bodySourceExchange with
      | some exchange =>
        exact agrees_exchange_iff unplanned held streamed chosen
      | none =>
        have unselected : Unselected context := ⟨unplanned, held, streamed, chosen⟩
        rcases stored : context.nativeDefaultUpstreamForwardResponse with - | (err | response)
        · exact agrees_upstream_iff sound unselected stored
        · exact agrees_error_iff sound unselected stored
        · exact agrees_response_iff sound unselected stored

/-- Whatever calls a program makes, the resolutions of the context it leaves behind agree exactly
under the condition on what it has selected. -/
theorem resolutions_agree_iff (libraries : ResolutionLibraries) (requestHeaders : HeaderMap)
    (answers : Int → ForwardResult) (method : Method) (route : Route)
    (calls : List ProgramCall) :
    Agrees libraries requestHeaders answers method (runCalls (.new route) calls) ↔
      Agreeing answers method (runCalls (.new route) calls)
        (selection (runCalls (.new route) calls)) :=
  agrees_iff ((ProxyVmContext.Sound.new route).runCalls calls).sound

/-- The header of the cookies. -/
def setCookie : HeaderName :=
  ⟨Text.ascii "set-cookie", by decide +kernel, by decide +kernel, by decide⟩

theorem letter_fits : [(120 : UInt8)].length < usizeLimit := by decide

/-- A program that sets two cookies and a body. -/
def twoCookies : List ProgramCall :=
  [.addHeader "set-cookie".toList "a".toList, .addHeader "set-cookie".toList "b".toList,
    .setBody ⟨[120], letter_fits⟩]

/-- The writer of local responses writes both cookies, the graph only the last. -/
theorem repeated_header_dropped :
    (((resolveHttp1DownstreamResponse plainLibraries [] unanswered
      (runCalls (.new untargeted) twoCookies)).seen .get).headers setCookie).length = 2 ∧
    ((resolveHttpGraphResponse plainLibraries [] unanswered
      (runCalls (.new untargeted) twoCookies)).seen.headers setCookie).length = 1 ∧
    ¬ Agrees plainLibraries [] unanswered .get (runCalls (.new untargeted) twoCookies) := by
  have fast : (((resolveHttp1DownstreamResponse plainLibraries [] unanswered
      (runCalls (.new untargeted) twoCookies)).seen .get).headers setCookie).length = 2 := by
    decide +kernel
  have graph : ((resolveHttpGraphResponse plainLibraries [] unanswered
      (runCalls (.new untargeted) twoCookies)).seen.headers setCookie).length = 1 := by
    decide +kernel
  refine ⟨fast, graph, fun agrees => ?_⟩
  rw [agrees.same, graph] at fast
  contradiction

end PdEdge.Output

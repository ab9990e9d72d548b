import PdEdge.State.Start

/-!
# The body of the default upstream request

The body is that of the program or that of the inbound request. How it is sent is decided
when a request is started: from the headers of the inbound request, and from what the program
or an earlier request has read of its body. A carrier that falls back to an older protocol
does so before it asks for the body; one that fails may have taken a part of it, which stays
in the buffer.
-/

namespace PdEdge.State

open Sources Wire BufferedByteStream List
open Downstream (LazyHttpHeaders)
open Upstream (sendStream)

/-- `NativeDefaultUpstreamRequestBodyTemplate`. -/
inductive BodyTemplate where
  | empty
  | bytes (body : List UInt8)
  | streaming (contentLength : Option Nat)

/-- `NativeDefaultUpstreamRequestBodyMode`. -/
inductive BodyMode where
  | empty
  | bufferedImmediate
  | bufferRemaining
  | streamInbound

/-- `request_headers_indicate_empty_body_lazy`. -/
def requestHeadersIndicateEmptyBodyLazy (headers : LazyHttpHeaders) : Bool :=
  headers.contentLength = some 0 ||
    (!headers.containsName .contentLength && !headers.containsName .transferEncoding)

/-- `request_body_known_empty_for_exchange`. -/
def requestBodyKnownEmptyForExchange (headers : LazyHttpHeaders)
    (bodyOverride : Option (List UInt8)) : Bool :=
  match bodyOverride with
  | some body => body.isEmpty
  | none => requestHeadersIndicateEmptyBodyLazy headers

namespace InboundRequestBodyState

/-- `is_pristine_unread`. -/
def isPristineUnread (inbound : InboundRequestBodyState) : Bool :=
  inbound.stream.buffered.isEmpty && inbound.stream.readOffset = 0 && !inbound.stream.eof

/-- `OUTBOUND_HTTP1_REQUEST_BODY_STREAM_CHUNK_BYTES`. -/
def chunkBytes : Nat := 16 * 1024

/-- A chunk that was read: it holds no more than was asked for. -/
def ofChunk (chunk : List UInt8) : Bytes where
  data := chunk.take chunkBytes
  fits := by
    have short := List.length_take_le chunkBytes chunk
    have small : chunkBytes < usizeLimit := by decide
    omega

/-- `stream_remaining_inbound_request_body`: its items in so many polls, whether it has ended,
and what is left of the body. -/
def streamRemaining : Nat → InboundRequestBodyState →
    List (Awaited VmError Bytes) × Bool × InboundRequestBodyState
  | 0, inbound => ([], false, inbound)
  | polls + 1, inbound =>
    match readNextChunk inboundSource chunkBytes inbound.stream inbound.source with
    | (.ready chunk, stream, source) =>
      if chunk = [] then ([], true, ⟨source, stream⟩)
      else
        let (items, ended, inbound) := streamRemaining polls ⟨source, stream⟩
        (.ready (ofChunk chunk) :: items, ended, inbound)
    | (.failed err, stream, source) => ([.failed err], true, ⟨source, stream⟩)
    | (.dropped, stream, source) => ([.dropped], false, ⟨source, stream⟩)

end InboundRequestBodyState

open InboundRequestBodyState

/-- What is sent is made of the body of the program and the inbound body. -/
structure Forwarding where
  bodyOverride : Option (List UInt8)
  inbound : InboundRequestBodyState

section

variable (headers : LazyHttpHeaders)

/-- `resolve_outbound_request_body`. -/
def resolveOutboundRequestBody (state : Forwarding) : Awaited VmError (List UInt8) × Forwarding :=
  match state.bodyOverride with
  | some body => (.ready body, state)
  | none =>
    if requestBodyKnownEmptyForExchange headers none then (.ready [], state)
    else
      let (read, stream, source) := readAll inboundSource state.inbound.stream state.inbound.source
      (read, { state with inbound := ⟨source, stream⟩ })

/-- `native_default_upstream_request_body_mode`. -/
def nativeDefaultUpstreamRequestBodyMode (state : Forwarding) : BodyMode :=
  match state.bodyOverride with
  | some body => if body.isEmpty then .empty else .bufferedImmediate
  | none =>
    if requestBodyKnownEmptyForExchange headers none then .empty
    else if state.inbound.isPristineUnread then .streamInbound
    else .bufferRemaining

/-- A body in memory. -/
def BodyTemplate.ofBytes (body : List UInt8) : BodyTemplate :=
  if body.isEmpty then .empty else .bytes body

/-- The template of a body that was resolved. -/
def resolvedTemplate : Awaited VmError (List UInt8) × Forwarding →
    Awaited VmError BodyTemplate × Forwarding
  | (.ready body, state) => (.ready (.ofBytes body), state)
  | (.failed err, state) => (.failed err, state)
  | (.dropped, state) => (.dropped, state)

/-- `default_upstream_outbound_http1_request_body_template`. -/
def bodyTemplate (state : Forwarding) : Awaited VmError BodyTemplate × Forwarding :=
  match state.bodyOverride with
  | some body => (.ready (.ofBytes body), state)
  | none =>
    if requestBodyKnownEmptyForExchange headers none then (.ready .empty, state)
    else
      match nativeDefaultUpstreamRequestBodyMode headers state with
      | .empty => (.ready .empty, state)
      | .bufferedImmediate => resolvedTemplate (resolveOutboundRequestBody headers state)
      | .bufferRemaining => resolvedTemplate (resolveOutboundRequestBody headers state)
      | .streamInbound => (.ready (.streaming headers.contentLength), state)

end

/-! ## Sending a body -/

/-- What becomes of a request on a carrier; a carrier polls a stream so many times. -/
inductive Carrying where
  /-- It falls back to an older protocol, before the body is asked for. -/
  | fallback
  | failed (polls : Nat)
  | answered (polls : Nat)

/-- The bytes of the items of a stream. -/
def contentOf (items : List (Awaited VmError Bytes)) : List UInt8 :=
  items.flatMap fun item =>
    match item with
    | .ready chunk => chunk.data
    | _ => []

/-- The body that a carrier sends: a stream to its end, if that satisfies the carrier. -/
def BodyTemplate.carry (satisfies : Option Nat → List (Awaited VmError Bytes) → Bool)
    (polls : Nat) (template : BodyTemplate) (state : Forwarding) :
    Option (List UInt8) × Forwarding :=
  match template with
  | .empty => (some [], state)
  | .bytes body => (some body, state)
  | .streaming contentLength =>
    let (items, ended, inbound) := state.inbound.streamRemaining polls
    (if ended && satisfies contentLength items then some (contentOf items) else none,
      { state with inbound })

/-- HTTP/2, HTTP/3 and attached transports send what they are given. -/
def allReady (_contentLength : Option Nat) (items : List (Awaited VmError Bytes)) : Bool :=
  items.all Awaited.isReady

/-- HTTP/1.1 holds a stream to its declared length. -/
def sentAs (useChunkedBody : Bool) (contentLength : Option Nat)
    (items : List (Awaited VmError Bytes)) : Bool :=
  (sendStream useChunkedBody items contentLength ⟨[], []⟩).1.isReady

/-- A request with this body on a carrier: the body that was sent, if it was answered. -/
def Carrying.send (carrying : Carrying)
    (satisfies : Option Nat → List (Awaited VmError Bytes) → Bool) (template : BodyTemplate)
    (state : Forwarding) : Option (List UInt8) × Forwarding :=
  match carrying with
  | .fallback => (none, state)
  | .failed polls => (none, (template.carry satisfies polls state).2)
  | .answered polls => template.carry satisfies polls state

/-- The carriers of a start, and whether HTTP/1.1 sends chunks. -/
structure BodyCall where
  fast : Carrying
  attached : Carrying
  http3 : Carrying
  http2 : Carrying
  http1 : Carrying
  useChunkedBody : Bool

section

variable (headers : LazyHttpHeaders)

/-- A template, and the request it is for. -/
def withTemplate (send : BodyTemplate → Forwarding → Option (List UInt8) × Forwarding)
    (state : Forwarding) : Option (List UInt8) × Forwarding :=
  match bodyTemplate headers state with
  | (.ready template, state) => send template state
  | (_, state) => (none, state)

/-- A request over the pool: `forward_native_default_upstream_http_via_sender_pool` and
`start_default_upstream_response_via_plain_http1_sender_pool`. -/
def sendOverPool (useChunkedBody : Bool) (carrying : Carrying) :
    Forwarding → Option (List UInt8) × Forwarding :=
  withTemplate headers (carrying.send (sentAs useChunkedBody))

/-- HTTP/2, and HTTP/1.1 with a template of its own where it falls back. -/
def sendOverHttp2 (call : BodyCall) (template : BodyTemplate) (state : Forwarding) :
    Option (List UInt8) × Forwarding :=
  match call.http2 with
  | .fallback => sendOverPool headers call.useChunkedBody call.http1 state
  | carrying => carrying.send allReady template state

/-- HTTP/3, and an older protocol where it falls back, HTTP/2 with the same template. -/
def sendOverHttp3 (route : Route) (call : BodyCall) (template : BodyTemplate)
    (state : Forwarding) : Option (List UInt8) × Forwarding :=
  match call.http3 with
  | .fallback =>
    if route.useHttp2 then sendOverHttp2 headers call template state
    else sendOverPool headers call.useChunkedBody call.http1 state
  | carrying => carrying.send allReady template state

/-- The body that `start_outbound_exchange_response` sends for the default exchange. -/
def startBody (route : Route) (call : BodyCall) (state : Forwarding) :
    Option (List UInt8) × Forwarding :=
  if route.isWebsocketMode || !route.hasTarget then (none, state)
  else if !route.attachedTransport && !route.requiresCustomClient &&
      route.outboundHttp1FastPathEligible then
    sendOverPool headers call.useChunkedBody call.fast state
  else if route.attachedTransport then
    withTemplate headers (call.attached.send allReady) state
  else if route.useHttp3 then withTemplate headers (sendOverHttp3 headers route call) state
  else if route.useHttp2 then withTemplate headers (sendOverHttp2 headers call) state
  else
    match resolveOutboundRequestBody headers state with
    | (.ready _, state) => sendOverPool headers call.useChunkedBody call.http1 state
    | (_, state) => (none, state)

/-- What a program and the response to its client do with the body, in any order. -/
inductive BodyEvent where
  | read (operation : Read)
  | setBody (body : List UInt8)
  /-- A write to the exchange as a byte stream. -/
  | appendBody (bytes : List UInt8)
  /-- A native forward. -/
  | forward (useChunkedBody : Bool) (carrying : Carrying)
  | start (route : Route) (call : BodyCall)

/-- The body that an event sends with success, and the state behind it. -/
def BodyEvent.run (event : BodyEvent) (state : Forwarding) : Option (List UInt8) × Forwarding :=
  match event with
  | .read operation =>
    let (_, stream, source) := operation.run inboundSource state.inbound.stream state.inbound.source
    (none, { state with inbound := ⟨source, stream⟩ })
  | .setBody body => (none, { state with bodyOverride := some body })
  | .appendBody bytes =>
    (none, { state with bodyOverride := some (state.bodyOverride.getD [] ++ bytes) })
  | .forward useChunkedBody carrying => sendOverPool headers useChunkedBody carrying state
  | .start route call => startBody headers route call state

/-- The body of the first request that succeeds, and that of the program at that time. -/
def forwarded : List BodyEvent → Forwarding → Option (Option (List UInt8) × List UInt8)
  | [], _ => none
  | event :: events, state =>
    match event.run headers state with
    | (some sent, _) => some (state.bodyOverride, sent)
    | (none, next) => forwarded events next

end

/-! ## The buffer keeps the body -/

section

variable {σ : Type} {source : Source σ VmError} {content : List UInt8}
variable {stream : BufferedByteStream} {state : σ} {wants : BufferedByteStream → Bool}

/-- The content is what was read and what is still to come. -/
def Holds (source : Source σ VmError) (content : List UInt8) (stream : BufferedByteStream)
    (state : σ) : Prop :=
  ∃ rest, Entire source state rest ∧ content = stream.buffered ++ rest ∧
    (stream.eof = true → rest = [])

/-- Reading keeps it so, whatever becomes of the operation. -/
theorem Holds.after {result : Report × BufferedByteStream × σ}
    (holds : Holds source content stream state) (does : Reads source stream state result) :
    Holds source content result.2.1 result.2.2 := by
  obtain ⟨rest, entire, rfl, spent⟩ := holds
  cases does with
  | more gives buffered same told =>
    obtain ⟨left, kept, rfl⟩ := entire.after gives
    refine ⟨left, kept, ?_, ?_⟩
    · rw [buffered, append_assoc]
    · intro eof
      rw [same] at eof
      exact (append_eq_nil_iff.mp (spent eof)).2
  | ended running ends buffered eof told =>
    obtain ⟨kept, rfl⟩ := entire.ends ends
    exact ⟨[], kept, by rw [buffered, append_nil], fun _ => rfl⟩
  | broke running breaks => exact absurd breaks entire.not_breaks
  | hung running hangs =>
    obtain ⟨left, kept, rfl⟩ := entire.hangs hangs
    refine ⟨left, kept, ?_, ?_⟩
    · rw [filled_buffered, append_assoc]
    · intro eof
      rw [filled_eof, running] at eof
      cases eof

theorem Holds.run (holds : Holds source content stream state) (read : Read) :
    Holds source content (read.run source stream state).2.1 (read.run source stream state).2.2 :=
  holds.after (read.run_reads stream state)

theorem reportOf_snd {α : Type} (tells : α → BufferedByteStream → Bool)
    (outcome : Awaited VmError α × BufferedByteStream × σ) :
    (reportOf tells outcome).2 = outcome.2 := by
  obtain ⟨result, stream, state⟩ := outcome
  cases result <;> rfl

section

variable (holds : Holds source content stream state)
include holds

theorem Holds.readNextChunk (maxBytes : Nat) :
    Holds source content (readNextChunk source maxBytes stream state).2.1
      (BufferedByteStream.readNextChunk source maxBytes stream state).2.2 := by
  have kept := holds.run (.nextChunk maxBytes)
  rwa [Read.run, reportOf_snd] at kept

theorem Holds.readAll :
    Holds source content (readAll source stream state).2.1
      (BufferedByteStream.readAll source stream state).2.2 := by
  have kept := holds.run .all
  rwa [Read.run, reportOf_snd] at kept

/-- A stream that has got what it wants has not moved in the content, and has all of it where it
wants more or has seen the end. -/
theorem Holds.filled {value : Unit} {full : BufferedByteStream} {next : σ}
    (fills : Fills source wants stream state (.ready value, full, next)) :
    full.readOffset = stream.readOffset ∧ ∃ rest, content = full.buffered ++ rest ∧
      (wants full = true ∨ full.eof = true → rest = []) := by
  obtain ⟨rest, entire, rfl, spent⟩ := holds
  cases fills with
  | enough gives enough =>
    obtain ⟨left, kept, rfl⟩ := entire.after gives
    refine ⟨rfl, left, by rw [filled_buffered, append_assoc], ?_⟩
    intro wanting
    have eof : stream.eof = true := by
      rcases wanting with wanting | eof
      · simpa [wanting] using enough
      · exact eof
    exact (append_eq_nil_iff.mp (spent eof)).2
  | ended running ends =>
    obtain ⟨kept, rfl⟩ := entire.ends ends
    exact ⟨rfl, [], by rw [ended_buffered, filled_buffered, append_nil], fun _ => rfl⟩

/-- All that is read is the content. -/
theorem Holds.all {body : List UInt8} {after : BufferedByteStream × σ}
    (read : BufferedByteStream.readAll source stream state = (.ready body, after)) :
    body = content := by
  have fills : Fills source (fun _ => true) stream state _ := pullWhile_fills stream state
  unfold BufferedByteStream.readAll at read
  generalize (pullWhile source fun _ => true).run (stream, state) = result at read fills
  obtain ⟨filled, full, next⟩ := result
  cases filled with
  | ready value =>
    obtain ⟨-, rest, same, spent⟩ := holds.filled fills
    cases read
    rw [same, spent (Or.inl rfl), append_nil]
  | failed err | dropped => cases read

end

/-- What `read_next_chunk` takes from a buffer is the front of what is unread. -/
theorem taken_front {maxBytes : Nat} {rest : List UInt8} (full : BufferedByteStream)
    (spent : full.consumed = true → rest = []) :
    let taken : List UInt8 × BufferedByteStream :=
      if full.consumed then ([], full)
      else
        let stop := min (full.readOffset + maxBytes) full.buffered.length
        ((full.buffered.take stop).drop full.readOffset, { full with readOffset := stop })
    (full.buffered ++ rest).drop full.readOffset =
        taken.1 ++ (full.buffered ++ rest).drop taken.2.readOffset ∧
      taken.1.length ≤ maxBytes ∧
      (0 < maxBytes → taken.1 = [] → (full.buffered ++ rest).drop full.readOffset = []) := by
  intro taken
  by_cases past : full.consumed
  · have none : taken = ([], full) := if_pos past
    have length : full.buffered.length ≤ full.readOffset := by simpa [consumed] using past
    have nothing : (full.buffered ++ rest).drop full.readOffset = [] := by
      rw [spent past, append_nil]
      exact drop_eq_nil_of_le length
    rw [none]
    exact ⟨rfl, Nat.zero_le _, fun _ _ => nothing⟩
  · have length : full.readOffset < full.buffered.length := by
      simpa [consumed] using past
    have chunk : taken = _ := if_neg past
    rw [chunk]
    dsimp only
    generalize reached : min (full.readOffset + maxBytes) full.buffered.length = stop
    have inside : stop ≤ full.buffered.length := by omega
    have behind : full.readOffset ≤ stop := by omega
    have front : (full.buffered ++ rest).take stop = full.buffered.take stop :=
      take_append_of_le_length inside
    refine ⟨?_, ?_, ?_⟩
    · rw [← front, drop_take]
      have split := take_append_drop (stop - full.readOffset)
        ((full.buffered ++ rest).drop full.readOffset)
      rw [drop_drop, Nat.add_sub_cancel' behind] at split
      exact split.symm
    · simp only [length_drop, length_take]
      omega
    intro some empty
    have zero := congrArg List.length empty
    simp only [length_drop, length_take, length_nil] at zero
    omega

/-- A chunk is the front of what is unread, and empty only where nothing is. -/
theorem Holds.chunk {maxBytes : Nat} {chunk : List UInt8} {after : BufferedByteStream} {next : σ}
    (holds : Holds source content stream state) (some : 0 < maxBytes)
    (read : BufferedByteStream.readNextChunk source maxBytes stream state =
      (.ready chunk, after, next)) :
    content.drop stream.readOffset = chunk ++ content.drop after.readOffset ∧
      chunk.length ≤ maxBytes ∧ (chunk = [] → content.drop stream.readOffset = []) := by
  have fills : Fills source consumed stream state _ := pullWhile_fills stream state
  unfold BufferedByteStream.readNextChunk ensureReadableByte at read
  generalize (pullWhile source consumed).run (stream, state) = result at read fills
  obtain ⟨filled, full, last⟩ := result
  cases filled with
  | ready value =>
    obtain ⟨position, rest, rfl, spent⟩ := holds.filled fills
    obtain ⟨front, short, empty⟩ := @taken_front maxBytes rest full fun past => spent (Or.inl past)
    cases read
    rw [← position]
    exact ⟨front, short, empty some⟩
  | failed err | dropped => cases read

end

/-! ## What is sent -/

section

variable {headers : LazyHttpHeaders} {given : Option (List UInt8)} {expected : List UInt8}
variable {state : Forwarding}

/-- The inbound body is kept. -/
def Keeps (content : List UInt8) (inbound : InboundRequestBodyState) : Prop :=
  Holds inboundSource content inbound.stream inbound.source

/-- The body that is due: that of the program, none where the headers announce none, or all of
the inbound one. -/
def Due (headers : LazyHttpHeaders) (expected : List UInt8) (inbound : InboundRequestBodyState) :
    Option (List UInt8) → Prop
  | some body => expected = body
  | none =>
    if requestHeadersIndicateEmptyBodyLazy headers then expected = []
    else Keeps expected inbound

/-- The program has given this body or none, and this is due. -/
structure Stands (headers : LazyHttpHeaders) (given : Option (List UInt8)) (expected : List UInt8)
    (state : Forwarding) : Prop where
  same : state.bodyOverride = given
  due : Due headers expected state.inbound given

variable {body sent : List UInt8} {inbound : InboundRequestBodyState} {events : List BodyEvent}

section

variable (stands : Stands headers given expected state)
include stands

theorem Stands.overridden (found : state.bodyOverride = some body) : expected = body := by
  have due := stands.due
  rwa [← stands.same, found] at due

theorem Stands.announced (found : state.bodyOverride = none)
    (announced : requestBodyKnownEmptyForExchange headers none = true) : expected = [] := by
  have due := stands.due
  rw [← stands.same, found] at due
  exact (if_pos announced).mp due

theorem Stands.keeps (found : state.bodyOverride = none)
    (announced : ¬ requestBodyKnownEmptyForExchange headers none = true) :
    Keeps expected state.inbound := by
  have due := stands.due
  rw [← stands.same, found] at due
  exact (if_neg announced).mp due

/-- Only the inbound body is read. -/
theorem Stands.moved (keeps : Keeps expected state.inbound → Keeps expected inbound) :
    Stands headers given expected { state with inbound } := by
  refine ⟨stands.same, ?_⟩
  have due := stands.due
  cases given with
  | some body => exact due
  | none =>
    by_cases announced : requestHeadersIndicateEmptyBodyLazy headers = true
    · have empty : expected = [] := (if_pos announced).mp due
      exact (if_pos announced).mpr empty
    · have kept : Keeps expected state.inbound := (if_neg announced).mp due
      exact (if_neg announced).mpr (keeps kept)

/-- What a request leaves: if it succeeds it has sent what is due, which stays due. -/
structure Sent (headers : LazyHttpHeaders) (given : Option (List UInt8))
    (expected : List UInt8) (result : Option (List UInt8) × Forwarding) : Prop where
  exact : ∀ sent, result.1 = some sent → sent = expected
  stands : Stands headers given expected result.2

theorem Sent.nothing : Sent headers given expected (none, state) :=
  ⟨fun _ sent => (by cases sent), stands⟩

end

/-! ### Streams -/

variable {polls : Nat}

theorem streamRemaining_keeps (keeps : Keeps expected inbound) :
    Keeps expected (inbound.streamRemaining polls).2.2 := by
  induction polls generalizing inbound with
  | zero => exact keeps
  | succ polls ih =>
    have kept := Holds.readNextChunk keeps chunkBytes
    rw [streamRemaining]
    generalize readNextChunk inboundSource chunkBytes inbound.stream inbound.source = read at kept
    obtain ⟨result, stream, source⟩ := read
    cases result with
    | ready chunk =>
      dsimp only
      split
      · exact kept
      · exact ih kept
    | failed err | dropped => exact kept

theorem contentOf_cons (chunk : Bytes) (items : List (Awaited VmError Bytes)) :
    contentOf (.ready chunk :: items) = chunk.data ++ contentOf items := rfl

/-- A stream that has ended without a failure has given all that was unread. -/
theorem streamRemaining_content (keeps : Keeps expected inbound)
    (ended : (inbound.streamRemaining polls).2.1 = true)
    (ready : (inbound.streamRemaining polls).1.all Awaited.isReady = true) :
    contentOf (inbound.streamRemaining polls).1 = expected.drop inbound.stream.readOffset := by
  induction polls generalizing inbound with
  | zero => cases ended
  | succ polls ih =>
    have kept := Holds.readNextChunk keeps chunkBytes
    have front {chunk : List UInt8} {after : BufferedByteStream} {next : Option Body} :=
      @Holds.chunk _ _ _ _ _ chunkBytes chunk after next keeps (by decide)
    rw [streamRemaining] at ended ready ⊢
    generalize readNextChunk inboundSource chunkBytes inbound.stream inbound.source = read
      at kept front ended ready ⊢
    obtain ⟨result, stream, source⟩ := read
    cases result with
    | ready chunk =>
      obtain ⟨unread, short, last⟩ := front rfl
      dsimp only at ended ready ⊢
      by_cases empty : chunk = []
      · rw [if_pos empty]
        exact (last empty).symm
      rw [if_neg empty] at ended ready ⊢
      have whole : (ofChunk chunk).data = chunk := take_of_length_le short
      have rest := @ih ⟨source, stream⟩ kept ended ready
      rw [contentOf_cons, whole, rest, unread]
    | failed err => cases ready
    | dropped => cases ended

/-! ### Templates -/

/-- A template for the body that is due. -/
def BodyTemplate.Fits (expected : List UInt8) (inbound : InboundRequestBodyState) :
    BodyTemplate → Prop
  | .empty => expected = []
  | .bytes body => expected = body
  | .streaming _ => Keeps expected inbound ∧ inbound.stream.readOffset = 0

theorem fits_ofBytes (inbound : InboundRequestBodyState) :
    (BodyTemplate.ofBytes expected).Fits expected inbound := by
  unfold BodyTemplate.ofBytes
  split
  · rename_i empty
    exact isEmpty_iff.mp empty
  · exact rfl

section

variable (stands : Stands headers given expected state)
include stands

/-- The body in memory is the one that is due. -/
theorem resolve_stands :
    Stands headers given expected (resolveOutboundRequestBody headers state).2 ∧
      ∀ body, (resolveOutboundRequestBody headers state).1 = .ready body → body = expected := by
  unfold resolveOutboundRequestBody
  split
  · rename_i body found
    refine ⟨stands, ?_⟩
    intro resolved ready
    cases ready
    exact (stands.overridden found).symm
  rename_i none
  split
  · rename_i announced
    refine ⟨stands, ?_⟩
    intro resolved ready
    cases ready
    exact (stands.announced none announced).symm
  rename_i announced
  refine ⟨stands.moved fun keeps => Holds.readAll keeps, ?_⟩
  intro resolved ready
  exact Holds.all (stands.keeps none announced) (Prod.ext ready rfl)

theorem resolvedTemplate_fits :
    let result := resolvedTemplate (resolveOutboundRequestBody headers state)
    Stands headers given expected result.2 ∧
      ∀ template, result.1 = .ready template → template.Fits expected result.2.inbound := by
  intro result
  obtain ⟨kept, exact⟩ := resolve_stands stands
  generalize resolved : resolveOutboundRequestBody headers state = outcome at kept exact
  have same : result = resolvedTemplate outcome := congrArg resolvedTemplate resolved
  rw [same]
  obtain ⟨read, next⟩ := outcome
  cases read with
  | ready body =>
    refine ⟨kept, ?_⟩
    intro template ready
    cases ready
    rw [exact body rfl]
    exact fits_ofBytes _
  | failed err | dropped => exact ⟨kept, fun _ ready => by cases ready⟩

/-- A template is for the body that is due; a stream is chosen where nothing was read. -/
theorem bodyTemplate_fits :
    Stands headers given expected (bodyTemplate headers state).2 ∧
      ∀ template, (bodyTemplate headers state).1 = .ready template →
        template.Fits expected (bodyTemplate headers state).2.inbound := by
  unfold bodyTemplate
  split
  · rename_i body found
    refine ⟨stands, ?_⟩
    intro template ready
    cases ready
    rw [← stands.overridden found]
    exact fits_ofBytes _
  rename_i none
  split
  · rename_i announced
    refine ⟨stands, ?_⟩
    intro template ready
    cases ready
    exact stands.announced none announced
  rename_i announced
  have keeps := stands.keeps none announced
  have mode : nativeDefaultUpstreamRequestBodyMode headers state =
      if state.inbound.isPristineUnread then .streamInbound else .bufferRemaining := by
    unfold nativeDefaultUpstreamRequestBodyMode
    rw [none]
    exact if_neg announced
  rw [mode]
  cases pristine : state.inbound.isPristineUnread with
  | true =>
    refine ⟨stands, ?_⟩
    intro template ready
    cases ready
    refine ⟨keeps, ?_⟩
    simp only [isPristineUnread, Bool.and_eq_true, decide_eq_true_eq] at pristine
    exact pristine.1.2
  | false => exact resolvedTemplate_fits stands

end

/-! ### Carriers -/

/-- A carrier that is satisfied has got every item. -/
def Demanding (satisfies : Option Nat → List (Awaited VmError Bytes) → Bool) : Prop :=
  ∀ contentLength items, satisfies contentLength items = true → items.all Awaited.isReady = true

theorem allReady_demanding : Demanding allReady := fun _ _ satisfied => satisfied

theorem sentAs_demanding {useChunkedBody : Bool} : Demanding (sentAs useChunkedBody) := by
  intro contentLength items satisfied
  unfold sentAs at satisfied
  generalize sent : sendStream useChunkedBody items contentLength ⟨[], []⟩ = written at satisfied
  obtain ⟨result, writer⟩ := written
  cases result with
  | ready value =>
    obtain ⟨chunks, rfl, -, -⟩ := Upstream.sendStream_ready sent
    simp [Awaited.isReady]
  | failed err | dropped => cases satisfied

variable {satisfies : Option Nat → List (Awaited VmError Bytes) → Bool} {template : BodyTemplate}

theorem carry_sent (demanding : Demanding satisfies) (fits : template.Fits expected state.inbound)
    (stands : Stands headers given expected state) :
    Sent headers given expected (template.carry satisfies polls state) := by
  cases template with
  | empty | bytes body => exact ⟨fun sent same => by cases same; exact fits.symm, stands⟩
  | streaming contentLength =>
    obtain ⟨keeps, start⟩ := fits
    refine ⟨?_, stands.moved fun _ => streamRemaining_keeps keeps⟩
    intro sent same
    unfold BodyTemplate.carry at same
    dsimp only at same
    split at same
    · rename_i accepted
      rw [Bool.and_eq_true] at accepted
      cases same
      rw [streamRemaining_content keeps accepted.1 (demanding _ _ accepted.2), start]
      rfl
    · cases same

theorem send_sent (demanding : Demanding satisfies) {carrying : Carrying}
    (fits : template.Fits expected state.inbound) (stands : Stands headers given expected state) :
    Sent headers given expected (carrying.send satisfies template state) := by
  cases carrying with
  | fallback => exact .nothing stands
  | failed polls => exact .nothing (carry_sent demanding fits stands).stands
  | answered polls => exact carry_sent demanding fits stands

theorem withTemplate_sent {send : BodyTemplate → Forwarding → Option (List UInt8) × Forwarding}
    (stands : Stands headers given expected state)
    (sends : ∀ template next, template.Fits expected next.inbound →
      Stands headers given expected next → Sent headers given expected (send template next)) :
    Sent headers given expected (withTemplate headers send state) := by
  obtain ⟨kept, fits⟩ := bodyTemplate_fits stands
  unfold withTemplate
  generalize bodyTemplate headers state = result at kept fits
  obtain ⟨template, next⟩ := result
  cases template with
  | ready template => exact sends template next (fits template rfl) kept
  | failed err | dropped => exact .nothing kept

theorem sendOverPool_sent (useChunkedBody : Bool) (carrying : Carrying)
    (stands : Stands headers given expected state) :
    Sent headers given expected (sendOverPool headers useChunkedBody carrying state) :=
  withTemplate_sent stands fun _ _ => send_sent (sentAs_demanding)

theorem sendOverHttp2_sent {call : BodyCall} (fits : template.Fits expected state.inbound)
    (stands : Stands headers given expected state) :
    Sent headers given expected (sendOverHttp2 headers call template state) := by
  unfold sendOverHttp2
  split
  · exact sendOverPool_sent _ _ stands
  · exact send_sent allReady_demanding fits stands

theorem sendOverHttp3_sent {route : Route} {call : BodyCall}
    (fits : template.Fits expected state.inbound) (stands : Stands headers given expected state) :
    Sent headers given expected (sendOverHttp3 headers route call template state) := by
  unfold sendOverHttp3
  split
  · split
    · exact sendOverHttp2_sent fits stands
    · exact sendOverPool_sent _ _ stands
  · exact send_sent allReady_demanding fits stands

/-- A start sends what is due, over whatever carriers it falls back to. -/
theorem startBody_sent (route : Route) (call : BodyCall) (stands : Stands headers given expected state) :
    Sent headers given expected (startBody headers route call state) := by
  unfold startBody
  split
  · exact .nothing stands
  split
  · exact sendOverPool_sent _ _ stands
  split
  · exact withTemplate_sent stands fun _ _ => send_sent allReady_demanding
  split
  · exact withTemplate_sent stands fun _ _ => sendOverHttp3_sent
  split
  · exact withTemplate_sent stands fun _ _ => sendOverHttp2_sent
  obtain ⟨kept, -⟩ := resolve_stands stands
  generalize resolveOutboundRequestBody headers state = resolved at kept
  obtain ⟨read, next⟩ := resolved
  cases read with
  | ready body => exact sendOverPool_sent _ _ kept
  | failed err | dropped => exact .nothing kept

/-! ### Runs -/

/-- An event sends what is due, which stays due unless the program gives a body of its own. -/
theorem run_sent {event : BodyEvent} (stands : Stands headers given expected state) :
    (∀ sent, (event.run headers state).1 = some sent → sent = expected) ∧
      (Stands headers given expected (event.run headers state).2 ∨
        ∃ body, (event.run headers state).2.bodyOverride = some body) := by
  cases event with
  | read operation =>
    refine ⟨fun _ sent => (by cases sent), Or.inl ?_⟩
    exact stands.moved fun keeps => Holds.run keeps operation
  | setBody body => exact ⟨fun _ sent => (by cases sent), Or.inr ⟨body, rfl⟩⟩
  | appendBody bytes => exact ⟨fun _ sent => (by cases sent), Or.inr ⟨_, rfl⟩⟩
  | forward useChunkedBody carrying =>
    have sent := sendOverPool_sent useChunkedBody carrying stands
    exact ⟨sent.exact, Or.inl sent.stands⟩
  | start route call =>
    have sent := startBody_sent route call stands
    exact ⟨sent.exact, Or.inl sent.stands⟩

/-- A body that the program has given is sent as it is. -/
theorem forwarded_given (sends : forwarded headers events state = some (some body, sent)) :
    sent = body := by
  induction events generalizing state with
  | nil => cases sends
  | cons event events ih =>
    rw [forwarded] at sends
    split at sends
    · rename_i found next ran
      simp only [Option.some.injEq, Prod.mk.injEq] at sends
      have stands : Stands headers (some body) body state := ⟨sends.1, rfl⟩
      rw [← sends.2]
      exact (run_sent stands).1 found (by rw [ran])
    · exact ih sends

/-- A body that was given is not taken back. -/
theorem forwarded_set {final : Option (List UInt8)} (overridden : state.bodyOverride = some body)
    (sends : forwarded headers events state = some (final, sent)) : final ≠ none := by
  induction events generalizing state body with
  | nil => cases sends
  | cons event events ih =>
    have stands : Stands headers (some body) body state := ⟨overridden, rfl⟩
    obtain ⟨-, keeps⟩ := run_sent stands
    rw [forwarded] at sends
    generalize event.run headers state = ran at sends keeps
    obtain ⟨result, next⟩ := ran
    cases result with
    | some found =>
      cases sends
      rw [overridden]
      exact Option.some_ne_none body
    | none =>
      rcases keeps with kept | ⟨other, given⟩
      · exact ih kept.same sends
      · exact ih given sends

/-- Where the program has given no body, what is sent is due. -/
theorem forwarded_due (stands : Stands headers none expected state)
    (sends : forwarded headers events state = some (none, sent)) : sent = expected := by
  induction events generalizing state with
  | nil => cases sends
  | cons event events ih =>
    obtain ⟨exact, keeps⟩ := run_sent stands
    rw [forwarded] at sends
    generalize event.run headers state = ran at sends exact keeps
    obtain ⟨result, next⟩ := ran
    cases result with
    | some found =>
      simp only [Option.some.injEq, Prod.mk.injEq] at sends
      rw [← sends.2]
      exact exact found rfl
    | none =>
      rcases keeps with kept | ⟨other, given⟩
      · exact ih kept sends
      · exact absurd rfl (forwarded_set given sends)

end

/-! ## Complete bodies -/

/-- The body that was sent is the one that the program has given or, without one, all of the
inbound body. -/
def Faithful (body : Body) (bodyOverride : Option (List UInt8)) (sent : List UInt8) : Prop :=
  match bodyOverride with
  | some given => sent = given
  | none => Entire inboundSource (some body) sent

/-- A new body is due as a whole, unless its headers announce none. -/
theorem stands_new {headers : LazyHttpHeaders} {body : Body} {content : List UInt8}
    (entire : Entire inboundSource (some body) content) :
    Stands headers none (if requestHeadersIndicateEmptyBodyLazy headers then [] else content)
      ⟨none, .new body⟩ := by
  refine ⟨rfl, ?_⟩
  by_cases announced : requestHeadersIndicateEmptyBodyLazy headers = true
  · rw [if_pos announced]
    exact (if_pos announced).mpr rfl
  · rw [if_neg announced]
    have keeps : Keeps content (.new body) := ⟨content, entire, rfl, fun eof => by cases eof⟩
    exact (if_neg announced).mpr keeps

/-- The request that succeeds has sent the right body exactly when the program has given one,
or the inbound body can be read to its end and is empty where its headers announce none. -/
theorem request_body_faithful_iff (headers : LazyHttpHeaders) (body : Body)
    (events : List BodyEvent) (bodyOverride : Option (List UInt8)) (sent : List UInt8)
    (sends : forwarded headers events ⟨none, .new body⟩ = some (bodyOverride, sent)) :
    Faithful body bodyOverride sent ↔
      bodyOverride ≠ none ∨ ∃ content, Entire inboundSource (some body) content ∧
        (requestHeadersIndicateEmptyBodyLazy headers = true → content = []) := by
  cases bodyOverride with
  | some given =>
    have same : Faithful body (some given) sent := forwarded_given sends
    exact ⟨fun _ => Or.inl (Option.some_ne_none given), fun _ => same⟩
  | none =>
    constructor
    · intro entire
      refine Or.inr ⟨sent, entire, ?_⟩
      intro announced
      have due := forwarded_due (@stands_new headers body sent entire) sends
      rwa [if_pos announced] at due
    rintro (given | ⟨content, entire, empty⟩)
    · exact absurd rfl given
    have due := forwarded_due (@stands_new headers body content entire) sends
    rw [due]
    split
    · rename_i announced
      rwa [empty announced] at entire
    · exact entire

/-- A request with a body and no framing header, as HTTP/2 has it. -/
def unframed : LazyHttpHeaders := ⟨none, some []⟩

/-- The same with its length. -/
def framed : LazyHttpHeaders :=
  ⟨none, some [(.contentLength, ⟨Text.ascii "1", by decide +kernel⟩)]⟩

/-- A body of one byte. -/
def oneByte : Body := .hyper ⟨[.ready (.data ⟨[120], by decide⟩)], none⟩

/-- The default exchange over HTTP/3, with HTTP/2 and HTTP/1.1 to fall back to. -/
def newest : Route := ⟨false, true, false, .auto, false, true, true, true, false⟩

/-- Both fall back, and HTTP/1.1 is answered. -/
def fallsBack : BodyCall :=
  ⟨.failed 0, .failed 0, .fallback, .fallback, .answered 2, false⟩

theorem entire_oneByte : Entire inboundSource (some oneByte) [120] :=
  @Entire.chunk _ _ inboundSource _ _ [120] [] rfl (.eof rfl)

/-- After a read of the program and a start that fails behind a part of the body, all of it is
sent over the second fallback. -/
theorem request_body_faithful_sample :
    Faithful oneByte none [120] := by
  refine (request_body_faithful_iff framed oneByte
    [.read (.nextChunk 1), .forward false (.failed 1), .start newest fallsBack] none [120]
      (by decide +kernel)).mpr (Or.inr ⟨[120], entire_oneByte, ?_⟩)
  intro announced
  exact absurd announced (by decide +kernel)

/-- A body without a length and without a transfer coding is not sent. -/
theorem unframed_body_dropped : ¬ ∀ (headers : LazyHttpHeaders) (body : Body)
    (events : List BodyEvent) (bodyOverride : Option (List UInt8)) (sent : List UInt8),
    forwarded headers events ⟨none, .new body⟩ = some (bodyOverride, sent) →
    Faithful body bodyOverride sent := by
  intro all
  have nothing := all unframed oneByte [.start newest fallsBack] none [] (by decide +kernel)
  exact absurd (Entire.unique nothing entire_oneByte) (by decide)

end PdEdge.State

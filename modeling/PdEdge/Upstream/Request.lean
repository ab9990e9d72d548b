import PdEdge.Http1.ChunkSize
import PdEdge.Http1.Headers

/-!
# Sending a request

`send_request_body` writes the body behind the serialized head. Every write may fail or be
dropped while it waits, and a streamed body may fail or not keep to its declared length; the
result is specified by what was sent when it reports success.
-/

namespace PdEdge.Upstream

open Text Wire

/-- `OutboundHttp1RequestBody`; a stream is what awaiting its items gives. -/
inductive OutboundHttp1RequestBody where
  | empty
  | bytes (body : Bytes)
  | streaming (contentLength : Option Nat) (stream : List (Awaited VmError Bytes))

/-- `SerializedOutboundHttp1Request`, with the head that `make_request` leaves in the write
buffer of the connection. -/
structure SerializedOutboundHttp1Request where
  head : List UInt8
  method : Method
  body : OutboundHttp1RequestBody
  useChunkedBody : Bool

/-- `is_retryable`. -/
def OutboundHttp1RequestBody.isRetryable : OutboundHttp1RequestBody → Bool
  | .empty => true
  | .bytes _ => true
  | .streaming _ _ => false

/-- The writing side of a connection: how its next writes end, after which all succeed, and
what was written. -/
structure Writer where
  outcomes : List (Awaited IoError Unit)
  sent : List UInt8

/-- The outcome of an operation that writes. -/
abbrev Written := Awaited VmError Unit × Writer

namespace Writer

/-- `write_all` with the text of its error. -/
def writeAll (writer : Writer) (bytes : List UInt8) (what : String) : Written :=
  match writer.outcomes with
  | [] => (.ready (), ⟨[], writer.sent ++ bytes⟩)
  | .ready () :: rest => (.ready (), ⟨rest, writer.sent ++ bytes⟩)
  | .failed err :: rest =>
    (.failed (.hostError s!"failed to {what}: {err.message}"), ⟨rest, writer.sent⟩)
  | .dropped :: rest => (.dropped, ⟨rest, writer.sent⟩)

end Writer

/-- Go on unless the first operation has failed. -/
def Written.andThen (first : Written) (next : Writer → Written) : Written :=
  match first with
  | (.ready _, writer) => next writer
  | (.failed err, writer) => (.failed err, writer)
  | (.dropped, writer) => (.dropped, writer)

/-- One chunk of a streamed body. -/
def sendChunk (useChunkedBody : Bool) (chunk : Bytes) (writer : Writer) : Written :=
  if useChunkedBody then
    Written.andThen (writer.writeAll (appendChunkPrefix chunk.data.length)
      "write chunked plain http/1.1 request chunk header") fun writer =>
    Written.andThen (writer.writeAll chunk.data
      "stream plain http/1.1 upstream request body") fun writer =>
    writer.writeAll crlf "finalize chunked plain http/1.1 request chunk"
  else writer.writeAll chunk.data "stream plain http/1.1 upstream request body"

/-- What follows the stream: the check of the declared length and the last chunk. -/
def sendEnd (useChunkedBody : Bool) (remaining : Option Nat) (writer : Writer) : Written :=
  if remaining.any (· ≠ 0) then
    (.failed (.hostError
      "streamed outbound http/1.1 request body ended before declared content-length"), writer)
  else if useChunkedBody then
    writer.writeAll (ascii "0\r\n\r\n") "finalize chunked plain http/1.1 request body"
  else (.ready (), writer)

/-- The loop over the stream. -/
def sendStream (useChunkedBody : Bool) :
    List (Awaited VmError Bytes) → Option Nat → Writer → Written
  | [], remaining, writer => sendEnd useChunkedBody remaining writer
  | .failed err :: _, _, writer => (.failed err, writer)
  | .dropped :: _, _, writer => (.dropped, writer)
  | .ready chunk :: stream, remaining, writer =>
    if chunk.data = [] then sendStream useChunkedBody stream remaining writer
    else if remaining.any (· < chunk.data.length) then
      (.failed (.hostError
        "streamed outbound http/1.1 request body exceeded declared content-length"), writer)
    else
      Written.andThen (sendChunk useChunkedBody chunk writer)
        (sendStream useChunkedBody stream (remaining.map (· - chunk.data.length)))

/-- `send_request_body`. -/
def sendRequestBody (body : OutboundHttp1RequestBody) (useChunkedBody : Bool)
    (writer : Writer) : Written :=
  match body with
  | .empty => (.ready (), writer)
  | .bytes body => writer.writeAll body.data "write plain http/1.1 upstream request body"
  | .streaming contentLength stream => sendStream useChunkedBody stream contentLength writer

/-- The head, and the body behind it. -/
def sendRequest (request : SerializedOutboundHttp1Request) (writer : Writer) : Written :=
  Written.andThen (writer.writeAll request.head "write plain http/1.1 upstream request")
    (sendRequestBody request.body request.useChunkedBody)

/-! ## What was sent -/

/-- The bytes of a chunk on the wire. -/
def encodeChunk (useChunkedBody : Bool) (chunk : Bytes) : List UInt8 :=
  if chunk.data = [] then []
  else if useChunkedBody then appendChunkPrefix chunk.data.length ++ chunk.data ++ crlf
  else chunk.data

/-- A request body that gave all it declared, and its bytes on the wire. -/
inductive Whole (useChunkedBody : Bool) : OutboundHttp1RequestBody → List UInt8 → Prop
  | empty : Whole useChunkedBody .empty []
  | bytes {body : Bytes} : Whole useChunkedBody (.bytes body) body.data
  | streaming {contentLength : Option Nat} {chunks : List Bytes}
    (declared : ∀ length ∈ contentLength, (chunks.flatMap Bytes.data).length = length) :
    Whole useChunkedBody (.streaming contentLength (chunks.map .ready))
      (chunks.flatMap (encodeChunk useChunkedBody) ++
        if useChunkedBody then ascii "0\r\n\r\n" else [])

/-- The whole request was sent: its head and a whole body. -/
def SerializedOutboundHttp1Request.Complete (request : SerializedOutboundHttp1Request)
    (sent : List UInt8) : Prop :=
  ∃ encoded, Whole request.useChunkedBody request.body encoded ∧ sent = request.head ++ encoded

section

variable {writer final : Writer} {bytes : List UInt8} {what : String}

theorem writeAll_ready (written : writer.writeAll bytes what = (.ready (), final)) :
    final.sent = writer.sent ++ bytes := by
  unfold Writer.writeAll at written
  split at written
  · cases written
    rfl
  · cases written
    rfl
  all_goals cases written

/-- Both operations succeed where one after the other does. -/
theorem andThen_ready {first : Written} {next : Writer → Written}
    (written : first.andThen next = (.ready (), final)) :
    ∃ middle, first = (.ready (), middle) ∧ next middle = (.ready (), final) := by
  obtain ⟨result, middle⟩ := first
  cases result with
  | ready value => exact ⟨middle, rfl, written⟩
  | failed err | dropped => cases written

variable {useChunkedBody : Bool}

theorem sendChunk_ready {chunk : Bytes} (nonempty : chunk.data ≠ [])
    (written : sendChunk useChunkedBody chunk writer = (.ready (), final)) :
    final.sent = writer.sent ++ encodeChunk useChunkedBody chunk := by
  unfold encodeChunk
  rw [if_neg nonempty]
  cases useChunkedBody with
  | false => exact writeAll_ready written
  | true =>
    obtain ⟨second, size, rest⟩ := andThen_ready written
    obtain ⟨third, data, last⟩ := andThen_ready rest
    rw [writeAll_ready last, writeAll_ready data, writeAll_ready size]
    simp [List.append_assoc]

variable {remaining : Option Nat}

theorem sendEnd_ready (written : sendEnd useChunkedBody remaining writer = (.ready (), final)) :
    final.sent = writer.sent ++ (if useChunkedBody then ascii "0\r\n\r\n" else []) ∧
    ∀ length ∈ remaining, length = 0 := by
  unfold sendEnd at written
  split at written
  · cases written
  rename_i none
  refine ⟨?_, ?_⟩
  · cases useChunkedBody with
    | true => exact writeAll_ready written
    | false =>
      cases written
      exact (List.append_nil _).symm
  · intro length member
    rw [Option.mem_def.mp member] at none
    simpa using none

/-- A stream that was sent has given all its chunks, and as many bytes as were declared. -/
theorem sendStream_ready {stream : List (Awaited VmError Bytes)}
    (written : sendStream useChunkedBody stream remaining writer = (.ready (), final)) :
    ∃ chunks : List Bytes, stream = chunks.map .ready ∧
      (∀ length ∈ remaining, (chunks.flatMap Bytes.data).length = length) ∧
      final.sent = writer.sent ++ (chunks.flatMap (encodeChunk useChunkedBody) ++
        if useChunkedBody then ascii "0\r\n\r\n" else []) := by
  induction stream generalizing remaining writer with
  | nil =>
    obtain ⟨sent, zero⟩ := sendEnd_ready written
    refine ⟨[], rfl, ?_, by simpa using sent⟩
    intro length member
    simpa using (zero length member).symm
  | cons item stream ih =>
    cases item with
    | failed err | dropped => cases written
    | ready chunk =>
      rw [sendStream] at written
      by_cases empty : chunk.data = []
      · rw [if_pos empty] at written
        obtain ⟨chunks, rfl, declared, sent⟩ := ih written
        refine ⟨chunk :: chunks, rfl, ?_, ?_⟩
        · simpa [empty] using declared
        · simpa [encodeChunk, empty] using sent
      rw [if_neg empty] at written
      split at written
      · cases written
      rename_i within
      obtain ⟨middle, first, rest⟩ := andThen_ready written
      obtain ⟨chunks, rfl, declared, sent⟩ := ih rest
      refine ⟨chunk :: chunks, rfl, ?_, ?_⟩
      · intro length member
        rw [Option.mem_def.mp member] at declared within
        have left := declared (length - chunk.data.length) rfl
        have fits : chunk.data.length ≤ length := by simpa using within
        rw [List.flatMap_cons, List.length_append]
        omega
      · rw [sent, sendChunk_ready empty first, List.flatMap_cons]
        simp only [List.append_assoc]

/-- A request that was sent without an error was sent whole. -/
theorem sendRequest_ready {request : SerializedOutboundHttp1Request}
    {outcomes : List (Awaited IoError Unit)}
    (written : sendRequest request ⟨outcomes, []⟩ = (.ready (), final)) :
    request.Complete final.sent := by
  obtain ⟨middle, head, rest⟩ := andThen_ready written
  have front := writeAll_ready head
  rw [List.nil_append] at front
  unfold SerializedOutboundHttp1Request.Complete
  cases body : request.body with
  | empty =>
    rw [body] at rest
    cases rest
    exact ⟨[], .empty, by simpa using front⟩
  | bytes bytes =>
    rw [body] at rest
    exact ⟨bytes.data, .bytes, by rw [writeAll_ready rest, front]⟩
  | streaming contentLength stream =>
    rw [body] at rest
    obtain ⟨chunks, rfl, declared, sent⟩ := sendStream_ready rest
    exact ⟨_, .streaming declared, by rw [sent, front]⟩

end

end PdEdge.Upstream

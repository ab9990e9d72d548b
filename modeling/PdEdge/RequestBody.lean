import PdEdge.Downstream.Consumption
import PdEdge.RoundTrip
import PdEdge.Upstream.World

/-!
# The request body on the wire

What `send_request_body` has written when it reports success is the body as it is, or chunks
that both decoders of the program read back as the body. A stream that fails or does not keep
to its declared length is an error, and a call that met an error has let go of its connection
without touching the pool.
-/

namespace PdEdge.Upstream

open Text Wire Chunked Downstream List
open Downstream.FastHttp1RequestBodyState (live)

namespace OutboundHttp1RequestBody

/-- The bytes of a body that keeps to what it declares. -/
inductive Gives : OutboundHttp1RequestBody → List UInt8 → Prop
  | empty : Gives .empty []
  | bytes {body : Bytes} : Gives (.bytes body) body.data
  | streaming {contentLength : Option Nat} {chunks : List Bytes}
    (declared : ∀ length ∈ contentLength, (chunks.flatMap Bytes.data).length = length) :
    Gives (.streaming contentLength (chunks.map .ready)) (chunks.flatMap Bytes.data)

/-- A stream that gives its bytes gives as many as it declares. -/
theorem Gives.length {contentLength : Option Nat} {chunks : List Bytes} {content : List UInt8}
    (gives : Gives (.streaming contentLength (chunks.map .ready)) content) :
    ∀ length ∈ contentLength, (chunks.flatMap Bytes.data).length = length := by
  generalize stream : chunks.map Awaited.ready = items at gives
  cases gives with
  | streaming declared =>
    have same := map_injective_iff.mpr (fun _ _ => Awaited.ready.inj) stream
    rwa [same]

/-- Only a stream goes out in chunks. -/
def inChunks (body : OutboundHttp1RequestBody) (useChunkedBody : Bool) : Bool :=
  match body with
  | .streaming _ _ => useChunkedBody
  | _ => false

/-- No await of the body is dropped. -/
def Undropped (body : OutboundHttp1RequestBody) : Prop :=
  ∀ contentLength stream, body = .streaming contentLength stream → .dropped ∉ stream

end OutboundHttp1RequestBody

/-- Bytes that the decoders of the program read back, with nothing behind the last chunk. -/
structure ReadBack (encoded content : List UInt8) : Prop where
  /-- Chunks with data, and once at the end the chunk without. -/
  terminated : ∃ chunks : List Chunk, (∀ chunk ∈ chunks, chunk.data ≠ []) ∧
    encoded = chunks.flatMap Chunk.encode ++ ascii "0\r\n\r\n"
  /-- A chunked body of the standard. -/
  standard : Rfc9112.ChunkedBody encoded
  /-- The decoder of response bodies. -/
  response : ∀ {κ : Type} [DecidableEq κ] (key : κ) (capacity : Nat) (reader : Reader IoError),
    reader.unread = encoded → ReadsBack key capacity reader content
  /-- The decoder of request bodies, on a connection that goes on. -/
  request : ∀ (reader : Reader IoError) (budget : Nat) (rest : List UInt8),
    content.length ≤ budget → reader.unread = encoded ++ rest →
    ∃ pieces : List (List UInt8), pieces.flatten = content ∧
      ((live reader (.chunked .needSize) budget).pulls (pieces.length + 1)).1 =
        pieces.map (fun piece => .ready (some piece)) ++ [.ready none] ∧
      ∃ final, (live reader (.chunked .needSize) budget).finish = .ready (.ofReader final) ∧
        final.unread = rest

/-! ## Chunks read back -/

/-- The chunks of a stream that are written. -/
def solidFrames (chunks : List Bytes) : List Frame :=
  (chunks.filter fun chunk => chunk.data ≠ []).map .data

variable (chunks : List Bytes)

theorem solidFrames_solid : ∀ frame ∈ solidFrames chunks, ¬ frame.Hollow := by
  intro frame member
  obtain ⟨chunk, listed, rfl⟩ := mem_map.mp member
  have nonempty := (mem_filter.mp listed).2
  simpa [Frame.Hollow] using nonempty

theorem solidFrames_cons (chunk : Bytes) (chunks : List Bytes) :
    solidFrames (chunk :: chunks) =
      (if chunk.data = [] then [] else [.data chunk]) ++ solidFrames chunks := by
  by_cases empty : chunk.data = [] <;> simp [solidFrames, empty]

theorem payload_solidFrames :
    (solidFrames chunks).flatMap Frame.payload = chunks.flatMap Bytes.data := by
  induction chunks with
  | nil => rfl
  | cons chunk chunks ih =>
    rw [solidFrames_cons, flatMap_append, ih, flatMap_cons]
    by_cases empty : chunk.data = [] <;> simp [empty, Frame.payload]

/-- The chunks of a stream on the wire. -/
theorem encode_solidFrames :
    ((solidFrames chunks).filterMap Frame.chunk?).flatMap Chunk.encode =
      chunks.flatMap (encodeChunk true) := by
  induction chunks with
  | nil => rfl
  | cons chunk chunks ih =>
    rw [solidFrames_cons, filterMap_append, flatMap_append, ih, flatMap_cons]
    by_cases empty : chunk.data = [] <;>
      simp [empty, encodeChunk, Frame.chunk?, Chunk.encode, appendChunkPrefix]

/-- No frame of data changes the trailers. -/
theorem keptTrailers_solidFrames : keptTrailers (solidFrames chunks) = [] := by
  unfold keptTrailers
  induction chunks with
  | nil => rfl
  | cons chunk chunks ih =>
    rw [solidFrames_cons]
    by_cases empty : chunk.data = []
    · simpa [empty] using ih
    · simpa [empty, writeFrames] using ih

/-- A stream that was sent in chunks is the chunked body of its chunks. -/
theorem encode_frameBody_solid :
    (frameBody (solidFrames chunks)).encode =
      chunks.flatMap (encodeChunk true) ++ ascii "0\r\n\r\n" := by
  have last : ascii "0" ++ crlf ++ encodeTrailers [] = ascii "0\r\n\r\n" := by decide
  unfold Chunked.Body.encode
  simp only [frameBody, keptTrailers_solidFrames, map_nil, encode_solidFrames]
  rw [← last]

theorem readBack_chunks :
    ReadBack (chunks.flatMap (encodeChunk true) ++ ascii "0\r\n\r\n")
      (chunks.flatMap Bytes.data) := by
  have solid := solidFrames_solid chunks
  have content : (frameBody (solidFrames chunks)).content = chunks.flatMap Bytes.data := by
    rw [frameBody_content, payload_solidFrames]
  rw [← encode_frameBody_solid, ← content]
  constructor
  · have accepted := accepts_frameBody readsWriter_response _ solid
    refine ⟨(frameBody (solidFrames chunks)).chunks, ?_, ?_⟩
    · exact fun chunk member => (accepted.chunks chunk member).nonempty
    · rw [encode_frameBody_solid, ← encode_solidFrames]
      rfl
  · exact ⟨_, accepts_frameBody readsWriter_standard _ solid, rfl⟩
  · intro κ _ key capacity reader arrives
    have accepted := accepts_frameBody readsWriter_response _ solid
    exact readsBack_of_accepts key capacity accepted arrives
  intro reader budget rest within arrives
  have reads : Downstream.ReadsWriter requestRules := readsWriter_decoder fun _ => trivial
  have accepted := accepts_frameBody reads _ solid
  have owes : Downstream.FastHttp1RequestBodyState.Owes reader (.chunked .needSize) budget
      (frameBody (solidFrames chunks)).content rest :=
    ⟨⟨_, .chunked (.size accepted), arrives⟩, within⟩
  obtain ⟨pieces, ran, whole⟩ := owes.delivers
  obtain ⟨final, finished, behind, -⟩ := owes.finish
  exact ⟨pieces, whole, ran, final, finished, behind⟩

/-! ## What success and failure mean -/

variable {writer : Writer} {body : OutboundHttp1RequestBody} {useChunkedBody : Bool}

/-- A body that was sent has given all it declared, and what is on the wire is that. -/
theorem sendRequestBody_ready {final : Writer}
    (written : sendRequestBody body useChunkedBody writer = (.ready (), final)) :
    ∃ content encoded, body.Gives content ∧ final.sent = writer.sent ++ encoded ∧
      if body.inChunks useChunkedBody then ReadBack encoded content else encoded = content := by
  cases body with
  | empty =>
    cases written
    exact ⟨[], [], .empty, (append_nil _).symm, rfl⟩
  | bytes body => exact ⟨body.data, body.data, .bytes, writeAll_ready written, rfl⟩
  | streaming contentLength stream =>
    obtain ⟨chunks, rfl, declared, sent⟩ := sendStream_ready written
    refine ⟨_, _, .streaming declared, sent, ?_⟩
    cases useChunkedBody with
    | true => exact readBack_chunks chunks
    | false =>
      have plain (chunk : Bytes) : encodeChunk false chunk = chunk.data := by
        unfold encodeChunk
        split
        · rename_i empty
          exact empty.symm
        · rfl
      show chunks.flatMap (encodeChunk false) ++ [] = chunks.flatMap Bytes.data
      rw [append_nil, funext plain]

/-- No write to come is dropped. -/
def Writer.Undropped (writer : Writer) : Prop := .dropped ∉ writer.outcomes

/-- Neither the operation nor a write to come is dropped. -/
def Written.Undropped (written : Written) : Prop :=
  written.1 ≠ .dropped ∧ written.2.Undropped

theorem writeAll_undropped (undropped : writer.Undropped) {bytes : List UInt8} {what : String} :
    (writer.writeAll bytes what).Undropped := by
  obtain ⟨outcomes, sent⟩ := writer
  cases outcomes with
  | nil => exact ⟨nofun, undropped⟩
  | cons outcome outcomes =>
    have first := ne_of_not_mem_cons undropped
    have rest := not_mem_of_not_mem_cons undropped
    cases outcome with
    | ready value | failed err => exact ⟨nofun, rest⟩
    | dropped => exact absurd rfl first

theorem andThen_undropped {first : Written} {next : Writer → Written} (begun : first.Undropped)
    (goes : ∀ writer : Writer, writer.Undropped → (next writer).Undropped) :
    (first.andThen next).Undropped := by
  obtain ⟨result, writer⟩ := first
  cases result with
  | ready value => exact goes writer begun.2
  | failed err => exact ⟨nofun, begun.2⟩
  | dropped => exact absurd rfl begun.1

theorem sendChunk_undropped (undropped : writer.Undropped) {chunk : Bytes} :
    (sendChunk useChunkedBody chunk writer).Undropped := by
  cases useChunkedBody with
  | false => exact writeAll_undropped undropped
  | true =>
    apply andThen_undropped (writeAll_undropped undropped)
    intro writer undropped
    apply andThen_undropped (writeAll_undropped undropped)
    intro writer undropped
    exact writeAll_undropped undropped

theorem sendStream_undropped {stream : List (Awaited VmError Bytes)} (awaited : .dropped ∉ stream)
    (useChunkedBody : Bool) (remaining : Option Nat) (undropped : writer.Undropped) :
    (sendStream useChunkedBody stream remaining writer).Undropped := by
  induction stream generalizing remaining writer with
  | nil =>
    rw [sendStream, sendEnd]
    split
    · exact ⟨by simp, undropped⟩
    · split
      · exact writeAll_undropped undropped
      · exact ⟨by simp, undropped⟩
  | cons item stream ih =>
    have first := ne_of_not_mem_cons awaited
    have rest := not_mem_of_not_mem_cons awaited
    cases item with
    | failed err => exact ⟨by simp [sendStream], undropped⟩
    | dropped => exact absurd rfl first
    | ready chunk =>
      rw [sendStream]
      split
      · exact ih rest remaining undropped
      split
      · exact ⟨by simp, undropped⟩
      · apply andThen_undropped (sendChunk_undropped undropped)
        intro writer undropped
        exact ih rest _ undropped

/-- A body that does not give what it declares is refused. -/
theorem sendRequestBody_failed (short : ¬ ∃ content, body.Gives content)
    (awaited : body.Undropped) (undropped : writer.Undropped) :
    ∃ err final, sendRequestBody body useChunkedBody writer = (.failed err, final) := by
  cases body with
  | empty => exact absurd ⟨[], .empty⟩ short
  | bytes body => exact absurd ⟨body.data, .bytes⟩ short
  | streaming contentLength stream =>
    have stays := (sendStream_undropped (awaited _ _ rfl) useChunkedBody contentLength undropped).1
    generalize ran : sendRequestBody (.streaming contentLength stream) useChunkedBody writer = result
    rw [show sendStream useChunkedBody stream contentLength writer = result from ran] at stays
    obtain ⟨outcome, final⟩ := result
    cases outcome with
    | ready value =>
      obtain ⟨content, encoded, gives, -⟩ := sendRequestBody_ready ran
      exact absurd ⟨content, gives⟩ short
    | failed err => exact ⟨err, final, rfl⟩
    | dropped => exact absurd rfl stays

/-- The connection of a call: acquired for a request, or leased to the body of a response. -/
def Phase.connection? {κ : Type} : Phase κ → Option PlainHttp1PooledConnection
  | .acquired _ connection => some connection
  | .responded _ (some body) => body.lease.connection
  | _ => none

/-- A call whose request was not sent has no connection any more, and the pool has not got
it either. -/
theorem step_unsent {κ : Type} [DecidableEq κ] {libraries : Libraries} {task : Task κ}
    {pool : PlainHttp1SenderPool κ} {retried : Bool} {connection : PlainHttp1PooledConnection}
    (acquired : task.phase = .acquired retried connection)
    {request : SerializedOutboundHttp1Request} {outcomes : List (Awaited IoError Unit)}
    {answer : Socket IoError} (unsent : (sendRequest request ⟨outcomes, []⟩).1 ≠ .ready ()) :
    let after := task.step libraries pool (.exchange (.ok request) outcomes answer)
    after.1 = pool ∧ after.2.connection? = none := by
  simp only [Task.step, acquired, Task.exchange, sendSerializedRequestAndParseResponse]
  generalize sendRequest request ⟨outcomes, []⟩ = result at unsent
  obtain ⟨outcome, writer⟩ := result
  cases outcome with
  | ready value => exact absurd rfl unsent
  | failed err =>
    dsimp only
    split
    all_goals exact ⟨rfl, rfl⟩
  | dropped => exact ⟨rfl, rfl⟩

/-- A success of `send_request_body` means that exactly the body is on the wire, as it is or in
chunks that are read back; a body that does not give what it declares is an error; and after
an error in a request its connection is neither kept nor put back. -/
theorem sendRequestBody_exact (body : OutboundHttp1RequestBody) (useChunkedBody : Bool) :
    (∀ writer final : Writer, sendRequestBody body useChunkedBody writer = (.ready (), final) →
      ∃ content encoded, body.Gives content ∧ final.sent = writer.sent ++ encoded ∧
        if body.inChunks useChunkedBody then ReadBack encoded content else encoded = content) ∧
    (∀ writer : Writer, writer.Undropped → body.Undropped → (¬ ∃ content, body.Gives content) →
      ∃ err final, sendRequestBody body useChunkedBody writer = (.failed err, final)) ∧
    ∀ {κ : Type} [DecidableEq κ] (libraries : Libraries) (task : Task κ)
      (pool : PlainHttp1SenderPool κ) (retried : Bool) (connection : PlainHttp1PooledConnection)
      (head : List UInt8) (method : Method) (outcomes : List (Awaited IoError Unit))
      (answer : Socket IoError), task.phase = .acquired retried connection →
      let request : SerializedOutboundHttp1Request := ⟨head, method, body, useChunkedBody⟩
      let after := task.step libraries pool (.exchange (.ok request) outcomes answer)
      (sendRequest request ⟨outcomes, []⟩).1 ≠ .ready () →
      after.1 = pool ∧ after.2.connection? = none := by
  refine ⟨?_, ?_, ?_⟩
  · intro writer final written
    exact sendRequestBody_ready written
  · intro writer undropped awaited short
    exact sendRequestBody_failed short awaited undropped
  · intro κ _ libraries task pool retried connection head method outcomes answer acquired
    exact step_unsent acquired

/-- Two chunks around an empty one; a stream that ends one byte early; a write that fails. -/
theorem sendRequestBody_exact_sample :
    let chunks : List Bytes := [⟨ascii "ab", by decide⟩, ⟨[], by decide⟩, ⟨ascii "c", by decide⟩]
    let whole : OutboundHttp1RequestBody := .streaming none (chunks.map .ready)
    let short : OutboundHttp1RequestBody := .streaming (some 4) (chunks.map .ready)
    (∃ content encoded, whole.Gives content ∧
      ascii "2\r\nab\r\n1\r\nc\r\n0\r\n\r\n" = [] ++ encoded ∧ ReadBack encoded content) ∧
    (∃ err final, sendRequestBody short false ⟨[], []⟩ = (.failed err, final)) ∧
    ∀ (libraries : Libraries) (connection : PlainHttp1PooledConnection),
      let task : Task Unit := ⟨(), 1, "", .acquired true connection⟩
      let request : SerializedOutboundHttp1Request := ⟨[], .head, whole, true⟩
      let after := task.step libraries .empty
        (.exchange (.ok request) [.failed ⟨.brokenPipe, ""⟩] [])
      after.1 = .empty ∧ after.2.connection? = none := by
  intro chunks whole short
  refine ⟨?_, ?_, ?_⟩
  · have written : sendRequestBody whole true ⟨[], []⟩ =
        (.ready (), ⟨[], ascii "2\r\nab\r\n1\r\nc\r\n0\r\n\r\n"⟩) := by rfl
    exact (sendRequestBody_exact whole true).1 ⟨[], []⟩ _ written
  · have awaited : short.Undropped := by
      intro contentLength stream same
      cases OutboundHttp1RequestBody.streaming.inj same with
      | intro _ same =>
        rw [← same]
        simp
    have none : ¬ ∃ content, short.Gives content := by
      rintro ⟨content, gives⟩
      exact absurd (gives.length 4 rfl) (by decide)
    exact (sendRequestBody_exact short false).2.1 ⟨[], []⟩ (not_mem_nil) awaited none
  · intro libraries connection
    exact (sendRequestBody_exact whole true).2.2 libraries ⟨(), 1, "", .acquired true connection⟩
      .empty true connection [] .head [.failed ⟨.brokenPipe, ""⟩] [] rfl nofun

end PdEdge.Upstream

import PdEdge.State.Inbound
import PdEdge.State.Reads
import PdEdge.Upstream.Decoded

/-!
# The body of an upstream response

`UpstreamResponseBodyState` reads the body of a response from one of three carriers, a body
of hyper, the body of the HTTP/1.1 client or an HTTP/3 request stream, and keeps what it has
read, so that `take_streaming_passthrough` can still send all of it on. The pool of the
HTTP/1.1 client is passed along, since the end of its body releases the connection.
-/

namespace PdEdge.State

open Sources Wire
open Upstream (PlainHttp1ResponseBody PlainHttp1SenderPool)

/-- `h3::client::RequestStream` as a response is read from it: what awaiting its next data
gives, and behind it one error for every await, or the end of the data and the trailers. -/
structure Http3RequestStream where
  data : List (Awaited String (List UInt8))
  failing : Option String
  trailers : Option HeaderMap

/-- `UpstreamResponseSource`. -/
inductive UpstreamResponseSource (κ : Type) where
  | hyper (body : Incoming)
  | plainHttp1 (body : PlainHttp1ResponseBody κ)
  | http3 (requestStream : Http3RequestStream)
  | exhausted

/-- `UpstreamResponseBodySource` without what only counts and traces. -/
structure UpstreamResponseBodySource (κ : Type) where
  source : UpstreamResponseSource κ
  trailers : Option HeaderMap

/-- A body and the pool its connection goes back to. -/
abbrev Carried (κ : Type) := PlainHttp1SenderPool κ × UpstreamResponseBodySource κ

/-- The error of a frame of hyper that could not be read. -/
def upstreamFrameError (message : String) : VmError :=
  .hostError s!"failed to read upstream response frame: {message}"

/-- The error of HTTP/3 data that could not be read. -/
def http3FrameError (message : String) : VmError :=
  .hostError s!"failed to read upstream http3 response frame: {message}"

variable {κ : Type}

namespace UpstreamResponseBodySource

/-- `UpstreamResponseBodySource::default`. -/
def default : UpstreamResponseBodySource κ := ⟨.exhausted, none⟩

/-- The branch of `Hyper`. -/
def pullHyper (trailers : Option HeaderMap) :
    Incoming → Awaited VmError Pull × UpstreamResponseBodySource κ
  | ⟨[], none⟩ => (.ready .eof, ⟨.exhausted, trailers⟩)
  | ⟨[], some message⟩ =>
    (.failed (upstreamFrameError message), ⟨.hyper ⟨[], some message⟩, trailers⟩)
  | ⟨.ready (.data bytes) :: rest, failing⟩ =>
    (.ready (.chunk bytes.data), ⟨.hyper ⟨rest, failing⟩, trailers⟩)
  | ⟨.ready (.trailers headers) :: _, _⟩ => (.ready .eof, ⟨.exhausted, some headers⟩)
  | ⟨.ready .other :: rest, failing⟩ => (.ready .skip, ⟨.hyper ⟨rest, failing⟩, trailers⟩)
  | ⟨.failed message :: rest, failing⟩ =>
    (.failed (upstreamFrameError message), ⟨.hyper ⟨rest, failing⟩, trailers⟩)
  | ⟨.dropped :: rest, failing⟩ => (.dropped, ⟨.hyper ⟨rest, failing⟩, trailers⟩)

/-- The branch of `PlainHttp1`, by what the body's own `pull_next` gave. -/
def pullPlainHttp1 (trailers : Option HeaderMap) :
    Upstream.Pulled × PlainHttp1SenderPool κ × PlainHttp1ResponseBody κ →
      Awaited VmError Pull × Carried κ
  | (.ready (some chunk), pool, body) => (.ready (.chunk chunk), pool, ⟨.plainHttp1 body, trailers⟩)
  | (.ready none, pool, body) => (.ready .eof, pool, ⟨.exhausted, body.trailers⟩)
  | (.failed err, pool, body) => (.failed err, pool, ⟨.plainHttp1 body, trailers⟩)
  | (.dropped, pool, body) => (.dropped, pool, ⟨.plainHttp1 body, trailers⟩)

/-- The branch of `Http3`. -/
def pullHttp3 (trailers : Option HeaderMap) :
    Http3RequestStream → Awaited VmError Pull × UpstreamResponseBodySource κ
  | ⟨[], none, _⟩ => (.ready .eof, ⟨.exhausted, trailers⟩)
  | ⟨[], some message, rest⟩ =>
    (.failed (http3FrameError message), ⟨.http3 ⟨[], some message, rest⟩, trailers⟩)
  | ⟨.ready bytes :: data, failing, rest⟩ =>
    (.ready (.chunk bytes), ⟨.http3 ⟨data, failing, rest⟩, trailers⟩)
  | ⟨.failed message :: data, failing, rest⟩ =>
    (.failed (http3FrameError message), ⟨.http3 ⟨data, failing, rest⟩, trailers⟩)
  | ⟨.dropped :: data, failing, rest⟩ => (.dropped, ⟨.http3 ⟨data, failing, rest⟩, trailers⟩)

/-- `pull_next`. -/
def pullNext [DecidableEq κ] (carried : Carried κ) : Awaited VmError Pull × Carried κ :=
  let (pool, body) := carried
  match body.source with
  | .hyper incoming =>
    let (pulled, body) := pullHyper body.trailers incoming
    (pulled, pool, body)
  | .plainHttp1 plain => pullPlainHttp1 body.trailers (plain.pullNext pool)
  | .http3 requestStream =>
    let (pulled, body) := pullHttp3 body.trailers requestStream
    (pulled, pool, body)
  | .exhausted => (.ready .eof, pool, body)

/-- What is left of a body. -/
def left (carried : Carried κ) : Nat :=
  match carried.2.source with
  | .hyper incoming => incoming.frames.length
  | .plainHttp1 ⟨_, .done, _⟩ => 0
  | .plainHttp1 ⟨lease, _, _⟩ => (lease.connection.getD ⟨[], []⟩).unread.length + 1
  | .http3 requestStream => requestStream.data.length
  | .exhausted => 0

variable [DecidableEq κ]

attribute [local simp] pullPlainHttp1

/-- A piece leaves less, and the end is reported with the source exhausted. -/
theorem pullNext_ready {carried : Carried κ} {piece : Pull}
    (pulled : (pullNext carried).1 = .ready piece) :
    piece = .eof ∧ (pullNext carried).2.2.source = .exhausted ∨
      piece ≠ .eof ∧ left (pullNext carried).2 < left carried := by
  obtain ⟨pool, source, trailers⟩ := carried
  rcases source with ⟨frames, failing⟩ | plain | ⟨data, failing, rest⟩ | _
  · rcases frames with _ | ⟨frame | message | _, frames⟩
    · cases failing <;> cases pulled
      exact Or.inl ⟨rfl, rfl⟩
    · cases frame <;> cases pulled
      · exact Or.inr ⟨by simp, by simp [pullNext, pullHyper, left]⟩
      · exact Or.inl ⟨rfl, rfl⟩
      · exact Or.inr ⟨by simp, by simp [pullNext, pullHyper, left]⟩
    all_goals cases pulled
  · change (pullPlainHttp1 trailers (plain.pullNext pool)).1 = _ at pulled
    show _ ∧ (pullPlainHttp1 trailers (plain.pullNext pool)).2.2.source = _ ∨
      _ ∧ left (pullPlainHttp1 trailers (plain.pullNext pool)).2 < _
    have shrinks (chunk : List UInt8) := @PlainHttp1ResponseBody.pullNext_shrinks _ _ plain pool chunk
    generalize plain.pullNext pool = result at pulled shrinks ⊢
    rcases result with ⟨(_ | chunk) | err | _, pool', plain'⟩
    · cases pulled
      exact Or.inl ⟨rfl, rfl⟩
    · cases pulled
      refine Or.inr ⟨by simp, ?_⟩
      obtain ⟨running, reader, connected, less⟩ := shrinks chunk rfl
      obtain ⟨lease, kind, recorded⟩ := plain
      change lease.connection = some reader at connected
      have before : left (pool, ⟨.plainHttp1 ⟨lease, kind, recorded⟩, trailers⟩) =
          reader.unread.length + 1 := by
        cases kind with
        | done => exact absurd rfl running
        | fixed remaining | chunked state | closeDelimited => simp [left, connected]
      rw [before]
      obtain ⟨lease', kind', recorded'⟩ := plain'
      rcases less with past | ⟨after, connected', less⟩
      · subst past
        simp [left]
      change lease'.connection = some after at connected'
      cases kind' with
      | done => simp [left]
      | fixed remaining | chunked state | closeDelimited => simp [left, connected', less]
    all_goals cases pulled
  · rcases data with _ | ⟨bytes | message | _, data⟩
    · cases failing <;> cases pulled
      exact Or.inl ⟨rfl, rfl⟩
    · cases pulled
      exact Or.inr ⟨by simp, by simp [pullNext, pullHttp3, left]⟩
    all_goals cases pulled
  · cases pulled
    exact Or.inl ⟨rfl, rfl⟩

theorem pullNext_lowers (carried : Carried κ) (piece : Pull)
    (pulled : (pullNext carried).1 = .ready piece) (other : piece ≠ .eof) :
    left (pullNext carried).2 < left carried :=
  ((pullNext_ready pulled).resolve_left fun ended => other ended.1).2

theorem pullNext_eof {carried : Carried κ} (ended : (pullNext carried).1 = .ready .eof) :
    (pullNext carried).2.2.source = .exhausted :=
  ((pullNext_ready ended).resolve_right fun more => more.1 rfl).2

theorem pullNext_exhausted {carried : Carried κ} (past : carried.2.source = .exhausted) :
    pullNext carried = (.ready .eof, carried) := by
  obtain ⟨pool, source, trailers⟩ := carried
  subst past
  rfl

variable (κ) in
/-- The body of a response as a source. -/
def upstreamSource : Source (Carried κ) VmError where
  pull := pullNext
  measure := left
  lowers := pullNext_lowers
  fused _ ended := pullNext_exhausted (pullNext_eof ended)

end UpstreamResponseBodySource

/-- `UpstreamResponseBodyState`. -/
structure UpstreamResponseBodyState (κ : Type) where
  source : UpstreamResponseBodySource κ
  stream : BufferedByteStream

namespace UpstreamResponseBodyState

/-- `UpstreamResponseBodyState::empty`. -/
def empty : UpstreamResponseBodyState κ :=
  ⟨.default, { BufferedByteStream.default with eof := true }⟩

/-- The body over a carrier, which is not looked at when its announced length is zero. -/
def fromSource (source : UpstreamResponseSource κ) (contentLength : Option Nat) :
    UpstreamResponseBodyState κ :=
  if contentLength = some 0 then empty else ⟨⟨source, none⟩, .default⟩

/-- `from_hyper`. -/
def fromHyper (body : Incoming) : Option Nat → UpstreamResponseBodyState κ :=
  fromSource (.hyper body)

/-- `from_plain_http1`. -/
def fromPlainHttp1 (body : PlainHttp1ResponseBody κ) : Option Nat → UpstreamResponseBodyState κ :=
  fromSource (.plainHttp1 body)

/-- `from_http3`. -/
def fromHttp3 (requestStream : Http3RequestStream) : Option Nat → UpstreamResponseBodyState κ :=
  fromSource (.http3 requestStream)

end UpstreamResponseBodyState

/-! ## Reading a response from a program -/

open UpstreamResponseBodySource (upstreamSource)

/-- The operations that read the body of a response. -/
inductive BodyOp where
  | nextChunk (maxBytes : Nat)
  | nextLine
  | all
  | eof
  | trailers

variable [DecidableEq κ]

/-- `read_trailers`. -/
def readTrailers (stream : BufferedByteStream) (carried : Carried κ) :
    Awaited VmError HeaderMap × BufferedByteStream × Carried κ :=
  match BufferedByteStream.readAll (upstreamSource κ) stream carried with
  | (.ready _, stream, carried) => (.ready (carried.2.trailers.getD []), stream, carried)
  | (.failed err, stream, carried) => (.failed err, stream, carried)
  | (.dropped, stream, carried) => (.dropped, stream, carried)

namespace BodyOp

/-- An operation and its report; trailers are told with the end. -/
def run (op : BodyOp) (stream : BufferedByteStream) (carried : Carried κ) :
    Report × BufferedByteStream × Carried κ :=
  match op with
  | .nextChunk maxBytes => Read.run (upstreamSource κ) (.nextChunk maxBytes) stream carried
  | .nextLine => Read.run (upstreamSource κ) .nextLine stream carried
  | .all => Read.run (upstreamSource κ) .all stream carried
  | .eof => Read.run (upstreamSource κ) .eof stream carried
  | .trailers => reportOf (fun _ _ => true) (readTrailers stream carried)

/-- The operation on the bytes that an operation is. -/
def asRead : BodyOp → Read
  | .nextChunk maxBytes => .nextChunk maxBytes
  | .nextLine => .nextLine
  | .all => .all
  | .eof => .eof
  | .trailers => .all

theorem run_eq (op : BodyOp) (stream : BufferedByteStream) (carried : Carried κ) :
    op.run stream carried = op.asRead.run (upstreamSource κ) stream carried := by
  cases op with
  | trailers =>
    simp only [run, asRead, readTrailers, Read.run]
    rcases BufferedByteStream.readAll (upstreamSource κ) stream carried with ⟨_ | _ | _, _⟩
    all_goals rfl
  | nextChunk maxBytes | nextLine | all | eof => rfl

/-- A sequence of operations and their reports. -/
def runs : List BodyOp → BufferedByteStream → Carried κ →
    List Report × BufferedByteStream × Carried κ
  | [], stream, carried => ([], stream, carried)
  | op :: ops, stream, carried =>
    let (report, stream, carried) := op.run stream carried
    let (reports, final) := runs ops stream carried
    (report :: reports, final)

theorem runs_eq (ops : List BodyOp) (stream : BufferedByteStream) (carried : Carried κ) :
    runs ops stream carried = reads (upstreamSource κ) (ops.map asRead) stream carried := by
  induction ops generalizing stream carried with
  | nil => rfl
  | cons op ops ih => simp only [runs, List.map_cons, reads, run_eq, ih]

end BodyOp

end PdEdge.State

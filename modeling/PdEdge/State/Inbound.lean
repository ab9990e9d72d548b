import PdEdge.Downstream.Serve
import PdEdge.State.BodyIo

/-!
# The body of the inbound request

`InboundRequestBodyState` reads the body of a request, which is the stream of frames of a
connection that hyper serves, or the body stream of the fast path.
-/

namespace PdEdge.State

open Sources Wire
open Downstream (Frame RequestBody FastHttp1ReadError)

/-- `hyper::body::Incoming`: what awaiting its next frames gives. Behind them every await
fails with one error, or the body has ended. -/
structure Incoming where
  frames : List (Awaited String Frame)
  failing : Option String

/-- `axum::body::Body` of a request. -/
inductive Body where
  | hyper (incoming : Incoming)
  | leased (body : RequestBody)

/-- The text of `into_io_error`. -/
def readErrorMessage : FastHttp1ReadError → String
  | .io err => err.message
  | .badRequest message => message
  | .payloadTooLarge => "downstream http/1.1 request body exceeds fast-path limit"

/-- The error of a frame that could not be read. -/
def inboundFrameError (message : String) : VmError :=
  .hostError s!"failed to read inbound request body frame: {message}"

/-- The frames of hyper as pulls. -/
def pullIncoming : Incoming → Awaited VmError Pull × Option Body
  | ⟨[], none⟩ => (.ready .eof, none)
  | ⟨[], some message⟩ => (.failed (inboundFrameError message), some (.hyper ⟨[], some message⟩))
  | ⟨.ready (.data bytes) :: rest, failing⟩ =>
    (.ready (.chunk bytes.data), some (.hyper ⟨rest, failing⟩))
  | ⟨.ready (.trailers _) :: rest, failing⟩ => (.ready .skip, some (.hyper ⟨rest, failing⟩))
  | ⟨.ready .other :: rest, failing⟩ => (.ready .skip, some (.hyper ⟨rest, failing⟩))
  | ⟨.failed message :: rest, failing⟩ =>
    (.failed (inboundFrameError message), some (.hyper ⟨rest, failing⟩))
  | ⟨.dropped :: rest, failing⟩ => (.dropped, some (.hyper ⟨rest, failing⟩))

/-- A poll of the fast path's body stream as a pull. -/
def pullPolled : Downstream.Pulled × RequestBody → Awaited VmError Pull × Option Body
  | (.ready (some data), body) => (.ready (.chunk data), some (.leased body))
  | (.ready none, _) => (.ready .eof, none)
  | (.failed err, body) => (.failed (inboundFrameError (readErrorMessage err)), some (.leased body))
  | (.dropped, body) => (.dropped, some (.leased body))

/-- `pull_next` of `InboundRequestBodySource`. -/
def pullInbound : Option Body → Awaited VmError Pull × Option Body
  | none => (.ready .eof, none)
  | some (.hyper incoming) => pullIncoming incoming
  | some (.leased body) => pullPolled body.poll

/-- What is left of a body. -/
def leftInbound : Option Body → Nat
  | none => 0
  | some (.hyper incoming) => incoming.frames.length
  | some (.leased ⟨some state, false⟩) => state.weight + 1
  | some (.leased _) => 0

variable {state next : Downstream.FastHttp1RequestBodyState}

/-- A body stream goes on while its lease hands out data. -/
theorem poll_data {data : List UInt8} (pulled : state.pullNext = (.ready (some data), next)) :
    (⟨some state, false⟩ : RequestBody).poll = (.ready (some data), ⟨some next, false⟩) := by
  simp only [RequestBody.poll, pulled]

/-- Anything else is the last it gives. -/
theorem poll_last {result : Downstream.Pulled} (pulled : state.pullNext = (result, next))
    (last : ∀ data, result ≠ .ready (some data)) :
    (⟨some state, false⟩ : RequestBody).poll = (result, ⟨some next, true⟩) := by
  rcases result with (_ | data) | err | _
  · simp only [RequestBody.poll, pulled]
  · exact absurd rfl (last data)
  all_goals simp only [RequestBody.poll, pulled]

/-- A piece leaves less, and the end is reported with the body gone. -/
theorem pullInbound_ready {body : Option Body} {piece : Pull}
    (pulled : (pullInbound body).1 = .ready piece) :
    piece = .eof ∧ (pullInbound body).2 = none ∨
      piece ≠ .eof ∧ leftInbound (pullInbound body).2 < leftInbound body := by
  rcases body with _ | ⟨frames, failing⟩ | ⟨_ | state, _ | _⟩
  · cases pulled
    exact Or.inl ⟨rfl, rfl⟩
  · rcases frames with _ | ⟨frame | message | _, rest⟩
    · cases failing <;> cases pulled
      exact Or.inl ⟨rfl, rfl⟩
    · cases frame <;> cases pulled
      all_goals exact Or.inr ⟨by simp, by simp [pullInbound, pullIncoming, leftInbound]⟩
    all_goals cases pulled
  · cases pulled
    exact Or.inl ⟨rfl, rfl⟩
  · cases pulled
    exact Or.inl ⟨rfl, rfl⟩
  · rw [pullInbound] at pulled ⊢
    cases given : state.pullNext with
    | mk result next =>
      rcases result with (_ | data) | err | _
      · rw [poll_last given (by simp)] at pulled ⊢
        cases pulled
        exact Or.inl ⟨rfl, rfl⟩
      · rw [poll_data given] at pulled ⊢
        cases pulled
        have lower := Downstream.FastHttp1RequestBodyState.pullNext_lowers given
        exact Or.inr ⟨by simp, by simp [leftInbound, pullPolled, lower]⟩
      all_goals
        rw [poll_last given (by simp)] at pulled
        cases pulled
  · cases pulled
    exact Or.inl ⟨rfl, rfl⟩

theorem pullInbound_lowers (body : Option Body) (piece : Pull)
    (pulled : (pullInbound body).1 = .ready piece) (other : piece ≠ .eof) :
    leftInbound (pullInbound body).2 < leftInbound body :=
  ((pullInbound_ready pulled).resolve_left fun ended => other ended.1).2

theorem pullInbound_eof {body : Option Body} (ended : (pullInbound body).1 = .ready .eof) :
    (pullInbound body).2 = none :=
  ((pullInbound_ready ended).resolve_right fun more => more.1 rfl).2

/-- A body of a request as a source. -/
def inboundSource : Source (Option Body) VmError where
  pull := pullInbound
  measure := leftInbound
  lowers := pullInbound_lowers
  fused body ended := by
    rw [pullInbound_eof ended]
    rfl

/-- `InboundRequestBodyState`. -/
structure InboundRequestBodyState where
  source : Option Body
  stream : BufferedByteStream

/-- `InboundRequestBodyState::new`. -/
def InboundRequestBodyState.new (body : Body) : InboundRequestBodyState :=
  ⟨some body, .default⟩

end PdEdge.State

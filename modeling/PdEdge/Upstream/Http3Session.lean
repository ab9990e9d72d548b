import PdEdge.Lib.Runs

/-!
# Retention of HTTP/3 sessions

The state of an upstream session and of its streams. The pass over the pool keeps the sessions
that `should_retain` names; one that is neither usable nor has an active stream is leaked.
-/

namespace PdEdge.Upstream

open Runs

/-- `Http3SessionFrontier`, from `Open` on: a session is made in that state. -/
inductive Http3SessionFrontier where
  | opened
  | draining
  | closed
  | failed
  deriving DecidableEq

/-- `Http3SessionFrontier::is_terminal`. -/
def Http3SessionFrontier.isTerminal : Http3SessionFrontier → Bool
  | .closed | .failed => true
  | _ => false

/-- `Http3StreamFrontier` in its states that are not terminal. -/
inductive Http3ActiveFrontier where
  | attachedToExchange
  | requestCommitted
  | requestBodyOpen
  | responseHeadReady
  | responseBodyReady

/-- `Http3StreamFrontier`. -/
inductive Http3StreamFrontier where
  | active (frontier : Http3ActiveFrontier)
  | closed
  | reset

/-- `Http3StreamFrontier::is_terminal`. -/
def Http3StreamFrontier.isTerminal : Http3StreamFrontier → Bool
  | .active _ => false
  | _ => true

/-- `Http3UpstreamSessionDagState`, with its streams by their ids. -/
structure Http3Session where
  frontier : Http3SessionFrontier
  goaway : Bool
  streams : List (Nat × Http3StreamFrontier)

/-- What happens to a session. -/
inductive Http3Event where
  | attachStream (id : Nat)
  /-- The request is committed, or the response has got further. -/
  | markStream (id : Nat) (frontier : Http3ActiveFrontier)
  | markStreamClosed (id : Nat)
  | markStreamReset (id : Nat)
  /-- A GOAWAY, or an error of the connection, which `classify_http3_error` takes for one. -/
  | markGoaway
  | markConnectionClosed
  | markConnectionFailed

namespace Http3Session

/-- A session that has just been opened. -/
def new : Http3Session := ⟨.opened, false, []⟩

variable (session : Http3Session)

/-- `has_active_streams`. -/
def hasActiveStreams : Bool := session.streams.any fun stream => !stream.2.isTerminal

/-- Set the state of a stream that is there. -/
def setStream (id : Nat) (frontier : Http3StreamFrontier) : List (Nat × Http3StreamFrontier) :=
  session.streams.map fun stream => if stream.1 = id then (id, frontier) else stream

/-- What is left of the streams when one has ended. -/
def endStream (id : Nat) (frontier : Http3StreamFrontier) : List (Nat × Http3StreamFrontier) :=
  (session.setStream id frontier).filter fun stream => !stream.2.isTerminal

/-- One event. -/
def step : Http3Event → Http3Session
  | .attachStream id =>
    { session with streams := (id, .active .attachedToExchange) ::
        session.streams.filter fun stream => stream.1 ≠ id }
  | .markStream id frontier => { session with streams := session.setStream id (.active frontier) }
  | .markStreamClosed id =>
    { session with
      streams := session.endStream id .closed
      frontier := if session.frontier = .draining && (session.endStream id .closed).isEmpty
        then .closed else session.frontier }
  | .markStreamReset id => { session with streams := session.endStream id .reset }
  | .markGoaway =>
    { session with
      goaway := true
      frontier := if session.frontier.isTerminal then session.frontier else .draining }
  | .markConnectionClosed =>
    { session with
      frontier := if session.frontier = .draining && session.streams.isEmpty then .closed
        else if session.frontier = .opened then .draining else session.frontier }
  | .markConnectionFailed =>
    { session with
      frontier := .failed
      streams := session.streams.map fun stream =>
        (stream.1, if stream.2.isTerminal then stream.2 else .reset) }

/-- Where a session begins to drain it has an active stream, and no reset ends its last one. -/
def Clear : Http3Event → Prop
  | .markGoaway => session.frontier.isTerminal ∨ session.hasActiveStreams
  | .markConnectionClosed => session.frontier = .opened → session.hasActiveStreams
  | .markStreamReset id => session.frontier = .draining →
    ∃ stream ∈ session.streams, stream.1 ≠ id ∧ stream.2.isTerminal = false
  | _ => True

variable {session}

section

variable (plain : session.frontier = .opened → session.goaway = false)
include plain

end

end Http3Session

end PdEdge.Upstream

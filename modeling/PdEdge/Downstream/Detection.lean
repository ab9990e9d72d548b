import PdEdge.Downstream.Fallback

/-!
# Which protocol a connection is served with

`serve_http_auto_connection` looks once at the bytes that have arrived and serves HTTP/2 only
if they hold the whole connection preface. A look takes nothing away, so whichever server is
chosen starts at the first byte; but how much has arrived by then is not up to the client.
-/

namespace PdEdge.Downstream

open Text Wire

/-- `HTTP2_PREFACE`. -/
def http2Preface : List UInt8 := ascii "PRI * HTTP/2.0\r\n\r\nSM\r\n\r\n"

/-- The protocols of the plain listener. -/
inductive Protocol where
  | http1
  | http2
  deriving DecidableEq, Repr

/-- `AutoBuilder` of hyper, which detects the protocol from the bytes that it reads. -/
structure AutoBuilder where
  protocol : List UInt8 → Protocol
  detects : ∀ bytes, http2Preface <+: bytes → protocol bytes = .http2

/-- `TcpStream::peek` into a buffer: it waits until bytes arrive and takes none of them. -/
def peek (arrived room : Nat) : Socket IoError → Awaited IoError (List UInt8) × Socket IoError
  | [] => (.ready [], [])
  | .data segment :: rest =>
    (.ready (segment.bytes.take (min room (max 1 arrived))), .data segment :: rest)
  | .error err :: rest => (.failed err, rest)
  | .dropped :: rest => (.dropped, rest)

/-- The server that a connection is given to, with what it reads from. -/
inductive Served where
  /-- `serve_http_connection`. -/
  | auto (protocol : Protocol) (socket : Socket IoError)
  /-- `serve_http1_connection_via_hyper`. -/
  | hyper (socket : Socket IoError)
  /-- `serve_http1_fast_connection`. -/
  | fast (reader : Reader IoError)

namespace Served

/-- The protocol that is spoken. -/
def protocol : Served → Protocol
  | .auto protocol _ => protocol
  | _ => .http1

/-- The server reads the bytes from the first on; so does hyper behind the fast path. -/
def Sees (bytes : List UInt8) : Served → Prop
  | .auto _ socket => carried socket = bytes
  | .hyper socket => carried socket = bytes
  | .fast reader => reader.ahead = bytes ∧
    ∀ (υ : Type) (libraries : ServeLibraries υ) (snapshots : Snapshots υ) (writes : Writes)
      (events : List (ServeEvent υ)) (connection : FastHttp1ConnectionIo),
      serveRound libraries snapshots reader writes = (events, .leave (.hyper connection)) →
        connection.ahead = bytes

end Served

/-- `serve_http1_connection`. -/
def serveHttp1Connection (mayStream : Bool) (socket : Socket IoError) : Served :=
  if mayStream then .hyper socket else .fast ⟨socket, []⟩

/-- `serve_http_auto_connection`; nothing is served if its task is dropped at the peek. -/
def serveHttpAutoConnection (auto : AutoBuilder) (mayStream : Bool) (arrived : Nat)
    (socket : Socket IoError) : Option Served :=
  match peek arrived 24 socket with
  | (.dropped, _) => none
  | (.failed _, socket) => some (serveHttp1Connection mayStream socket)
  | (.ready preface, socket) =>
    if http2Preface.length ≤ preface.length && preface.take http2Preface.length = http2Preface then
      some (.auto (auto.protocol (carried socket)) socket)
    else some (serveHttp1Connection mayStream socket)

/-! ## The choice -/

/-- The connection is served with the protocol that its bytes ask for, from the first on. -/
structure RightlyServed (bytes : List UInt8) (served : Served) : Prop where
  http2 : served.protocol = .http2 ↔ http2Preface <+: bytes
  http1 : served.protocol = .http1 ↔ ¬ http2Preface <+: bytes
  sees : served.Sees bytes

/-- The preface has arrived by the time of the peek. -/
def PrefaceAtHand (arrived : Nat) : Socket IoError → Prop
  | .data segment :: _ => http2Preface.length ≤ min arrived segment.bytes.length
  | .dropped :: _ => True
  | _ => False

variable {mayStream : Bool}

/-- The HTTP/1.1 servers see all bytes. -/
theorem serveHttp1Connection_sees {socket : Socket IoError} :
    (serveHttp1Connection mayStream socket).protocol = .http1 ∧
      (serveHttp1Connection mayStream socket).Sees (carried socket) := by
  cases mayStream with
  | true => exact ⟨rfl, rfl⟩
  | false =>
    refine ⟨rfl, rfl, fun υ libraries snapshots writes events connection fell => ?_⟩
    obtain ⟨-, after, rfl, ahead⟩ := serveRound_fallback fell
    exact ahead

variable {socket : Socket IoError}

/-- HTTP/1.1 is right exactly for bytes without the preface. -/
theorem rightlyServed_http1 {bytes : List UInt8} (same : carried socket = bytes) :
    RightlyServed bytes (serveHttp1Connection mayStream socket) ↔ ¬ http2Preface <+: bytes := by
  obtain ⟨protocol, sees⟩ := serveHttp1Connection_sees
  rw [same] at sees
  constructor
  · intro right
    exact right.http1.mp protocol
  · intro absent
    exact ⟨by simp [protocol, absent], by simp [protocol, absent], sees⟩

/-- HTTP/2 is right where the preface is. -/
theorem rightlyServed_auto (auto : AutoBuilder) (starts : http2Preface <+: carried socket) :
    RightlyServed (carried socket) (.auto (auto.protocol (carried socket)) socket) := by
  have protocol := auto.detects _ starts
  exact ⟨by simp [Served.protocol, protocol, starts], by simp [Served.protocol, protocol, starts],
    rfl⟩

/-- The buffer of the peek holds the preface exactly when the bytes that have arrived do. -/
theorem peeked_iff {bytes : List UInt8} {arrived : Nat} :
    (http2Preface.length ≤ (bytes.take (min 24 (max 1 arrived))).length ∧
      (bytes.take (min 24 (max 1 arrived))).take http2Preface.length = http2Preface) ↔
    http2Preface.length ≤ min arrived bytes.length ∧ http2Preface <+: bytes := by
  have size : http2Preface.length = 24 := by decide
  rw [size, List.length_take, List.prefix_iff_eq_take, size]
  constructor
  · rintro ⟨long, same⟩
    refine ⟨by omega, ?_⟩
    rw [List.take_take, Nat.min_eq_left (by omega)] at same
    exact same.symm
  rintro ⟨long, same⟩
  refine ⟨by omega, ?_⟩
  rw [List.take_take, Nat.min_eq_left (by omega)]
  exact same.symm

/-- The server of a connection whose first bytes have come. -/
theorem detection_data {auto : AutoBuilder} {arrived : Nat} {segment : Segment}
    {rest : Socket IoError} :
    ∃ served, serveHttpAutoConnection auto mayStream arrived (.data segment :: rest) = some served ∧
      (RightlyServed (carried (.data segment :: rest)) served ↔
        (http2Preface <+: carried (.data segment :: rest) →
          PrefaceAtHand arrived (.data segment :: rest))) := by
  by_cases peeked : http2Preface.length ≤ min arrived segment.bytes.length ∧
    http2Preface <+: segment.bytes
  · have starts : http2Preface <+: carried (.data segment :: rest) :=
      peeked.2.trans (List.prefix_append _ _)
    refine ⟨_, ?_, iff_of_true (rightlyServed_auto auto starts) fun _ => peeked.1⟩
    simp only [serveHttpAutoConnection, peek, Bool.and_eq_true, decide_eq_true_eq,
      if_pos ((peeked_iff).mpr peeked)]
  refine ⟨serveHttp1Connection mayStream (.data segment :: rest), ?_, ?_⟩
  · simp only [serveHttpAutoConnection, peek, Bool.and_eq_true, decide_eq_true_eq,
      if_neg fun held => peeked ((peeked_iff).mp held)]
  rw [rightlyServed_http1 rfl]
  refine ⟨fun absent starts => absurd starts absent, fun atHand starts => ?_⟩
  -- what is at hand is long enough to hold the preface that the bytes start with
  have long : http2Preface.length ≤ min arrived segment.bytes.length := atHand starts
  have front : http2Preface <+: segment.bytes :=
    List.prefix_of_prefix_length_le starts (List.prefix_append _ _)
      (Nat.le_trans long (Nat.min_le_right _ _))
  exact peeked ⟨long, front⟩

/-- A connection is served rightly exactly if the preface, where there is one, has arrived by
the time of the peek. -/
theorem detection_iff (auto : AutoBuilder) (mayStream : Bool) (arrived : Nat)
    (socket : Socket IoError) :
    (∀ served ∈ serveHttpAutoConnection auto mayStream arrived socket,
      RightlyServed (carried socket) served) ↔
    (http2Preface <+: carried socket → PrefaceAtHand arrived socket) := by
  have only {served : Served} {outcome : Option Served} (same : outcome = some served)
      (bytes : List UInt8) :
      (∀ served ∈ outcome, RightlyServed bytes served) ↔ RightlyServed bytes served := by
    simp [same]
  cases socket with
  | nil => exact (only rfl []).trans (rightlyServed_http1 rfl)
  | cons event rest =>
    cases event with
    | data segment =>
      obtain ⟨served, chosen, right⟩ := detection_data
      exact (only chosen _).trans right
    | error err => exact (only rfl _).trans (rightlyServed_http1 rfl)
    | dropped =>
      refine iff_of_true (fun served chosen => ?_) fun _ => trivial
      cases chosen

/-- The detection of the library, on bytes that are all there. -/
def wholeDetection : AutoBuilder where
  protocol bytes := if http2Preface.isPrefixOf bytes then .http2 else .http1
  detects _ starts := if_pos (List.isPrefixOf_iff_prefix.mpr starts)

/-- A client of HTTP/2 whose preface arrives in two pieces is served with HTTP/1.1. -/
theorem split_preface_served_as_http1 : ¬ ∀ (auto : AutoBuilder) (mayStream : Bool)
    (arrived : Nat) (socket : Socket IoError),
    ∀ served ∈ serveHttpAutoConnection auto mayStream arrived socket,
      RightlyServed (carried socket) served := by
  intro all
  let socket : Socket IoError := [.data ⟨http2Preface.take 3, by decide⟩,
    .data ⟨http2Preface.drop 3, by decide⟩]
  have right := all wholeDetection false 3 socket (.fast ⟨socket, []⟩) (by rfl)
  have starts : http2Preface <+: carried socket := ⟨[], by decide⟩
  have protocol := right.http2.mpr starts
  cases protocol

end PdEdge.Downstream

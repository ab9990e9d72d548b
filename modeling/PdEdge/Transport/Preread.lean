import PdEdge.Downstream.Fallback

/-!
# The bytes of a downstream transport

A program peeks and reads at a downstream connection before it gives the connection to TLS, to
WebSocket or to HTTP. Peeked bytes wait in a buffer; reads take from it first, and a hand-off
replays it in front of the stream. Reads over TCP and over TLS plaintext are alike. The acceptor
of the TLS library is a parameter: how much it asks for, and what it makes of what it has.
-/

namespace PdEdge.Transport

open Downstream (ReplayPrefixedIo)
open List
open Iteration Streams Wire

/-- What the bytes of a connection are read from. -/
inductive Layer where
  | tcp
  | tls
  deriving DecidableEq

/-- The name of a layer in messages. -/
def Layer.label : Layer → String
  | tcp => "tcp"
  | tls => "tls"

/-- `TransportState`, as far as it is about the bytes of the downstream connection. -/
structure DownstreamTransport where
  tcpIo : Option (Socket String)
  tlsIo : Option (Socket String)
  /-- `downstream_tls_server_start`: what the acceptor has read, and the stream behind that. -/
  tlsServerStart : Option (List UInt8 × ReplayPrefixedIo (Socket String))
  /-- `tls_dag.downstream.is_present()`. -/
  tlsPresent : Bool
  prereadBuffer : List UInt8
  readEof : Bool

namespace DownstreamTransport

/-- A connection that nothing was done with, or whose handshake was just completed. -/
def fresh (layer : Layer) (socket : Socket String) : DownstreamTransport where
  tcpIo := if layer = .tcp then some socket else none
  tlsIo := if layer = .tls then some socket else none
  tlsServerStart := none
  tlsPresent := layer = .tls
  prereadBuffer := []
  readEof := false

variable (transport : DownstreamTransport)

/-- What is read from, TLS plaintext before TCP. -/
def attached : Option (Layer × Socket String) :=
  match transport.tlsIo, transport.tcpIo with
  | some socket, _ => some (.tls, socket)
  | none, some socket => some (.tcp, socket)
  | none, none => none

/-- Put back what is left of a stream. -/
def setIo (layer : Layer) (socket : Socket String) : DownstreamTransport :=
  match layer with
  | .tcp => { transport with tcpIo := some socket }
  | .tls => { transport with tlsIo := some socket }

/-! ## Reading and peeking -/

/-- `decode_chunk_size`. -/
def decodeChunkSize (maxBytes : Int) : Except VmError Nat :=
  if 0 < maxBytes then .ok maxBytes.toNat
  else .error (.hostError s!"tcp::stream::read max_bytes must be positive, got {maxBytes}")

/-- `mark_attached_downstream_failed`. -/
def markFailed : DownstreamTransport :=
  { transport with tlsServerStart := none, tlsIo := none, prereadBuffer := [], tcpIo := none }

/-- `take_downstream_preread_bytes`. -/
def takePrereadBytes (maxBytes : Nat) : List UInt8 × DownstreamTransport :=
  (transport.prereadBuffer.take maxBytes,
    { transport with prereadBuffer := transport.prereadBuffer.drop maxBytes })

/-- `read_attached_downstream_tcp` and `read_attached_downstream_tls`. -/
def readAttached (layer : Layer) (socket : Socket String) (maxBytes : Nat) :
    Except VmError (List UInt8) × DownstreamTransport :=
  match awaitRead socket maxBytes with
  | (.ok bytes, rest) => (.ok bytes, { transport.setIo layer rest with readEof := bytes.isEmpty })
  | (.error err, rest) =>
    let label := layer.label
    (.error (.hostError s!"downstream {label} read failed: {err}"), transport.setIo layer rest)

/-- `read_attached_downstream_tcp_with_preread` and the same for TLS. -/
def readWithPreread (layer : Layer) (socket : Socket String) (maxBytes : Nat) :
    Except VmError (List UInt8) × DownstreamTransport :=
  let taken := transport.takePrereadBytes maxBytes
  if taken.1.length < maxBytes then
    match taken.2.readAttached layer socket (maxBytes - taken.1.length) with
    | (.ok suffix, transport) => (.ok (taken.1 ++ suffix), transport)
    | (.error err, transport) => (.error err, transport)
  else (.ok taken.1, taken.2)

/-- `attached_downstream_eof`. -/
def attachedEof : Bool := transport.readEof && transport.prereadBuffer.isEmpty

/-- `peek_attached_downstream_tcp` and `peek_attached_downstream_tls`. -/
def peekAttached (layer : Layer) (socket : Socket String) (maxBytes : Nat) :
    Except VmError (List UInt8) × DownstreamTransport :=
  let current := transport.prereadBuffer.take maxBytes
  if maxBytes ≤ current.length || transport.attachedEof then (.ok current, transport)
  else
    match transport.readAttached layer socket (maxBytes - current.length) with
    | (.ok suffix, transport) =>
      (.ok (current ++ suffix),
        { transport with prereadBuffer := transport.prereadBuffer ++ suffix })
    | (.error err, transport) => (.error err, transport)

/-- An error of a read or a peek ends the transport. -/
def guarded (result : Except VmError (List UInt8) × DownstreamTransport) :
    Except VmError (List UInt8) × DownstreamTransport :=
  match result with
  | (.ok chunk, transport) => (.ok chunk, transport)
  | (.error err, transport) => (.error err, transport.markFailed)

/-- The error of a stream whose TLS handshake is pending. -/
def handshakePending : VmError :=
  .hostError ("downstream tcp stream is pending tls handshake; " ++
    "call tls::session::handshake or close the stream")

/-- `tcp::stream::read_binary` on the downstream stream; without a transport it reads the request
body, which is empty where the connection did not begin with a request. -/
def read (maxBytes : Int) : Except VmError (List UInt8) × DownstreamTransport :=
  match decodeChunkSize maxBytes with
  | .error err => (.error err, transport)
  | .ok size =>
    match transport.attached with
    | some (layer, socket) => guarded (transport.readWithPreread layer socket size)
    | none =>
      if transport.tlsServerStart.isSome then (.error handshakePending, transport)
      else (.ok [], transport)

/-- `tcp::stream::peek_binary` on the downstream stream. -/
def peek (maxBytes : Int) : Except VmError (List UInt8) × DownstreamTransport :=
  match decodeChunkSize maxBytes with
  | .error err => (.error err, transport)
  | .ok size =>
    match transport.attached with
    | some (layer, socket) => guarded (transport.peekAttached layer socket size)
    | none =>
      if transport.tlsServerStart.isSome then (.error handshakePending, transport)
      else
        (.error (.hostError ("tcp::stream::peek_binary on downstream requires an attached raw " ++
          "downstream tcp or tls plaintext transport")), transport)

end DownstreamTransport

/-! ## Hand-offs -/

/-- The acceptor of the TLS library, by how much it asks for when it has so much, by what it makes
of that, none if it needs more, and by its error where the stream ends. -/
structure Acceptor where
  room : List UInt8 → { size : Nat // 0 < size }
  accept : List UInt8 → Option (Except String Unit)
  ended : String

namespace Acceptor

variable (acceptor : Acceptor)

/-- What the acceptor has read, and the stream behind that. -/
abbrev Progress := List UInt8 × ReplayPrefixedIo (Socket String)

/-- One poll of `LazyConfigAcceptor`; one that finds nothing is repeated. -/
def turn (progress : Progress) : Turn Progress (Except String Unit × Progress) :=
  let polled := ReplayPrefixedIo.pollRead socketRead progress.2 (acceptor.room progress.1).1
  match polled.1 with
  | .pending => .again (progress.1, polled.2)
  | .failed err => .leave (.error err, progress.1, polled.2)
  | .ready bytes =>
    if bytes.isEmpty then .leave (.error acceptor.ended, progress.1, polled.2)
    else
      match acceptor.accept (progress.1 ++ bytes) with
      | none => .again (progress.1 ++ bytes, polled.2)
      | some answer => .leave (answer, progress.1 ++ bytes, polled.2)

end Acceptor

/-- The stream ends or fails before it has brought anything. -/
def Mute : Socket String → Prop
  | [] => True
  | .data _ :: _ => False
  | .error _ :: _ => True
  | .dropped :: rest => Mute rest

/-- There is nothing to replay, and nothing comes. -/
def Hushed (io : ReplayPrefixedIo (Socket String)) : Prop :=
  io.prefixBytes.length ≤ io.prefixOffset ∧ Mute io.inner

/-- What a replaying reader still holds. -/
abbrev heldBy (io : ReplayPrefixedIo (Socket String)) : List UInt8 :=
  ReplayPrefixedIo.remaining socketRead io

/-- What a poll of the replaying reader with room does: it takes what it gives, it waits only so
often, and it gives something exactly if there is something. -/
structure Polled (io : ReplayPrefixedIo (Socket String))
    (polled : Poll String × ReplayPrefixedIo (Socket String)) : Prop where
  keeps : heldBy io = polled.1.bytes ++ heldBy polled.2
  fewer : polled.2.inner.length ≤ io.inner.length
  less : polled.1 = .pending → polled.2.inner.length < io.inner.length
  hushes : Hushed io ↔ polled.1.bytes = [] ∧ (polled.1 = .pending → Hushed polled.2)

theorem pollRead_polled (io : ReplayPrefixedIo (Socket String)) {room : Nat} (positive : 0 < room) :
    Polled io (ReplayPrefixedIo.pollRead socketRead io room) := by
  have keeps := ReplayPrefixedIo.pollRead_keeps socketRead io room
  unfold ReplayPrefixedIo.pollRead at keeps ⊢
  split at keeps
  · rename_i replays
    obtain ⟨left, -⟩ : io.prefixOffset < io.prefixBytes.length ∧ 0 < room := by simpa using replays
    rw [if_pos replays]
    refine ⟨keeps, ?_, by simp, iff_of_false (fun hushed => ?_) fun nothing => ?_⟩
    · dsimp only
      split <;> exact le_rfl
    · exact absurd left (not_lt.mpr hushed.1)
    · have empty := nothing.1
      rw [Poll.bytes, ReplayPrefixedIo.slice_eq, take_eq_nil_iff, drop_eq_nil_iff] at empty
      omega
  · rename_i goesOn
    have done : io.prefixBytes.length ≤ io.prefixOffset := by simpa [positive] using goesOn
    rw [if_neg goesOn]
    obtain ⟨room, rfl⟩ : ∃ less, room = less + 1 := ⟨room - 1, by omega⟩
    obtain ⟨prefixBytes, prefixOffset, inner⟩ := io
    have fewer := (pollSocket_length inner (room + 1)).1
    rcases inner with - | ⟨(segment | err | -), rest⟩
    · exact ⟨keeps, fewer, (by cases ·), iff_of_true ⟨done, trivial⟩ ⟨rfl, (by cases ·)⟩⟩
    · refine ⟨keeps, fewer, (by cases ·), iff_of_false And.right fun nothing => ?_⟩
      simpa [socketRead, pollSocket, Poll.bytes, segment.nonempty] using nothing.1
    · exact ⟨keeps, fewer, (by cases ·), iff_of_true ⟨done, trivial⟩ ⟨rfl, (by cases ·)⟩⟩
    · exact ⟨keeps, fewer, fun _ => Nat.lt_succ_self _, fun hushed => ⟨rfl, fun _ => hushed⟩,
        fun still => still.2 rfl⟩

namespace Acceptor

variable (acceptor : Acceptor)

/-- Everything a poll of the acceptor can do: it goes on, or it leaves with an answer. -/
inductive Turned (progress : Progress) : Turn Progress (Except String Unit × Progress) → Prop
  | again {bytes : List UInt8} {next : ReplayPrefixedIo (Socket String)}
    (keeps : heldBy progress.2 = bytes ++ heldBy next)
    (fewer : next.inner.length ≤ progress.2.inner.length)
    (less : bytes = [] → next.inner.length < progress.2.inner.length)
    (hushes : Hushed progress.2 ↔ bytes = [] ∧ Hushed next) :
    Turned progress (.again (progress.1 ++ bytes, next))
  | leaves (answer : Except String Unit) {bytes : List UInt8}
    {next : ReplayPrefixedIo (Socket String)} (keeps : heldBy progress.2 = bytes ++ heldBy next)
    (hushes : Hushed progress.2 ↔ bytes = []) :
    Turned progress (.leave (answer, progress.1 ++ bytes, next))

theorem turn_turned (progress : Progress) : Turned progress (acceptor.turn progress) := by
  have polled := pollRead_polled progress.2 (acceptor.room progress.1).2
  rw [turn]
  generalize ReplayPrefixedIo.pollRead socketRead progress.2 (acceptor.room progress.1).1 = found
    at polled
  obtain ⟨keeps, fewer, less, hushes⟩ := polled
  obtain ⟨(- | err | bytes), next⟩ := found
  · have goesOn := @Turned.again progress [] next keeps fewer (fun _ => less rfl)
      (hushes.trans (and_congr_right fun _ => forall_prop_of_true rfl))
    rwa [append_nil] at goesOn
  · have fails := @Turned.leaves progress (.error err) [] next keeps (by simpa [Poll.bytes] using hushes)
    rwa [append_nil] at fails
  replace hushes : Hushed progress.2 ↔ bytes = [] := by simpa [Poll.bytes] using hushes
  dsimp only
  split
  · rename_i empty
    obtain rfl : bytes = [] := by simpa using empty
    have ends := @Turned.leaves progress (.error acceptor.ended) [] next keeps hushes
    rwa [append_nil] at ends
  rename_i some'
  have nonempty : bytes ≠ [] := by simpa using some'
  cases acceptor.accept (progress.1 ++ bytes) with
  | none => exact .again keeps fewer (absurd · nonempty) (by simp [hushes, nonempty])
  | some answer => exact .leaves answer keeps hushes

/-- What is left for an acceptor: bytes, and polls that find nothing. -/
def left (progress : Progress) : Nat := (heldBy progress.2).length + progress.2.inner.length

/-- `LazyConfigAcceptor`. -/
def observe : Loop Progress (Except String Unit × Progress) where
  turn := acceptor.turn
  measure := left
  lowers progress next turned := by
    have does := acceptor.turn_turned progress
    rw [turned] at does
    cases does with
    | @again bytes next keeps fewer less hushes =>
      rw [left, left, keeps, length_append]
      dsimp only
      rcases bytes with - | ⟨byte, bytes⟩
      · have waited := less rfl
        omega
      · rw [length_cons]
        omega

/-- What was read, and the stream behind it, is what was there; and only a stream that brings
nothing is left unread. -/
theorem observe_keeps (progress : Progress) :
    (acceptor.observe.run progress).2.1 ++ heldBy (acceptor.observe.run progress).2.2 =
      progress.1 ++ heldBy progress.2 ∧
    progress.1 <+: (acceptor.observe.run progress).2.1 ∧
    (progress.1 = [] → ((acceptor.observe.run progress).2.1 = [] ↔ Hushed progress.2)) := by
  induction progress using acceptor.observe.run_induct with
  | left progress result turned =>
    rw [acceptor.observe.run_leave turned]
    have does := acceptor.turn_turned progress
    rw [show acceptor.turn progress = .leave result from turned] at does
    cases does with
    | leaves answer keeps hushes =>
      refine ⟨by rw [keeps, append_assoc], prefix_append _ _, fun empty => ?_⟩
      simp [empty, hushes]
  | again progress next turned ih =>
    rw [acceptor.observe.run_again turned]
    have does := acceptor.turn_turned progress
    rw [show acceptor.turn progress = .again next from turned] at does
    obtain ⟨all, front, nothing⟩ := ih
    cases does with
    | @again bytes next keeps fewer less hushes =>
      refine ⟨all.trans ?_, (prefix_append _ _).trans front, fun empty => ?_⟩
      · rw [keeps, append_assoc]
      rw [hushes]
      by_cases some' : bytes = []
      · rw [nothing (by simp [empty, some']), and_iff_right some']
      · refine iff_of_false (fun none => ?_) fun hushed => some' hushed.1
        rw [none, prefix_nil, append_eq_nil_iff] at front
        exact some' front.2

end Acceptor

/-- `into_parts`. -/
def intoParts {σ : Type} (io : ReplayPrefixedIo σ) : List UInt8 × σ :=
  (if io.prefixBytes.length ≤ io.prefixOffset then [] else io.prefixBytes.drop io.prefixOffset,
    io.inner)

namespace DownstreamTransport

variable (acceptor : Acceptor) (transport : DownstreamTransport)

/-- `tls::session::from_socket` on the downstream stream. -/
def sessionFromSocket : Except VmError Unit × DownstreamTransport :=
  if transport.tlsServerStart.isSome || transport.tlsIo.isSome ||
      (transport.tcpIo.isNone && transport.tlsPresent) then (.ok (), transport)
  else
    match transport.tcpIo with
    | none =>
      (.error (.hostError
        "downstream tls session requires an attached downstream tcp transport"), transport)
    | some socket =>
      let observed := acceptor.observe.run ([], .new transport.prereadBuffer socket)
      let bare := { transport with tcpIo := none, prereadBuffer := [] }
      match observed.1 with
      | .ok () => (.ok (), { bare with tlsServerStart := some observed.2, tlsPresent := true })
      | .error err =>
        -- What the acceptor has read by then is not put back.
        let parts := intoParts observed.2.2
        (.error (.hostError s!"failed to observe downstream tls client hello: {err}"),
          { bare with tcpIo := some parts.2, prereadBuffer := parts.1 })

/-- `take_downstream_websocket_transport`. -/
def takeWebSocketTransport :
    Except VmError (ReplayPrefixedIo (Socket String)) × DownstreamTransport :=
  let preread := transport.prereadBuffer
  let bare := { transport with tlsIo := none, prereadBuffer := [] }
  match transport.tlsIo with
  | some socket => (.ok (.new preread socket), bare)
  | none =>
    if bare.tlsServerStart.isSome then
      (.error (.hostError ("downstream websocket accept requires plaintext transport; " ++
        "complete tls::session::handshake first")), bare)
    else
      -- The buffer is taken a second time.
      let preread := bare.prereadBuffer
      let bare := { bare with tcpIo := none, prereadBuffer := [] }
      match transport.tcpIo with
      | some socket => (.ok (.new preread socket), bare)
      | none =>
        (.error (.hostError ("downstream websocket sessions are not yet executable in the " ++
          "current one-shot HTTP runtime; only outbound websocket handles support frame IO")),
          bare)

/-- `take_promoted_downstream_transport`. -/
def takePromotedTransport :
    Except VmError (ReplayPrefixedIo (Socket String)) × DownstreamTransport :=
  let preread := transport.prereadBuffer
  let bare := { transport with tcpIo := none, tlsIo := none, prereadBuffer := [] }
  if transport.tlsServerStart.isSome then
    (.error (.hostError ("downstream HTTP handoff requires TLS plaintext; " ++
      "complete the downstream TLS handshake first")), bare)
  else
    match transport.tlsIo, transport.tcpIo with
    | some socket, _ => (.ok (.new preread socket), bare)
    | none, some socket => (.ok (.new preread socket), bare)
    | none, none =>
      (.error (.hostError ("downstream HTTP handoff requires an attached raw downstream tcp or " ++
        "tls plaintext transport")), bare)

end DownstreamTransport

/-! ## Programs -/

/-- What a program does at a downstream connection. -/
inductive TransportCall where
  | peek (maxBytes : Int)
  | read (maxBytes : Int)
  | toTls
  | toWebSocket
  | toHttp

/-- What comes of it. -/
inductive TransportOutcome where
  | peeked (maxBytes : Int) (bytes : List UInt8)
  | took (bytes : List UInt8)
  /-- The connection was given to a protocol that has already read some bytes of it. -/
  | handed (first : List UInt8) (io : ReplayPrefixedIo (Socket String))
  /-- Nothing was done, or it failed. -/
  | nothing

namespace DownstreamTransport

variable (acceptor : Acceptor) (transport : DownstreamTransport)

/-- The outcome of a hand-off that takes the transport. -/
def handedOver (result : Except VmError (ReplayPrefixedIo (Socket String)) × DownstreamTransport) :
    TransportOutcome × DownstreamTransport :=
  match result with
  | (.ok io, transport) => (.handed [] io, transport)
  | (.error _, transport) => (.nothing, transport)

/-- The outcome of starting TLS: the connection is given away if a start is there that was not
there before. -/
def startedTls (result : Except VmError Unit × DownstreamTransport) :
    TransportOutcome × DownstreamTransport :=
  match transport.tlsServerStart, result.2.tlsServerStart with
  | none, some (first, io) => (.handed first io, result.2)
  | _, _ => (.nothing, result.2)

/-- One call. -/
def perform : TransportCall → TransportOutcome × DownstreamTransport
  | .peek maxBytes =>
    match transport.peek maxBytes with
    | (.ok bytes, transport) => (.peeked maxBytes bytes, transport)
    | (.error _, transport) => (.nothing, transport)
  | .read maxBytes =>
    match transport.read maxBytes with
    | (.ok bytes, transport) => (.took bytes, transport)
    | (.error _, transport) => (.nothing, transport)
  | .toTls => transport.startedTls (transport.sessionFromSocket acceptor)
  | .toWebSocket => handedOver transport.takeWebSocketTransport
  | .toHttp => handedOver transport.takePromotedTransport

/-! ## What is to hold -/

/-- What an attached transport still holds. -/
def ahead : Option (List UInt8) :=
  transport.attached.map fun attached => transport.prereadBuffer ++ carried attached.2

end DownstreamTransport

/-- The TLS library takes what comes for the start of a handshake. -/
def Acceptor.Accepts (acceptor : Acceptor) (io : ReplayPrefixedIo (Socket String)) : Prop :=
  (acceptor.observe.run ([], io)).1.isOk = true

/-- What a program has read. -/
def TransportOutcome.bytes : TransportOutcome → List UInt8
  | took bytes => bytes
  | _ => []

/-- The outcome is right where so much of the client's stream was still to be read. -/
def TransportOutcome.Right (rest : List UInt8) : TransportOutcome → Prop
  | peeked maxBytes bytes => bytes.length ≤ maxBytes ∧ bytes <+: rest
  | took bytes => bytes <+: rest
  | handed first io =>
    -- Whatever buffers the protocol reads with, it gets the rest of the stream.
    ∀ rooms, first ++ ((ReplayPrefixedIo.read socketRead).reads io rooms).1.flatMap Poll.bytes ++
      (ReplayPrefixedIo.read socketRead).remaining
        ((ReplayPrefixedIo.read socketRead).reads io rooms).2 = rest
  | nothing => True

/-- Every outcome is right, and at each point the transport holds what was not read. -/
def Conserved (acceptor : Acceptor) :
    DownstreamTransport → (rest : List UInt8) → List TransportCall → Prop
  | transport, rest, [] => ∀ ahead ∈ transport.ahead, ahead = rest
  | transport, rest, call :: calls =>
    (∀ ahead ∈ transport.ahead, ahead = rest) ∧
      (transport.perform acceptor call).1.Right rest ∧
      Conserved acceptor (transport.perform acceptor call).2
        (rest.drop (transport.perform acceptor call).1.bytes.length) calls

namespace DownstreamTransport

/-- A call loses nothing: TLS is not started in vain once there is something to read, and no
peeked bytes are in front of a TCP stream that is given to WebSocket. -/
def Lossless (acceptor : Acceptor) (transport : DownstreamTransport) : TransportCall → Prop
  | .toTls => transport.tlsServerStart = none → transport.tlsIo = none →
    ∀ socket ∈ transport.tcpIo, acceptor.Accepts (.new transport.prereadBuffer socket) ∨
      (transport.prereadBuffer = [] ∧ Mute socket)
  | .toWebSocket => transport.tlsIo = none → transport.tcpIo.isSome → transport.prereadBuffer = []
  | _ => True

/-- Every call of a program loses nothing. -/
def LosslessAll (acceptor : Acceptor) : DownstreamTransport → List TransportCall → Prop
  | _, [] => True
  | transport, call :: calls =>
    Lossless acceptor transport call ∧
      LosslessAll acceptor (transport.perform acceptor call).2 calls

/-! ## What the calls do -/

/-- The connection is in one place at most. -/
structure Sound (transport : DownstreamTransport) : Prop where
  /-- While the acceptor has the connection, nothing is attached. -/
  started : transport.tlsServerStart.isSome → transport.attached = none
  single : transport.tlsIo.isSome → transport.tcpIo = none

variable {transport : DownstreamTransport} {layer : Layer} {socket : Socket String}

theorem attached_setIo (attached : transport.attached = some (layer, socket))
    {rest : Socket String} : (transport.setIo layer rest).attached = some (layer, rest) ∧
      (transport.Sound →
        (transport.setIo layer rest).tlsIo.isSome → (transport.setIo layer rest).tcpIo = none) := by
  obtain ⟨tcpIo, tlsIo, start, present, preread, eof⟩ := transport
  rcases tlsIo with - | plain
  · rcases tcpIo with - | raw
    · cases attached
    · cases attached
      exact ⟨rfl, by simp [setIo]⟩
  · cases attached
    exact ⟨rfl, fun sound _ => sound.single rfl⟩

/-- A read has brought some bytes, and the transport is attached as before. -/
structure Brought (transport : DownstreamTransport) (layer : Layer) (socket : Socket String)
    (bytes : List UInt8) (after : DownstreamTransport) : Prop where
  attached : ∃ rest, after.attached = some (layer, rest) ∧ carried socket = bytes ++ carried rest
  preread : after.prereadBuffer = transport.prereadBuffer
  start : after.tlsServerStart = transport.tlsServerStart
  single : transport.Sound → after.tlsIo.isSome → after.tcpIo = none

variable {bytes : List UInt8} {after : DownstreamTransport} {size : Nat}
variable {calls : List TransportCall}

theorem readAttached_brought (attached : transport.attached = some (layer, socket))
    (read : transport.readAttached layer socket size = (.ok bytes, after)) :
    bytes.length ≤ size ∧ Brought transport layer socket bytes after := by
  rw [readAttached] at read
  rcases found : awaitRead socket size with ⟨(err | got), rest⟩
  · rw [found] at read
    cases read
  rw [found] at read
  cases read
  obtain ⟨fits, keeps⟩ := awaitRead_ok found
  obtain ⟨there, single⟩ := @attached_setIo _ _ _ attached rest
  refine ⟨fits, ⟨rest, there, keeps⟩, ?_, ?_, single⟩
  · cases layer <;> rfl
  · cases layer <;> rfl

/-- A transport that is attached is not at the acceptor. -/
theorem Sound.start_none (sound : transport.Sound)
    (attached : transport.attached = some (layer, socket)) : transport.tlsServerStart = none := by
  cases start : transport.tlsServerStart with
  | none => rfl
  | some progress =>
    have detached := sound.started (by simp [start])
    rw [attached] at detached
    cases detached

/-- A read keeps the connection in one place. -/
theorem Brought.sound (brought : Brought transport layer socket bytes after)
    (sound : transport.Sound) (attached : transport.attached = some (layer, socket)) :
    after.Sound where
  started there := by simp [brought.start, sound.start_none attached] at there
  single := brought.single sound

section

variable (attached : transport.attached = some (layer, socket))
include attached

/-- What an attached transport holds. -/
theorem ahead_attached : transport.ahead = some (transport.prereadBuffer ++ carried socket) := by
  rw [ahead, attached]
  rfl

theorem readWithPreread_takes (sound : transport.Sound)
    (read : transport.readWithPreread layer socket size = (.ok bytes, after)) :
    after.Sound ∧
      ∃ rest, after.ahead = some rest ∧
        transport.prereadBuffer ++ carried socket = bytes ++ rest := by
  have drained : (transport.takePrereadBytes size).2.attached = some (layer, socket) := attached
  have sound' : (transport.takePrereadBytes size).2.Sound := ⟨sound.started, sound.single⟩
  rw [readWithPreread] at read
  by_cases short : (transport.takePrereadBytes size).1.length < size
  · rw [if_pos short] at read
    have few : transport.prereadBuffer.length ≤ size := by
      rw [takePrereadBytes, length_take] at short
      omega
    rcases found : (transport.takePrereadBytes size).2.readAttached layer socket
        (size - (transport.takePrereadBytes size).1.length) with ⟨(err | suffix), next⟩
    · rw [found] at read
      cases read
    rw [found] at read
    cases read
    obtain ⟨-, brought⟩ := readAttached_brought drained found
    obtain ⟨rest, there, keeps⟩ := brought.attached
    refine ⟨brought.sound sound' drained, carried rest, ?_, ?_⟩
    · rw [ahead_attached there, brought.preread]
      dsimp only [takePrereadBytes]
      rw [drop_eq_nil_of_le few, nil_append]
    · dsimp only [takePrereadBytes]
      rw [take_of_length_le few, keeps, append_assoc]
  · rw [if_neg short] at read
    cases read
    refine ⟨sound', transport.prereadBuffer.drop size ++ carried socket, ahead_attached drained, ?_⟩
    dsimp only [takePrereadBytes]
    rw [← append_assoc, take_append_drop]

theorem peekAttached_keeps (sound : transport.Sound)
    (peeked : transport.peekAttached layer socket size = (.ok bytes, after)) :
    after.Sound ∧ after.ahead = some (transport.prereadBuffer ++ carried socket) ∧
      bytes.length ≤ size ∧ bytes <+: transport.prereadBuffer ++ carried socket := by
  rw [peekAttached] at peeked
  by_cases enough : (decide (size ≤ (transport.prereadBuffer.take size).length) ||
      transport.attachedEof) = true
  · rw [if_pos enough] at peeked
    cases peeked
    refine ⟨sound, ahead_attached attached, length_take_le _ _, ?_⟩
    exact (List.take_prefix _ _).trans (prefix_append _ _)
  rw [if_neg enough] at peeked
  have few : transport.prereadBuffer.length ≤ size := by
    simp only [length_take, Bool.or_eq_true, decide_eq_true_eq, not_or] at enough
    omega
  rcases found : transport.readAttached layer socket
      (size - (transport.prereadBuffer.take size).length) with ⟨(err | suffix), next⟩
  · rw [found] at peeked
    cases peeked
  rw [found] at peeked
  cases peeked
  obtain ⟨fits, brought⟩ := readAttached_brought attached found
  obtain ⟨rest, there, keeps⟩ := brought.attached
  have kept := brought.sound sound attached
  refine ⟨⟨kept.started, kept.single⟩, ?_, ?_, ?_⟩
  · rw [@ahead_attached { next with prereadBuffer := next.prereadBuffer ++ suffix } layer rest
      there, brought.preread, keeps, append_assoc]
  · rw [length_append]
    have front := length_take_le size transport.prereadBuffer
    omega
  · rw [take_of_length_le few, keeps, ← append_assoc]
    exact prefix_append _ _

end

/-! ## What one call conserves -/

/-- What the transport holds is what was not read. -/
def Holds (transport : DownstreamTransport) (rest : List UInt8) : Prop :=
  ∀ ahead ∈ transport.ahead, ahead = rest

/-- A call is right, and the transport holds the rest behind it. -/
def Stepped (rest : List UInt8) (result : TransportOutcome × DownstreamTransport) : Prop :=
  result.1.Right rest ∧ result.2.Holds (rest.drop result.1.bytes.length)

theorem holds_detached (detached : transport.attached = none) {rest : List UInt8} :
    transport.Holds rest := by
  simp [Holds, ahead, detached]

theorem markFailed_sound {transport : DownstreamTransport} : transport.markFailed.Sound :=
  ⟨fun _ => rfl, fun _ => rfl⟩

variable {rest : List UInt8} {acceptor : Acceptor}

attribute [local simp] TransportOutcome.bytes

theorem perform_read (sound : transport.Sound) (holds : transport.Holds rest) (maxBytes : Int) :
    Stepped rest (transport.perform acceptor (.read maxBytes)) ∧
      (transport.perform acceptor (.read maxBytes)).2.Sound := by
  rw [perform, read]
  cases decodeChunkSize maxBytes with
  | error err => exact ⟨⟨trivial, holds⟩, sound⟩
  | ok size =>
    cases attached : transport.attached with
    | none =>
      cases start : transport.tlsServerStart with
      | none => exact ⟨⟨List.nil_prefix, holds⟩, sound⟩
      | some progress => exact ⟨⟨trivial, holds⟩, sound⟩
    | some found =>
      obtain ⟨layer, socket⟩ := found
      obtain rfl := holds _ (ahead_attached attached)
      rcases read : transport.readWithPreread layer socket size with ⟨(err | bytes), after⟩
      · simp only [read, guarded]
        exact ⟨⟨trivial, holds_detached rfl⟩, markFailed_sound⟩
      simp only [read, guarded]
      obtain ⟨kept, rest, ahead, keeps⟩ := readWithPreread_takes attached sound read
      refine ⟨⟨⟨rest, keeps.symm⟩, ?_⟩, kept⟩
      rw [Holds, ahead, keeps]
      simp

theorem perform_peek (sound : transport.Sound) (holds : transport.Holds rest) (maxBytes : Int) :
    Stepped rest (transport.perform acceptor (.peek maxBytes)) ∧
      (transport.perform acceptor (.peek maxBytes)).2.Sound := by
  rw [perform, peek, decodeChunkSize]
  by_cases positive : 0 < maxBytes
  · rw [if_pos positive]
    cases attached : transport.attached with
    | none =>
      cases start : transport.tlsServerStart with
      | none | some progress => exact ⟨⟨trivial, holds⟩, sound⟩
    | some found =>
      obtain ⟨layer, socket⟩ := found
      obtain rfl := holds _ (ahead_attached attached)
      rcases peeked : transport.peekAttached layer socket maxBytes.toNat with
        ⟨(err | bytes), after⟩
      · simp only [peeked, guarded]
        exact ⟨⟨trivial, holds_detached rfl⟩, markFailed_sound⟩
      simp only [peeked, guarded]
      obtain ⟨kept, ahead, fits, front⟩ := peekAttached_keeps attached sound peeked
      refine ⟨⟨⟨by omega, front⟩, ?_⟩, kept⟩
      rw [Holds, ahead]
      simp
  · rw [if_neg positive]
    exact ⟨⟨trivial, holds⟩, sound⟩

/-- A protocol reads what the replaying reader holds. -/
theorem right_handed (first : List UInt8) (io : ReplayPrefixedIo (Socket String)) :
    (TransportOutcome.handed first io).Right rest ↔
      first ++ heldBy io = rest := by
  have all (rooms : List Nat) := (ReplayPrefixedIo.read socketRead).remaining_reads io rooms
  rw [show heldBy io = (ReplayPrefixedIo.read socketRead).remaining io from rfl]
  constructor
  · intro right
    rw [← right [], append_assoc, all]
  · intro whole rooms
    rw [append_assoc, all, whole]

/-- A connection that was given away is nowhere. -/
theorem given_away {start : Option Acceptor.Progress} {present eof : Bool} {preread : List UInt8}
    {outcome : TransportOutcome} (right : outcome.Right rest) :
    Stepped rest (outcome, ⟨none, none, start, present, preread, eof⟩) ∧
      (⟨none, none, start, present, preread, eof⟩ : DownstreamTransport).Sound :=
  ⟨⟨right, holds_detached rfl⟩, fun _ => rfl, fun _ => rfl⟩

/-- The whole of it is, if the buffer is replayed in front of the stream. -/
theorem given_replayed {preread : List UInt8} {socket : Socket String}
    (whole : preread ++ carried socket = rest) :
    (TransportOutcome.handed [] (.new preread socket)).Right rest :=
  (right_handed [] (.new preread socket)).mpr whole

theorem perform_toHttp (holds : transport.Holds rest) :
    Stepped rest (transport.perform acceptor .toHttp) ∧
      (transport.perform acceptor .toHttp).2.Sound := by
  obtain ⟨tcpIo, tlsIo, start, present, preread, eof⟩ := transport
  rcases start with - | progress
  · rcases tlsIo with - | plain
    · rcases tcpIo with - | raw
      · exact given_away trivial
      · exact given_away (given_replayed (holds _ rfl))
    · exact given_away (given_replayed (holds _ rfl))
  · exact given_away trivial

/-- The buffer is in front of a TLS stream that is given to WebSocket, and not in front of a TCP
stream. -/
theorem perform_toWebSocket (sound : transport.Sound) (holds : transport.Holds rest) :
    (Stepped rest (transport.perform acceptor .toWebSocket) ↔
        transport.Lossless acceptor .toWebSocket) ∧
      (transport.perform acceptor .toWebSocket).2.Sound := by
  obtain ⟨tcpIo, tlsIo, start, present, preread, eof⟩ := transport
  have right {outcome : TransportOutcome × DownstreamTransport}
      (given : Stepped rest outcome ∧ outcome.2.Sound)
      (lossless : Lossless acceptor ⟨tcpIo, tlsIo, start, present, preread, eof⟩ .toWebSocket) :
      (Stepped rest outcome ↔ Lossless acceptor ⟨tcpIo, tlsIo, start, present, preread, eof⟩
        .toWebSocket) ∧ outcome.2.Sound := ⟨iff_of_true given.1 lossless, given.2⟩
  rcases tlsIo with - | plain
  · rcases tcpIo with - | raw
    · rcases start with - | progress
      · exact right (given_away trivial) (by simp [Lossless])
      · exact right (given_away trivial) (by simp [Lossless])
    · rcases start with - | progress
      · obtain rfl := holds _ rfl
        refine ⟨⟨fun stepped _ _ => ?_, fun lossless => ?_⟩, fun _ => rfl, fun _ => rfl⟩
        · exact self_eq_append_left.mp ((right_handed [] (.new [] raw)).mp stepped.1)
        · obtain rfl : preread = [] := lossless rfl rfl
          exact (given_away (given_replayed rfl)).1
      · cases sound.started rfl
  · obtain rfl : tcpIo = none := sound.single rfl
    exact right (given_away (given_replayed (holds _ rfl))) (by simp [Lossless])

theorem carried_intoParts (io : ReplayPrefixedIo (Socket String)) :
    (intoParts io).1 ++ carried (intoParts io).2 = heldBy io := by
  rw [intoParts, heldBy, ReplayPrefixedIo.remaining]
  split
  · rename_i done
    rw [drop_eq_nil_of_le done]
    rfl
  · rfl

theorem tcp_sound {socket : Socket String} {present : Bool} {preread : List UInt8} {eof : Bool} :
    (⟨some socket, none, none, present, preread, eof⟩ : DownstreamTransport).Sound :=
  ⟨by simp, by simp⟩

/-- Starting TLS loses what a failed acceptor has read. -/
theorem perform_toTls (sound : transport.Sound) (holds : transport.Holds rest) :
    (Stepped rest (transport.perform acceptor .toTls) ↔ transport.Lossless acceptor .toTls) ∧
      (transport.perform acceptor .toTls).2.Sound := by
  obtain ⟨tcpIo, tlsIo, start, present, preread, eof⟩ := transport
  rw [perform, sessionFromSocket, startedTls]
  cases start with
  | some progress => exact ⟨iff_of_true ⟨trivial, holds⟩ (by simp [Lossless]), sound⟩
  | none =>
    cases tlsIo with
    | some socket => exact ⟨iff_of_true ⟨trivial, holds⟩ (by simp [Lossless]), sound⟩
    | none =>
      cases tcpIo with
      | none =>
        have lossless : Lossless acceptor ⟨none, none, none, present, preread, eof⟩ .toTls := by
          simp [Lossless]
        cases present with
        | true | false => exact ⟨iff_of_true ⟨trivial, holds⟩ lossless, sound⟩
      | some socket =>
        obtain rfl := holds _ rfl
        have observed := acceptor.observe_keeps ([], .new preread socket)
        have accepts : Lossless acceptor ⟨some socket, none, none, present, preread, eof⟩ .toTls ↔
            (acceptor.observe.run ([], .new preread socket)).1.isOk = true ∨
              (preread = [] ∧ Mute socket) := by
          simp [Lossless, Acceptor.Accepts]
        rw [accepts]
        dsimp only
        generalize acceptor.observe.run ([], .new preread socket) = result at observed
        obtain ⟨answer, first, io⟩ := result
        obtain ⟨whole, -, nothing⟩ := observed
        have seen : first ++ heldBy io = preread ++ carried socket := whole
        cases answer with
        | ok value =>
          obtain ⟨stepped, kept⟩ := given_away ((right_handed first io).mpr seen)
          exact ⟨iff_of_true stepped (.inl rfl), kept⟩
        | error err =>
          -- The transport is back, with the stream behind what the acceptor has read.
          have parts := carried_intoParts io
          have hushed : (preread = [] ∧ Mute socket) ↔ first = [] := by
            rw [nothing rfl, Hushed]
            simp [ReplayPrefixedIo.new]
          have restored : Stepped (preread ++ carried socket) (TransportOutcome.nothing,
              ⟨some (intoParts io).2, none, none, present, (intoParts io).1, eof⟩) ↔
                first = [] := by
            rw [Stepped, Holds, ahead]
            simp [TransportOutcome.Right, attached, parts, ← seen]
          refine ⟨(restored.trans hushed.symm).trans (by simp [Except.isOk, Except.toBool]), ?_⟩
          exact tcp_sound

/-- A call is right exactly if it loses nothing. -/
theorem perform_iff (sound : transport.Sound) (holds : transport.Holds rest)
    (call : TransportCall) :
    (Stepped rest (transport.perform acceptor call) ↔ transport.Lossless acceptor call) ∧
      (transport.perform acceptor call).2.Sound := by
  cases call with
  | peek maxBytes =>
    obtain ⟨stepped, kept⟩ := @perform_peek transport rest acceptor sound holds maxBytes
    exact ⟨iff_of_true stepped trivial, kept⟩
  | read maxBytes =>
    obtain ⟨stepped, kept⟩ := @perform_read transport rest acceptor sound holds maxBytes
    exact ⟨iff_of_true stepped trivial, kept⟩
  | toTls => exact perform_toTls sound holds
  | toWebSocket => exact perform_toWebSocket sound holds
  | toHttp =>
    obtain ⟨stepped, kept⟩ := @perform_toHttp transport rest acceptor holds
    exact ⟨iff_of_true stepped trivial, kept⟩

theorem holds_of_conserved (conserved : Conserved acceptor transport rest calls) :
    transport.Holds rest := by
  cases calls with
  | nil => exact conserved
  | cons call calls => exact conserved.1

theorem conserved_iff {calls : List TransportCall} (sound : transport.Sound)
    (holds : transport.Holds rest) :
    Conserved acceptor transport rest calls ↔ transport.LosslessAll acceptor calls := by
  induction calls generalizing transport rest with
  | nil => exact iff_of_true holds trivial
  | cons call calls ih =>
    obtain ⟨step, kept⟩ := @perform_iff transport rest acceptor sound holds call
    rw [Conserved, LosslessAll, ← step]
    constructor
    · rintro ⟨-, right, later⟩
      have stepped : Stepped rest (transport.perform acceptor call) :=
        ⟨right, holds_of_conserved later⟩
      exact ⟨stepped, (ih kept stepped.2).mp later⟩
    · rintro ⟨stepped, lossless⟩
      exact ⟨holds, stepped.1, (ih kept stepped.2).mpr lossless⟩

theorem fresh_sound (layer : Layer) (socket : Socket String) : (fresh layer socket).Sound := by
  cases layer <;> exact ⟨by simp [fresh], by simp [fresh]⟩

theorem fresh_holds (layer : Layer) (socket : Socket String) :
    (fresh layer socket).Holds (carried socket) := by
  cases layer <;> simp [Holds, ahead, attached, fresh]

/-- What a program reads in all. -/
def taken (acceptor : Acceptor) : DownstreamTransport → List TransportCall → List UInt8
  | _, [] => []
  | transport, call :: calls =>
    (transport.perform acceptor call).1.bytes ++
      taken acceptor (transport.perform acceptor call).2 calls

/-- The reads of a program that loses nothing are the front of the stream. -/
theorem taken_prefix (conserved : Conserved acceptor transport rest calls) :
    taken acceptor transport calls <+: rest := by
  induction calls generalizing transport rest with
  | nil => exact nil_prefix
  | cons call calls ih =>
    obtain ⟨-, right, later⟩ := conserved
    obtain ⟨behind, split⟩ := ih later
    have front : (transport.perform acceptor call).1.bytes <+: rest := by
      generalize (transport.perform acceptor call).1 = outcome at right
      cases outcome with
      | took bytes => exact right
      | peeked maxBytes bytes | handed first io | nothing => exact nil_prefix
    refine ⟨behind, ?_⟩
    rw [taken, append_assoc, split]
    exact prefix_iff_eq_append.mp front

end DownstreamTransport

open DownstreamTransport

/-- What a program peeks, reads and hands over of a connection is the client's stream, each byte
once and in order, exactly if TLS is never started in vain where there was something to read, and
a TCP connection is not given to WebSocket behind a peek that was not read. -/
theorem transport_conserves_iff (acceptor : Acceptor) (layer : Layer) (socket : Socket String)
    (calls : List TransportCall) :
    Conserved acceptor (.fresh layer socket) (carried socket) calls ∧
        DownstreamTransport.taken acceptor (.fresh layer socket) calls <+: carried socket ↔
      DownstreamTransport.LosslessAll acceptor (.fresh layer socket) calls := by
  have sound := fresh_sound layer socket
  have holds := fresh_holds layer socket
  rw [← conserved_iff sound holds]
  exact ⟨And.left, fun conserved => ⟨conserved, taken_prefix conserved⟩⟩

theorem pair_there : [(71 : UInt8), 69] ≠ [] := by decide

/-- A client that sends the start of a request. -/
def requestStart : Socket String := [.data ⟨[71, 69], pair_there⟩]

/-- An acceptor that takes only handshake records. -/
def handshakeOnly : Acceptor where
  room _ := ⟨4096, by decide⟩
  accept bytes := some (if bytes.head? = some 22 then .ok () else .error "invalid content type")
  ended := "end of file"

/-- The bytes that a protocol sees. -/
def TransportOutcome.seen : TransportOutcome → Option (List UInt8)
  | handed first io => some (first ++ heldBy io)
  | _ => none

theorem TransportOutcome.Right.seen {rest bytes : List UInt8} {outcome : TransportOutcome}
    (right : outcome.Right rest) (seen : outcome.seen = some bytes) : bytes = rest := by
  cases outcome with
  | handed first io =>
    cases seen
    exact (right_handed first io).mp right
  | peeked maxBytes bytes | took bytes | nothing => cases seen

/-- A peeked byte is not there for WebSocket; and behind an attempt to start TLS that fails, HTTP
sees nothing of what the acceptor has read. -/
theorem peeked_bytes_lost :
    (((DownstreamTransport.fresh .tcp requestStart).perform handshakeOnly (.peek 1)).2.perform
      handshakeOnly .toWebSocket).1.seen = some [69] ∧
    (((DownstreamTransport.fresh .tcp requestStart).perform handshakeOnly .toTls).2.perform
      handshakeOnly .toHttp).1.seen = some [] ∧
    ¬ Conserved handshakeOnly (.fresh .tcp requestStart) [71, 69] [.peek 1, .toWebSocket] ∧
    ¬ Conserved handshakeOnly (.fresh .tcp requestStart) [71, 69] [.toTls, .toHttp] := by
  have webSocket : (((fresh .tcp requestStart).perform handshakeOnly
      (.peek 1)).2.perform handshakeOnly .toWebSocket).1.seen = some [69] := by decide +kernel
  have http : (((fresh .tcp requestStart).perform handshakeOnly
      .toTls).2.perform handshakeOnly .toHttp).1.seen = some [] := by decide +kernel
  refine ⟨webSocket, http, ?_, ?_⟩
  · rintro ⟨-, -, -, right, -⟩
    cases right.seen webSocket
  · rintro ⟨-, -, -, right, -⟩
    cases right.seen http

end PdEdge.Transport

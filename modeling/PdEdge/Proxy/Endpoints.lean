import Mathlib.Algebra.GroupWithZero.Nat
import PdEdge.Output.Fidelity
import PdEdge.Proxy.Streams

/-!
# What reading, writing and closing a proxy stream does

What an endpoint has to give is a list of pieces, with a hole where a read does not return well;
what it got is a list of bytes. A read takes of the pieces and leaves every write side alone; a
write adds its bytes, or the front of them if it fails, and leaves every read side alone; closing
adds nothing. Each is stated once for a handle, from one lemma for each kind of endpoint.
-/

namespace PdEdge.Proxy

open Output Streams Wire ProxyIo Awaited ProxyIo.Acted

/-- The chunk sizes that are taken. -/
abbrev ChunkSize := { size : Nat // 0 < size }

/-! ## What a source has to give -/

/-- What one read is to bring; nothing if it does not return well. -/
abbrev Piece := Option (List UInt8)

/-- The bytes of some pieces. -/
def bytesOf (pieces : List Piece) : List UInt8 := pieces.flatMap (·.getD [])

/-- How many reads some pieces can take at most. -/
def weight (pieces : List Piece) : Nat := (pieces.map fun piece => (piece.getD []).length + 1).sum

/-- An event of a socket as a piece. -/
def eventPiece {ε : Type} : ReadEvent ε → Piece
  | .data segment => some segment.bytes
  | .error _ => none
  | .dropped => none

/-- The pieces of a socket. -/
def socketPieces {ε : Type} (socket : Socket ε) : List Piece := socket.map eventPiece

/-- A message as a piece. -/
def messagePiece : Awaited VmError (List UInt8) → Piece
  | .ready bytes => some bytes
  | .failed _ => none
  | .dropped => none

/-- The request of the exchange can be prepared. -/
def Exchange.preparable (exchange : Exchange) : Bool :=
  !exchange.isWebsocketMode && exchange.hasTarget

/-- The body of the response that an exchange has or gets. -/
def Exchange.reply (exchange : Exchange) : Option (Socket VmError) :=
  match exchange.response, exchange.answer with
  | some socket, _ => some socket
  | none, .ready socket => if exchange.preparable then some socket else none
  | none, _ => none

namespace ProxyIo

variable (io : ProxyIo)

/-- The endpoint of a handle. -/
def endpoint? (handle : Int) : Option ProxyByteStreamEndpoint :=
  (io.stream? handle).map ProxyByteStreamState.endpoint

/-- The pieces of an endpoint. -/
def supply : ProxyByteStreamEndpoint → List Piece
  | .httpDownstream => socketPieces io.request
  | .downstreamConnect => [none]
  | .downstreamWebSocketBinary => [none]
  | .httpExchange exchange =>
    (((io.exchanges exchange).bind Exchange.reply).map socketPieces).getD [none]
  | .dynamic carrier handle =>
    (((io.transports carrier handle).filter Transport.active).map fun transport =>
      socketPieces transport.socket).getD [none]
  | .webSocketBinary connection => (io.websockets connection).messages.map messagePiece

/-- The pieces of the endpoint of a handle. -/
def pieces (handle : Int) : List Piece := ((io.endpoint? handle).map io.supply).getD [none]

/-- The read side of the handle waits for its write side. -/
def waits (handle : Int) : Bool :=
  match io.stream? handle with
  | some ⟨.httpExchange exchange, observed, closed⟩ =>
    !io.responseAvailable exchange && observed && !closed
  | _ => false

end ProxyIo

/-- What a read makes of the pieces of its endpoint. -/
inductive Reads : List Piece → Awaited VmError ProxyReadStep → List Piece → Prop
  | eof : Reads [] (.ready .eof) []
  | whole (chunk : List UInt8) (rest : List Piece) :
    Reads (some chunk :: rest) (.ready (.data chunk)) rest
  | part {chunk more : List UInt8} (some' : chunk ≠ []) (rest : List Piece) :
    Reads (some (chunk ++ more) :: rest) (.ready (.data chunk)) (some more :: rest)
  | failed (err : VmError) (rest after : List Piece) : Reads (none :: rest) (.failed err) after
  | dropped (rest after : List Piece) : Reads (none :: rest) .dropped after

variable {before after : List Piece} {chunk : List UInt8} {node : HttpResponseOutputNode}

theorem Reads.lowers (reads : Reads before (.ready (.data chunk)) after) :
    weight after < weight before := by
  cases reads with
  | whole chunk rest => simp [weight]
  | part some' rest =>
    have positive := List.length_pos_iff.mpr some'
    simp only [weight, List.map_cons, Option.getD_some, List.length_append, List.sum_cons]
    omega

/-- A read that fails can fail in any way. -/
theorem Reads.fails {err : VmError} (reads : Reads before (.failed err) after) (other : VmError)
    (next : List Piece) : Reads before (.failed other) next := by
  cases reads
  exact .failed other _ next

/-- A read brings bytes or the end. -/
theorem Reads.not_blocked : ¬ Reads before (.ready .blocked) after := by
  intro taken
  cases taken

theorem Reads.not_waiting : ¬ Reads before (.ready .waitingForWriteClose) after := by
  intro taken
  cases taken

theorem Reads.drops (reads : Reads before .dropped after) (next : List Piece) :
    Reads before .dropped next := by
  cases reads
  exact .dropped _ next

section

variable (reads : Reads before (.ready (.data chunk)) after)
include reads

theorem Reads.bytes : bytesOf before = chunk ++ bytesOf after := by
  cases reads with
  | whole chunk rest | part some' rest => simp [bytesOf]

/-- A read that brings bytes leaves the holes. -/
theorem Reads.holes : none ∈ after ↔ none ∈ before := by
  cases reads <;> simp

end

/-! ## Sockets and messages -/

/-- The step of a chunk that was awaited. -/
def stepped : Awaited VmError (List UInt8) → Awaited VmError ProxyReadStep
  | .ready bytes => .ready (ProxyIo.stepOf bytes)
  | .failed err => .failed err
  | .dropped => .dropped

/-- An awaited value with its errors changed. -/
def mapError {ε α : Type} (change : ε → VmError) : Awaited ε α → Awaited VmError α
  | .ready value => .ready value
  | .failed err => .failed (change err)
  | .dropped => .dropped

/-- Everything a read of a socket can find, if there is room for a byte. -/
inductive SocketRead {ε : Type} : Socket ε → Awaited ε (List UInt8) × Socket ε → Prop
  | eof : SocketRead [] (.ready [], [])
  | whole (segment : Segment) (rest : Socket ε) :
    SocketRead (.data segment :: rest) (.ready segment.bytes, rest)
  | part {segment next : Segment} {chunk : List UInt8} (some' : chunk ≠ [])
    (split : chunk ++ next.bytes = segment.bytes) (rest : Socket ε) :
    SocketRead (.data segment :: rest) (.ready chunk, .data next :: rest)
  | failed (err : ε) (rest : Socket ε) : SocketRead (.error err :: rest) (.failed err, rest)
  | dropped (rest : Socket ε) : SocketRead (.dropped :: rest) (.dropped, rest)

section

variable {ε : Type}

theorem awaitSocket_does (socket : Socket ε) (size : ChunkSize) :
    SocketRead socket (awaitSocket socket size.1) := by
  obtain ⟨- | room, positive⟩ := size
  · cases positive
  rcases socket with - | ⟨(segment | err | -), rest⟩
  · exact .eof
  · have split := List.take_append_drop (room + 1) segment.bytes
    simp only [awaitSocket, pollSocket]
    by_cases more : segment.bytes.drop (room + 1) = []
    · rw [more, List.append_nil] at split
      rw [dif_neg (not_not.mpr more), split]
      exact .whole segment rest
    · rw [dif_pos more]
      exact .part (by simp [segment.nonempty]) split rest
  · exact .failed err rest
  · exact .dropped rest

/-- Only a body that has ended gives an empty chunk. -/
theorem SocketRead.empty {socket rest : Socket ε} (read : SocketRead socket (.ready [], rest)) :
    socket = [] ∧ rest = [] := by
  generalize ended : (Awaited.ready [], rest) = acted at read
  cases read with
  | eof => exact ⟨rfl, (Prod.mk.inj ended).2⟩
  | whole segment => exact absurd (by simpa using (Prod.mk.inj ended).1.symm) segment.nonempty
  | part some' => exact absurd (by simpa using (Prod.mk.inj ended).1.symm) some'
  | failed | dropped => cases ended

/-- A chunk that has bytes is data. -/
theorem stepOf_of_ne {chunk : List UInt8} (some' : chunk ≠ []) : stepOf chunk = .data chunk :=
  if_neg (by simpa using some')

/-- A read of a socket takes a piece or a part of one. -/
theorem reads_socket (change : ε → VmError) (socket : Socket ε) (size : ChunkSize) :
    Reads (socketPieces socket) (stepped (mapError change (awaitSocket socket size.1).1))
      (socketPieces (awaitSocket socket size.1).2) := by
  have does := awaitSocket_does socket size
  generalize awaitSocket socket size.1 = acted at does
  cases does with
  | eof => exact .eof
  | whole segment rest =>
    rw [mapError, stepped, stepOf_of_ne segment.nonempty]
    exact .whole _ _
  | part some' split rest =>
    simp only [mapError, stepped, stepOf_of_ne some', socketPieces, List.map_cons, eventPiece,
      ← split]
    exact .part some' _
  | failed err rest => exact .failed _ _ _
  | dropped rest => exact .dropped _ _

end

/-! ## What a destination got -/

/-- What the stream of a response holds. -/
def heldBytes (node : HttpResponseOutputNode) : List UInt8 :=
  (node.bodyStream.map DownstreamResponseBodyStream.written).getD []

/-- Nothing else is chosen for the body of the response, and its stream is not finished. -/
def Appendable (node : HttpResponseOutputNode) : Prop :=
  node.body = none ∧ node.bodySourceExchange = none ∧
    ∀ stream ∈ node.bodyStream, stream.finished = false

namespace ProxyIo

variable (io : ProxyIo)

/-- The bytes that an endpoint got. -/
def received : ProxyByteStreamEndpoint → List UInt8
  | .httpDownstream => heldBytes io.output
  | .httpExchange exchange => ((io.exchanges exchange).map Exchange.bodyOverride).join.getD []
  | .dynamic carrier handle =>
    ((io.transports carrier handle).map fun transport => transport.sink.sent).getD []
  | .webSocketBinary connection => (io.websockets connection).sink.sent
  | .downstreamConnect => []
  | .downstreamWebSocketBinary => []

/-- How often the write side of an endpoint was shut down. -/
def shutdowns : ProxyByteStreamEndpoint → Nat
  | .dynamic carrier handle =>
    ((io.transports carrier handle).map fun transport => transport.sink.shutdowns).getD 0
  | .webSocketBinary connection => (io.websockets connection).sink.shutdowns
  | _ => 0

/-- The write side of a handle is closed. -/
def closed (handle : Int) : Bool := (io.stream? handle).any ProxyByteStreamState.writeClosed

/-- A write to the endpoint returns well. -/
def Willing : ProxyByteStreamEndpoint → Prop
  | .httpDownstream => Appendable io.output
  | .httpExchange exchange => (io.exchanges exchange).map Exchange.response = some none
  | .dynamic carrier handle => ∃ transport, io.transports carrier handle = some transport ∧
    transport.active ∧ ∀ event ∈ transport.sink.events, event = .done
  | .webSocketBinary connection => ∀ event ∈ (io.websockets connection).sink.events, event = .done
  | .downstreamConnect => False
  | .downstreamWebSocketBinary => False

end ProxyIo

/-- Nothing of the write sides has changed. -/
structure WriteSame (before after : ProxyIo) : Prop where
  streams : after.streams = before.streams
  output : after.output = before.output
  bodies : ∀ exchange, (after.exchanges exchange).map Exchange.bodyOverride =
    (before.exchanges exchange).map Exchange.bodyOverride
  sinks : ∀ carrier handle, (after.transports carrier handle).map Transport.sink =
    (before.transports carrier handle).map Transport.sink
  messages : ∀ connection, (after.websockets connection).sink = (before.websockets connection).sink

namespace WriteSame

variable {before after : ProxyIo}

theorem refl (io : ProxyIo) : WriteSame io io :=
  ⟨rfl, rfl, fun _ => rfl, fun _ _ => rfl, fun _ => rfl⟩

section

variable (same : WriteSame before after)
include same

theorem stream? (handle : Int) : after.stream? handle = before.stream? handle := by
  rw [ProxyIo.stream?, ProxyIo.stream?, same.streams]

theorem endpoint? (handle : Int) : after.endpoint? handle = before.endpoint? handle :=
  congrArg _ (same.stream? handle)

theorem closed (handle : Int) : after.closed handle = before.closed handle :=
  congrArg _ (same.stream? handle)

theorem received (endpoint : ProxyByteStreamEndpoint) :
    after.received endpoint = before.received endpoint := by
  cases endpoint with
  | httpDownstream => rw [ProxyIo.received, ProxyIo.received, same.output]
  | downstreamConnect | downstreamWebSocketBinary => rfl
  | httpExchange exchange => rw [ProxyIo.received, ProxyIo.received, same.bodies exchange]
  | dynamic carrier handle =>
    have there := congrArg (Option.map Sink.sent) (same.sinks carrier handle)
    simp only [Option.map_map] at there
    exact congrArg (·.getD []) there
  | webSocketBinary connection => exact congrArg Sink.sent (same.messages connection)

theorem shutdowns (endpoint : ProxyByteStreamEndpoint) :
    after.shutdowns endpoint = before.shutdowns endpoint := by
  cases endpoint with
  | dynamic carrier handle =>
    have there := congrArg (Option.map Sink.shutdowns) (same.sinks carrier handle)
    simp only [Option.map_map] at there
    exact congrArg (·.getD 0) there
  | webSocketBinary connection => exact congrArg Sink.shutdowns (same.messages connection)
  | httpDownstream | downstreamConnect | downstreamWebSocketBinary | httpExchange exchange => rfl

/-- An endpoint that would take a write still does if its transport is as active and its exchange
is as it was. -/
theorem willing
    (actives : ∀ carrier handle, (after.transports carrier handle).map Transport.active =
      (before.transports carrier handle).map Transport.active)
    {endpoint : ProxyByteStreamEndpoint}
    (exchanges : ∀ exchange, endpoint = .httpExchange exchange →
      after.exchanges exchange = before.exchanges exchange) (willing : before.Willing endpoint) :
    after.Willing endpoint := by
  cases endpoint with
  | httpDownstream =>
    rw [ProxyIo.Willing, same.output]
    exact willing
  | downstreamConnect | downstreamWebSocketBinary => exact willing
  | httpExchange exchange =>
    rw [ProxyIo.Willing, exchanges exchange rfl]
    exact willing
  | webSocketBinary connection =>
    rw [ProxyIo.Willing, same.messages connection]
    exact willing
  | dynamic carrier handle =>
    obtain ⟨transport, held, active, fine⟩ := willing
    have sinks := same.sinks carrier handle
    have kept := actives carrier handle
    rw [held] at sinks kept
    obtain ⟨next, there, sink⟩ := Option.map_eq_some_iff.mp sinks
    rw [there, Option.map_some, Option.map_some, Option.some_inj] at kept
    exact ⟨next, there, kept.trans active, sink ▸ fine⟩

end

/-- A transport that keeps its write side. -/
theorem setTransport {io : ProxyIo} {carrier : Carrier} {handle : Int} {transport next : Transport}
    (held : io.transports carrier handle = some transport) (same : next.sink = transport.sink) :
    WriteSame io (io.setTransport carrier handle next) := by
  refine ⟨rfl, rfl, fun _ => rfl, fun other number => ?_, fun _ => rfl⟩
  rw [ProxyIo.setTransport]
  dsimp only
  split
  · rename_i here
    rw [here.1, here.2, held, Option.map_some, Option.map_some, same]
  · rfl

/-- An exchange that keeps the body of its request. -/
theorem setExchange {io : ProxyIo} {handle : Int} {exchange next : Exchange}
    (held : io.exchanges handle = some exchange)
    (same : next.bodyOverride = exchange.bodyOverride) :
    WriteSame io (io.setExchange handle next) := by
  refine ⟨rfl, rfl, fun other => ?_, fun _ _ => rfl, fun _ => rfl⟩
  rw [ProxyIo.setExchange]
  dsimp only
  split
  · rename_i here
    rw [here, held, Option.map_some, Option.map_some, same]
  · rfl

end WriteSame

/-! ## Transports -/

/-- Everything an operation on a transport can do. -/
inductive OnTransport {α : Type} (io : ProxyIo) (carrier : Carrier) (handle : Int)
    (operation : Transport → Awaited String α × Transport) : Acted α → Prop
  | missing (err : VmError) (absent : ∀ transport, io.transports carrier handle = some transport →
      transport.active = false) : OnTransport io carrier handle operation (.failed err, io)
  | ready {transport next : Transport} {value : α}
    (held : io.transports carrier handle = some transport) (active : transport.active)
    (operated : operation transport = (.ready value, next)) :
    OnTransport io carrier handle operation (.ready value, io.setTransport carrier handle next)
  | dropped {transport next : Transport}
    (held : io.transports carrier handle = some transport) (active : transport.active)
    (operated : operation transport = (.dropped, next)) :
    OnTransport io carrier handle operation (.dropped, io.setTransport carrier handle next)
  | failed {transport next : Transport} {err : String} (message : VmError)
    (held : io.transports carrier handle = some transport) (active : transport.active)
    (operated : operation transport = (.failed err, next)) :
    OnTransport io carrier handle operation
      (.failed message, io.setTransport carrier handle { next with active := false })

variable (io : ProxyIo)

theorem onTransport_does {α : Type} (carrier : Carrier) (handle : Int) (verb : String)
    (operation : Transport → Awaited String α × Transport) :
    OnTransport io carrier handle operation (io.onTransport carrier handle verb operation) := by
  rw [onTransport]
  cases held : io.transports carrier handle with
  | none => exact .missing _ (by simp [held])
  | some transport =>
    cases active : transport.active with
    | false =>
      simp only [active, Bool.false_eq_true, ↓reduceIte]
      refine .missing _ fun other same => ?_
      rw [held, Option.some_inj] at same
      exact same ▸ active
    | true =>
      simp only [active, ↓reduceIte]
      rcases operated : operation transport with ⟨(value | err | -), next⟩
      · exact .ready held active operated
      · exact .failed _ held active operated
      · exact .dropped held active operated

namespace ProxyIo

variable {io : ProxyIo} {carrier : Carrier} {handle : Int} {transport : Transport}

theorem supply_active (held : io.transports carrier handle = some transport)
    (active : transport.active) :
    io.supply (.dynamic carrier handle) = socketPieces transport.socket := by
  simp [supply, held, Option.filter, active]

theorem supply_missing (absent : ∀ transport, io.transports carrier handle = some transport →
    transport.active = false) : io.supply (.dynamic carrier handle) = [none] := by
  cases held : io.transports carrier handle with
  | none => simp [supply, held]
  | some transport => simp [supply, held, Option.filter, absent transport held]

@[simp] theorem setTransport_same :
    (io.setTransport carrier handle transport).transports carrier handle = some transport := by
  simp [setTransport]

theorem setTransport_active {next : Transport}
    (held : io.transports carrier handle = some transport) (same : next.active = transport.active)
    {other : Carrier} {number : Int} :
    ((io.setTransport carrier handle next).transports other number).map Transport.active =
      (io.transports other number).map Transport.active := by
  rw [setTransport]
  dsimp only
  split
  · rename_i here
    rw [here.1, here.2, held, Option.map_some, Option.map_some, same]
  · rfl

end ProxyIo

/-! ## Reading a handle -/

section

variable (io : ProxyIo) (size : ChunkSize)

/-- What a read of an endpoint does: it takes of its pieces, it leaves the write sides alone, and
what would take a write still does, the exchange that is read apart. -/
structure ReadOf (endpoint : ProxyByteStreamEndpoint) (acted : Acted ProxyReadStep) : Prop where
  reads : Reads (io.supply endpoint) acted.1 (acted.2.supply endpoint)
  same : WriteSame io acted.2
  willing : acted.1.isReady → ∀ other, (∀ exchange, other = .httpExchange exchange →
    endpoint ≠ other) → io.Willing other → acted.2.Willing other
  answered : acted.1.isReady → ∀ exchange, endpoint = .httpExchange exchange →
    acted.2.responseAvailable exchange

theorem readOf_request :
    ReadOf io .httpDownstream (map ((awaitSocket io.request size.1).1,
      { io with request := (awaitSocket io.request size.1).2 }) stepOf) := by
  have reads := reads_socket id io.request size
  have same : WriteSame io { io with request := (awaitSocket io.request size.1).2 } :=
    ⟨rfl, rfl, fun _ => rfl, fun _ _ => rfl, fun _ => rfl⟩
  refine ⟨?_, same, fun _ _ _ => same.willing (fun _ _ => rfl) fun _ _ => rfl, by simp⟩
  generalize (awaitSocket io.request size.1).1 = awaited at reads
  cases awaited <;> exact reads

/-- A read of a transport reads its socket. -/
def readSocket (transport : Transport) : Awaited String (List UInt8) × Transport :=
  ((ProxyIo.awaitSocket transport.socket size.1).1,
    { transport with socket := (ProxyIo.awaitSocket transport.socket size.1).2 })

theorem readOf_transport {carrier : Carrier} {handle : Int} :
    ReadOf io (.dynamic carrier handle)
      (map (io.onTransport carrier handle "read" (readSocket size)) stepOf) := by
  have does := onTransport_does io carrier handle "read" (readSocket size)
  generalize io.onTransport carrier handle "read" (readSocket size) = acted at does
  have reads {transport next : Transport} {result : Awaited String (List UInt8)}
      (held : io.transports carrier handle = some transport) (active : transport.active)
      (operated : readSocket size transport = (result, next)) :
      Reads (io.supply (.dynamic carrier handle)) (stepped (mapError VmError.hostError result))
          (socketPieces next.socket) ∧ next.sink = transport.sink ∧ next.active := by
    have taken := reads_socket VmError.hostError transport.socket size
    obtain ⟨rfl, rfl⟩ := Prod.mk.inj operated
    rw [supply_active held active]
    exact ⟨taken, rfl, active⟩
  rcases does with ⟨err, absent⟩ | ⟨held, active, operated⟩ | ⟨held, active, operated⟩ |
      ⟨message, held, active, operated⟩
  · refine ⟨?_, .refl io, by simp [map, isReady], by simp⟩
    rw [supply_missing absent]
    exact .failed err [] _
  all_goals obtain ⟨taken, sink, still⟩ := reads held active operated
  · have same := WriteSame.setTransport held sink
    refine ⟨?_, same, fun _ other _ => same.willing
      (fun other number => setTransport_active held (still.trans active.symm)) fun _ _ => rfl,
      by simp⟩
    dsimp only [map]
    rw [supply_active setTransport_same still]
    exact taken
  · exact ⟨taken.drops _, .setTransport held sink, by simp [map, isReady], by simp⟩
  · exact ⟨taken.fails message _, .setTransport held sink, by simp [map, isReady], by simp⟩

/-- Everything that starting an exchange can do. -/
inductive Started (handle : Int) : Acted (Exchange × Socket VmError) → Prop
  | unknown (err : VmError) (absent : (io.exchanges handle).bind Exchange.reply = none) :
    Started handle (.failed err, io)
  | hangs (absent : (io.exchanges handle).bind Exchange.reply = none) :
    Started handle (.dropped, io)
  | ready {exchange : Exchange} {socket : Socket VmError}
    (held : io.exchanges handle = some exchange) (reply : exchange.reply = some socket)
    {after : ProxyIo} (sets : ∀ next : Exchange,
      after.setExchange handle next = io.setExchange handle next) :
    Started handle (.ready (exchange, socket), after)

/-- A request is prepared, or fails at once. -/
theorem prepared_cases (handle : Int) (exchange : Exchange) :
    (exchange.preparable = true ∧ preparedOutboundExchangeRequest handle exchange = .ok ()) ∨
    (exchange.preparable = false ∧
      ∃ err, preparedOutboundExchangeRequest handle exchange = .error err) := by
  unfold Exchange.preparable preparedOutboundExchangeRequest
  cases exchange.isWebsocketMode with
  | true => exact .inr ⟨rfl, _, rfl⟩
  | false =>
    cases exchange.hasTarget with
    | true => exact .inl ⟨rfl, rfl⟩
    | false => exact .inr ⟨rfl, _, rfl⟩

theorem ensureResponseStarted_does (handle : Int) :
    Started io handle (io.ensureResponseStarted handle) := by
  rw [ensureResponseStarted]
  cases held : io.exchanges handle with
  | none => exact .unknown _ (by simp [held])
  | some exchange =>
    dsimp only
    cases response : exchange.response with
    | some socket => exact .ready held (by simp [Exchange.reply, response]) fun _ => rfl
    | none =>
      rcases prepared_cases handle exchange with ⟨can, ok⟩ | ⟨cannot, err, failed⟩
      · rw [ok]
        cases answer : exchange.answer with
        | ready socket =>
          refine .ready held (by simp [Exchange.reply, response, answer, can]) fun next => ?_
          simp only [setExchange]
          congr 1
          funext other
          split <;> rfl
        | failed err => exact .unknown _ (by simp [held, Exchange.reply, response, answer])
        | dropped => exact .hangs (by simp [held, Exchange.reply, response, answer])
      · rw [failed]
        refine .unknown _ ?_
        cases answer : exchange.answer <;> simp [held, Exchange.reply, response, answer, cannot]

/-- Everything an operation on the body of a response can do. -/
inductive OnResponse {α : Type} (handle : Int)
    (operation : Socket VmError → Awaited VmError α × Socket VmError) : Acted α → Prop
  | unknown (err : VmError) (absent : (io.exchanges handle).bind Exchange.reply = none) :
    OnResponse handle operation (.failed err, io)
  | hangs (absent : (io.exchanges handle).bind Exchange.reply = none) :
    OnResponse handle operation (.dropped, io)
  | operated {exchange : Exchange} {socket : Socket VmError}
    (held : io.exchanges handle = some exchange) (reply : exchange.reply = some socket) :
    OnResponse handle operation ((operation socket).1,
      io.setExchange handle { exchange with response := some (operation socket).2 })

theorem onResponse_does {α : Type} (handle : Int)
    (operation : Socket VmError → Awaited VmError α × Socket VmError) :
    OnResponse io handle operation (io.onResponse handle operation) := by
  have started := ensureResponseStarted_does io handle
  rw [onResponse]
  generalize io.ensureResponseStarted handle = acted at started
  rcases started with ⟨err, absent⟩ | absent | ⟨held, reply, sets⟩
  · exact .unknown err absent
  · exact .hangs absent
  · dsimp only
    rw [sets]
    exact .operated held reply

theorem supply_reply {handle : Int} {exchange : Exchange} {socket : Socket VmError}
    (held : io.exchanges handle = some exchange) (reply : exchange.reply = some socket) :
    io.supply (.httpExchange handle) = socketPieces socket := by
  simp [supply, held, reply]

theorem supply_setExchange (handle : Int) (exchange : Exchange) (socket : Socket VmError) :
    (io.setExchange handle { exchange with response := some socket }).supply
      (.httpExchange handle) = socketPieces socket := by
  simp [supply, setExchange, Exchange.reply]

/-- A read of an exchange that has a response leaves the rest of it as the response. -/
theorem ReadOf.answers {handle : Int} {exchange : Exchange} {socket rest : Socket VmError}
    {result : Awaited VmError ProxyReadStep} (held : io.exchanges handle = some exchange)
    (reply : exchange.reply = some socket)
    (reads : Reads (socketPieces socket) result (socketPieces rest)) :
    ReadOf io (.httpExchange handle)
      (result, io.setExchange handle { exchange with response := some rest }) := by
  have same : WriteSame io (io.setExchange handle { exchange with response := some rest }) :=
    .setExchange held rfl
  refine ⟨?_, same, fun _ other apart => same.willing (fun _ _ => rfl) fun number named => ?_,
    fun _ number named => ?_⟩
  · rw [supply_reply io held reply, supply_setExchange]
    exact reads
  · have differ : number ≠ handle := fun here => apart number named (here ▸ named.symm)
    simp [setExchange, differ]
  · cases named
    simp [responseAvailable, setExchange]

theorem readOf_exchange {handle : Int} :
    ReadOf io (.httpExchange handle) (io.readExchange handle size.1) := by
  have does := onResponse_does io handle (awaitSocket · size.1)
  rw [readExchange]
  generalize io.onResponse handle (awaitSocket · size.1) = acted at does
  rcases does with ⟨err, absent⟩ | absent | @⟨exchange, socket, held, reply⟩
  · refine ⟨?_, .refl io, by simp [isReady], by simp [isReady]⟩
    simp only [supply, absent]
    exact .failed err [] _
  · refine ⟨?_, .refl io, by simp [isReady], by simp [isReady]⟩
    simp only [supply, absent]
    exact .dropped [] _
  have reads := reads_socket id socket size
  have read := awaitSocket_does socket size
  generalize awaitSocket socket size.1 = acted at read reads
  obtain ⟨((- | ⟨byte, chunk⟩) | err | -), rest⟩ := acted
  · obtain ⟨rfl, rfl⟩ := read.empty
    have again : (io.setExchange handle { exchange with response := some [] }).onResponse
        handle socketEof =
          (.ready true, io.setExchange handle { exchange with response := some [] }) := by
      simp only [onResponse, ensureResponseStarted, setExchange, ↓reduceIte, socketEof]
      congr 2
      funext other
      split <;> rfl
    dsimp only [List.isEmpty_nil, ↓reduceIte]
    rw [again]
    exact .answers io held reply .eof
  all_goals exact .answers io held reply reads

theorem readOf_webSocket {connection : Int} :
    ReadOf io (.webSocketBinary connection) (io.readWebSocket connection) := by
  have same (rest : List (Awaited VmError (List UInt8))) : WriteSame io
      { io with websockets := fun other =>
          if other = connection then { io.websockets connection with messages := rest }
          else io.websockets other } := by
    refine ⟨rfl, rfl, fun _ => rfl, fun _ _ => rfl, fun other => ?_⟩
    dsimp only
    split
    · rename_i here
      rw [here]
    · rfl
  rw [readWebSocket]
  rcases held : (io.websockets connection).messages with - | ⟨(bytes | err | -), rest⟩
  · refine ⟨?_, .refl io, fun _ _ _ willing => willing, by simp⟩
    simp only [supply, held]
    exact .eof
  · refine ⟨?_, same _, fun _ _ _ => (same rest).willing (fun _ _ => rfl) fun _ _ => rfl, by simp⟩
    simp only [supply, held, ↓reduceIte]
    exact .whole _ _
  · refine ⟨?_, same _, by simp [isReady], by simp⟩
    simp only [supply, held]
    exact .failed _ _ _
  · refine ⟨?_, same _, by simp [isReady], by simp⟩
    simp only [supply, held]
    exact .dropped _ _

/-- What a read of a handle does that does not wait for its write side. -/
structure ReadBy (handle : Int) (acted : Acted ProxyReadStep) : Prop where
  reads : Reads (io.pieces handle) acted.1 (acted.2.pieces handle)
  same : WriteSame io acted.2
  willing : acted.1.isReady → ∀ other, (∀ exchange, other = .httpExchange exchange →
    io.endpoint? handle ≠ some other) → io.Willing other → acted.2.Willing other
  answered : acted.1.isReady → ∀ exchange, io.endpoint? handle = some (.httpExchange exchange) →
    acted.2.responseAvailable exchange

theorem ReadOf.handle {handle : Int} {stream : ProxyByteStreamState}
    {acted : Acted ProxyReadStep} (held : io.stream? handle = some stream)
    (reads : ReadOf io stream.endpoint acted) : ReadBy io handle acted := by
  have endpoint : io.endpoint? handle = some stream.endpoint := by simp [endpoint?, held]
  refine ⟨?_, reads.same,
    fun ready other apart => reads.willing ready other fun exchange named => ?_, fun ready => ?_⟩
  · rw [pieces, pieces, reads.same.endpoint?, endpoint]
    exact reads.reads
  · intro same
    exact apart exchange named (endpoint.trans (congrArg some same))
  · intro exchange named
    exact reads.answered ready exchange (Option.some_inj.mp (endpoint.symm.trans named))

theorem readStep_reads {handle : Int} (running : io.waits handle = false) :
    ReadBy io handle (io.readStep handle size.1) := by
  rw [ProxyIo.readStep, ProxyIo.proxyStreamState]
  cases held : io.stream? handle with
  | none =>
    refine ⟨?_, .refl io, by simp [isReady], by simp [isReady]⟩
    simp only [ProxyIo.pieces, ProxyIo.endpoint?, held]
    exact .failed _ _ _
  | some stream =>
    obtain ⟨endpoint, observed, closed⟩ := stream
    have tunnel (err : VmError) (only : io.supply endpoint = [none]) :
        ReadOf io endpoint (.failed err, io) := by
      refine ⟨?_, .refl io, by simp [isReady], by simp [isReady]⟩
      rw [only]
      exact .failed _ _ _
    refine ReadOf.handle io held ?_
    cases endpoint with
    | httpDownstream => exact readOf_request io size
    | downstreamConnect | downstreamWebSocketBinary => exact tunnel _ rfl
    | httpExchange exchange =>
      simp only [ProxyIo.waits, held] at running
      simp only [running, Bool.false_eq_true, ↓reduceIte]
      exact readOf_exchange io size
    | dynamic carrier number => exact readOf_transport io size
    | webSocketBinary connection => exact readOf_webSocket io

end

/-- A handle whose exchange has a response does not wait. -/
theorem ProxyIo.waits_of_answered {io : ProxyIo} {handle : Int}
    (answered : ∀ exchange, io.endpoint? handle = some (.httpExchange exchange) →
      io.responseAvailable exchange) : io.waits handle = false := by
  rw [waits]
  split
  · rename_i exchange observed closed held
    simp [answered exchange (by simp [endpoint?, held])]
  · rfl

/-! ## Writing to a handle -/

variable {status : Option Nat}

theorem heldBytes_of {phase : Phase} (streams : Output.Streams phase status node) :
    heldBytes node = phase.written := by
  rw [heldBytes, ← streams.phase, Phase.of]
  cases node.bodyStream with
  | none => rfl
  | some stream =>
    dsimp only
    split <;> rfl

theorem appendable_of {phase : Phase} (streams : Output.Streams phase status node) :
    Appendable node ↔ phase.accepts (.append []) = true := by
  rw [Appendable, ← streams.phase, Phase.of, and_iff_right streams.body,
    and_iff_right streams.exchange]
  cases node.bodyStream with
  | none => simp [Phase.accepts]
  | some stream => cases ended : stream.finished <;> simp [Phase.accepts, ended]

variable {bytes : List UInt8}

/-- A write to the response adds its bytes or changes nothing. -/
theorem writeStreamBytes_held (sound : node.Sound) :
    heldBytes (node.writeStreamBytes bytes .implicitBuffered).2 = heldBytes node ++
        (if (node.writeStreamBytes bytes .implicitBuffered).1.isOk then bytes else []) ∧
      (Appendable node → (node.writeStreamBytes bytes .implicitBuffered).1.isOk = true) ∧
      ((node.writeStreamBytes bytes .implicitBuffered).1.isOk = true →
        Appendable (node.writeStreamBytes bytes .implicitBuffered).2) := by
  by_cases chosen : (node.body.isSome || node.bodySourceExchange.isSome) = true
  · have refused : (node.writeStreamBytes bytes .implicitBuffered).1.isOk = false ∧
        (node.writeStreamBytes bytes .implicitBuffered).2 = node := by
      rw [HttpResponseOutputNode.writeStreamBytes, if_pos chosen]
      exact ⟨rfl, rfl⟩
    rw [refused.1, refused.2]
    refine ⟨by simp, fun able => ?_, by simp⟩
    simp [able.1, able.2.1] at chosen
  · obtain ⟨free, loose⟩ := unchosen chosen
    have streams : Output.Streams (Phase.of node) node.status node := ⟨sound, free, loose, rfl, rfl⟩
    obtain ⟨after, accepted⟩ := streams.step (.append bytes)
    have any : (Phase.of node).accepts (.append bytes) = (Phase.of node).accepts (.append []) := by
      cases Phase.of node <;> rfl
    have written : ((Phase.of node).step (.append bytes)).written = (Phase.of node).written ++
        if (Phase.of node).accepts (.append bytes) then bytes else [] := by
      cases Phase.of node <;>
        simp [Phase.step, Phase.written, Phase.accepts, StreamOp.added, StreamOp.bytes?]
    refine ⟨?_, fun able => ?_, fun ok => ?_⟩
    · rw [show heldBytes (node.writeStreamBytes bytes .implicitBuffered).2 = _ from
        heldBytes_of after, heldBytes_of streams, written, ← accepted]
      rfl
    · exact (accepted.trans any).trans ((appendable_of streams).mp able)
    refine (appendable_of after).mpr ?_
    have goes := accepted.symm.trans ok
    generalize Phase.of node = phase at goes
    cases phase <;> first | rfl | simp [Phase.accepts] at goes

/-- What an operation on the write side of an endpoint does that adds bytes and shuts it down so
many times. -/
structure WriteOf (io : ProxyIo) (endpoint : ProxyByteStreamEndpoint) (bytes : List UInt8)
    (count : Nat) (acted : Acted Unit) : Prop where
  streams : acted.2.streams = io.streams
  responses : ∀ exchange, acted.2.responseAvailable exchange = io.responseAvailable exchange
  shutdowns : ∀ other, io.shutdowns other ≤ acted.2.shutdowns other ∧
    acted.2.shutdowns other ≤ io.shutdowns other + if other = endpoint then count else 0
  shut : acted.1.isReady → acted.2.shutdowns endpoint = io.shutdowns endpoint + count
  received : ∃ part, part <+: bytes ∧ acted.2.received endpoint = io.received endpoint ++ part ∧
    (acted.1.isReady → part = bytes)
  supply : acted.1.isReady → ∀ other, acted.2.supply other = io.supply other
  willing : acted.1.isReady → ∀ other, io.Willing other → acted.2.Willing other
  accepted : io.Willing endpoint → acted.1.isReady

/-- An operation that changes nothing and fails. -/
theorem WriteOf.refused {io : ProxyIo} {endpoint : ProxyByteStreamEndpoint} (bytes : List UInt8)
    (count : Nat) (err : VmError) (unwilling : ¬ io.Willing endpoint) :
    WriteOf io endpoint bytes count (.failed err, io) where
  streams := rfl
  responses _ := rfl
  shutdowns _ := ⟨le_rfl, Nat.le_add_right _ _⟩
  shut ready := by simp [isReady] at ready
  received := ⟨[], List.nil_prefix, by simp, by simp [isReady]⟩
  supply ready := by simp [isReady] at ready
  willing ready := by simp [isReady] at ready
  accepted willing := absurd willing unwilling

/-- One operation after another that has returned well. -/
theorem WriteOf.trans {io : ProxyIo} {endpoint : ProxyByteStreamEndpoint} {more : List UInt8}
    {middle : ProxyIo} {acted : Acted Unit}
    (first : WriteOf io endpoint bytes 0 (.ready (), middle))
    (second : WriteOf middle endpoint more 0 acted) :
    WriteOf io endpoint (bytes ++ more) 0 acted := by
  obtain ⟨whole, -, got, all⟩ := first.received
  obtain ⟨part, within, more', rest⟩ := second.received
  have front : whole = bytes := all rfl
  refine ⟨second.streams.trans first.streams,
    fun exchange => (second.responses exchange).trans (first.responses exchange),
    fun other => ?_, fun ready => ?_, ⟨bytes ++ part, ?_, ?_, fun ready => ?_⟩,
    fun ready other => (second.supply ready other).trans (first.supply rfl other),
    fun ready other willing => second.willing ready other (first.willing rfl other willing),
    fun willing => second.accepted (first.willing rfl endpoint willing)⟩
  · have before := first.shutdowns other
    have after := second.shutdowns other
    simp only [ite_self, Nat.add_zero] at before after ⊢
    omega
  · rw [second.shut ready, first.shut rfl]
  · exact (List.prefix_append_right_inj bytes).mpr within
  · rw [more', got, front, List.append_assoc]
  · rw [rest ready]

/-- An operation on a write side that adds bytes and shuts it down so many times. -/
structure SinkOp (operation : Sink → Awaited String Unit × Sink) (bytes : List UInt8)
    (count : Nat) : Prop where
  sent : ∀ sink, ∃ part, part <+: bytes ∧ (operation sink).2.sent = sink.sent ++ part ∧
    ((operation sink).1.isReady → part = bytes)
  shutdowns : ∀ sink, (operation sink).2.shutdowns = sink.shutdowns + count
  fine : ∀ sink, (∀ event ∈ sink.events, event = .done) →
    (operation sink).1.isReady ∧ ∀ event ∈ (operation sink).2.events, event = .done

theorem sinkOp_perform (bytes : List UInt8) : SinkOp (·.perform bytes) bytes 0 := by
  have fine (sink : Sink) (done : ∀ event ∈ sink.events, event = .done) :
      (sink.perform bytes).1.isReady ∧ ∀ event ∈ (sink.perform bytes).2.events, event = .done := by
    rw [Sink.perform]
    rcases held : sink.events with - | ⟨event, rest⟩
    · exact ⟨rfl, by simp⟩
    · obtain rfl := done event (by simp [held])
      exact ⟨rfl, fun event member => done event (by simp [held, show event ∈ rest from member])⟩
  refine ⟨fun sink => ?_, fun sink => ?_, fine⟩
  · rw [Sink.perform]
    rcases sink.events with - | ⟨(- | ⟨count, err⟩ | count), rest⟩
    · exact ⟨bytes, List.prefix_rfl, rfl, fun _ => rfl⟩
    · exact ⟨bytes, List.prefix_rfl, rfl, fun _ => rfl⟩
    all_goals exact ⟨bytes.take count, List.take_prefix _ _, rfl, by simp [isReady]⟩
  · rw [Sink.perform]
    rcases sink.events with - | ⟨(- | ⟨count, err⟩ | count), rest⟩ <;> rfl

theorem sinkOp_shutdown : SinkOp Sink.shutdown [] 1 := by
  have performs := sinkOp_perform []
  refine ⟨fun sink => performs.sent { sink with shutdowns := sink.shutdowns + 1 },
    fun sink => performs.shutdowns { sink with shutdowns := sink.shutdowns + 1 },
    fun sink => performs.fine { sink with shutdowns := sink.shutdowns + 1 }⟩

section

variable {io : ProxyIo} {carrier : Carrier} {handle : Int} {transport : Transport} {count : Nat}
variable {operation : Sink → Awaited String Unit × Sink} {next : Transport} {bytes : List UInt8}

section

variable (held : io.transports carrier handle = some transport)
include held

/-- The shutdowns of a transport with another write side. -/
theorem setTransport_shutdowns (more : next.sink.shutdowns = transport.sink.shutdowns + count)
    (other : ProxyByteStreamEndpoint) :
    (io.setTransport carrier handle next).shutdowns other =
      io.shutdowns other + if other = .dynamic carrier handle then count else 0 := by
  cases other with
  | dynamic kind number =>
    by_cases here : kind = carrier ∧ number = handle
    · obtain ⟨rfl, rfl⟩ := here
      simp [shutdowns, setTransport, held, more]
    · simp [shutdowns, setTransport, here]
  | _ => simp [shutdowns, setTransport]

theorem setTransport_received {part : List UInt8}
    (more : next.sink.sent = transport.sink.sent ++ part) :
    (io.setTransport carrier handle next).received (.dynamic carrier handle) =
      io.received (.dynamic carrier handle) ++ part := by
  simp [received, setTransport, held, more]

/-- A transport with the same read side supplies the same. -/
theorem setTransport_supply (socket : next.socket = transport.socket)
    (active : next.active = transport.active) (other : ProxyByteStreamEndpoint) :
    (io.setTransport carrier handle next).supply other = io.supply other := by
  cases other with
  | dynamic kind number =>
    by_cases here : kind = carrier ∧ number = handle
    · obtain ⟨rfl, rfl⟩ := here
      simp [supply, setTransport, held, Option.filter, active, socket, apply_ite]
    · simp [supply, setTransport, here]
  | _ => rfl

theorem setTransport_willing (active : next.active = transport.active)
    (fine : (∀ event ∈ transport.sink.events, event = .done) →
      ∀ event ∈ next.sink.events, event = .done) {other : ProxyByteStreamEndpoint}
    (willing : io.Willing other) : (io.setTransport carrier handle next).Willing other := by
  cases other with
  | dynamic kind number =>
    by_cases here : kind = carrier ∧ number = handle
    · obtain ⟨rfl, rfl⟩ := here
      obtain ⟨found, there, works, done⟩ := willing
      obtain rfl := Option.some_inj.mp (held.symm.trans there)
      exact ⟨next, setTransport_same, active.trans works, fine done⟩
    · obtain ⟨found, there, works, done⟩ := willing
      exact ⟨found, by simpa [setTransport, here] using there, works, done⟩
  | _ => exact willing

end

variable (io : ProxyIo)

/-- An operation on the write side of a transport. -/
theorem writeOf_transport (carrier : Carrier) (handle : Int) (verb : String)
    (performs : SinkOp operation bytes count) :
    WriteOf io (.dynamic carrier handle) bytes count
      (io.onTransport carrier handle verb (onSink operation)) := by
  have does := onTransport_does io carrier handle verb (onSink operation)
  generalize io.onTransport carrier handle verb (onSink operation) = acted at does
  -- However the operation ended, the write side is the one behind it.
  have behind {transport : Transport} (held : io.transports carrier handle = some transport)
      (next : Transport) (sink : next.sink = (operation transport.sink).2)
      (socket : next.socket = transport.socket) (result : Awaited VmError Unit)
      (ended : result.isReady = (operation transport.sink).1.isReady)
      (works : result.isReady → next.active = transport.active) :
      WriteOf io (.dynamic carrier handle) bytes count
        (result, io.setTransport carrier handle next) := by
    have shut := setTransport_shutdowns held
      (show next.sink.shutdowns = transport.sink.shutdowns + count by rw [sink, performs.shutdowns])
    obtain ⟨part, within, sent, all⟩ := performs.sent transport.sink
    refine ⟨rfl, fun _ => rfl, fun other => ?_, fun _ => ?_,
      ⟨part, within, setTransport_received held (by rw [sink, sent]),
        fun ready => all (ended ▸ ready)⟩,
      fun ready => setTransport_supply held socket (works ready),
      fun ready _ => setTransport_willing held (works ready) fun done => ?_, ?_⟩
    · rw [shut other]
      exact ⟨Nat.le_add_right _ _, le_rfl⟩
    · rw [shut, if_pos rfl]
    · rw [sink]
      exact (performs.fine _ done).2
    rintro ⟨found, there, -, done⟩
    obtain rfl := Option.some_inj.mp (held.symm.trans there)
    rw [ended]
    exact (performs.fine _ done).1
  rcases does with ⟨err, absent⟩ | ⟨held, active, operated⟩ | ⟨held, active, operated⟩ |
      ⟨message, held, active, operated⟩
  · refine .refused bytes count err ?_
    rintro ⟨transport, held, active, -⟩
    rw [absent transport held] at active
    cases active
  · obtain ⟨ended, rfl⟩ := Prod.mk.inj operated
    exact behind held _ (by rfl) (by rfl) _ (by rw [ended]; rfl) fun _ => rfl
  · obtain ⟨ended, rfl⟩ := Prod.mk.inj operated
    exact behind held _ (by rfl) (by rfl) _ (by rw [ended]; rfl) fun _ => rfl
  · obtain ⟨ended, rfl⟩ := Prod.mk.inj operated
    exact behind held _ (by rfl) (by rfl) _ (by rw [ended]; rfl)
      fun ready => by simp [isReady] at ready

/-- The write of a transport with its flush. -/
theorem writeOf_writeTransport {carrier : Carrier} {handle : Int} :
    WriteOf io (.dynamic carrier handle) bytes 0 (io.writeTransport carrier handle bytes) := by
  have first := writeOf_transport io carrier handle "write" (sinkOp_perform bytes)
  rw [writeTransport]
  simp only [Sink.writeAll]
  generalize io.onTransport carrier handle "write" (onSink (·.perform bytes)) = acted at first
  rcases acted with ⟨(value | err | -), middle⟩
  · have second := writeOf_transport middle carrier handle "flush" (sinkOp_perform [])
    have both := first.trans second
    rw [List.append_nil] at both
    exact both
  all_goals exact first

attribute [local simp] ProxyIo.Willing

/-- An operation on a WebSocket. -/
theorem writeOf_webSocket {connection : Int} (performs : SinkOp operation bytes count) :
    WriteOf io (.webSocketBinary connection) bytes count (io.onWebSocket connection operation) := by
  obtain ⟨part, within, sent, all⟩ := performs.sent (io.websockets connection).sink
  have shut := performs.shutdowns (io.websockets connection).sink
  have fine := performs.fine (io.websockets connection).sink
  rw [onWebSocket]
  generalize operation (io.websockets connection).sink = operated at sent all shut fine
  obtain ⟨result, sink⟩ := operated
  have behind (outcome : Awaited VmError Unit) (ended : outcome.isReady = result.isReady) :
      WriteOf io (.webSocketBinary connection) bytes count (outcome,
        { io with websockets := fun other =>
            if other = connection then { io.websockets connection with sink := sink }
            else io.websockets other }) := by
    refine ⟨rfl, fun _ => rfl, fun other => ?_, fun _ => ?_, ⟨part, within, ?_, ?_⟩,
      fun _ other => ?_, fun _ other willing => ?_, fun willing => ?_⟩
    · cases other with
      | webSocketBinary number =>
        by_cases here : number = connection
        · subst here
          replace shut : sink.shutdowns = (io.websockets number).sink.shutdowns + count := shut
          simp [shutdowns, shut]
        · simp [shutdowns, here]
      | _ => simp [shutdowns]
    · simpa [shutdowns] using shut
    · simpa [received] using sent
    · exact fun ready => all (ended ▸ ready)
    · cases other with
      | webSocketBinary number =>
        by_cases here : number = connection
        · subst here
          simp [supply]
        · simp [supply, here]
      | _ => rfl
    · cases other with
      | webSocketBinary number =>
        by_cases here : number = connection
        · subst here
          simpa using (fine willing).2
        · simpa [here] using willing
      | _ => exact willing
    · rw [ended]
      exact (fine willing).1
  cases result <;> exact behind _ rfl

/-- The write of the response. -/
theorem writeOf_response : WriteOf io .httpDownstream bytes 0 (io.appendResponseOutput bytes) := by
  obtain ⟨held, able, still⟩ := writeStreamBytes_held io.sound
  have same : (io.appendResponseOutput bytes).1.isReady =
      (io.output.writeStreamBytes bytes .implicitBuffered).1.isOk := by
    rw [appendResponseOutput]
    cases (io.output.writeStreamBytes bytes .implicitBuffered).1 <;> rfl
  have behind : (io.appendResponseOutput bytes).2 = { io with
      output := (io.output.writeStreamBytes bytes .implicitBuffered).2
      sound :=
        HttpResponseOutputNode.Sound.writeStreamBytes io.sound bytes .implicitBuffered } := by
    rw [appendResponseOutput]
    cases (io.output.writeStreamBytes bytes .implicitBuffered).1 <;> rfl
  generalize io.appendResponseOutput bytes = acted at same behind
  obtain ⟨result, after⟩ := acted
  subst behind
  refine ⟨rfl, fun _ => rfl, fun other => by cases other <;> simp [shutdowns],
    fun _ => rfl, ⟨_, ?_, held, ?_⟩, fun _ other => by cases other <;> rfl,
    fun ready other willing => ?_, fun willing => same.trans (able willing)⟩
  · split
    · exact List.prefix_rfl
    · exact List.nil_prefix
  · intro ready
    rw [if_pos (same ▸ ready)]
  · cases other with
    | httpDownstream => exact still (same ▸ ready)
    | _ => exact willing

/-- The write of an exchange. -/
theorem writeOf_exchange {handle : Int} :
    WriteOf io (.httpExchange handle) bytes 0 (io.appendExchangeBody handle bytes) := by
  rw [appendExchangeBody]
  cases held : io.exchanges handle with
  | none => exact .refused bytes 0 _ (by simp [held])
  | some exchange =>
    dsimp only
    cases response : exchange.response with
    | some socket => exact .refused bytes 0 _ (by simp [held, response])
    | none =>
      have still (other : ProxyByteStreamEndpoint) (next : Exchange) :
          (io.setExchange handle next).shutdowns other = io.shutdowns other := by
        cases other <;> rfl
      refine ⟨rfl, fun other => ?_, fun other => ?_, fun _ => rfl, ⟨bytes, List.prefix_rfl, ?_,
        fun _ => rfl⟩, fun _ other => ?_, fun _ other willing => ?_, fun _ => rfl⟩
      · by_cases here : other = handle
        · simp [responseAvailable, setExchange, here, held, response]
        · simp [responseAvailable, setExchange, here]
      · have same := still other
          { exchange with bodyOverride := some (exchange.bodyOverride.getD [] ++ bytes) }
        exact ⟨same.ge, same.le.trans (Nat.le_add_right _ _)⟩
      · cases body : exchange.bodyOverride <;>
          simp [received, setExchange, held, body]
      · cases other with
        | httpExchange number =>
          by_cases here : number = handle
          · simp [supply, setExchange, here, held, Exchange.reply, Exchange.preparable, response]
          · simp [supply, setExchange, here]
        | _ => rfl
      cases other with
      | httpExchange number =>
        by_cases here : number = handle
        · simp [setExchange, here]
        · simpa [setExchange, here] using willing
      | _ => exact willing

theorem writeOf_endpoint (endpoint : ProxyByteStreamEndpoint) (bytes : List UInt8) :
    WriteOf io endpoint bytes 0 (io.writeEndpoint bytes endpoint) := by
  cases endpoint with
  | httpDownstream => exact writeOf_response io
  | downstreamConnect | downstreamWebSocketBinary => exact .refused bytes 0 _ id
  | httpExchange exchange => exact writeOf_exchange io
  | dynamic carrier number => exact writeOf_writeTransport io
  | webSocketBinary connection => exact writeOf_webSocket io (sinkOp_perform bytes)

end

/-! ## Handles that are written to and closed -/

section

variable (io : ProxyIo) {handle : Int} {stream : ProxyByteStreamState}

theorem stream?_setStream (next : ProxyByteStreamState) (other : Int) :
    (io.setStream handle next).stream? other =
      if other = handle then some next else io.stream? other := by
  rw [stream?, setStream]
  by_cases here : other = handle <;> simp [here, stream?]

/-- A mark on the write side does not change where handles lead. -/
theorem endpoint?_setStream (held : io.stream? handle = some stream) {next : ProxyByteStreamState}
    (same : next.endpoint = stream.endpoint) (other : Int) :
    (io.setStream handle next).endpoint? other = io.endpoint? other := by
  rw [endpoint?, stream?_setStream]
  by_cases here : other = handle
  · simp [endpoint?, here, held, same]
  · simp [endpoint?, here]

theorem closed_setStream (next : ProxyByteStreamState) (other : Int) :
    (io.setStream handle next).closed other =
      if other = handle then next.writeClosed else io.closed other := by
  rw [closed, stream?_setStream]
  by_cases here : other = handle <;> simp [here, closed]

end

/-- What a write to a handle does, if it writes any bytes. -/
structure WriteBy (io : ProxyIo) (handle : Int) (bytes : List UInt8) (acted : Acted Unit) :
    Prop where
  endpoints : ∀ other, acted.2.endpoint? other = io.endpoint? other
  closed : ∀ other, acted.2.closed other = io.closed other
  responses : ∀ exchange, acted.2.responseAvailable exchange = io.responseAvailable exchange
  shutdowns : ∀ endpoint, acted.2.shutdowns endpoint = io.shutdowns endpoint
  received : ∀ endpoint ∈ io.endpoint? handle, ∃ part, part <+: bytes ∧
    acted.2.received endpoint = io.received endpoint ++ part ∧ (acted.1.isReady → part = bytes)
  supply : acted.1.isReady → ∀ endpoint, acted.2.supply endpoint = io.supply endpoint
  willing : acted.1.isReady → ∀ endpoint, io.Willing endpoint → acted.2.Willing endpoint
  accepted : io.closed handle = false → ∀ endpoint ∈ io.endpoint? handle, io.Willing endpoint →
    acted.1.isReady
  refused : io.closed handle = true → ∃ err, acted.1 = .failed err ∧
    ∀ endpoint, acted.2.received endpoint = io.received endpoint

theorem writeBytes_does (handle : Int) (some' : bytes ≠ []) :
    WriteBy io handle bytes (io.writeBytes handle bytes) := by
  rw [ProxyIo.writeBytes, if_neg (by simpa using some'), ProxyIo.prepareProxyStreamWrite]
  cases held : io.stream? handle with
  | none =>
    have absent : io.endpoint? handle = none := by simp [ProxyIo.endpoint?, held]
    exact ⟨fun _ => rfl, fun _ => rfl, fun _ => rfl, fun _ => rfl, by simp [absent],
      by simp [isReady], by simp [isReady], by simp [absent],
      by simp [ProxyIo.closed, held]⟩
  | some stream =>
    obtain ⟨endpoint, observed, closed⟩ := stream
    have named : io.endpoint? handle = some endpoint := by simp [ProxyIo.endpoint?, held]
    have mark : io.closed handle = closed := by simp [ProxyIo.closed, held]
    have marked (next : ProxyByteStreamState) (same : next.writeClosed = closed) (other : Int) :
        (io.setStream handle next).closed other = io.closed other := by
      rw [closed_setStream]
      split
      · rename_i here
        rw [same, here, mark]
      · rfl
    cases closed with
    | true =>
      exact ⟨endpoint?_setStream io held rfl, marked _ rfl, fun _ => rfl, fun _ => rfl,
        fun _ _ => ⟨[], List.nil_prefix, (List.append_nil _).symm, by simp [isReady]⟩,
        by simp [isReady], by simp [isReady], by simp [mark],
        fun _ => ⟨_, rfl, fun _ => rfl⟩⟩
    | false =>
      have writes := writeOf_endpoint (io.setStream handle ⟨endpoint, true, false⟩) endpoint bytes
      simp only [Bool.false_eq_true, ↓reduceIte]
      generalize (io.setStream handle ⟨endpoint, true, false⟩).writeEndpoint bytes endpoint = acted
        at writes
      have streams (other : Int) : acted.2.stream? other =
          (io.setStream handle ⟨endpoint, true, false⟩).stream? other := by
        rw [ProxyIo.stream?, writes.streams, ProxyIo.stream?]
      refine ⟨fun other => ?_, fun other => ?_, writes.responses, fun other => ?_,
        fun other member => ?_, writes.supply, writes.willing, fun _ other member willing => ?_,
        by simp [mark]⟩
      · rw [ProxyIo.endpoint?, streams other]
        exact endpoint?_setStream io held
          (show (ProxyByteStreamState.mk endpoint true false).endpoint = endpoint from rfl) other
      · rw [ProxyIo.closed, streams other]
        exact marked _ rfl other
      · have bounds := writes.shutdowns other
        rw [ite_self, Nat.add_zero] at bounds
        exact Nat.le_antisymm bounds.2 bounds.1
      · obtain rfl : endpoint = other := Option.some_inj.mp (named.symm.trans member)
        exact writes.received
      · obtain rfl : endpoint = other := Option.some_inj.mp (named.symm.trans member)
        exact writes.accepted willing

/-- How often closing an endpoint shuts it down. -/
def closings : ProxyByteStreamEndpoint → Nat
  | .dynamic _ _ => 1
  | .webSocketBinary _ => 1
  | _ => 0

/-- An operation that returns at once. -/
theorem WriteOf.nothing (endpoint : ProxyByteStreamEndpoint) :
    WriteOf io endpoint [] 0 (.ready (), io) :=
  ⟨rfl, fun _ => rfl, fun _ => ⟨le_rfl, Nat.le_add_right _ _⟩, fun _ => rfl,
    ⟨[], List.prefix_rfl, (List.append_nil _).symm, fun _ => rfl⟩, fun _ _ => rfl,
    fun _ _ willing => willing, fun _ => rfl⟩

theorem writeOf_close (endpoint : ProxyByteStreamEndpoint) :
    WriteOf io endpoint [] (closings endpoint) (io.closeEndpoint endpoint) := by
  cases endpoint with
  | httpDownstream | downstreamConnect | downstreamWebSocketBinary | httpExchange exchange =>
    exact .nothing io _
  | dynamic carrier number => exact writeOf_transport io carrier number "shutdown" sinkOp_shutdown
  | webSocketBinary connection => exact writeOf_webSocket io sinkOp_shutdown

/-- What closing a handle does. -/
structure CloseBy (io : ProxyIo) (handle : Int) (acted : Acted Unit) : Prop where
  endpoints : ∀ other, acted.2.endpoint? other = io.endpoint? other
  closed : ∀ other, acted.2.closed other =
    (io.closed other || decide (other = handle) && (io.endpoint? handle).isSome)
  received : ∀ endpoint ∈ io.endpoint? handle, acted.2.received endpoint = io.received endpoint
  shut : acted.1.isReady → ∀ endpoint ∈ io.endpoint? handle,
    acted.2.shutdowns endpoint = io.shutdowns endpoint + closings endpoint
  known : acted.1.isReady → (io.endpoint? handle).isSome
  supply : acted.1.isReady → ∀ endpoint, acted.2.supply endpoint = io.supply endpoint
  accepted : ∀ endpoint ∈ io.endpoint? handle, io.Willing endpoint → acted.1.isReady

theorem closeWrite_does (handle : Int) : CloseBy io handle (io.closeWrite handle) := by
  rw [closeWrite, markProxyStreamWriteClosed]
  cases held : io.stream? handle with
  | none =>
    have absent : io.endpoint? handle = none := by simp [endpoint?, held]
    exact ⟨fun _ => rfl, by simp [absent], fun _ _ => rfl, by simp [isReady],
      by simp [isReady], by simp [isReady], by simp [absent]⟩
  | some stream =>
    obtain ⟨endpoint, observed, closed⟩ := stream
    have named : io.endpoint? handle = some endpoint := by simp [endpoint?, held]
    dsimp only
    have closes := writeOf_close (io.setStream handle ⟨endpoint, observed, true⟩) endpoint
    generalize (io.setStream handle ⟨endpoint, observed, true⟩).closeEndpoint endpoint = acted
      at closes
    have streams (other : Int) : acted.2.stream? other =
        (io.setStream handle ⟨endpoint, observed, true⟩).stream? other := by
      rw [stream?, closes.streams, stream?]
    have only (other : ProxyByteStreamEndpoint) (member : other ∈ io.endpoint? handle) :
        endpoint = other := Option.some_inj.mp (named.symm.trans member)
    refine ⟨fun other => ?_, fun other => ?_, fun other member => ?_, fun ready other member => ?_,
      fun _ => by simp [named], closes.supply, fun other member willing => ?_⟩
    · rw [endpoint?, streams other]
      exact endpoint?_setStream io held
        (show (ProxyByteStreamState.mk endpoint observed true).endpoint = endpoint from rfl) other
    · rw [ProxyIo.closed, streams other, ← ProxyIo.closed, closed_setStream, named]
      by_cases here : other = handle <;> simp [here]
    · obtain rfl := only other member
      obtain ⟨part, within, got, -⟩ := closes.received
      rw [List.prefix_nil.mp within, List.append_nil] at got
      exact got
    · obtain rfl := only other member
      exact closes.shut ready
    · obtain rfl := only other member
      exact closes.accepted willing

end PdEdge.Proxy

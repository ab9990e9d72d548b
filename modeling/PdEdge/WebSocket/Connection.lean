import PdEdge.Http1.Basic

/-!
# Outbound WebSocket connections

The stream of a connection gives messages until it ends, is closed by the peer or fails. Reading
takes the next data message and answers pings on the way. A handle keeps a phase and, once it is
connected, its stream; every operation first makes sure that the handle is open, and connects it
if it is not. The WebSocket library is given by what its operations bring.
-/

namespace PdEdge.WebSocket

/-- `WebSocketPhase`; `Open` is `opened` here. -/
inductive WebSocketPhase where
  | inactive
  | upgradeObserved
  | upgradePrepared
  | handshakeStarted
  | opened
  | closing
  | closed
  | failed
  deriving DecidableEq, Repr

/-! ## Streams -/

/-- A close frame. -/
structure CloseFrame where
  code : UInt16
  reason : String

/-- A message of the peer; of a ping, also the error with which answering it fails, if it does. -/
inductive Message where
  | text (text : String)
  | binary (bytes : List UInt8)
  | ping (payload : List UInt8) (refused : Option String)
  | pong (payload : List UInt8)
  /-- Any other message of the library. -/
  | other

/-- How a stream goes on behind its messages: it is over, or the peer closes it, or it fails. -/
inductive Ending where
  | ended
  | closed (frame : Option CloseFrame)
  | failed (err : String)

/-- `OutboundWebSocketFrame`. -/
inductive OutboundWebSocketFrame where
  | text (text : String)
  | binary (bytes : List UInt8)

/-- `OutboundWebSocketIoState`. -/
structure OutboundWebSocketIoState where
  messages : List Message
  ending : Ending
  /-- The errors of the next operations that send; without one, and behind them, sending works. -/
  sends : List (Option String)
  eof : Bool
  closeCode : Option UInt16
  closeReason : Option String

namespace OutboundWebSocketIoState

/-- `new_client`. -/
def newClient (messages : List Message) (ending : Ending) (sends : List (Option String)) :
    OutboundWebSocketIoState :=
  ⟨messages, ending, sends, false, none, none⟩

variable (io : OutboundWebSocketIoState)

/-- `record_close_frame`. -/
def recordCloseFrame (frame : Option CloseFrame) : OutboundWebSocketIoState :=
  match frame with
  | none => { io with eof := true }
  | some frame =>
    { io with eof := true, closeCode := some frame.code, closeReason := some frame.reason }

/-- The stream is used up. -/
def finished : OutboundWebSocketIoState := { io with messages := [], ending := .ended }

/-- `read_next_frame`, with the messages it goes through. -/
def readFrom : List Message →
    Except VmError (Option OutboundWebSocketFrame) × OutboundWebSocketIoState
  | [] =>
    match io.ending with
    | .ended => (.ok none, { io.finished with eof := true })
    | .closed frame => (.ok none, io.finished.recordCloseFrame frame)
    | .failed err =>
      (.error (.hostError s!"failed to read websocket frame: {err}"),
        { io.finished with eof := true })
  | .text text :: rest => (.ok (some (.text text)), { io with messages := rest })
  | .binary bytes :: rest => (.ok (some (.binary bytes)), { io with messages := rest })
  | .ping _ none :: rest => readFrom rest
  | .ping _ (some err) :: rest =>
    (.error (.hostError s!"failed to reply to websocket ping: {err}"), { io with messages := rest })
  | .pong _ :: rest => readFrom rest
  | .other :: rest => readFrom rest

/-- `read_next_frame`. -/
def readNextFrame : Except VmError (Option OutboundWebSocketFrame) × OutboundWebSocketIoState :=
  io.readFrom io.messages

/-- An operation that sends. -/
def send (failure : String) : Except VmError Unit × OutboundWebSocketIoState :=
  let io' := { io with sends := io.sends.tail }
  match io.sends.head? with
  | some (some err) => (.error (.hostError s!"{failure}: {err}"), io')
  | _ => (.ok (), io')

/-- `close`. -/
def close (frame : CloseFrame) : Except VmError Unit × OutboundWebSocketIoState :=
  match io.send "failed to close websocket session" with
  | (.ok (), io) => (.ok (), io.recordCloseFrame (some frame))
  | (.error err, io) => (.error err, io)

end OutboundWebSocketIoState

/-- What a read asks for. -/
inductive ReadKind where
  | text
  | binary
  | binaryBase64
  deriving DecidableEq

/-- The base64 library. -/
structure Base64 where
  encode : List UInt8 → String
  decode : String → Except String (List UInt8)

/-- What a read returns to the program. -/
inductive Payload where
  | text (text : String)
  | binary (bytes : List UInt8)

/-- The read can return the frame. -/
def ReadKind.takes : ReadKind → OutboundWebSocketFrame → Bool
  | .text, .text _ => true
  | .binary, .binary _ => true
  | .binaryBase64, .binary _ => true
  | _, _ => false

/-- The frame as a read of its type returns it. -/
def ReadKind.payload (base64 : Base64) : ReadKind → OutboundWebSocketFrame → Payload
  | _, .text content => .text content
  | .binaryBase64, .binary bytes => .text (base64.encode bytes)
  | _, .binary bytes => .binary bytes

/-- The value in place of a frame at the end of the stream, by `unwrap_or_default`. -/
def ReadKind.default : ReadKind → Payload
  | .text => .text ""
  | .binary => .binary []
  | .binaryBase64 => .text ""

/-- The error of a read of the other type. -/
def ReadKind.mismatch : ReadKind → VmError
  | .text => .hostError "next websocket frame is binary; call websocket::connection::read_binary"
  | .binary =>
    .hostError "next websocket frame is text; binary byte-stream mode requires binary frames"
  | .binaryBase64 =>
    .hostError "next websocket frame is text; call websocket::connection::read_text"

/-- `read_text`, `read_binary_bytes` and `read_binary_base64`. -/
def OutboundWebSocketIoState.read (base64 : Base64) (kind : ReadKind)
    (io : OutboundWebSocketIoState) : Except VmError (Option Payload) × OutboundWebSocketIoState :=
  match io.readNextFrame with
  | (.ok (some frame), io) =>
    if kind.takes frame then (.ok (some (kind.payload base64 frame)), io)
    else (.error kind.mismatch, io)
  | (.ok none, io) => (.ok none, io)
  | (.error err, io) => (.error err, io)

/-! ## Handles -/

/-- `WebSocketConnectionState` without its settings. -/
structure WebSocketConnectionState where
  phase : WebSocketPhase
  present : Bool
  negotiatedSubprotocol : Option String
  failureMessage : Option String
  closeCode : Option UInt16
  closeReason : Option String
  io : Option OutboundWebSocketIoState

namespace WebSocketConnectionState

/-- `default`. -/
def default : WebSocketConnectionState := ⟨.inactive, false, none, none, none, none, none⟩

variable (state : WebSocketConnectionState)

/-- `is_open`. -/
def isOpen : Bool := state.phase = .opened && state.io.isSome

theorem of_isOpen (isOpen : state.isOpen) :
    state.phase = .opened ∧ ∃ io, state.io = some io := by
  simpa [WebSocketConnectionState.isOpen, Option.isSome_iff_exists] using isOpen

/-- `prepare_outbound`. -/
def prepareOutbound : WebSocketConnectionState :=
  { state with
    present := true
    failureMessage := none
    phase := if state.phase = .inactive ∨ state.phase = .upgradeObserved then .upgradePrepared
      else state.phase }

/-- `note_handshake_started`. -/
def noteHandshakeStarted : WebSocketConnectionState :=
  { state.prepareOutbound with
    phase := .handshakeStarted
    negotiatedSubprotocol := none
    closeCode := none
    closeReason := none
    io := none }

/-- `mark_open`. -/
def markOpen (io : OutboundWebSocketIoState) (subprotocol : Option String) :
    WebSocketConnectionState :=
  { state with
    present := true
    phase := .opened
    negotiatedSubprotocol := subprotocol
    failureMessage := none
    io := some io }

/-- `note_closing`. -/
def noteClosing : WebSocketConnectionState :=
  if state.phase = .opened then { state with phase := .closing } else state

/-- `refresh_close_state`. -/
def refreshCloseState : WebSocketConnectionState :=
  match state.io with
  | none => state
  | some io =>
    if io.eof then
      { state with phase := .closed, closeCode := io.closeCode, closeReason := io.closeReason }
    else state

/-- `mark_closed`. -/
def markClosed (code : Option UInt16) (reason : Option String) : WebSocketConnectionState :=
  { state with phase := .closed, closeCode := code, closeReason := reason }

/-- `mark_failed`. -/
def markFailed (message : String) : WebSocketConnectionState :=
  { state with phase := .failed, present := true, failureMessage := some message, io := none }

/-- `eof`. -/
def eof : Bool :=
  state.refreshCloseState.phase = .closed || state.refreshCloseState.phase = .failed

end WebSocketConnectionState

/-- What the settings of a handle give for a handshake, once they give anything. -/
structure Prepared where
  /-- TLS is asked for with settings that WebSocket does not apply. -/
  customTls : Bool
  /-- `into_client_request`. -/
  request : Except String Unit
  /-- The values of the Host header and of the subprotocols. -/
  headers : Except VmError Unit

/-- A connection that an attempt opens. -/
structure Connected where
  messages : List Message
  ending : Ending
  sends : List (Option String)
  subprotocol : Option String

/-- An outbound handle: its state, its settings, and what the next attempts to connect bring. -/
structure Handle where
  number : Int
  state : WebSocketConnectionState
  /-- The exchange of the handle has an HTTP response. -/
  responded : Bool
  /-- `prepared_outbound_websocket`. -/
  prepared : Except VmError Prepared
  /-- Behind these attempts every one fails. -/
  connects : List (Except String Connected)
  /-- How many connections were opened. -/
  connections : Nat

namespace Handle

/-- A handle that was only configured. -/
def new (number : Int) (responded : Bool) (prepared : Except VmError Prepared)
    (connects : List (Except String Connected)) : Handle :=
  ⟨number, .default, responded, prepared, connects, 0⟩

variable (handle : Handle)

/-- The next attempt to connect. -/
def attempt : Except String Connected := handle.connects.head?.getD (.error "unreachable")

/-- A failed try, as `store_failed_websocket` leaves it. -/
def storeFailed (message : String) : Except VmError Unit × Handle :=
  (.error (.hostError message), { handle with state := handle.state.markFailed message })

/-- `connect_async` and what follows it. -/
def connectAsync : Except VmError Unit × Handle :=
  let after := { handle with connects := handle.connects.tail }
  match handle.attempt with
  | .error err =>
    let number := handle.number
    after.storeFailed s!"websocket connection handle {number} failed to connect: {err}"
  | .ok connected =>
    let io := .newClient connected.messages connected.ending connected.sends
    (.ok (), { after with
      state := handle.state.markOpen io connected.subprotocol
      connections := handle.connections + 1 })

/-- `ensure_outbound_websocket_connection_open` of an outbound handle. -/
def ensureOpen : Except VmError Unit × Handle :=
  let number := handle.number
  if handle.responded then
    (.error (.hostError (s!"websocket connection handle {number} cannot enter websocket mode " ++
      "after the HTTP response has started")), handle)
  else if handle.state.isOpen then (.ok (), handle)
  else
    match handle.prepared with
    | .error err => (.error err, handle)
    | .ok prepared =>
      if prepared.customTls then
        handle.storeFailed (s!"websocket connection handle {number} cannot apply custom TLS " ++
          "session settings yet; websocket TLS currently supports only the default " ++
          "verifier/client configuration")
      else
        let started := { handle with state := handle.state.noteHandshakeStarted }
        match prepared.request, prepared.headers with
        | .error err, _ =>
          started.storeFailed s!"failed to create websocket handshake request: {err}"
        | .ok (), .error err => (.error err, started)
        | .ok (), .ok () => started.connectAsync

end Handle

/-- What an operation returns to the program. -/
inductive Reply where
  | connected
  | payload (payload : Payload)
  | sent (count : Nat)
  | closed
  | eof (ended : Bool)
  | failed (err : VmError)

/-- The operations of a program on a handle. -/
inductive Operation where
  | connect
  | read (kind : ReadKind)
  | sendText (text : String)
  | sendBinary (bytes : List UInt8)
  | sendBinaryBase64 (payload : String)
  | close (code : Int) (reason : String)
  /-- `close_websocket_binary_stream`. -/
  | closeStream
  | eof

namespace Handle

variable (base64 : Base64) (handle : Handle)

/-- `websocket_io`: the stream, or the error without one. -/
def onIo (operation : OutboundWebSocketIoState → Reply × Handle) : Reply × Handle :=
  match handle.state.io with
  | some io => operation io
  | none =>
    let number := handle.number
    (.failed (.hostError s!"websocket connection handle {number} is not open"), handle)

/-- Go on once the handle is open. -/
def opening (next : Handle → Reply × Handle) : Reply × Handle :=
  match handle.ensureOpen with
  | (.ok (), handle) => next handle
  | (.error err, handle) => (.failed err, handle)

/-- Put the stream back. -/
def setIo (io : OutboundWebSocketIoState) : Handle :=
  { handle with state := { handle.state with io := some io } }

/-- `refresh_connection_close_state`. -/
def refresh : Handle := { handle with state := handle.state.refreshCloseState }

/-- The reads behind the opening; after an error the close state is not looked at. -/
def readIo (kind : ReadKind) : Reply × Handle :=
  handle.onIo fun io =>
    match io.read base64 kind with
    | (.ok payload, io) => (.payload (payload.getD kind.default), (handle.setIo io).refresh)
    | (.error err, io) => (.failed err, handle.setIo io)

/-- The writes behind the opening. -/
def sendIo (failure : String) (count : Nat) : Reply × Handle :=
  handle.onIo fun io =>
    match io.send failure with
    | (.ok (), io) => (.sent count, handle.setIo io)
    | (.error err, io) => (.failed err, handle.setIo io)

/-- Closing behind the opening. -/
def closeIo (frame : CloseFrame) : Reply × Handle :=
  handle.onIo fun io =>
    let closing := { handle with state := handle.state.noteClosing }
    match io.close frame with
    | (.ok (), io) =>
      let handle := closing.setIo io
      (.closed, { handle with state := handle.state.markClosed io.closeCode io.closeReason })
    | (.error err, io) => (.failed err, closing.setIo io)

/-- One operation. -/
def perform : Operation → Reply × Handle
  | .connect => handle.opening fun handle => (.connected, handle)
  | .read kind => handle.opening (·.readIo base64 kind)
  | .sendText text =>
    handle.opening (·.sendIo "failed to send websocket text frame" text.utf8ByteSize)
  | .sendBinary bytes =>
    handle.opening (·.sendIo "failed to send websocket binary frame" bytes.length)
  | .sendBinaryBase64 payload =>
    handle.opening fun handle =>
      handle.onIo fun _ =>
        match base64.decode payload with
        | .error err =>
          (.failed (.hostError s!"websocket binary payload must be base64 encoded: {err}"), handle)
        | .ok bytes => handle.sendIo "failed to send websocket binary frame" bytes.length
  | .close code reason =>
    handle.opening fun handle =>
      if inRange : 0 ≤ code ∧ code < 65536 then
        handle.closeIo ⟨⟨⟨code.toNat, by omega⟩⟩, reason⟩
      else
        (.failed (.hostError s!"websocket close code must be in the u16 range, got {code}"), handle)
  | .closeStream =>
    if handle.state.eof then (.closed, handle)
    else handle.opening (·.closeIo ⟨1000, "proxy-write-complete"⟩)
  | .eof => (.eof handle.state.eof, handle)

end Handle

/-! ## What opening a handle meets -/

/-- How making sure that a handle is open ends. -/
inductive Fate where
  | responded
  | already
  | unprepared
  | fails
  /-- A header value is refused, and the handshake stays begun. -/
  | stuck
  | connects (connected : Connected)

namespace Handle

variable (handle : Handle)

/-- By the handle and the next attempt. -/
def fate : Fate :=
  if handle.responded then .responded
  else if handle.state.isOpen then .already
  else
    match handle.prepared with
    | .error _ => .unprepared
    | .ok prepared =>
      if prepared.customTls then .fails
      else
        match prepared.request, prepared.headers with
        | .error _, _ => .fails
        | .ok (), .error _ => .stuck
        | .ok (), .ok () =>
          match handle.attempt with
          | .error _ => .fails
          | .ok connected => .connects connected

/-- What is left of a handle that was not opened. -/
def Unopened (phase : WebSocketPhase) (after : Handle) : Prop :=
  after.state.phase = phase ∧ after.state.io = none ∧ after.responded = handle.responded ∧
    after.connections = handle.connections

/-- Everything that making sure that a handle is open can do. -/
inductive Opened : Fate → Except VmError Unit × Handle → Prop
  | responded (err : VmError) (responded : handle.responded = true) :
    Opened .responded (.error err, handle)
  | already (free : handle.responded = false) (isOpen : handle.state.isOpen = true) :
    Opened .already (.ok (), handle)
  | unprepared (err : VmError) (free : handle.responded = false)
    (idle : handle.state.isOpen = false) : Opened .unprepared (.error err, handle)
  | fails (err : VmError) {after : Handle} (free : handle.responded = false)
    (idle : handle.state.isOpen = false) (failed : handle.Unopened .failed after) :
    Opened .fails (.error err, after)
  | stuck (err : VmError) {after : Handle} (free : handle.responded = false)
    (idle : handle.state.isOpen = false) (begun : handle.Unopened .handshakeStarted after) :
    Opened .stuck (.error err, after)
  | connects {connected : Connected} {after : Handle} (free : handle.responded = false)
    (idle : handle.state.isOpen = false) (phase : after.state.phase = .opened)
    (io : after.state.io = some (.newClient connected.messages connected.ending connected.sends))
    (responded : after.responded = handle.responded)
    (connections : after.connections = handle.connections + 1) :
    Opened (.connects connected) (.ok (), after)

theorem ensureOpen_does : handle.Opened handle.fate handle.ensureOpen := by
  obtain ⟨number, state, responded, prepared, connects, connections⟩ := handle
  cases responded with
  | true => exact .responded _ rfl
  | false =>
    rw [fate, ensureOpen]
    by_cases isOpen : state.isOpen = true
    · rw [if_pos isOpen, if_pos isOpen]
      exact .already rfl isOpen
    rw [if_neg isOpen, if_neg isOpen]
    have idle : state.isOpen = false := by simpa using isOpen
    rcases prepared with err | ⟨(- | -), (err | -), (err | -)⟩
    · exact .unprepared err rfl idle
    · exact .fails _ rfl idle ⟨rfl, rfl, rfl, rfl⟩
    · exact .fails _ rfl idle ⟨rfl, rfl, rfl, rfl⟩
    · exact .stuck err rfl idle ⟨rfl, rfl, rfl, rfl⟩
    · rcases connects with - | ⟨(err | connected), rest⟩
      · exact .fails _ rfl idle ⟨rfl, rfl, rfl, rfl⟩
      · exact .fails _ rfl idle ⟨rfl, rfl, rfl, rfl⟩
      · exact .connects rfl idle rfl rfl rfl rfl
    all_goals exact .fails _ rfl idle ⟨rfl, rfl, rfl, rfl⟩

end Handle

end PdEdge.WebSocket

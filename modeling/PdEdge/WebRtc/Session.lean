import PdEdge.WebSocket.Connection

/-!
# WebRTC connections

A connection whose peer is created. The callbacks of the peer and of its data channels set flags
and fill the inbox; a read waits until the connection is open and then takes a message from the
inbox. Callbacks run beside the program, so a read is modelled with every point at which one of
them can come between.
-/

namespace PdEdge.WebRtc

open WebSocket (Base64 Payload ReadKind)

/-- `WebRtcPhase`. -/
inductive WebRtcPhase where
  | inactive
  | configured
  | remoteDescriptionSet
  | offerCreated
  | answerCreated
  | connecting
  /-- `Open`. -/
  | opened
  | closed
  | failed
  deriving DecidableEq

/-- `WebRtcMessage`. -/
inductive WebRtcMessage where
  | text (text : String)
  | binary (bytes : List UInt8)
  deriving DecidableEq

/-- The read can return the message. -/
def WebRtcMessage.suits : WebRtcMessage → ReadKind → Bool
  | .text _, .text => true
  | .binary _, .binary => true
  | .binary _, .binaryBase64 => true
  | _, _ => false

/-- The message as a read of its type returns it. -/
def WebRtcMessage.payload (base64 : Base64) : WebRtcMessage → ReadKind → Payload
  | .text content, _ => .text content
  | .binary bytes, .binaryBase64 => .text (base64.encode bytes)
  | .binary bytes, _ => .binary bytes

/-- The error of a read of the other type. -/
def mismatch : ReadKind → VmError
  | .text => .hostError "next webrtc message is binary; call webrtc::connection::read_binary"
  | _ => .hostError "next webrtc message is text; call webrtc::connection::read_text"

/-- `WebRtcRuntimeState`. -/
structure WebRtcRuntimeState where
  isOpen : Bool
  isClosed : Bool
  failureMessage : Option String

/-- `RTCPeerConnectionState`. -/
inductive PeerState where
  | connected
  | failed
  | disconnected
  | closed
  | other

/-- `refresh_async_state` looks at the flags one after another. -/
inductive Look where
  | failure
  | opening
  | closing
  deriving DecidableEq

/-- What a look at a flag brings: the next look, or the new phase, if there is one. -/
inductive Looked where
  | next (look : Look)
  | done (phase : Option WebRtcPhase)

/-- `refresh_async_state`, look by look. -/
def WebRtcRuntimeState.refreshAsyncState (runtime : WebRtcRuntimeState) : Look → Looked
  | .failure => if runtime.failureMessage.isSome then .done (some .failed) else .next .opening
  | .opening => if runtime.isOpen then .done (some .opened) else .next .closing
  | .closing => if runtime.isClosed then .done (some .closed) else .done none

/-- Where a read stands. -/
inductive Point where
  /-- In front of `note_connecting`. -/
  | noteConnecting
  /-- `wait_until_open`, in front of each look at the flags. -/
  | checkOpen
  | checkFailure
  | awaitOpen
  | checkFailureAgain
  | checkOpenAgain
  /-- In `refresh_async_state`. -/
  | refresh (look : Look)
  /-- `pop_next_message`, in front of each look at the inbox and the flags. -/
  | pop
  | popFailure
  | popClosed
  /-- In front of `inbox_notify.notified()`, and waiting for it. -/
  | listen
  | await (woken : Bool)
  deriving DecidableEq

/-- A read under way. -/
structure Reading where
  kind : ReadKind
  /-- A message was there when the read was called. -/
  found : Bool
  point : Point

/-- A notice of a message wakes the read that waits for one. -/
def Reading.notified (reading : Reading) : Reading :=
  match reading.point with
  | .await _ => { reading with point := .await true }
  | _ => reading

/-- A call of `eof` under way. -/
structure Asking where
  /-- A message was there when `eof` was called. -/
  found : Bool
  look : Look

/-- A connection with its `WebRtcIoState`. -/
structure Session where
  phase : WebRtcPhase
  runtime : WebRtcRuntimeState
  inbox : List WebRtcMessage
  /-- The messages in the inbox whose `notify_waiters` is still to come. -/
  notices : Nat
  reading : Option Reading
  asking : Option Asking

/-- What happens to a connection. -/
inductive Event where
  | peerStateChange (state : PeerState)
  /-- `attach_data_channel_handlers`. -/
  | dataChannel
  | channelOpen
  | channelMessage (isString : Bool) (data : List UInt8)
  /-- The end of the callback for a message. -/
  | notifyInbox
  | channelClose
  /-- The program calls a read. -/
  | read (kind : ReadKind)
  /-- The program calls `eof`. -/
  | eof
  /-- What the program called goes on. -/
  | advance

/-- What the program gets. -/
inductive Answer where
  | read (result : Except VmError Payload)
  | eof (ended : Bool)

namespace Session

/-- A connection whose peer was just created. -/
def new (phase : WebRtcPhase) : Session := ⟨phase, ⟨false, false, none⟩, [], 0, none, none⟩

variable (session : Session)

/-- The phase behind `configure`. -/
def configured : WebRtcPhase :=
  if session.phase = .inactive ∨ session.phase = .closed ∨ session.phase = .failed then .configured
  else session.phase

/-- The phase behind `note_connecting`. -/
def connecting : WebRtcPhase :=
  if session.runtime.isOpen then session.configured else .connecting

/-- The callback of `on_peer_connection_state_change`. -/
def peerStateChange : PeerState → WebRtcRuntimeState
  | .failed =>
    { session.runtime with
      failureMessage := some "webrtc peer connection failed", isClosed := true }
  | .disconnected => { session.runtime with isClosed := true }
  | .closed => { session.runtime with isClosed := true }
  | .connected => session.runtime
  | .other => session.runtime

end Session

/-- The message that `on_message` puts into the inbox. -/
def received (lossy : List UInt8 → String) (isString : Bool) (data : List UInt8) : WebRtcMessage :=
  if isString then .text (lossy data) else .binary data

namespace Session

section

variable (base64 : Base64) (session : Session)

/-- The read goes on at another point. -/
def goTo (reading : Reading) (point : Point) : Session :=
  { session with reading := some { reading with point } }

/-- The read ends. -/
def finish (result : Except VmError Payload) : Option Answer × Session :=
  (some (.read result), { session with reading := none })

/-- What a read does from a point to the next. -/
def advance (reading : Reading) : Option Answer × Session :=
  match reading.point with
  | .noteConnecting => (none, { session with phase := session.connecting }.goTo reading .checkOpen)
  | .checkOpen =>
    (none, session.goTo reading
      (if session.runtime.isOpen then .refresh .failure else .checkFailure))
  | .checkFailure =>
    match session.runtime.failureMessage with
    | some message => session.finish (.error (.hostError message))
    | none => (none, session.goTo reading .awaitOpen)
  -- The wait for the notice of an open channel ends with it or with the time-out.
  | .awaitOpen => (none, session.goTo reading .checkFailureAgain)
  | .checkFailureAgain =>
    match session.runtime.failureMessage with
    | some message => session.finish (.error (.hostError message))
    | none => (none, session.goTo reading .checkOpenAgain)
  | .checkOpenAgain =>
    if session.runtime.isOpen then (none, session.goTo reading (.refresh .failure))
    else
      session.finish (.error
        (.hostError "webrtc connection did not reach the open state before timeout"))
  | .refresh look =>
    match session.runtime.refreshAsyncState look with
    | .next look => (none, session.goTo reading (.refresh look))
    | .done phase => (none, { session with phase := phase.getD session.phase }.goTo reading .pop)
  | .pop =>
    match session.inbox with
    | message :: rest =>
      { session with inbox := rest }.finish
        (if message.suits reading.kind then .ok (message.payload base64 reading.kind)
         else .error (mismatch reading.kind))
    | [] => (none, session.goTo reading .popFailure)
  | .popFailure =>
    match session.runtime.failureMessage with
    | some message => session.finish (.error (.hostError message))
    | none => (none, session.goTo reading .popClosed)
  | .popClosed =>
    if session.runtime.isClosed then session.finish (.ok reading.kind.default)
    else (none, session.goTo reading .listen)
  | .listen => (none, session.goTo reading (.await false))
  | .await true => (none, session.goTo reading .pop)
  | .await false => (none, session)

/-- `notify_waiters` on `inbox_notify`, if a callback is about to make it. -/
def notifyInbox : Session :=
  if session.notices = 0 then session
  else
    { session with
      notices := session.notices - 1
      reading := session.reading.map Reading.notified }

/-- What `eof` does from a look to the next; the phase it finds is not stored. -/
def ask (asking : Asking) : Option Answer × Session :=
  match session.runtime.refreshAsyncState asking.look with
  | .next look => (none, { session with asking := some { asking with look } })
  | .done phase =>
    let phase := phase.getD session.phase
    (some (.eof (phase = .closed || phase = .failed)), { session with asking := none })

/-- What happens at an event. The program waits for what it calls, so it calls nothing else in
between. -/
def step (lossy : List UInt8 → String) : Event → Option Answer × Session
  | .peerStateChange state => (none, { session with runtime := session.peerStateChange state })
  | .dataChannel =>
    (none, { session with
      runtime := { session.runtime with isClosed := false, failureMessage := none } })
  | .channelOpen => (none, { session with runtime := ⟨true, false, none⟩ })
  | .channelMessage isString data =>
    (none, { session with
      inbox := session.inbox ++ [received lossy isString data]
      notices := session.notices + 1 })
  | .notifyInbox => (none, session.notifyInbox)
  | .channelClose =>
    (none, { session with
      runtime := { session.runtime with isOpen := false, isClosed := true } })
  | .read kind =>
    if session.reading.isSome || session.asking.isSome then (none, session)
    else (none, { session with reading := some ⟨kind, !session.inbox.isEmpty, .noteConnecting⟩ })
  | .eof =>
    if session.reading.isSome || session.asking.isSome then (none, session)
    else (none, { session with asking := some ⟨!session.inbox.isEmpty, .failure⟩ })
  | .advance =>
    match session.reading, session.asking with
    | some reading, _ => session.advance base64 reading
    | none, some asking => session.ask asking
    | none, none => (none, session)

end

end Session

end PdEdge.WebRtc

import PdEdge.Mqtt.Stream

/-!
# MQTT connections

A connection of the MQTT client and what the program does with it. The carrier is a TCP or TLS
stream: what arrives on it, with the times at which a read that has a time limit finds nothing,
and what comes of the writes. While an operation waits for its acknowledgement, everything else
that arrives is handled as it comes: a message is acknowledged and queued for `read_event`.
-/

namespace PdEdge.Mqtt

open Iteration Wire

/-- `MqttPhase`. -/
inductive MqttPhase where
  | inactive
  | configured
  | carrierAttached
  | connectSent
  /-- `Open`. -/
  | opened
  | closed
  | failed
  deriving DecidableEq

/-- `MqttEvent`. -/
inductive MqttEvent where
  | publish (topic : List Char) (payload : List UInt8) (qos : UInt8) (retain dup : Bool)
  | closed (reason : String)
  | failed (reason : String)
  deriving DecidableEq

def MqttEvent.isPublish : MqttEvent → Bool
  | .publish .. => true
  | _ => false

/-- `MqttCarrierAttachment`. -/
inductive MqttCarrierAttachment where
  | tcp (stream : Int)
  | tls (session : Int)

namespace MqttCarrierAttachment

def kind : MqttCarrierAttachment → String
  | tcp _ => "tcp"
  | tls _ => "tls"

def handle : MqttCarrierAttachment → Int
  | tcp stream => stream
  | tls session => session

/-- The carrier in the message of a failed read or write. -/
def name : MqttCarrierAttachment → String
  | tcp stream => s!"stream {stream}"
  | tls session => s!"session {session}"

end MqttCarrierAttachment

/-! ## Carriers -/

/-- What a read of a carrier comes to. -/
inductive CarrierEvent where
  | data (segment : Segment)
  /-- Nothing arrives within the time limit of a read that has one. -/
  | idle
  | failed (err : String)

/-- What a write to a carrier comes to. -/
inductive WriteEvent where
  | done
  | failed (err : String)
  | unflushed (err : String)
  /-- The peer takes nothing any more. -/
  | stuck

/-- The stream of a carrier. -/
structure CarrierIo where
  arrivals : List CarrierEvent
  /-- Behind what arrives the peer stays silent; otherwise it closes the stream. -/
  silent : Bool
  /-- What the next writes come to; behind them every write succeeds. -/
  writes : List WriteEvent

/-- `CarrierReadChunk`. -/
inductive CarrierReadChunk where
  | data (bytes : List UInt8)
  | timedOut
  | closed

/-- The bytes that arrive, and one for everything else that a read can come to. -/
def arrivalWeight : List CarrierEvent → Nat
  | [] => 0
  | .data segment :: rest => segment.bytes.length + arrivalWeight rest
  | .idle :: rest => 1 + arrivalWeight rest
  | .failed _ :: rest => 1 + arrivalWeight rest

/-- A read of a carrier, with what is left to arrive. -/
def readArrivals (silent : Bool) (maxBytes : Nat) (timed : Bool) :
    List CarrierEvent → Awaited String CarrierReadChunk × List CarrierEvent
  | [] =>
    if silent then (if timed then .ready .timedOut else .dropped, [])
    else (.ready .closed, [])
  | .data segment :: rest =>
    (.ready (.data (segment.bytes.take maxBytes)), if more : segment.bytes.drop maxBytes ≠ [] then
        .data ⟨segment.bytes.drop maxBytes, more⟩ :: rest
      else rest)
  | .idle :: rest =>
    if timed then (.ready .timedOut, rest) else readArrivals silent maxBytes timed rest
  | .failed err :: rest => (.failed err, rest)

/-! ## The state of a connection -/

/-- The clock: each reading comes some time after the one before. -/
structure Clock where
  time : Nat
  delays : List Nat

/-- `Instant::now`. -/
def Clock.now (clock : Clock) : Nat × Clock :=
  let time := clock.time + clock.delays.headD 0
  (time, ⟨time, clock.delays.tail⟩)

/-- `MqttConnectionState`. -/
structure MqttConnectionState where
  phase : MqttPhase
  host : Option (List Char)
  clientId : List Char
  username : Option (List Char)
  password : Option (List Char)
  keepAliveSecs : UInt16
  cleanStart : Bool
  nextPacketId : UInt16
  carrier : Option MqttCarrierAttachment
  failureMessage : Option String
  lastActivityAt : Option Nat
  pingResponsePending : Bool
  pendingReadBuffer : List UInt8
  pendingEvents : List MqttEvent

/-- What `set_scheme` and the other setters change. -/
inductive Setting where
  /-- Only the carrier depends on the scheme and the port. -/
  | scheme
  | target (host : List Char)
  | clientId (clientId : List Char)
  | username (username : List Char)
  | password (password : List Char)
  | keepAliveSecs (keepAliveSecs : UInt16)
  | cleanStart (enabled : Bool)

namespace MqttConnectionState

/-- `default`. -/
def default : MqttConnectionState where
  phase := .inactive
  host := none
  clientId := []
  username := none
  password := none
  keepAliveSecs := 60
  cleanStart := true
  nextPacketId := 1
  carrier := none
  failureMessage := none
  lastActivityAt := none
  pingResponsePending := false
  pendingReadBuffer := []
  pendingEvents := []

variable (state : MqttConnectionState)

/-- `configure`. -/
def configure : MqttConnectionState :=
  { state with
    failureMessage := none
    phase :=
      if state.phase = .inactive ∨ state.phase = .closed ∨ state.phase = .failed then .configured
      else state.phase }

/-- A setter. -/
def set (setting : Setting) : MqttConnectionState :=
  let state := state.configure
  match setting with
  | .scheme => state
  | .target host => { state with host := some host }
  | .clientId clientId => { state with clientId }
  | .username username => { state with username := if username = [] then none else some username }
  | .password password => { state with password := if password = [] then none else some password }
  | .keepAliveSecs keepAliveSecs => { state with keepAliveSecs }
  | .cleanStart enabled => { state with cleanStart := enabled }

/-- `attach_carrier`. -/
def attachCarrier (carrier : MqttCarrierAttachment) : MqttConnectionState :=
  { state.configure with
    carrier := some carrier
    lastActivityAt := none
    pingResponsePending := false
    pendingReadBuffer := []
    pendingEvents := []
    phase := .carrierAttached }

/-- `note_connect_sent`. -/
def noteConnectSent : MqttConnectionState := { state.configure with phase := .connectSent }

/-- `mark_open`. -/
def markOpen (now : Nat) : MqttConnectionState :=
  { state.configure with
    failureMessage := none
    lastActivityAt := some now
    pingResponsePending := false
    phase := .opened }

/-- `mark_closed`. -/
def markClosed : MqttConnectionState :=
  { state with pingResponsePending := false, phase := .closed }

/-- `mark_failed`. -/
def markFailed (message : String) : MqttConnectionState :=
  { state with
    phase := .failed, failureMessage := some message, pingResponsePending := false }

/-- `note_packet_activity`. -/
def notePacketActivity (now : Nat) : MqttConnectionState :=
  { state with lastActivityAt := some now, pingResponsePending := false }

/-- `note_ping_request_sent`. -/
def notePingRequestSent (now : Nat) : MqttConnectionState :=
  { state with lastActivityAt := some now, pingResponsePending := true }

/-- `note_ping_response_received`. -/
def notePingResponseReceived (now : Nat) : MqttConnectionState :=
  { state with lastActivityAt := some now, pingResponsePending := false }

/-- `next_packet_id`. -/
def takePacketId : UInt16 × MqttConnectionState :=
  let next := if state.nextPacketId = 0 then 1 else state.nextPacketId
  (next, { state with nextPacketId := if next = 65535 then 1 else next + 1 })

/-- `terminal_connection_message`. -/
def terminalConnectionMessage (closedMessage : String) : String :=
  if state.phase = .failed then state.failureMessage.getD closedMessage else closedMessage

/-- `terminal_connection_event`. -/
def terminalConnectionEvent : Option MqttEvent :=
  match state.phase with
  | .failed => some (.failed (state.failureMessage.getD "mqtt connection failed"))
  | .closed => some (.closed "connection-closed")
  | _ => none

end MqttConnectionState

/-! ## Connections -/

/-- A connection handle, with the carriers that it can attach. -/
structure Connection where
  state : MqttConnectionState
  /-- The stream of the attached carrier, as long as it is available. -/
  io : Option CarrierIo
  /-- What the next attempts to attach a carrier come to; behind them every one fails. -/
  attempts : List (Except VmError (MqttCarrierAttachment × CarrierIo))
  clock : Clock
  /-- The text of a new UUID. -/
  uuid : List Char
  /-- The messages that were acknowledged or, where no acknowledgement is due, queued. -/
  accepted : List MqttEvent

/-- `KeepAliveReadWait`. -/
structure KeepAliveReadWait where
  /-- In nanoseconds. -/
  timeout : Nat
  pingResponsePending : Bool

/-- Go on with the value of a step that returned one. -/
def andThen {α β : Type} (step : Awaited VmError α × Connection)
    (next : α → Connection → Awaited VmError β × Connection) : Awaited VmError β × Connection :=
  match step with
  | (.ready value, connection) => next value connection
  | (.failed err, connection) => (.failed err, connection)
  | (.dropped, connection) => (.dropped, connection)

namespace Connection

variable (connection : Connection)

/-- `with_connection_state_mut`. -/
def onState (change : MqttConnectionState → MqttConnectionState) : Connection :=
  { connection with state := change connection.state }

/-- Change the state at the time that it is. -/
def atNow (change : MqttConnectionState → Nat → MqttConnectionState) : Connection :=
  let read := connection.clock.now
  { connection with state := change connection.state read.1, clock := read.2 }

/-- `keep_alive_read_wait` with `next_keep_alive_wait`. -/
def keepAliveReadWait : Option KeepAliveReadWait × Connection :=
  let state := connection.state
  if state.phase ≠ .opened ∨ state.keepAliveSecs = 0 then (none, connection)
  else
    let interval := state.keepAliveSecs.toNat * 1000000000
    match state.lastActivityAt with
    | none => (some ⟨interval, state.pingResponsePending⟩, connection)
    | some last =>
      let read := connection.clock.now
      (some ⟨interval - (read.1 - last), state.pingResponsePending⟩,
        { connection with clock := read.2 })

/-- `write_carrier_bytes`. -/
def writeCarrierBytes (carrier : MqttCarrierAttachment) : Awaited VmError Unit × Connection :=
  let kind := carrier.kind
  let name := carrier.name
  match connection.io with
  | none =>
    let handle := carrier.handle
    (.failed (.hostError s!"mqtt {kind} carrier {handle} is unavailable"), connection)
  | some io =>
    let after := { connection with io := some { io with writes := io.writes.tail } }
    match io.writes.headD .done with
    | .done => (.ready (), after)
    | .failed err => (.failed (.hostError s!"mqtt {kind} write failed for {name}: {err}"), after)
    | .unflushed err => (.failed (.hostError s!"mqtt {kind} flush failed for {name}: {err}"), after)
    | .stuck => (.dropped, after)

/-- `active_connection_carrier`. -/
def activeConnectionCarrier : Awaited VmError MqttCarrierAttachment × Connection :=
  match connection.state.carrier with
  | some carrier => (.ready carrier, connection)
  | none => (.failed (.hostError "mqtt connection has no attached carrier"), connection)

/-- Write a packet, and note that. -/
def writePacket (packet : Except VmError (List UInt8))
    (note : MqttConnectionState → Nat → MqttConnectionState) :
    Awaited VmError Unit × Connection :=
  match packet with
  | .error err => (.failed err, connection)
  | .ok _ =>
    andThen connection.activeConnectionCarrier fun carrier connection =>
      andThen (connection.writeCarrierBytes carrier) fun _ connection =>
        (.ready (), connection.atNow note)

/-- `write_connection_packet`, of a packet that may fail to be encoded. -/
def writeConnectionPacket (packet : Except VmError (List UInt8)) :
    Awaited VmError Unit × Connection :=
  connection.writePacket packet .notePacketActivity

/-- `write_connection_ping_request`. -/
def writeConnectionPingRequest : Awaited VmError Unit × Connection :=
  connection.writePacket encodePingreqPacket .notePingRequestSent

/-- `read_carrier_chunk`. -/
def readCarrierChunk (carrier : MqttCarrierAttachment) (maxBytes : Nat)
    (timeoutAfter : Option Nat) : Awaited VmError CarrierReadChunk × Connection :=
  let kind := carrier.kind
  let name := carrier.name
  match connection.io with
  | none =>
    let handle := carrier.handle
    (.failed (.hostError s!"mqtt {kind} carrier {handle} is unavailable"), connection)
  | some io =>
    let read := readArrivals io.silent maxBytes timeoutAfter.isSome io.arrivals
    let after := { connection with io := some { io with arrivals := read.2 } }
    match read.1 with
    | .ready chunk => (.ready chunk, after)
    | .failed err => (.failed (.hostError s!"mqtt {kind} read failed for {name}: {err}"), after)
    | .dropped => (.dropped, after)

/-- `close_carrier`. -/
def closeCarrier : Connection := { connection with io := none }

/-- `close_connection_carrier`. -/
def closeConnectionCarrier : Connection :=
  match connection.state.carrier with
  | some _ => (connection.onState fun state => { state with carrier := none }).closeCarrier
  | none => connection

/-- Store what was read and not used. -/
def storeBuffer (buffer : List UInt8) : Connection :=
  connection.onState fun state => { state with pendingReadBuffer := buffer }

end Connection

/-! ## Reading a packet -/

/-- What a turn of the loop of `read_next_packet` comes to. -/
abbrev ReadTurn := Turn (Connection × List UInt8)
  (Awaited VmError (Option MqttIncomingPacket) × Connection)

namespace Connection

section

variable (rendering : Rendering)

/-- The keep-alive is used up: a ping is sent, or was sent already and not answered. -/
def pingOrExpire (connection : Connection) (pending : Bool) (buffer : List UInt8) : ReadTurn :=
  if pending then
    let message := "mqtt keepalive expired while waiting for broker activity"
    .leave (.ready none,
      ((connection.storeBuffer buffer).onState (·.markFailed message)).closeConnectionCarrier)
  else
    match connection.writeConnectionPingRequest with
    | (.ready _, connection) => .again (connection, buffer)
    | (.failed err, connection) => .leave (.failed err, connection)
    | (.dropped, connection) => .leave (.dropped, connection)

/-- Read on, behind a buffer that holds no whole packet. -/
def readMore (carrier : MqttCarrierAttachment) (connection : Connection) (buffer : List UInt8) :
    ReadTurn :=
  let waited := connection.keepAliveReadWait
  match waited.2.readCarrierChunk carrier 4096 (waited.1.map (·.timeout)) with
  | (.ready (.data chunk), connection) =>
    .again (connection.atNow .notePacketActivity, buffer ++ chunk)
  | (.ready .timedOut, connection) =>
    match waited.1 with
    | none =>
      .leave (.failed (.hostError "mqtt read timed out without an active keepalive policy"),
        connection)
    | some wait => connection.pingOrExpire wait.pingResponsePending buffer
  | (.ready .closed, connection) =>
    .leave (.ready none, (connection.storeBuffer buffer).onState (·.markClosed))
  | (.failed err, connection) => .leave (.failed err, connection)
  | (.dropped, connection) => .leave (.dropped, connection)

/-- The body of the loop of `read_next_packet`. -/
def readTurn (carrier : MqttCarrierAttachment) (connection : Connection) (buffer : List UInt8) :
    ReadTurn :=
  match decodePacket rendering buffer with
  | .error err => .leave (.failed err, connection)
  | .ok (some (packet, consumed)) =>
    .leave (.ready (some packet), connection.storeBuffer (buffer.drop consumed))
  | .ok none =>
    let waited := connection.keepAliveReadWait
    match waited.1 with
    | none => waited.2.readMore carrier buffer
    | some wait =>
      if wait.timeout = 0 then waited.2.pingOrExpire wait.pingResponsePending buffer
      else waited.2.readMore carrier buffer

end

end Connection

/-! ## What a turn of reading does -/

/-- The bytes that arrive before a read fails. -/
def arrivingBytes : List CarrierEvent → List UInt8
  | [] => []
  | .data segment :: rest => segment.bytes ++ arrivingBytes rest
  | .idle :: rest => arrivingBytes rest
  | .failed _ :: _ => []

/-- No read fails. -/
def Unbroken : List CarrierEvent → Prop
  | [] => True
  | .data _ :: rest => Unbroken rest
  | .idle :: rest => Unbroken rest
  | .failed _ :: _ => False

/-- What arrives after some of it was read. -/
structure Progress (before after : List CarrierEvent) (chunk : List UInt8) : Prop where
  bytes : arrivingBytes before = chunk ++ arrivingBytes after
  weight : arrivalWeight after + chunk.length ≤ arrivalWeight before
  unbroken : Unbroken before → Unbroken after

theorem Progress.refl (events : List CarrierEvent) : Progress events events [] :=
  ⟨rfl, le_rfl, id⟩

/-- What a read of a carrier comes to. -/
inductive ReadFrom (silent timed : Bool) (before after : List CarrierEvent) :
    Awaited String CarrierReadChunk → Prop where
  | data {chunk : List UInt8} (some' : chunk ≠ []) (progress : Progress before after chunk) :
      ReadFrom silent timed before after (.ready (.data chunk))
  | timedOut (timed' : timed = true) (progress : Progress before after []) :
      ReadFrom silent timed before after (.ready .timedOut)
  | closed (nothing : arrivingBytes before = []) :
      ReadFrom silent timed before after (.ready .closed)
  | failed {err : String} (broken : ¬Unbroken before) :
      ReadFrom silent timed before after (.failed err)
  | dropped (silent' : silent = true) : ReadFrom silent timed before after .dropped

theorem readArrivals_reads (silent timed : Bool) (events : List CarrierEvent) :
    ReadFrom silent timed events (readArrivals silent 4096 timed events).2
      (readArrivals silent 4096 timed events).1 := by
  induction events with
  | nil =>
    cases silent with
    | false => exact .closed rfl
    | true =>
      cases timed with
      | false => exact .dropped rfl
      | true => exact .timedOut rfl (Progress.refl [])
  | cons event rest ih =>
    cases event with
    | data segment =>
      have whole := List.take_append_drop 4096 segment.bytes
      have lengths := congrArg List.length whole
      rw [List.length_append] at lengths
      refine .data (by simp [segment.nonempty]) ?_
      by_cases more : segment.bytes.drop 4096 ≠ []
      · simp only [readArrivals, dif_pos more]
        refine ⟨?_, ?_, id⟩
        · simp only [arrivingBytes]
          rw [← List.append_assoc, whole]
        · simp only [arrivalWeight]
          omega
      simp only [readArrivals, dif_neg more]
      rw [not_not.mp more, List.append_nil] at whole
      refine ⟨?_, ?_, id⟩
      · simp only [arrivingBytes, whole]
      · simp only [arrivalWeight, whole]
        omega
    | idle =>
      cases timed with
      | true =>
        rw [readArrivals, if_pos rfl]
        exact .timedOut rfl ⟨rfl, by simp [arrivalWeight], id⟩
      | false =>
        rw [readArrivals, if_neg Bool.false_ne_true]
        generalize readArrivals silent 4096 false rest = read at ih
        obtain ⟨chunk, after⟩ := read
        cases ih with
        | data some' progress =>
          refine .data some' ⟨progress.bytes, ?_, progress.unbroken⟩
          have less : arrivalWeight after + _ ≤ arrivalWeight rest := progress.weight
          simp only [arrivalWeight]
          omega
        | timedOut timed' => cases timed'
        | closed nothing => exact .closed nothing
        | failed broken => exact .failed broken
        | dropped silent' => exact .dropped silent'
    | failed err => exact .failed id

namespace Connection

/-- What is still to arrive on the carrier. -/
def arriving (connection : Connection) : List CarrierEvent :=
  (connection.io.map (·.arrivals)).getD []

/-- The keep-alive is in force. -/
def KeepsAlive (connection : Connection) : Prop :=
  connection.state.phase = .opened ∧ connection.state.keepAliveSecs ≠ 0

/-- A carrier that works: it brings bytes and then closes, and takes what is written. -/
structure Works (connection : Connection) : Prop where
  attached : connection.state.carrier.isSome = true
  works : ∃ io, connection.io = some io ∧ io.silent = false ∧ io.writes = [] ∧ Unbroken io.arrivals

/-- Reading on changes nothing but the times, the stream and the clock. -/
def Steady (before after : Connection) : Prop :=
  ∃ lastActivityAt pingResponsePending io clock, after = { before with
      state := { before.state with lastActivityAt, pingResponsePending }, io, clock }

/-- What every read leaves as it is. -/
structure Kept (before after : Connection) : Prop where
  events : after.state.pendingEvents = before.state.pendingEvents
  accepted : after.accepted = before.accepted
  attempts : after.attempts = before.attempts

variable {connection before after : Connection}

theorem Steady.refl (connection : Connection) : Steady connection connection :=
  ⟨_, _, _, _, rfl⟩

variable {third now : Connection}

theorem Steady.trans (first : Steady before after) (second : Steady after third) :
    Steady before third := by
  obtain ⟨_, _, _, _, rfl⟩ := first
  obtain ⟨_, _, _, _, rfl⟩ := second
  exact ⟨_, _, _, _, rfl⟩

theorem Steady.kept (steady : Steady before after) : Kept before after := by
  obtain ⟨_, _, _, _, rfl⟩ := steady
  exact ⟨rfl, rfl, rfl⟩

/-- A reading of the clock. -/
theorem keepAliveReadWait_snd (connection : Connection) :
    ∃ clock, connection.keepAliveReadWait.2 = { connection with clock } := by
  rw [keepAliveReadWait]
  split
  · exact ⟨_, rfl⟩
  · split <;> exact ⟨_, rfl⟩

theorem keepAliveReadWait_some {wait : KeepAliveReadWait}
    (waits : connection.keepAliveReadWait.1 = some wait) :
    connection.KeepsAlive ∧ wait.pingResponsePending = connection.state.pingResponsePending := by
  rw [keepAliveReadWait] at waits
  split at waits
  · cases waits
  · rename_i alive
    simp only [not_or, not_not] at alive
    split at waits <;> cases waits <;> exact ⟨alive, rfl⟩

/-- Only the times are noted. -/
def OnlyTimes (note : MqttConnectionState → Nat → MqttConnectionState) : Prop :=
  ∀ state now, ∃ lastActivityAt pingResponsePending,
    note state now = { state with lastActivityAt, pingResponsePending }

/-- What writing a packet does. -/
structure Wrote (note : MqttConnectionState → Nat → MqttConnectionState) (before : Connection)
    (wrote : Awaited VmError Unit × Connection) : Prop where
  steady : Steady before wrote.2
  arriving : wrote.2.arriving = before.arriving
  works : before.Works → wrote.1 = .ready () ∧ wrote.2.Works
  noted : wrote.1 = .ready () → ∃ now, wrote.2.state = note before.state now

theorem writePacket_wrote {note : MqttConnectionState → Nat → MqttConnectionState}
    (times : OnlyTimes note) {packet : List UInt8} :
    Wrote note connection (connection.writePacket (.ok packet) note) := by
  cases attached : connection.state.carrier with
  | none =>
    simp only [writePacket, activeConnectionCarrier, attached, andThen]
    refine ⟨.refl _, rfl, fun works => ?_, fun done => by cases done⟩
    simpa [attached] using works.attached
  | some carrier =>
    cases there : connection.io with
    | none =>
      simp only [writePacket, activeConnectionCarrier, attached, andThen, writeCarrierBytes, there]
      refine ⟨.refl _, rfl, fun works => ?_, fun done => by cases done⟩
      obtain ⟨io, found, -⟩ := works.works
      cases there.symm.trans found
    | some io =>
      have refused {event : WriteEvent} (next : io.writes.headD .done = event)
          (other : event ≠ .done) : ¬connection.Works := by
        intro works
        obtain ⟨found, same, -, free, -⟩ := works.works
        cases there.symm.trans same
        rw [free] at next
        exact other next.symm
      have same : connection.arriving = io.arrivals := by rw [arriving, there]; rfl
      simp only [writePacket, activeConnectionCarrier, attached, andThen, writeCarrierBytes, there]
      cases next : io.writes.headD .done with
      | done =>
        obtain ⟨last, pending, noted⟩ := times connection.state connection.clock.now.1
        refine ⟨⟨last, pending, some { io with writes := io.writes.tail },
          connection.clock.now.2, ?_⟩, same.symm, fun works => ⟨rfl, ?_⟩, fun _ => ⟨_, rfl⟩⟩
        · simp only [atNow, noted]
        obtain ⟨found, again, talks, free, unbroken⟩ := works.works
        cases there.symm.trans again
        refine ⟨?_, _, rfl, talks, by simp [free], unbroken⟩
        simp only [atNow, noted]
        exact works.attached
      | failed err | unflushed err | stuck =>
        exact ⟨⟨_, _, _, _, rfl⟩, same.symm,
          fun works => absurd works (refused next (by simp)), fun done => by cases done⟩

theorem onlyTimes_packet : OnlyTimes MqttConnectionState.notePacketActivity :=
  fun _ _ => ⟨_, _, rfl⟩

theorem onlyTimes_ping : OnlyTimes MqttConnectionState.notePingRequestSent :=
  fun _ _ => ⟨_, _, rfl⟩

/-- What a turn of reading comes to, with the buffer it starts with. -/
inductive Turned (rendering : Rendering) (connection : Connection) (buffer : List UInt8) :
    ReadTurn → Prop where
  | mistake {err : VmError} (decoded : decodePacket rendering buffer = .error err) :
      Turned rendering connection buffer (.leave (.failed err, connection))
  | packet {packet : MqttIncomingPacket} {used : Nat}
      (decoded : decodePacket rendering buffer = .ok (some (packet, used))) :
      Turned rendering connection buffer
        (.leave (.ready (some packet), connection.storeBuffer (buffer.drop used)))
  | data {chunk : List UInt8} {next : Connection}
      (missing : decodePacket rendering buffer = .ok none) (some' : chunk ≠ [])
      (steady : Steady connection next)
      (progress : Progress connection.arriving next.arriving chunk)
      (works : connection.Works → next.Works) :
      Turned rendering connection buffer (.again (next, buffer ++ chunk))
  | pinged {next : Connection} (missing : decodePacket rendering buffer = .ok none)
      (unasked : connection.state.pingResponsePending = false)
      (asked : next.state.pingResponsePending = true) (steady : Steady connection next)
      (progress : Progress connection.arriving next.arriving [])
      (works : connection.Works → next.Works) :
      Turned rendering connection buffer (.again (next, buffer))
  | closed {after : Connection} (missing : decodePacket rendering buffer = .ok none)
      (nothing : arrivingBytes connection.arriving = []) (phase : after.state.phase = .closed)
      (kept : Kept connection after) :
      Turned rendering connection buffer (.leave (.ready none, after))
  | expired {after : Connection} (alive : connection.KeepsAlive)
      (phase : after.state.phase = .failed) (kept : Kept connection after) :
      Turned rendering connection buffer (.leave (.ready none, after))
  | broken {err : VmError} {after : Connection} (broken : ¬connection.Works)
      (kept : Kept connection after) :
      Turned rendering connection buffer (.leave (.failed err, after))
  | blocked {after : Connection} (broken : ¬connection.Works) (kept : Kept connection after) :
      Turned rendering connection buffer (.leave (.dropped, after))

theorem encodePingreqPacket_isOk : ∃ packet, encodePingreqPacket = .ok packet :=
  (encodeFixedPacket_isOk_iff 0xC0 []).mpr (by simp)

theorem closeConnectionCarrier_kept (connection : Connection) :
    Kept connection connection.closeConnectionCarrier ∧
      connection.closeConnectionCarrier.state.phase = connection.state.phase := by
  rw [closeConnectionCarrier]
  split <;> exact ⟨⟨rfl, rfl, rfl⟩, rfl⟩

theorem Kept.trans (first : Kept before after) (second : Kept after third) : Kept before third :=
  ⟨second.events.trans first.events, second.accepted.trans first.accepted,
    second.attempts.trans first.attempts⟩

variable {rendering : Rendering} {buffer : List UInt8}

/-- A ping, behind reads that brought nothing. -/
theorem pingOrExpire_turned (missing : decodePacket rendering buffer = .ok none)
    (alive : connection.KeepsAlive) (steady : Steady connection now)
    (progress : Progress connection.arriving now.arriving [])
    (works : connection.Works → now.Works) :
    Turned rendering connection buffer
      (now.pingOrExpire connection.state.pingResponsePending buffer) := by
  rw [pingOrExpire]
  cases pending : connection.state.pingResponsePending with
  | true =>
    obtain ⟨kept, phase⟩ := closeConnectionCarrier_kept ((now.storeBuffer buffer).onState
      (·.markFailed "mqtt keepalive expired while waiting for broker activity"))
    exact .expired alive phase (steady.kept.trans ⟨kept.events, kept.accepted, kept.attempts⟩)
  | false =>
    obtain ⟨packet, encoded⟩ := encodePingreqPacket_isOk
    have wrote := @writePacket_wrote now _ onlyTimes_ping packet
    change Wrote _ now now.writeConnectionPingRequest at wrote
    generalize now.writeConnectionPingRequest = result at wrote
    obtain ⟨done, next⟩ := result
    cases done with
    | ready value =>
      obtain ⟨time, noted⟩ := wrote.noted rfl
      refine .pinged missing pending ?_ (steady.trans wrote.steady) ?_
        fun fine => (wrote.works (works fine)).2
      · exact congrArg MqttConnectionState.pingResponsePending noted
      · rw [show next.arriving = now.arriving from wrote.arriving]
        exact progress
    | failed err =>
      refine .broken (fun fine => ?_) (steady.trans wrote.steady).kept
      cases (wrote.works (works fine)).1
    | dropped =>
      refine .blocked (fun fine => ?_) (steady.trans wrote.steady).kept
      cases (wrote.works (works fine)).1

/-- What a read of the carrier does. -/
inductive Chunked (timed : Bool) (before : Connection) :
    Awaited VmError CarrierReadChunk × Connection → Prop where
  | data {chunk : List UInt8} {io : Option CarrierIo} (some' : chunk ≠ [])
      (progress : Progress before.arriving (arriving { before with io }) chunk)
      (works : before.Works → Works { before with io }) :
      Chunked timed before (.ready (.data chunk), { before with io })
  | timedOut {io : Option CarrierIo} (limited : timed = true)
      (progress : Progress before.arriving (arriving { before with io }) [])
      (works : before.Works → Works { before with io }) :
      Chunked timed before (.ready .timedOut, { before with io })
  | closed {io : Option CarrierIo} (nothing : arrivingBytes before.arriving = []) :
      Chunked timed before (.ready .closed, { before with io })
  | failed {err : VmError} {io : Option CarrierIo} (broken : ¬before.Works) :
      Chunked timed before (.failed err, { before with io })
  | dropped {io : Option CarrierIo} (broken : ¬before.Works) :
      Chunked timed before (.dropped, { before with io })

theorem readCarrierChunk_chunked (connection : Connection) (carrier : MqttCarrierAttachment)
    (timeoutAfter : Option Nat) :
    Chunked timeoutAfter.isSome connection
      (connection.readCarrierChunk carrier 4096 timeoutAfter) := by
  cases there : connection.io with
  | none =>
    simp only [readCarrierChunk, there]
    refine @Chunked.failed _ connection _ connection.io fun works => ?_
    obtain ⟨io, found, -⟩ := works.works
    cases there.symm.trans found
  | some io =>
    have same : connection.arriving = io.arrivals := by rw [arriving, there]; rfl
    have reads := readArrivals_reads io.silent timeoutAfter.isSome io.arrivals
    simp only [readCarrierChunk, there]
    generalize readArrivals io.silent 4096 timeoutAfter.isSome io.arrivals = read at reads
    obtain ⟨result, arrivals⟩ := read
    have working (works : connection.Works) :
        Unbroken io.arrivals ∧ io.silent = false ∧ (Unbroken arrivals →
          Works { connection with io := some { io with arrivals } }) := by
      obtain ⟨found, again, talks, free, whole⟩ := works.works
      cases there.symm.trans again
      exact ⟨whole, talks, fun unbroken => ⟨works.attached, _, rfl, talks, free, unbroken⟩⟩
    cases reads with
    | data some' progress =>
      refine .data some' (by rw [same]; exact progress) fun works => ?_
      exact (working works).2.2 (progress.unbroken (working works).1)
    | timedOut timed progress =>
      refine .timedOut timed (by rw [same]; exact progress) fun works => ?_
      exact (working works).2.2 (progress.unbroken (working works).1)
    | closed nothing => exact .closed (by rw [same]; exact nothing)
    | failed broken => exact .failed fun works => broken (working works).1
    | dropped silent =>
      refine .dropped fun works => ?_
      cases silent.symm.trans (working works).2.1

theorem readMore_turned {clock : Clock} (missing : decodePacket rendering buffer = .ok none)
    {carrier : MqttCarrierAttachment} :
    Turned rendering connection buffer
      (({ connection with clock } : Connection).readMore carrier buffer) := by
  rw [readMore]
  obtain ⟨clock', waited⟩ := keepAliveReadWait_snd { connection with clock }
  have alive := @keepAliveReadWait_some { connection with clock }
  generalize ({ connection with clock } : Connection).keepAliveReadWait = wait at waited alive
  obtain ⟨wait, now⟩ := wait
  cases waited
  have chunked := readCarrierChunk_chunked { connection with clock := clock' } carrier
    (wait.map (·.timeout))
  generalize readCarrierChunk _ carrier 4096 (wait.map (·.timeout)) = read at chunked
  -- The clock does not matter to the carrier.
  have still (works : connection.Works) : Works { connection with clock := clock' } :=
    ⟨works.attached, works.works⟩
  cases chunked with
  | data some' progress works =>
    refine .data missing some' ⟨_, _, _, _, rfl⟩ progress fun fine => ?_
    exact ⟨(works (still fine)).attached, (works (still fine)).works⟩
  | timedOut limited progress works =>
    cases wait with
    | none => cases limited
    | some wait =>
      obtain ⟨inForce, same⟩ := alive rfl
      dsimp only
      rw [same]
      exact pingOrExpire_turned missing inForce ⟨_, _, _, _, rfl⟩ progress fun fine =>
        works (still fine)
  | closed nothing => exact .closed missing nothing rfl ⟨rfl, rfl, rfl⟩
  | failed broken => exact .broken (fun fine => broken (still fine)) ⟨rfl, rfl, rfl⟩
  | dropped broken => exact .blocked (fun fine => broken (still fine)) ⟨rfl, rfl, rfl⟩

theorem readTurn_turned (rendering : Rendering) (carrier : MqttCarrierAttachment)
    (connection : Connection) (buffer : List UInt8) :
    Turned rendering connection buffer (connection.readTurn rendering carrier buffer) := by
  rw [readTurn]
  cases decoded : decodePacket rendering buffer with
  | error err => exact .mistake decoded
  | ok found =>
    cases found with
    | some found => exact .packet decoded
    | none =>
      obtain ⟨clock, waited⟩ := keepAliveReadWait_snd connection
      have alive := @keepAliveReadWait_some connection
      generalize connection.keepAliveReadWait = wait at waited alive
      obtain ⟨wait, now⟩ := wait
      cases waited
      cases wait with
      | none => exact readMore_turned decoded
      | some wait =>
        obtain ⟨inForce, same⟩ := alive rfl
        dsimp only
        split
        · rw [same]
          exact pingOrExpire_turned decoded inForce ⟨_, _, _, _, rfl⟩ (Progress.refl _) fun fine =>
            ⟨fine.attached, fine.works⟩
        · exact readMore_turned decoded

/-- The loop of `read_next_packet`. -/
def readLoop (rendering : Rendering) (carrier : MqttCarrierAttachment) :
    Loop (Connection × List UInt8) (Awaited VmError (Option MqttIncomingPacket) × Connection) where
  turn state := state.1.readTurn rendering carrier state.2
  measure state :=
    2 * arrivalWeight state.1.arriving + (if state.1.state.pingResponsePending then 0 else 1)
  lowers state next turned := by
    have does := readTurn_turned rendering carrier state.1 state.2
    rw [turned] at does
    cases does with
    | data missing some' steady progress works =>
      have less := progress.weight
      have more := List.length_pos_iff.mpr some'
      dsimp only
      split <;> split <;> omega
    | pinged missing unasked asked steady progress works =>
      have less : arrivalWeight _ ≤ arrivalWeight _ := progress.weight
      dsimp only
      rw [if_pos asked, if_neg (by rw [unasked]; exact Bool.false_ne_true)]
      omega

/-- `read_next_packet`. -/
def readNextPacket (rendering : Rendering) (connection : Connection) :
    Awaited VmError (Option MqttIncomingPacket) × Connection :=
  andThen connection.activeConnectionCarrier fun carrier connection =>
    (readLoop rendering carrier).run (connection.storeBuffer [], connection.state.pendingReadBuffer)

/-- The stream of a connection, from the next packet on. -/
def stream (connection : Connection) : List UInt8 :=
  connection.state.pendingReadBuffer ++ arrivingBytes connection.arriving

/-- What every packet takes some of. -/
def remaining (connection : Connection) : Nat :=
  connection.state.pendingReadBuffer.length + arrivalWeight connection.arriving

/-- What `read_next_packet` comes to. -/
inductive PacketRead (rendering : Rendering) (connection : Connection) :
    Awaited VmError (Option MqttIncomingPacket) × Connection → Prop where
  | packet {packet : MqttIncomingPacket} {after : Connection}
      (framed : (packetDecoder rendering).frames connection.stream =
        (packet :: ((packetDecoder rendering).frames after.stream).1,
          ((packetDecoder rendering).frames after.stream).2))
      (less : after.remaining < connection.remaining) (kept : Kept connection after)
      (works : connection.Works → after.Works) (alive : after.KeepsAlive → connection.KeepsAlive) :
      PacketRead rendering connection (.ready (some packet), after)
  | closed {after : Connection}
      (framed : (packetDecoder rendering).frames connection.stream = ([], none))
      (phase : after.state.phase = .closed) (kept : Kept connection after) :
      PacketRead rendering connection (.ready none, after)
  | expired {after : Connection} (alive : connection.KeepsAlive)
      (phase : after.state.phase = .failed) (kept : Kept connection after) :
      PacketRead rendering connection (.ready none, after)
  | mistake {err : VmError} {after : Connection}
      (framed : (packetDecoder rendering).frames connection.stream = ([], some err))
      (kept : Kept connection after) : PacketRead rendering connection (.failed err, after)
  | broken {err : VmError} {after : Connection} (broken : ¬connection.Works)
      (kept : Kept connection after) : PacketRead rendering connection (.failed err, after)
  | blocked {after : Connection} (broken : ¬connection.Works) (kept : Kept connection after) :
      PacketRead rendering connection (.dropped, after)

/-- What holds whenever a turn of reading starts. -/
structure Underway (start now : Connection) (buffer : List UInt8) : Prop where
  steady : Steady (start.storeBuffer []) now
  stream : buffer ++ arrivingBytes now.arriving = start.stream
  remaining : buffer.length + arrivalWeight now.arriving ≤ start.remaining
  works : start.Works → now.Works

theorem Underway.turn {start : Connection} (underway : Underway start now buffer)
    {turned : ReadTurn} (does : Turned rendering now buffer turned) :
    (∀ next, turned = .again next → Underway start next.1 next.2) ∧
      ∀ result, turned = .leave result → PacketRead rendering start result := by
  have kept : Kept start now :=
    ⟨underway.steady.kept.events, underway.steady.kept.accepted, underway.steady.kept.attempts⟩
  have alive (inForce : now.KeepsAlive) : start.KeepsAlive := by
    obtain ⟨_, _, _, _, rfl⟩ := underway.steady
    exact inForce
  have leaves {result} (reads : PacketRead rendering start result) :
      (∀ next, (.leave result : ReadTurn) = .again next → Underway start next.1 next.2) ∧
        ∀ other, (.leave result : ReadTurn) = .leave other → PacketRead rendering start other := by
    refine ⟨fun next same => (by cases same), fun other same => ?_⟩
    cases same
    exact reads
  cases does with
  | mistake decoded =>
    refine leaves (.mistake ?_ kept)
    rw [← underway.stream]
    exact (packetDecoder rendering).frames_mistake decoded _
  | @packet packet used decoded =>
    have inside := decodePacket_within decoded
    refine leaves (.packet ?_ ?_ ⟨kept.events, kept.accepted, kept.attempts⟩
      (fun works => ?_) alive)
    · rw [← underway.stream]
      exact (packetDecoder rendering).frames_frame decoded _
    · have bound := underway.remaining
      show (buffer.drop used).length + arrivalWeight now.arriving < start.remaining
      rw [List.length_drop]
      omega
    · exact ⟨(underway.works works).attached, (underway.works works).works⟩
  | data missing some' steady progress works =>
    refine ⟨fun next same => ?_, fun result same => (by cases same)⟩
    cases same
    have weight := progress.weight
    have bound := underway.remaining
    refine ⟨underway.steady.trans steady, ?_, ?_, fun fine => works (underway.works fine)⟩
    · rw [List.append_assoc, ← progress.bytes]
      exact underway.stream
    · rw [List.length_append]
      dsimp only
      omega
  | pinged missing unasked asked steady progress works =>
    refine ⟨fun next same => ?_, fun result same => (by cases same)⟩
    cases same
    have weight : arrivalWeight _ ≤ arrivalWeight _ := progress.weight
    have bound := underway.remaining
    refine ⟨underway.steady.trans steady, ?_, ?_, fun fine => works (underway.works fine)⟩
    · have bytes := progress.bytes
      rw [List.nil_append] at bytes
      rw [← bytes]
      exact underway.stream
    · dsimp only
      omega
  | closed missing nothing phase now =>
    refine leaves (.closed ?_ phase (kept.trans now))
    rw [← underway.stream, nothing, List.append_nil]
    exact (packetDecoder rendering).frames_end missing
  | expired inForce phase now =>
    exact leaves (.expired (alive inForce) phase (kept.trans now))
  | broken broken now =>
    exact leaves (.broken (fun fine => broken (underway.works fine)) (kept.trans now))
  | blocked broken now =>
    exact leaves (.blocked (fun fine => broken (underway.works fine)) (kept.trans now))

theorem readNextPacket_reads (rendering : Rendering) (connection : Connection) :
    PacketRead rendering connection (connection.readNextPacket rendering) := by
  cases attached : connection.state.carrier with
  | none =>
    simp only [readNextPacket, activeConnectionCarrier, attached, andThen]
    refine .broken (fun works => ?_) ⟨rfl, rfl, rfl⟩
    simpa [attached] using works.attached
  | some carrier =>
    simp only [readNextPacket, activeConnectionCarrier, attached, andThen]
    refine (readLoop rendering carrier).run_invariant
      (fun state => Underway connection state.1 state.2) (PacketRead rendering connection)
      (fun state next underway turned => ?_) (fun state result underway turned => ?_) _ ?_
    · exact (underway.turn (readTurn_turned rendering carrier state.1 state.2)).1 next turned
    · exact (underway.turn (readTurn_turned rendering carrier state.1 state.2)).2 result turned
    · exact ⟨.refl _, rfl, le_rfl, fun works => ⟨works.attached, works.works⟩⟩

end Connection

end PdEdge.Mqtt

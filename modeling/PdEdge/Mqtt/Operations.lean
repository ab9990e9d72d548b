import PdEdge.Mqtt.Connection

/-!
# What a program does with an MQTT connection

The operations of a connection: opening it, publishing, subscribing, reading events and
disconnecting. An operation opens the connection if it is not open, which attaches a new carrier.
-/

namespace PdEdge.Mqtt

open Iteration Wire List

namespace Connection

variable (rendering : Rendering) (connection : Connection)

/-- `queue_event`. -/
def queueEvent (event : MqttEvent) : Connection :=
  connection.onState fun state => { state with pendingEvents := state.pendingEvents ++ [event] }

/-- `pop_queued_event`. -/
def popQueuedEvent : Option MqttEvent × Connection :=
  (connection.state.pendingEvents.head?,
    connection.onState fun state => { state with pendingEvents := state.pendingEvents.tail })

/-- A message that was acknowledged, or needs no acknowledgement. -/
def accept (event : MqttEvent) : Connection :=
  { connection with accepted := connection.accepted ++ [event] }

/-- `handle_unsolicited_packet`. -/
def handleUnsolicitedPacket : MqttIncomingPacket → Awaited VmError Unit × Connection
  | .publish topic payload qos retain dup packetId =>
    let event := .publish topic payload qos retain dup
    if qos = 1 then
      match packetId with
      | none => (.failed (.hostError "mqtt qos1 publish is missing a packet id"), connection)
      | some packetId =>
        andThen (connection.writeConnectionPacket (encodePubackPacket packetId))
          fun _ connection => (.ready (), (connection.accept event).queueEvent event)
    else (.ready (), (connection.accept event).queueEvent event)
  | .disconnect reasonCode =>
    (.ready (), (connection.onState (·.markClosed)).queueEvent
      (.closed s!"remote-disconnect:{reasonCode}"))
  | .pingResp => (.ready (), connection.atNow .notePingResponseReceived)
  | .connAck _ => (.ready (), connection)
  | .pubAck _ _ => (.ready (), connection)
  | .subAck _ _ => (.ready (), connection)
  | .unsubAck _ _ => (.ready (), connection)

/-! ## What handling a packet does -/

/-- The messages among events. -/
def publishes (events : List MqttEvent) : List MqttEvent := events.filter MqttEvent.isPublish

/-- Messages were accepted, and queued behind those that were there. -/
def Grows (before after : Connection) : Prop :=
  ∃ added, after.accepted = before.accepted ++ added ∧
    publishes after.state.pendingEvents = publishes before.state.pendingEvents ++ added

variable {before after third : Connection}

theorem Kept.grows (kept : Kept before after) : Grows before after :=
  ⟨[], by rw [kept.accepted, append_nil], by rw [kept.events, append_nil]⟩

theorem Grows.trans (first : Grows before after) (second : Grows after third) :
    Grows before third := by
  obtain ⟨some', accepted, queued⟩ := first
  obtain ⟨more, accepted', queued'⟩ := second
  refine ⟨some' ++ more, ?_, ?_⟩
  · rw [accepted', accepted, append_assoc]
  · rw [queued', queued, append_assoc]

theorem accept_grows {event : MqttEvent} (message : event.isPublish = true) :
    Grows connection ((connection.accept event).queueEvent event) := by
  refine ⟨[event], rfl, ?_⟩
  show publishes (connection.state.pendingEvents ++ [event]) = _
  simp [publishes, message]

/-- Writing leaves what is to be read. -/
theorem Wrote.remaining {note : MqttConnectionState → Nat → MqttConnectionState}
    {wrote : Awaited VmError Unit × Connection} (done : Wrote note connection wrote) :
    wrote.2.remaining = connection.remaining := by
  obtain ⟨_, _, _, _, same⟩ := done.steady
  have buffer := congrArg (·.state.pendingReadBuffer) same
  rw [Connection.remaining, Connection.remaining, done.arriving]
  exact congrArg (·.length + _) buffer

attribute [local simp] handleUnsolicitedPacket

variable {packet : MqttIncomingPacket} {answer : MqttIncomingPacket → Option (Except VmError Unit)}
variable {closedMessage : String}

theorem handleUnsolicitedPacket_grows :
    Grows connection (connection.handleUnsolicitedPacket packet).2 ∧
      (connection.handleUnsolicitedPacket packet).2.remaining = connection.remaining := by
  cases packet with
  | publish topic payload qos retain dup packetId =>
    by_cases acknowledged : qos = 1
    · cases packetId with
      | none =>
        simp only [handleUnsolicitedPacket, if_pos acknowledged, and_true]
        exact (⟨rfl, rfl, rfl⟩ : Kept _ _).grows
      | some packetId =>
        obtain ⟨packet, encoded⟩ := encodePubackPacket_isOk packetId
        have wrote := @writePacket_wrote connection _ onlyTimes_packet packet
        simp only [handleUnsolicitedPacket, if_pos acknowledged, encoded, writeConnectionPacket]
        generalize connection.writePacket _ _ = result at wrote
        have left := wrote.remaining
        have grows := wrote.steady.kept.grows
        obtain ⟨done, next⟩ := result
        cases done with
        | ready value => exact ⟨grows.trans (accept_grows next rfl), left⟩
        | failed err | dropped => exact ⟨grows, left⟩
    · simp only [handleUnsolicitedPacket, if_neg acknowledged]
      exact ⟨accept_grows connection rfl, rfl⟩
  | disconnect reasonCode =>
    refine ⟨⟨[], by simp [queueEvent, onState], ?_⟩, rfl⟩
    simp [queueEvent, onState, publishes, MqttConnectionState.markClosed, MqttEvent.isPublish]
  | pingResp | connAck | pubAck | subAck | unsubAck =>
    exact ⟨(⟨rfl, rfl, rfl⟩ : Kept _ _).grows, rfl⟩

/-! ## Waiting for an acknowledgement -/

/-- `read_next_packet` leaves the queue as it is. -/
theorem readNextPacket_kept : Kept connection (connection.readNextPacket rendering).2 := by
  have reads := readNextPacket_reads rendering connection
  generalize connection.readNextPacket rendering = read at reads
  cases reads with
  | packet _ _ kept | closed _ _ kept | expired _ _ kept | mistake _ kept | broken _ kept
  | blocked _ kept => exact kept

/-- Go round again behind a packet that was handled. -/
def goOn {ρ : Type} (handled : Awaited VmError Unit × Connection) :
    Turn Connection (Awaited VmError ρ × Connection) :=
  match handled with
  | (.ready _, connection) => .again connection
  | (.failed err, connection) => .leave (.failed err, connection)
  | (.dropped, connection) => .leave (.dropped, connection)

/-- A turn of a loop that handles packets. -/
structure Handles {ρ : Type} (before : Connection)
    (turned : Turn Connection (Awaited VmError ρ × Connection)) : Prop where
  again : ∀ next, turned = .again next → Grows before next ∧ next.remaining < before.remaining
  leave : ∀ result, turned = .leave result → Grows before result.2

theorem Handles.of_leave {ρ : Type} {result : Awaited VmError ρ × Connection}
    (grows : Grows before result.2) : Handles before (.leave result) := by
  refine ⟨fun next same => (by cases same), fun other same => ?_⟩
  cases same
  exact grows

theorem goOn_handles {ρ : Type} (kept : Kept before after)
    (less : after.remaining < before.remaining) :
    Handles before (goOn (after.handleUnsolicitedPacket packet) :
      Turn Connection (Awaited VmError ρ × Connection)) := by
  obtain ⟨grows, left⟩ := after.handleUnsolicitedPacket_grows
  generalize after.handleUnsolicitedPacket packet = handled at grows left
  obtain ⟨done, next⟩ := handled
  cases done with
  | ready value =>
    refine ⟨fun other same => ?_, fun other same => (by cases same)⟩
    cases same
    exact ⟨kept.grows.trans grows, lt_of_eq_of_lt left less⟩
  | failed err | dropped => exact .of_leave (kept.grows.trans grows)

/-- The body of the loops of `wait_for_puback`, `wait_for_suback` and `wait_for_unsuback`. -/
def waitTurn (answer : MqttIncomingPacket → Option (Except VmError Unit)) (closedMessage : String)
    (connection : Connection) : Turn Connection (Awaited VmError Unit × Connection) :=
  match connection.readNextPacket rendering with
  | (.ready (some packet), connection) =>
    match answer packet with
    | some (.ok _) => .leave (.ready (), connection)
    | some (.error err) => .leave (.failed err, connection)
    | none => goOn (connection.handleUnsolicitedPacket packet)
  | (.ready none, connection) =>
    .leave (.failed (.hostError (connection.state.terminalConnectionMessage closedMessage)),
      connection)
  | (.failed err, connection) => .leave (.failed err, connection)
  | (.dropped, connection) => .leave (.dropped, connection)

theorem waitTurn_handles :
    Handles connection (waitTurn rendering answer closedMessage connection) := by
  have reads := readNextPacket_reads rendering connection
  rw [waitTurn]
  generalize connection.readNextPacket rendering = read at reads
  cases reads with
  | @packet packet after framed less kept =>
    dsimp only
    cases answer packet with
    | none => exact goOn_handles kept less
    | some answered => cases answered <;> exact .of_leave kept.grows
  | closed _ _ kept | expired _ _ kept | mistake _ kept | broken _ kept | blocked _ kept =>
    exact .of_leave kept.grows

/-- Handle packets until one of them is the answer. -/
def waitFor (answer : MqttIncomingPacket → Option (Except VmError Unit)) (closedMessage : String) :
    Loop Connection (Awaited VmError Unit × Connection) where
  turn := waitTurn rendering answer closedMessage
  measure connection := connection.remaining
  lowers connection next turned := ((waitTurn_handles rendering connection).again next turned).2

/-- Waiting loses nothing that is queued. -/
theorem waitFor_grows :
    Grows connection ((waitFor rendering answer closedMessage).run connection).2 := by
  refine (waitFor rendering answer closedMessage).run_invariant (Grows connection)
    (fun result => Grows connection result.2) (fun now next grows turned => ?_)
    (fun now result grows turned => ?_) connection (Kept.grows ⟨rfl, rfl, rfl⟩)
  · exact grows.trans ((waitTurn_handles rendering now).again next turned).1
  · exact grows.trans ((waitTurn_handles rendering now).leave result turned)

/-- The answer that `wait_for_puback` waits for. -/
def pubackAnswer (expected : UInt16) : MqttIncomingPacket → Option (Except VmError Unit)
  | .pubAck packetId reasonCode =>
    if packetId = expected then
      if reasonCode ≥ 0x80 then
        some (.error (.hostError s!"mqtt publish rejected with reason code {reasonCode}"))
      else some (.ok ())
    else none
  | _ => none

/-- The reasons that a filter is accepted or refused with. -/
def reasonsAnswer (operation : String) (reasonCodes : List UInt8) : Except VmError Unit :=
  if reasonCodes.any (· ≥ 0x80) then
    .error (.hostError s!"mqtt {operation} rejected with reason codes {reasonCodes}")
  else .ok ()

/-- The answer that `wait_for_suback` waits for. -/
def subackAnswer (expected : UInt16) : MqttIncomingPacket → Option (Except VmError Unit)
  | .subAck packetId reasonCodes =>
    if packetId = expected then some (reasonsAnswer "subscribe" reasonCodes) else none
  | _ => none

/-- The answer that `wait_for_unsuback` waits for. -/
def unsubackAnswer (expected : UInt16) : MqttIncomingPacket → Option (Except VmError Unit)
  | .unsubAck packetId reasonCodes =>
    if packetId = expected then some (reasonsAnswer "unsubscribe" reasonCodes) else none
  | _ => none

/-- `wait_for_puback`. -/
def waitForPuback (expected : UInt16) : Awaited VmError Unit × Connection :=
  (waitFor rendering (pubackAnswer expected) "mqtt connection closed while waiting for puback").run
    connection

/-- `wait_for_suback`. -/
def waitForSuback (expected : UInt16) : Awaited VmError Unit × Connection :=
  (waitFor rendering (subackAnswer expected) "mqtt connection closed while waiting for suback").run
    connection

/-- `wait_for_unsuback`. -/
def waitForUnsuback (expected : UInt16) : Awaited VmError Unit × Connection :=
  (waitFor rendering (unsubackAnswer expected)
    "mqtt connection closed while waiting for unsuback").run connection

/-! ## Opening -/

/-- `connection_snapshot`, with `ensure_client_id`. -/
def connectionSnapshot : Awaited VmError MqttConnectConfig × Connection :=
  let state := connection.state
  match state.host with
  | none => (.failed (.hostError "mqtt target host must be configured before connect"), connection)
  | some _ =>
    let clientId :=
      if state.clientId = [] then "pd-edge-".toList ++ connection.uuid else state.clientId
    (.ready ⟨clientId, state.username, state.password, state.keepAliveSecs, state.cleanStart⟩,
      connection.onState fun state => { state with clientId })

/-- `attach_carrier`: connect, and store the carrier with the connection. -/
def attachCarrier : Awaited VmError Unit × Connection :=
  let after := { connection with attempts := connection.attempts.tail }
  match connection.attempts.headD (.error (.hostError "mqtt carrier is unreachable")) with
  | .error err => (.failed err, after)
  | .ok (carrier, io) =>
    (.ready (), ({ after with io := some io }).onState (·.attachCarrier carrier))

/-- A connection that could not be opened. -/
def failOpening (message : String) (err : VmError) : Awaited VmError Unit × Connection :=
  (.failed err, (connection.onState (·.markFailed message)).closeCarrier)

/-- Wait for the answer to a connect packet. -/
def awaitConnAck : Awaited VmError Unit × Connection :=
  andThen (connection.readNextPacket rendering) fun packet connection =>
    match packet with
    | some (.connAck reasonCode) =>
      if reasonCode < 0x80 then (.ready (), connection.atNow .markOpen)
      else
        let message := s!"mqtt connect rejected with reason code {reasonCode}"
        connection.failOpening message (.hostError message)
    | some packet =>
      let text := rendering.packet packet
      let message := s!"expected mqtt connack, received {text}"
      connection.failOpening message (.hostError message)
    | none =>
      let message := "mqtt connection closed before connack"
      connection.failOpening message (.hostError message)

/-- Send the connect packet over a carrier that was attached. -/
def sendConnect (config : MqttConnectConfig) : Awaited VmError Unit × Connection :=
  match encodeConnectPacket config with
  | .error err => (.failed err, connection)
  | .ok packet =>
    match connection.writeConnectionPacket (.ok packet) with
    | (.ready _, connection) => (connection.onState (·.noteConnectSent)).awaitConnAck rendering
    | (.failed err, connection) => connection.failOpening (rendering.error err) err
    | (.dropped, connection) => (.dropped, connection)

/-- `ensure_connection_open`. -/
def ensureConnectionOpen : Awaited VmError Unit × Connection :=
  if connection.state.phase = .opened then (.ready (), connection)
  else
    andThen connection.closeConnectionCarrier.connectionSnapshot fun config connection =>
      andThen connection.attachCarrier fun _ connection =>
        connection.sendConnect rendering config

/-! ## Operations -/

/-- `parse_qos`. -/
def parseQos (qos : Int) : Except VmError UInt8 :=
  if qos = 0 then .ok 0
  else if qos = 1 then .ok 1
  else if qos = 2 then .error (.hostError "mqtt qos 2 is not supported in this milestone")
  else .error (.hostError s!"mqtt qos must be 0 or 1, got {qos}")

/-- `next_packet_id` of the connection. -/
def takePacketId : UInt16 × Connection :=
  let taken := connection.state.takePacketId
  (taken.1, { connection with state := taken.2 })

/-- `publish_payload`. -/
def publishPayload (topic : List Char) (payload : List UInt8) (qos : Int) (retain : Bool) :
    Awaited VmError Unit × Connection :=
  if topic = [] then (.failed (.hostError "mqtt publish topic must not be empty"), connection)
  else
    andThen (connection.ensureConnectionOpen rendering) fun _ connection =>
      match parseQos qos with
      | .error err => (.failed err, connection)
      | .ok qos =>
        if qos = 0 then
          connection.writeConnectionPacket (encodePublishPacket topic payload qos retain none)
        else
          let taken := connection.takePacketId
          andThen (taken.2.writeConnectionPacket
            (encodePublishPacket topic payload qos retain (some taken.1))) fun _ connection =>
              connection.waitForPuback rendering taken.1

/-- `subscribe_filter`. -/
def subscribeFilter (filter : List Char) (qos : Int) : Awaited VmError Unit × Connection :=
  if filter = [] then
    (.failed (.hostError "mqtt subscription filter must not be empty"), connection)
  else
    andThen (connection.ensureConnectionOpen rendering) fun _ connection =>
      match parseQos qos with
      | .error err => (.failed err, connection)
      | .ok qos =>
        let taken := connection.takePacketId
        andThen (taken.2.writeConnectionPacket (encodeSubscribePacket filter qos taken.1))
          fun _ connection => connection.waitForSuback rendering taken.1

/-- `unsubscribe_filter`. -/
def unsubscribeFilter (filter : List Char) : Awaited VmError Unit × Connection :=
  if filter = [] then
    (.failed (.hostError "mqtt unsubscribe filter must not be empty"), connection)
  else
    andThen (connection.ensureConnectionOpen rendering) fun _ connection =>
      let taken := connection.takePacketId
      andThen (taken.2.writeConnectionPacket (encodeUnsubscribePacket filter taken.1))
        fun _ connection => connection.waitForUnsuback rendering taken.1

/-- The body of the loop of `read_next_event_value`. -/
def eventTurn (connection : Connection) :
    Turn Connection (Awaited VmError MqttEvent × Connection) :=
  match connection.popQueuedEvent with
  | (some event, connection) => .leave (.ready event, connection)
  | (none, connection) =>
    match connection.readNextPacket rendering with
    | (.ready (some packet), connection) => goOn (connection.handleUnsolicitedPacket packet)
    | (.ready none, connection) =>
      match connection.state.terminalConnectionEvent with
      | some event => .leave (.ready event, connection)
      | none => .again connection
    | (.failed err, connection) => .leave (.failed err, connection)
    | (.dropped, connection) => .leave (.dropped, connection)

/-- The event that an operation returned. -/
def eventsOf : Awaited VmError MqttEvent → List MqttEvent
  | .ready event => [event]
  | _ => []

/-- Messages were accepted, and taken from the front of the queue. -/
def Returns (before : Connection) (returned : List MqttEvent) (after : Connection) : Prop :=
  ∃ added, after.accepted = before.accepted ++ added ∧
    publishes returned ++ publishes after.state.pendingEvents =
      publishes before.state.pendingEvents ++ added

variable {returned : List MqttEvent} {result : Awaited VmError MqttEvent × Connection}

theorem Grows.returns (grows : Grows before after) (returns : Returns after returned third) :
    Returns before returned third := by
  obtain ⟨some', accepted, queued⟩ := grows
  obtain ⟨more, accepted', queued'⟩ := returns
  refine ⟨some' ++ more, ?_, ?_⟩
  · rw [accepted', accepted, append_assoc]
  · rw [queued', queued, append_assoc]

theorem Kept.returns (kept : Kept before after) (none : publishes returned = []) :
    Returns before returned after := by
  refine ⟨[], by rw [kept.accepted, append_nil], ?_⟩
  rw [none, kept.events, append_nil, nil_append]

/-- A connection at its end has an event for that, which is no message. -/
theorem terminalConnectionEvent_eq {state : MqttConnectionState}
    (terminal : state.phase = .closed ∨ state.phase = .failed) :
    ∃ event, state.terminalConnectionEvent = some event ∧ publishes [event] = [] := by
  rcases terminal with phase | phase <;>
    exact ⟨_, by rw [MqttConnectionState.terminalConnectionEvent, phase], rfl⟩

/-- A packet that cannot be handled returns no event. -/
theorem goOn_leaves {handled : Awaited VmError Unit × Connection}
    (left : goOn handled = .leave result) : eventsOf result.1 = [] := by
  obtain ⟨done, next⟩ := handled
  cases done <;> cases left <;> rfl

/-- What a turn of the loop of `read_next_event_value` does. -/
structure EventTurned (before : Connection)
    (turned : Turn Connection (Awaited VmError MqttEvent × Connection)) : Prop where
  again : ∀ next, turned = .again next → Grows before next ∧ next.remaining < before.remaining
  leave : ∀ result, turned = .leave result → Returns before (eventsOf result.1) result.2

theorem EventTurned.of_leave (returns : Returns before (eventsOf result.1) result.2) :
    EventTurned before (.leave result) := by
  refine ⟨fun next same => (by cases same), fun other same => ?_⟩
  cases same
  exact returns

theorem publishes_append (first second : List MqttEvent) :
    publishes (first ++ second) = publishes first ++ publishes second :=
  filter_append first second

theorem popQueuedEvent_some {event : MqttEvent}
    (popped : connection.popQueuedEvent.1 = some event) :
    Returns connection [event] connection.popQueuedEvent.2 := by
  obtain ⟨rest, queue⟩ : ∃ rest, connection.state.pendingEvents = event :: rest :=
    head?_eq_some_iff.mp popped
  refine ⟨[], (append_nil _).symm, ?_⟩
  show publishes [event] ++ publishes connection.state.pendingEvents.tail = _
  rw [queue, tail_cons, ← publishes_append, append_nil]
  rfl

theorem popQueuedEvent_none (popped : connection.popQueuedEvent.1 = none) :
    connection.popQueuedEvent.2 = connection := by
  have queue : connection.state.pendingEvents = [] := head?_eq_none_iff.mp popped
  obtain ⟨state, io, attempts, clock, uuid, accepted⟩ := connection
  obtain ⟨phase, host, clientId, username, password, keepAliveSecs, cleanStart, nextPacketId,
    carrier, failureMessage, lastActivityAt, pingResponsePending, buffer, events⟩ := state
  cases queue
  rfl

theorem eventTurn_turned : EventTurned connection (eventTurn rendering connection) := by
  rw [eventTurn]
  have some' := @popQueuedEvent_some connection
  have none' := popQueuedEvent_none connection
  generalize connection.popQueuedEvent = popped at some' none'
  obtain ⟨event, rest⟩ := popped
  cases event with
  | some event => exact .of_leave (some' rfl)
  | none =>
    have same : rest = connection := none' rfl
    dsimp only
    rw [same]
    have reads := readNextPacket_reads rendering connection
    generalize connection.readNextPacket rendering = read at reads
    cases reads with
    | @packet packet after framed less kept =>
      have handles : Handles connection (goOn (after.handleUnsolicitedPacket packet) :
        Turn Connection (Awaited VmError MqttEvent × Connection)) := goOn_handles kept less
      refine ⟨handles.again, fun result left => ?_⟩
      obtain ⟨added, accepted, queued⟩ := handles.leave result left
      refine ⟨added, accepted, ?_⟩
      rw [goOn_leaves left, ← queued]
      rfl
    | closed framed phase kept =>
      obtain ⟨event, found, none⟩ := terminalConnectionEvent_eq (Or.inl phase)
      dsimp only
      rw [found]
      exact .of_leave (kept.returns none)
    | expired alive phase kept =>
      obtain ⟨event, found, none⟩ := terminalConnectionEvent_eq (Or.inr phase)
      dsimp only
      rw [found]
      exact .of_leave (kept.returns none)
    | mistake framed kept | broken broken kept | blocked broken kept =>
      exact .of_leave (kept.returns rfl)

/-- The loop of `read_next_event_value`. -/
def eventLoop : Loop Connection (Awaited VmError MqttEvent × Connection) where
  turn := eventTurn rendering
  measure connection := connection.remaining
  lowers connection next turned := ((eventTurn_turned rendering connection).again next turned).2

/-- `read_next_event_value`. -/
def readNextEvent : Awaited VmError MqttEvent × Connection :=
  match connection.popQueuedEvent with
  | (some event, connection) => (.ready event, connection)
  | (none, connection) =>
    match connection.state.terminalConnectionEvent with
    | some event => (.ready event, connection)
    | none =>
      andThen (connection.ensureConnectionOpen rendering) fun _ connection =>
        (eventLoop rendering).run connection

/-- `connection_disconnect`. -/
def disconnect (reasonCode : Int) (reasonText : List Char) : Awaited VmError Unit × Connection :=
  if reasonCode < 0 ∨ 255 < reasonCode then
    (.failed (.hostError
      s!"mqtt disconnect reason code must be between 0 and 255, got {reasonCode}"), connection)
  else
    let finish (written : Awaited VmError Unit) (connection : Connection) :=
      (written, connection.closeConnectionCarrier.onState (·.markClosed))
    if connection.state.carrier.isSome then
      match encodeDisconnectPacket (UInt8.ofNat reasonCode.toNat) reasonText with
      | .error err => (.failed err, connection)
      | .ok packet =>
        match connection.writeConnectionPacket (.ok packet) with
        | (.dropped, connection) => (.dropped, connection)
        | (written, connection) => finish written connection
    else finish (.ready ()) connection

/-- `with_configurable_connection_state_mut` with a setter. -/
def configureWith (setting : Setting) : Awaited VmError Unit × Connection :=
  let phase := connection.state.phase
  if phase = .carrierAttached ∨ phase = .connectSent ∨ phase = .opened then
    (.failed (.hostError
      "mqtt connection configuration is read-only after the carrier is attached"), connection)
  else (.ready (), connection.onState (·.set setting))

end Connection

/-- The operations of a program. -/
inductive Operation where
  | configure (setting : Setting)
  | connect
  | publish (topic : List Char) (payload : List UInt8) (qos : Int) (retain : Bool)
  | subscribe (filter : List Char) (qos : Int)
  | unsubscribe (filter : List Char)
  | readEvent
  | disconnect (reasonCode : Int) (reasonText : List Char)

/-- An operation that returns no event. -/
def noEvent (done : Awaited VmError Unit × Connection) :
    Awaited VmError (Option MqttEvent) × Connection :=
  andThen done fun _ connection => (.ready none, connection)

namespace Connection

variable (rendering : Rendering) (connection : Connection)

/-- An operation, with the event it returns. -/
def perform : Operation → Awaited VmError (Option MqttEvent) × Connection
  | .configure setting => noEvent (connection.configureWith setting)
  | .connect => noEvent (connection.ensureConnectionOpen rendering)
  | .publish topic payload qos retain =>
    noEvent (connection.publishPayload rendering topic payload qos retain)
  | .subscribe filter qos => noEvent (connection.subscribeFilter rendering filter qos)
  | .unsubscribe filter => noEvent (connection.unsubscribeFilter rendering filter)
  | .readEvent =>
    andThen (connection.readNextEvent rendering) fun event connection =>
      (.ready (some event), connection)
  | .disconnect reasonCode reasonText => noEvent (connection.disconnect reasonCode reasonText)

/-- The events that a program reads, and the connection behind it. An operation that never
returns ends the program. -/
def run (connection : Connection) : List Operation → List MqttEvent × Connection
  | [] => ([], connection)
  | operation :: operations =>
    match connection.perform rendering operation with
    | (.dropped, connection) => ([], connection)
    | (.failed _, connection) => connection.run operations
    | (.ready event, connection) =>
      let rest := connection.run operations
      (event.toList ++ rest.1, rest.2)

end Connection

end PdEdge.Mqtt

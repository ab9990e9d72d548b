import PdEdge.Mqtt.Operations

/-!
# What becomes of accepted messages

A message that was acknowledged or queued is returned by `read_event`, once and in the order of
arrival, unless a carrier is attached while it is queued: attaching clears the queue.
-/

namespace PdEdge.Mqtt

open Wire List

namespace Connection

variable {rendering : Rendering} {connection before after third : Connection}

/-! ## Opening a connection -/

/-- Opening the connection attaches a carrier. -/
def Attaches (connection : Connection) : Prop :=
  connection.state.phase ≠ .opened ∧ connection.state.host.isSome = true ∧
    ∃ attached, connection.attempts.head? = some (.ok attached)

/-- Events were accepted and queued, behind the queue or, where a carrier was attached, behind
nothing. -/
structure Opens (before after : Connection) : Prop where
  accepted : after.accepted = before.accepted
  attached : before.Attaches → after.state.pendingEvents = []
  unattached : ¬before.Attaches → after.state.pendingEvents = before.state.pendingEvents

variable (connection : Connection)

theorem awaitConnAck_kept : Kept connection (connection.awaitConnAck rendering).2 := by
  have kept := connection.readNextPacket_kept rendering
  rw [awaitConnAck]
  generalize connection.readNextPacket rendering = read at kept
  obtain ⟨result, after⟩ := read
  cases result with
  | failed err | dropped => exact kept
  | ready packet =>
    refine kept.trans ?_
    cases packet with
    | none => exact ⟨rfl, rfl, rfl⟩
    | some packet =>
      cases packet with
      | connAck reasonCode =>
        simp only [andThen]
        split <;> exact ⟨rfl, rfl, rfl⟩
      | publish | pubAck | subAck | unsubAck | pingResp | disconnect => exact ⟨rfl, rfl, rfl⟩

theorem sendConnect_kept (config : MqttConnectConfig) :
    Kept connection (connection.sendConnect rendering config).2 := by
  rw [sendConnect]
  cases encodeConnectPacket config with
  | error err => exact ⟨rfl, rfl, rfl⟩
  | ok packet =>
    have wrote := @writePacket_wrote connection _ onlyTimes_packet packet
    dsimp only
    rw [writeConnectionPacket]
    generalize connection.writePacket _ _ = result at wrote
    have kept := wrote.steady.kept
    obtain ⟨done, after⟩ := result
    cases done with
    | ready value =>
      have answered := @awaitConnAck_kept rendering (after.onState (·.noteConnectSent))
      exact kept.trans ⟨answered.events, answered.accepted, answered.attempts⟩
    | failed err => exact kept.trans ⟨rfl, rfl, rfl⟩
    | dropped => exact kept

theorem closeConnectionCarrier_fields :
    connection.closeConnectionCarrier.state.host = connection.state.host ∧
      connection.closeConnectionCarrier.state.pendingEvents = connection.state.pendingEvents ∧
      connection.closeConnectionCarrier.attempts = connection.attempts ∧
      connection.closeConnectionCarrier.accepted = connection.accepted := by
  rw [closeConnectionCarrier]
  split <;> exact ⟨rfl, rfl, rfl, rfl⟩

/-- An attempt to attach a carrier. -/
theorem attachCarrier_does :
    (connection.attachCarrier.1 = .ready () ∧ connection.attachCarrier.2.state.pendingEvents = [] ∧
        connection.attachCarrier.2.accepted = connection.accepted ∧
        ∃ attached, connection.attempts.head? = some (.ok attached)) ∨
      (∃ err, connection.attachCarrier.1 = .failed err) ∧
        connection.attachCarrier.2.state = connection.state ∧
        connection.attachCarrier.2.accepted = connection.accepted ∧
        ∀ attached, connection.attempts.head? ≠ some (.ok attached) := by
  rw [attachCarrier]
  cases connection.attempts with
  | nil => exact Or.inr ⟨⟨_, rfl⟩, rfl, rfl, by simp⟩
  | cons attempt rest =>
    cases attempt with
    | error err => exact Or.inr ⟨⟨_, rfl⟩, rfl, rfl, by simp⟩
    | ok attached => exact Or.inl ⟨rfl, rfl, rfl, _, rfl⟩

variable {connection : Connection}

/-- Attaching clears the queue; everything else about opening leaves it. -/
theorem ensureConnectionOpen_opens :
    Opens connection (connection.ensureConnectionOpen rendering).2 := by
  rw [ensureConnectionOpen]
  by_cases opened : connection.state.phase = .opened
  · rw [if_pos opened]
    exact ⟨rfl, fun attaches => absurd opened attaches.1, fun _ => rfl⟩
  rw [if_neg opened]
  obtain ⟨host, events, attempts, accepted⟩ := connection.closeConnectionCarrier_fields
  generalize connection.closeConnectionCarrier = closed at host events attempts accepted
  cases target : closed.state.host with
  | none =>
    simp only [connectionSnapshot, target, andThen]
    refine ⟨accepted, fun attaches => ?_, fun _ => events⟩
    have given := attaches.2.1
    rw [← host, target] at given
    cases given
  | some target' =>
    simp only [connectionSnapshot, target, andThen]
    generalize configured : closed.onState _ = ready
    have queued : ready.state.pendingEvents = connection.state.pendingEvents := by
      rw [← configured, ← events]
      rfl
    have given : ready.attempts = connection.attempts := by rw [← configured, ← attempts]; rfl
    have took : ready.accepted = connection.accepted := by rw [← configured, ← accepted]; rfl
    have does := ready.attachCarrier_does
    generalize ready.attachCarrier = attached at does
    obtain ⟨result, after⟩ := attached
    rcases does with ⟨rfl, queue, taken, carrier, found⟩ | ⟨⟨err, rfl⟩, state, taken, none⟩
    · have attaches : connection.Attaches :=
        ⟨opened, by rw [← host, target]; rfl, carrier, by rw [← given]; exact found⟩
      have kept := @sendConnect_kept rendering after
        ⟨if closed.state.clientId = [] then "pd-edge-".toList ++ closed.uuid
          else closed.state.clientId, closed.state.username, closed.state.password,
          closed.state.keepAliveSecs, closed.state.cleanStart⟩
      exact ⟨kept.accepted.trans (taken.trans took), fun _ => kept.events.trans queue,
        fun unattached => absurd attaches unattached⟩
    · refine ⟨taken.trans took, fun attaches => ?_, fun _ => ?_⟩
      · obtain ⟨carrier, found⟩ := attaches.2.2
        exact absurd (by rw [given]; exact found) (none carrier)
      · exact (congrArg _ state).trans queued

/-! ## Operations -/

/-- The operation attaches a carrier before it accepts anything. -/
def Clears (connection : Connection) : Operation → Prop
  | .connect => connection.Attaches
  | .publish topic _ _ _ => topic ≠ [] ∧ connection.Attaches
  | .subscribe filter _ => filter ≠ [] ∧ connection.Attaches
  | .unsubscribe filter => filter ≠ [] ∧ connection.Attaches
  | .configure _ => False
  | .readEvent => False
  | .disconnect _ _ => False

/-- What an operation does to the messages: those that were queued are lost if a carrier is
attached. -/
structure Performed (attaches : Prop) (before : Connection) (returned : List MqttEvent)
    (after : Connection) : Prop where
  cleared : attaches → ∃ added, after.accepted = before.accepted ++ added ∧
    publishes returned ++ publishes after.state.pendingEvents = added
  kept : ¬attaches → Returns before returned after

/-- The event that an operation returned. -/
def returnedOf : Awaited VmError (Option MqttEvent) → List MqttEvent
  | .ready event => event.toList
  | _ => []

variable {attaches : Prop} {returned more : List MqttEvent}
variable {done : Awaited VmError Unit × Connection} {operation : Operation}
variable {operations : List Operation}

theorem noEvent_performed (performed : Performed attaches before [] done.2) :
    Performed attaches before (returnedOf (noEvent done).1) (noEvent done).2 := by
  obtain ⟨result, after⟩ := done
  cases result <;> exact performed

theorem Grows.performed (grows : Grows before after) : Performed False before [] after :=
  ⟨False.elim, fun _ => grows⟩

theorem Opens.performed (opens : Opens before after) (grows : Grows after third) :
    Performed before.Attaches before [] third := by
  obtain ⟨added, accepted, queued⟩ := grows
  refine ⟨fun attaches => ⟨added, ?_, ?_⟩, fun unattached => ⟨added, ?_, ?_⟩⟩
  · rw [accepted, opens.accepted]
  · rw [queued, opens.attached attaches]
    rfl
  · rw [accepted, opens.accepted]
  · rw [queued, opens.unattached unattached]
    rfl

/-- What follows the opening of a connection. -/
theorem andThen_performed {next : Unit → Connection → Awaited VmError Unit × Connection}
    (grows : ∀ value now, Grows now (next value now).2) :
    Performed connection.Attaches connection []
      (andThen (connection.ensureConnectionOpen rendering) next).2 := by
  have opens := @ensureConnectionOpen_opens rendering connection
  generalize connection.ensureConnectionOpen rendering = opened at opens
  obtain ⟨result, now⟩ := opened
  cases result with
  | ready value => exact opens.performed (grows value now)
  | failed err | dropped => exact opens.performed (Kept.grows ⟨rfl, rfl, rfl⟩)

theorem writeConnectionPacket_kept (packet : Except VmError (List UInt8)) :
    Kept connection (connection.writeConnectionPacket packet).2 := by
  cases packet with
  | error err => exact ⟨rfl, rfl, rfl⟩
  | ok packet => exact (writePacket_wrote onlyTimes_packet).steady.kept

/-- A packet is sent with a new id, and its acknowledgement awaited. -/
theorem request_grows (packet : UInt16 → Except VmError (List UInt8))
    {wait : UInt16 → Connection → Awaited VmError Unit × Connection}
    (grows : ∀ id now, Grows now (wait id now).2) :
    Grows connection (andThen (connection.takePacketId.2.writeConnectionPacket
      (packet connection.takePacketId.1)) fun _ now => wait connection.takePacketId.1 now).2 := by
  have kept := connection.takePacketId.2.writeConnectionPacket_kept
    (packet connection.takePacketId.1)
  generalize connection.takePacketId.2.writeConnectionPacket _ = written at kept
  obtain ⟨result, now⟩ := written
  have kept' : Kept connection now := ⟨kept.events, kept.accepted, kept.attempts⟩
  cases result with
  | ready value => exact kept'.grows.trans (grows _ now)
  | failed err | dropped => exact kept'.grows

/-- An operation on a topic or filter refuses an empty one and opens the connection otherwise. -/
theorem named_performed {text : List Char} (empty : text = [] → done.2 = before)
    (named : text ≠ [] → Performed before.Attaches before [] done.2) :
    Performed (text ≠ [] ∧ before.Attaches) before [] done.2 := by
  by_cases none : text = []
  · rw [empty none]
    exact ⟨fun attaches => absurd none attaches.1, fun _ => Kept.grows ⟨rfl, rfl, rfl⟩⟩
  · exact ⟨fun attaches => (named none).cleared attaches.2,
      fun unattached => (named none).kept fun attaches => unattached ⟨none, attaches⟩⟩

theorem publishPayload_performed {topic : List Char} {payload : List UInt8} {qos : Int}
    {retain : Bool} :
    Performed (topic ≠ [] ∧ connection.Attaches) connection []
      (connection.publishPayload rendering topic payload qos retain).2 := by
  refine named_performed (fun empty => ?_) fun named => ?_
  · rw [publishPayload, if_pos empty]
  rw [publishPayload, if_neg named]
  refine andThen_performed fun value now => ?_
  cases parseQos qos with
  | error err => exact Kept.grows ⟨rfl, rfl, rfl⟩
  | ok qos =>
    dsimp only
    split
    · exact (now.writeConnectionPacket_kept _).grows
    · exact request_grows (fun id => encodePublishPacket topic payload qos retain (some id))
        (fun id now => now.waitFor_grows rendering)

theorem subscribeFilter_performed {filter : List Char} (qos : Int) :
    Performed (filter ≠ [] ∧ connection.Attaches) connection []
      (connection.subscribeFilter rendering filter qos).2 := by
  refine named_performed (fun empty => ?_) fun named => ?_
  · rw [subscribeFilter, if_pos empty]
  rw [subscribeFilter, if_neg named]
  refine andThen_performed fun value now => ?_
  cases parseQos qos with
  | error err => exact Kept.grows ⟨rfl, rfl, rfl⟩
  | ok qos =>
    exact request_grows (fun id => encodeSubscribePacket filter qos id)
      (fun id now => now.waitFor_grows rendering)

theorem unsubscribeFilter_performed {filter : List Char} :
    Performed (filter ≠ [] ∧ connection.Attaches) connection []
      (connection.unsubscribeFilter rendering filter).2 := by
  refine named_performed (fun empty => ?_) fun named => ?_
  · rw [unsubscribeFilter, if_pos empty]
  rw [unsubscribeFilter, if_neg named]
  refine andThen_performed fun value now => ?_
  exact request_grows (fun id => encodeUnsubscribePacket filter id)
    (fun id now => now.waitFor_grows rendering)

theorem eventLoop_returns :
    Returns connection (eventsOf ((eventLoop rendering).run connection).1)
      ((eventLoop rendering).run connection).2 := by
  refine (eventLoop rendering).run_invariant (Grows connection)
    (fun result => Returns connection (eventsOf result.1) result.2)
    (fun now next grows turned => ?_) (fun now result grows turned => ?_) connection
    (Kept.grows ⟨rfl, rfl, rfl⟩)
  · exact grows.trans ((eventTurn_turned rendering now).again next turned).1
  · exact grows.returns ((eventTurn_turned rendering now).leave result turned)

/-- The event for the end of a connection is no message. -/
theorem terminalConnectionEvent_quiet {state : MqttConnectionState} {event : MqttEvent}
    (found : state.terminalConnectionEvent = some event) : publishes [event] = [] := by
  rw [MqttConnectionState.terminalConnectionEvent] at found
  split at found <;> cases found <;> rfl

/-- Opening a connection on which nothing is queued loses nothing. -/
theorem Opens.kept (opens : Opens before after) (empty : before.state.pendingEvents = []) :
    Grows before after := by
  have queue : after.state.pendingEvents = before.state.pendingEvents := by
    by_cases attaches : before.Attaches
    · rw [opens.attached attaches, empty]
    · exact opens.unattached attaches
  exact ⟨[], by rw [opens.accepted, append_nil], by rw [queue, append_nil]⟩

/-- Reading an event loses nothing: it opens a connection only when the queue is empty. -/
theorem readNextEvent_returns :
    Returns connection (eventsOf (connection.readNextEvent rendering).1)
      (connection.readNextEvent rendering).2 := by
  rw [readNextEvent]
  have some' := @popQueuedEvent_some connection
  have none' := popQueuedEvent_none connection
  have empty : connection.popQueuedEvent.1 = none → connection.state.pendingEvents = [] :=
    head?_eq_none_iff.mp
  generalize connection.popQueuedEvent = popped at some' none' empty
  obtain ⟨event, rest⟩ := popped
  cases event with
  | some event => exact some' rfl
  | none =>
    have same : rest = connection := none' rfl
    dsimp only
    rw [same]
    cases terminal : connection.state.terminalConnectionEvent with
    | some event => exact Kept.returns ⟨rfl, rfl, rfl⟩ (terminalConnectionEvent_quiet terminal)
    | none =>
      have opens := @ensureConnectionOpen_opens rendering connection
      generalize connection.ensureConnectionOpen rendering = opened at opens
      have grows := opens.kept (empty rfl)
      obtain ⟨result, now⟩ := opened
      cases result with
      | ready value => exact grows.returns now.eventLoop_returns
      | failed err | dropped => exact grows

theorem disconnect_kept {reasonCode : Int} {reasonText : List Char} :
    Kept connection (connection.disconnect reasonCode reasonText).2 := by
  have finished (now : Connection) :
      Kept now (now.closeConnectionCarrier.onState (·.markClosed)) := by
    have closed := (closeConnectionCarrier_kept now).1
    exact ⟨closed.events, closed.accepted, closed.attempts⟩
  rw [disconnect]
  split
  · exact ⟨rfl, rfl, rfl⟩
  split
  · cases encodeDisconnectPacket (UInt8.ofNat reasonCode.toNat) reasonText with
    | error err => exact ⟨rfl, rfl, rfl⟩
    | ok packet =>
      have kept := connection.writeConnectionPacket_kept (.ok packet)
      dsimp only
      generalize connection.writeConnectionPacket _ = written at kept
      obtain ⟨result, now⟩ := written
      cases result with
      | ready value | failed err => exact kept.trans (finished now)
      | dropped => exact kept
  · exact finished connection

theorem configureWith_kept {setting : Setting} :
    Kept connection (connection.configureWith setting).2 := by
  rw [configureWith]
  split
  · exact ⟨rfl, rfl, rfl⟩
  · cases setting <;> exact ⟨rfl, rfl, rfl⟩

/-- What every operation does to the messages. -/
theorem perform_performed (operation : Operation) :
    Performed (connection.Clears operation) connection
      (returnedOf (connection.perform rendering operation).1)
      (connection.perform rendering operation).2 := by
  cases operation with
  | configure setting => exact noEvent_performed (connection.configureWith_kept).grows.performed
  | connect =>
    exact noEvent_performed ((ensureConnectionOpen_opens).performed (Kept.grows ⟨rfl, rfl, rfl⟩))
  | publish topic payload qos retain => exact noEvent_performed (publishPayload_performed)
  | subscribe filter qos => exact noEvent_performed (subscribeFilter_performed qos)
  | unsubscribe filter => exact noEvent_performed (unsubscribeFilter_performed)
  | readEvent =>
    have returns := @readNextEvent_returns rendering connection
    refine ⟨False.elim, fun _ => ?_⟩
    rw [perform]
    generalize connection.readNextEvent rendering = read at returns
    obtain ⟨result, now⟩ := read
    cases result <;> exact returns
  | disconnect reasonCode reasonText =>
    exact noEvent_performed (connection.disconnect_kept).grows.performed

/-! ## Programs -/

/-- A connection that nothing was done with. -/
def new (attempts : List (Except VmError (MqttCarrierAttachment × CarrierIo))) (clock : Clock)
    (uuid : List Char) : Connection :=
  ⟨.default, none, attempts, clock, uuid, []⟩

/-- Every accepted message was returned or is queued, in the order of arrival. -/
def Stored (returned : List MqttEvent) (connection : Connection) : Prop :=
  connection.accepted = publishes returned ++ publishes connection.state.pendingEvents

/-- A message is missing. -/
def Short (returned : List MqttEvent) (connection : Connection) : Prop :=
  (publishes returned).length + (publishes connection.state.pendingEvents).length <
    connection.accepted.length

theorem Short.not_stored (short : Short returned connection) : ¬Stored returned connection := by
  intro stored
  have lengths := congrArg length stored
  rw [length_append] at lengths
  rw [Short] at short
  omega

/-- No message is queued when a carrier is attached. -/
def Safe (connection : Connection) (operation : Operation) : Prop :=
  connection.Clears operation → publishes connection.state.pendingEvents = []

/-- Every operation of the program is safe, up to one that never returns. -/
def SafeAll (rendering : Rendering) (connection : Connection) : List Operation → Prop
  | [] => True
  | operation :: operations =>
    connection.Safe operation ∧
      ((connection.perform rendering operation).1 ≠ .dropped →
        SafeAll rendering (connection.perform rendering operation).2 operations)

theorem run_dropped (dropped : (connection.perform rendering operation).1 = .dropped) :
    connection.run rendering (operation :: operations) =
      (returnedOf (connection.perform rendering operation).1,
        (connection.perform rendering operation).2) := by
  rw [run]
  generalize connection.perform rendering operation = done at dropped
  obtain ⟨result, after⟩ := done
  cases dropped
  rfl

theorem run_cons (returned : (connection.perform rendering operation).1 ≠ .dropped) :
    connection.run rendering (operation :: operations) =
      (returnedOf (connection.perform rendering operation).1 ++
          ((connection.perform rendering operation).2.run rendering operations).1,
        ((connection.perform rendering operation).2.run rendering operations).2) := by
  rw [run]
  generalize connection.perform rendering operation = done at returned
  obtain ⟨result, after⟩ := done
  cases result with
  | ready event | failed err => rfl
  | dropped => exact absurd rfl returned

theorem Returns.stored (stored : Stored returned before) (returns : Returns before more after) :
    Stored (returned ++ more) after := by
  obtain ⟨added, accepted, queued⟩ := returns
  rw [Stored, accepted, stored, publishes_append, append_assoc, append_assoc, queued]

section

variable (performed : Performed attaches before more after)
include performed

/-- Messages that are missing do not come back. -/
theorem Performed.short (short : Short returned before) : Short (returned ++ more) after := by
  rw [Short] at short ⊢
  rw [publishes_append, length_append]
  by_cases clears : attaches
  · obtain ⟨added, accepted, queued⟩ := performed.cleared clears
    have lengths := congrArg length queued
    rw [accepted, length_append]
    rw [length_append] at lengths
    omega
  obtain ⟨added, accepted, queued⟩ := performed.kept clears
  have lengths := congrArg length queued
  rw [accepted, length_append]
  rw [length_append, length_append] at lengths
  omega

/-- Messages that are queued when a carrier is attached are missing from then on. -/
theorem Performed.lost (clears : attaches) (queued : publishes before.state.pendingEvents ≠ [])
    (stored : Stored returned before) : Short (returned ++ more) after := by
  obtain ⟨added, accepted, rest⟩ := performed.cleared clears
  have lengths := congrArg length rest
  have positive := length_pos_iff.mpr queued
  rw [Short, publishes_append, accepted, stored]
  rw [length_append] at lengths
  simp only [length_append]
  omega

end

theorem short_run (short : Short returned connection) {operations : List Operation} :
    Short (returned ++ (connection.run rendering operations).1)
      (connection.run rendering operations).2 := by
  induction operations generalizing connection returned with
  | nil =>
    rw [run, append_nil]
    exact short
  | cons operation operations ih =>
    have next := (@perform_performed rendering connection operation).short short
    by_cases dropped : (connection.perform rendering operation).1 = .dropped
    · rw [run_dropped dropped]
      exact next
    · rw [run_cons dropped, ← append_assoc]
      exact ih next

/-- Nothing is lost exactly if no message is queued whenever a carrier is attached. -/
theorem stored_iff_safeAll (stored : Stored returned connection) (operations : List Operation) :
    Stored (returned ++ (connection.run rendering operations).1)
        (connection.run rendering operations).2 ↔
      SafeAll rendering connection operations := by
  induction operations generalizing connection returned with
  | nil =>
    rw [run, append_nil]
    exact iff_of_true stored trivial
  | cons operation operations ih =>
    have performed := @perform_performed rendering connection operation
    by_cases safe : connection.Safe operation
    · have next : Stored (returned ++ returnedOf (connection.perform rendering operation).1)
          (connection.perform rendering operation).2 := by
        refine Returns.stored stored ?_
        by_cases clears : connection.Clears operation
        · obtain ⟨added, accepted, queued⟩ := performed.cleared clears
          exact ⟨added, accepted, by rw [queued, safe clears, nil_append]⟩
        · exact performed.kept clears
      by_cases dropped : (connection.perform rendering operation).1 = .dropped
      · rw [run_dropped dropped]
        exact iff_of_true next ⟨safe, fun returned => absurd dropped returned⟩
      · rw [run_cons dropped, ← append_assoc, ih next]
        exact ⟨fun rest => ⟨safe, fun _ => rest⟩, fun rest => rest.2 dropped⟩
    · obtain ⟨clears, queued⟩ := Classical.not_imp.mp safe
      have lost := performed.lost clears queued stored
      refine iff_of_false ?_ fun rest => safe rest.1
      by_cases dropped : (connection.perform rendering operation).1 = .dropped
      · rw [run_dropped dropped]
        exact lost.not_stored
      · rw [run_cons dropped, ← append_assoc]
        exact (short_run lost).not_stored

/-! ## Reading on -/

theorem perform_readEvent {event : MqttEvent} {rest : List MqttEvent}
    (queue : connection.state.pendingEvents = event :: rest) :
    connection.perform rendering .readEvent = (.ready (some event),
        connection.onState fun state => { state with pendingEvents := rest }) := by
  simp only [perform, readNextEvent, popQueuedEvent, queue, head?_cons, andThen, onState, tail_cons]

/-- Reading on returns what is queued, and accepts nothing. -/
theorem run_reads {events : List MqttEvent} (queue : connection.state.pendingEvents = events) :
    (connection.run rendering (replicate events.length .readEvent)).1 = events ∧
      (connection.run rendering (replicate events.length .readEvent)).2.accepted =
        connection.accepted := by
  induction events generalizing connection with
  | nil => exact ⟨rfl, rfl⟩
  | cons event events ih =>
    have read := @perform_readEvent rendering connection event events queue
    have returned : (connection.perform rendering .readEvent).1 ≠ .dropped := by simp [read]
    obtain ⟨rest, accepted⟩ := @ih (connection.onState fun state =>
      { state with pendingEvents := events }) rfl
    rw [length_cons, replicate_succ, run_cons returned, read]
    exact ⟨congrArg (event :: ·) rest, accepted⟩

/-- Every accepted message is returned, once and in the order of arrival, once the program has
read what is queued. -/
def AllReturned (rendering : Rendering) (connection : Connection) (operations : List Operation) :
    Prop :=
  let first := connection.run rendering operations
  let rest := first.2.run rendering (List.replicate first.2.state.pendingEvents.length .readEvent)
  rest.2.accepted = publishes (first.1 ++ rest.1)

theorem messages_returned_iff (rendering : Rendering)
    (attempts : List (Except VmError (MqttCarrierAttachment × CarrierIo))) (clock : Clock)
    (uuid : List Char) (operations : List Operation) :
    AllReturned rendering (new attempts clock uuid) operations ↔
      SafeAll rendering (new attempts clock uuid) operations := by
  have fresh : Stored [] (new attempts clock uuid) := rfl
  have read := @run_reads rendering ((new attempts clock uuid).run rendering operations).2 _ rfl
  rw [← stored_iff_safeAll fresh, AllReturned, read.1, read.2, publishes_append, Stored, nil_append]

/-! ## A message that is lost -/

theorem connack_there : [(0x20 : UInt8), 3, 0, 0, 0] ≠ [] := by decide

/-- The answer to a connect packet. -/
def connack : CarrierEvent := .data ⟨[0x20, 3, 0, 0, 0], connack_there⟩

theorem message_there :
    [(0x32 : UInt8), 7, 0, 1, 116, 0, 7, 0, 109, 0x90, 4, 0, 1, 0, 0] ≠ [] := by decide

/-- A message, and behind it the answer to a subscription. -/
def message : CarrierEvent :=
  .data ⟨[0x32, 7, 0, 1, 116, 0, 7, 0, 109, 0x90, 4, 0, 1, 0, 0], message_there⟩

/-- A broker that can be connected to twice. -/
def broker : List (Except VmError (MqttCarrierAttachment × CarrierIo)) :=
  [.ok (.tcp 1, ⟨[connack, message], true, []⟩), .ok (.tcp 2, ⟨[connack], false, []⟩)]

/-- The program subscribes, and opens the connection anew before it reads. -/
def reopening : List Operation :=
  [.configure (.target ['b']), .subscribe ['t'] 0, .disconnect 0 [], .connect, .readEvent]

def plainRendering : Rendering := ⟨fun _ => "", fun _ => "", fun _ => ""⟩

/-- The message is acknowledged, and never returned. -/
theorem acknowledged_message_lost :
    ((new broker ⟨0, []⟩ []).run plainRendering reopening).2.accepted =
        [.publish ['t'] [109] 1 false false] ∧
      ¬AllReturned plainRendering (new broker ⟨0, []⟩ []) reopening := by
  unfold AllReturned
  decide +kernel

end Connection

end PdEdge.Mqtt

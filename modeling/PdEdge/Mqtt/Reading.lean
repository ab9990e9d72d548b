import PdEdge.Mqtt.Connection

/-!
# Reading a stream of packets

Packets are read one after the other until the stream ends or a packet is malformed. What is
read is a function of the bytes that arrive: neither the pieces in which they arrive nor the
pauses between them matter, as long as the keep-alive does not put an end to the connection.
-/

namespace PdEdge.Mqtt

open Iteration Wire Connection

/-- What reading packets came to: the packets, how it ended, and the connection behind it. -/
structure Readings where
  packets : List MqttIncomingPacket
  ended : Awaited VmError Unit
  final : Connection

/-- `read_next_packet` again and again, until it returns no packet. -/
def readPackets (rendering : Rendering) : Loop (Connection × List MqttIncomingPacket) Readings where
  turn state :=
    match state.1.readNextPacket rendering with
    | (.ready (some packet), connection) => .again (connection, state.2 ++ [packet])
    | (.ready none, connection) => .leave ⟨state.2, .ready (), connection⟩
    | (.failed err, connection) => .leave ⟨state.2, .failed err, connection⟩
    | (.dropped, connection) => .leave ⟨state.2, .dropped, connection⟩
  measure state := state.1.remaining
  lowers state next turned := by
    have reads := readNextPacket_reads rendering state.1
    generalize state.1.readNextPacket rendering = read at reads turned
    cases reads with
    | packet framed less =>
      cases turned
      exact less
    | closed | expired | mistake | broken | blocked => cases turned

/-- All that reading a connection gives. -/
def Connection.readings (connection : Connection) (rendering : Rendering) : Readings :=
  (readPackets rendering).run (connection, [])

/-- The end of a stream, or its first mistake. -/
def endOf : Option VmError → Awaited VmError Unit
  | some err => .failed err
  | none => .ready ()

/-- The readings are the packets of the stream up to its end or its first mistake. -/
structure Readings.Whole (readings : Readings) (rendering : Rendering) (bytes : List UInt8) :
    Prop where
  packets : readings.packets = ((packetDecoder rendering).frames bytes).1
  ended : readings.ended = endOf ((packetDecoder rendering).frames bytes).2

/-- The keep-alive put an end to the connection. -/
structure Readings.Expired (readings : Readings) : Prop where
  ended : readings.ended = .ready ()
  phase : readings.final.state.phase = .failed

/-- A working carrier is read to the end, or to the end of the keep-alive. -/
theorem readings_whole_or_expired {connection : Connection} (works : connection.Works)
    {rendering : Rendering} :
    (connection.readings rendering).Whole rendering connection.stream ∧
        ¬(connection.readings rendering).Expired ∨
      connection.KeepsAlive ∧ (connection.readings rendering).Expired ∧
        (connection.readings rendering).packets <+:
          ((packetDecoder rendering).frames connection.stream).1 := by
  refine (readPackets rendering).run_invariant
    (fun state => state.1.Works ∧ (state.1.KeepsAlive → connection.KeepsAlive) ∧
      (packetDecoder rendering).frames connection.stream =
        (state.2 ++ ((packetDecoder rendering).frames state.1.stream).1,
          ((packetDecoder rendering).frames state.1.stream).2))
    (fun readings => readings.Whole rendering connection.stream ∧ ¬readings.Expired ∨
      connection.KeepsAlive ∧ readings.Expired ∧
        readings.packets <+: ((packetDecoder rendering).frames connection.stream).1)
    (fun state next holds turned => ?_) (fun state readings holds turned => ?_) _ ?_
  · obtain ⟨works, alive, framed⟩ := holds
    have reads := readNextPacket_reads rendering state.1
    simp only [readPackets] at turned
    generalize state.1.readNextPacket rendering = read at reads turned
    cases reads with
    | packet first less kept still inForce =>
      cases turned
      refine ⟨still works, fun now => alive (inForce now), ?_⟩
      rw [framed, first, List.append_assoc]
      rfl
    | closed | expired | mistake | broken | blocked => cases turned
  · obtain ⟨works, alive, framed⟩ := holds
    have reads := readNextPacket_reads rendering state.1
    simp only [readPackets] at turned
    generalize state.1.readNextPacket rendering = read at reads turned
    cases reads with
    | packet => cases turned
    | closed rest phase =>
      cases turned
      rw [rest] at framed
      refine Or.inl ⟨⟨?_, ?_⟩, fun expired => ?_⟩
      · rw [framed, List.append_nil]
      · rw [framed]
        rfl
      · cases phase.symm.trans expired.phase
    | expired inForce phase =>
      cases turned
      refine Or.inr ⟨alive inForce, ⟨rfl, phase⟩, ?_⟩
      rw [framed]
      exact List.prefix_append _ _
    | mistake rest =>
      cases turned
      rw [rest] at framed
      refine Or.inl ⟨⟨?_, ?_⟩, fun expired => ?_⟩
      · rw [framed, List.append_nil]
      · rw [framed]
        rfl
      · cases expired.ended
    | broken broken | blocked broken => exact absurd works broken
  · exact ⟨works, id, rfl⟩

/-- Decoding does not depend on how the bytes arrive. -/
structure Independent (rendering : Rendering) : Prop where
  within : ∀ (bytes : List UInt8) (packet : MqttIncomingPacket) (used : Nat),
    decodePacket rendering bytes = .ok (some (packet, used)) → used ≤ bytes.length
  extend : ∀ (bytes : List UInt8) (packet : MqttIncomingPacket) (used : Nat),
    decodePacket rendering bytes = .ok (some (packet, used)) →
    ∀ more, decodePacket rendering (bytes ++ more) = .ok (some (packet, used))
  awaits : ∀ (bytes : List UInt8) (packet : MqttIncomingPacket) (used : Nat),
    decodePacket rendering bytes = .ok (some (packet, used)) →
    ∀ count < used, decodePacket rendering (bytes.take count) = .ok none
  persists : ∀ (bytes : List UInt8) (err : VmError), decodePacket rendering bytes = .error err →
    ∀ more, decodePacket rendering (bytes ++ more) = .error err
  /-- The packets and the first mistake are those of the bytes that arrive, in whatever pieces and
  with whatever pauses; only the keep-alive can end the reading before. -/
  reads : ∀ connection : Connection, connection.Works →
    ¬(connection.KeepsAlive ∧ (connection.readings rendering).Expired) →
    (connection.readings rendering).Whole rendering connection.stream
  /-- Even then the packets up to there are those of the bytes. -/
  expires : ∀ connection : Connection, connection.Works →
    (connection.readings rendering).packets <+:
      ((packetDecoder rendering).frames connection.stream).1
  /-- Two connections on which the same bytes arrive give the same. -/
  agree : ∀ left right : Connection, left.Works → right.Works → left.stream = right.stream →
    ¬(left.readings rendering).Expired → ¬(right.readings rendering).Expired →
    (left.readings rendering).packets = (right.readings rendering).packets ∧
      (left.readings rendering).ended = (right.readings rendering).ended

/-- The packets of a stream do not depend on the reads that bring it. -/
theorem decoding_independent (rendering : Rendering) : Independent rendering := by
  have whole {connection : Connection} (works : connection.Works)
      (lasting : ¬(connection.readings rendering).Expired) :
      (connection.readings rendering).Whole rendering connection.stream := by
    rcases readings_whole_or_expired works with ⟨whole, -⟩ | ⟨-, expired, -⟩
    · exact whole
    · exact absurd expired lasting
  refine ⟨fun _ _ _ decoded => (decodePacket_within decoded).2,
    fun _ _ _ decoded more => decodePacket_extend decoded,
    fun _ _ _ decoded _ before => decodePacket_awaits decoded before,
    fun _ _ failed more => decodePacket_persists failed,
    fun connection works lasting => ?_, fun connection works => ?_,
    fun left right works works' same lasting lasting' => ?_⟩
  · rcases readings_whole_or_expired works with ⟨whole, -⟩ | ⟨alive, expired, -⟩
    · exact whole
    · exact absurd ⟨alive, expired⟩ lasting
  · rcases readings_whole_or_expired works with ⟨whole, -⟩ | ⟨-, -, front⟩
    · exact ⟨[], by rw [List.append_nil, whole.packets]⟩
    · exact front
  have first := whole works lasting
  have second := whole works' lasting'
  rw [first.packets, first.ended, second.packets, second.ended, same]
  exact ⟨rfl, rfl⟩

end PdEdge.Mqtt

import PdEdge.Http1.Basic
import PdEdge.Lib.Loop
import PdEdge.Lib.Numerals
import PdEdge.Lib.Text

/-!
# MQTT packets

The codec of the MQTT client: what it sends, and how it reads what has arrived. A packet is a
header byte, the length of its body in groups of seven bits and the body. Text is written behind
its length in two bytes, and a section of properties behind its length in groups. An encoder
refuses what does not fit, and what an encoder returns is read back as it was, whatever follows.
-/

namespace PdEdge.Mqtt

open Iteration Numerals Text List

/-- `MqttIncomingPacket`. -/
inductive MqttIncomingPacket where
  | connAck (reasonCode : UInt8)
  | publish (topic : List Char) (payload : List UInt8) (qos : UInt8) (retain dup : Bool)
      (packetId : Option UInt16)
  | pubAck (packetId : UInt16) (reasonCode : UInt8)
  | subAck (packetId : UInt16) (reasonCodes : List UInt8)
  | unsubAck (packetId : UInt16) (reasonCodes : List UInt8)
  | pingResp
  | disconnect (reasonCode : UInt8)
  deriving DecidableEq

/-- The texts of bytes that are not UTF-8, of a packet and of an error. -/
structure Rendering where
  utf8Error : List UInt8 → String
  packet : MqttIncomingPacket → String
  error : VmError → String

/-- The part of `MqttConnectConfig` that is sent. -/
structure MqttConnectConfig where
  clientId : List Char
  username : Option (List Char)
  password : Option (List Char)
  keepAliveSecs : UInt16
  cleanStart : Bool

/-! ## Encoding -/

/-- The loop of `encode_variable_int`. -/
def encodeVariableIntLoop : Loop (Nat × List UInt8) (List UInt8) where
  turn state :=
    let byte := UInt8.ofNat (state.1 % 128)
    let value := state.1 / 128
    let byte := if value > 0 then byte ||| 0x80 else byte
    let encoded := state.2 ++ [byte]
    if value = 0 then .leave encoded else .again (value, encoded)
  measure state := state.1
  lowers state next turned := by
    dsimp only at turned
    split at turned
    · cases turned
    · cases turned
      show state.1 / 128 < state.1
      omega

/-- `encode_variable_int`. -/
def encodeVariableInt (value : Nat) : Except VmError (List UInt8) :=
  if value > 268435455 then
    .error (.hostError s!"mqtt remaining length {value} exceeds protocol maximum")
  else .ok (encodeVariableIntLoop.run (value, []))

/-- `encode_utf8`. -/
def encodeUtf8 (value : List Char) : Except VmError (List UInt8) :=
  let bytes := toUtf8 value
  if bytes.length ≤ 65535 then .ok (toBeBytes (UInt16.ofNat bytes.length) ++ bytes)
  else .error (.hostError s!"mqtt string exceeds 65535 bytes: {bytes.length}")

/-- `encode_fixed_packet`. -/
def encodeFixedPacket (header : UInt8) (body : List UInt8) : Except VmError (List UInt8) := do
  let length ← encodeVariableInt body.length
  return [header] ++ length ++ body

/-- An optional text of `encode_connect_packet`. -/
def encodeOptional (value : Option (List Char)) : Except VmError (List UInt8) :=
  match value with
  | some value => encodeUtf8 value
  | none => .ok []

/-- `encode_connect_packet`. -/
def encodeConnectPacket (config : MqttConnectConfig) : Except VmError (List UInt8) := do
  let protocol ← encodeUtf8 ['M', 'Q', 'T', 'T']
  let flags : UInt8 := (if config.cleanStart then 0b00000010 else 0) |||
    (if config.username.isSome then 0b10000000 else 0) |||
    (if config.password.isSome then 0b01000000 else 0)
  let clientId ← encodeUtf8 config.clientId
  let username ← encodeOptional config.username
  let password ← encodeOptional config.password
  encodeFixedPacket 0x10
    (protocol ++ [0x05, flags] ++ toBeBytes config.keepAliveSecs ++ [0] ++ clientId ++ username ++
      password)

/-- The packet id of a publish packet. -/
def packetIdBytes (packetId : Option UInt16) : List UInt8 := (packetId.map toBeBytes).getD []

/-- `encode_publish_packet`. -/
def encodePublishPacket (topic : List Char) (payload : List UInt8) (qos : UInt8) (retain : Bool)
    (packetId : Option UInt16) : Except VmError (List UInt8) := do
  let topic ← encodeUtf8 topic
  let header := (0b00110000 : UInt8) ||| (qos &&& 0x03) <<< 1 ||| (if retain then 0b00000001 else 0)
  encodeFixedPacket header (topic ++ packetIdBytes packetId ++ [0] ++ payload)

/-- `encode_subscribe_packet`. -/
def encodeSubscribePacket (filter : List Char) (qos : UInt8) (packetId : UInt16) :
    Except VmError (List UInt8) := do
  let filter ← encodeUtf8 filter
  encodeFixedPacket 0x82 (toBeBytes packetId ++ [0] ++ filter ++ [qos &&& 0x03])

/-- `encode_unsubscribe_packet`. -/
def encodeUnsubscribePacket (filter : List Char) (packetId : UInt16) :
    Except VmError (List UInt8) := do
  let filter ← encodeUtf8 filter
  encodeFixedPacket 0xA2 (toBeBytes packetId ++ [0] ++ filter)

/-- `encode_puback_packet`. -/
def encodePubackPacket (packetId : UInt16) : Except VmError (List UInt8) :=
  encodeFixedPacket 0x40 (toBeBytes packetId ++ [0x00, 0x00])

/-- `encode_pingreq_packet`. -/
def encodePingreqPacket : Except VmError (List UInt8) := encodeFixedPacket 0xC0 []

/-- The properties of `encode_disconnect_packet`. -/
def reasonProperties (reasonText : List Char) : Except VmError (List UInt8) :=
  if reasonText = [] then .ok []
  else do
    let text ← encodeUtf8 reasonText
    return 0x1f :: text

/-- `encode_disconnect_packet`. -/
def encodeDisconnectPacket (reasonCode : UInt8) (reasonText : List Char) :
    Except VmError (List UInt8) :=
  if reasonCode = 0 ∧ reasonText = [] then .ok [0xE0, 0x00]
  else do
    let properties ← reasonProperties reasonText
    let length ← encodeVariableInt properties.length
    encodeFixedPacket 0xE0 ([reasonCode] ++ length ++ properties)

/-! ## Decoding -/

/-- `decode_variable_int`. -/
def decodeVariableInt (bytes : List UInt8) : Except VmError (Option (Nat × Nat)) :=
  match readCode (bytes.take 4) 0 1 0 with
  | some found => .ok (some found)
  | none =>
    if bytes.length ≥ 4 then .error (.hostError "mqtt variable length integer exceeds 4 bytes")
    else .ok none

/-- `decode_u16`, with the offset behind the number. -/
def decodeU16 (bytes : List UInt8) (offset : Nat) (field : String) :
    Except VmError (UInt16 × Nat) :=
  if offset + 2 > bytes.length then .error (.hostError s!"mqtt {field} is truncated")
  else .ok (fromBeBytes (bytes.getD offset 0) (bytes.getD (offset + 1) 0), offset + 2)

/-- `decode_properties_length`, with the offset behind the length. -/
def decodePropertiesLength (bytes : List UInt8) (offset : Nat) : Except VmError (Nat × Nat) := do
  match ← decodeVariableInt (bytes.drop offset) with
  | none => .error (.hostError "mqtt properties length is truncated")
  | some (length, encodedLen) =>
    if offset + encodedLen + length > bytes.length then
      .error (.hostError "mqtt properties are truncated")
    else .ok (length, offset + encodedLen)

section

variable (rendering : Rendering)

/-- `decode_utf8`, with the offset behind the text. -/
def decodeUtf8 (bytes : List UInt8) (offset : Nat) (field : String) :
    Except VmError (List Char × Nat) := do
  let (length, offset) ← decodeU16 bytes offset field
  if offset + length.toNat > bytes.length then .error (.hostError s!"mqtt {field} is truncated")
  else
    let text := (bytes.drop offset).take length.toNat
    match fromUtf8 text with
    | some value => .ok (value, offset + length.toNat)
    | none => .error (.hostError s!"mqtt {field} is not valid utf-8: {rendering.utf8Error text}")

/-- The body of a connack. -/
def decodeConnAck (body : List UInt8) : Except VmError MqttIncomingPacket := do
  if body.length < 2 then .error (.hostError "mqtt connack is truncated")
  else
    let (length, offset) ← decodePropertiesLength body 2
    if offset + length ≠ body.length then
      .error (.hostError "mqtt connack properties are malformed")
    else .ok (.connAck (body.getD 1 0))

/-- The packet id of a publish packet. -/
def decodePublishId (qos : UInt8) (body : List UInt8) (offset : Nat) :
    Except VmError (Option UInt16 × Nat) :=
  if qos > 0 then do
    let (packetId, offset) ← decodeU16 body offset "publish packet id"
    return (some packetId, offset)
  else .ok (none, offset)

/-- The body of a publish packet. -/
def decodePublish (flags : UInt8) (body : List UInt8) : Except VmError MqttIncomingPacket := do
  let retain := decide (flags &&& 0x01 ≠ 0)
  let qos := (flags >>> 1) &&& 0x03
  let dup := decide (flags &&& 0x08 ≠ 0)
  if qos > 1 then .error (.hostError "mqtt qos 2 is not supported in this milestone")
  else
    let (topic, offset) ← decodeUtf8 rendering body 0 "publish topic"
    let (packetId, offset) ← decodePublishId qos body offset
    let (length, offset) ← decodePropertiesLength body offset
    if offset + length > body.length then
      .error (.hostError "mqtt publish properties are malformed")
    else .ok (.publish topic (body.drop (offset + length)) qos retain dup packetId)

/-- The body of a puback. -/
def decodePubAck (body : List UInt8) : Except VmError MqttIncomingPacket := do
  let (packetId, offset) ← decodeU16 body 0 "puback packet id"
  let reasonCode := if offset < body.length then body.getD offset 0 else 0
  let offset := if offset < body.length then offset + 1 else offset
  if offset < body.length then
    let (length, offset) ← decodePropertiesLength body offset
    if offset + length ≠ body.length then
      .error (.hostError "mqtt puback properties are malformed")
    else .ok (.pubAck packetId reasonCode)
  else .ok (.pubAck packetId reasonCode)

/-- The body of a suback or unsuback. -/
def decodeReasons (kind : String) (packet : UInt16 → List UInt8 → MqttIncomingPacket)
    (body : List UInt8) : Except VmError MqttIncomingPacket := do
  let (packetId, offset) ← decodeU16 body 0 s!"{kind} packet id"
  let (length, offset) ← decodePropertiesLength body offset
  if offset + length > body.length then
    .error (.hostError s!"mqtt {kind} properties are malformed")
  else .ok (packet packetId (body.drop (offset + length)))

/-- The body of a packet. -/
def decodeBody (packetType flags : UInt8) (body : List UInt8) :
    Except VmError MqttIncomingPacket :=
  if packetType = 2 then decodeConnAck body
  else if packetType = 3 then decodePublish rendering flags body
  else if packetType = 4 then decodePubAck body
  else if packetType = 9 then decodeReasons "suback" .subAck body
  else if packetType = 11 then decodeReasons "unsuback" .unsubAck body
  else if packetType = 13 then .ok .pingResp
  else if packetType = 14 then .ok (.disconnect (body.head?.getD 0))
  else .error (.hostError s!"unsupported mqtt control packet type {packetType}")

/-- `decode_packet`. -/
def decodePacket (bytes : List UInt8) : Except VmError (Option (MqttIncomingPacket × Nat)) := do
  if bytes.length < 2 then return none
  else
    let header := bytes.headD 0
    match ← decodeVariableInt bytes.tail with
    | none => return none
    | some (remainingLen, encodedLen) =>
      let totalLen := 1 + encodedLen + remainingLen
      if bytes.length < totalLen then return none
      else
        let body := (bytes.drop (1 + encodedLen)).take remainingLen
        let packet ← decodeBody rendering (header >>> 4) (header &&& 0x0f) body
        return some (packet, totalLen)

end

/-! ## Encoders and their codes -/

theorem encodeVariableIntLoop_last {value : Nat} (small : value < 128) {front : List UInt8} :
    encodeVariableIntLoop.run (value, front) = front ++ [UInt8.ofNat value] := by
  apply Loop.run_leave
  have none : value / 128 = 0 := by omega
  have same : value % 128 = value := Nat.mod_eq_of_lt small
  rw [encodeVariableIntLoop]
  simp only [none, same, if_neg (Nat.lt_irrefl 0), if_true]

theorem encodeVariableIntLoop_more {value : Nat} (large : ¬value < 128) (front : List UInt8) :
    encodeVariableIntLoop.run (value, front) =
      encodeVariableIntLoop.run (value / 128, front ++ [UInt8.ofNat (value % 128) ||| 0x80]) := by
  apply Loop.run_again
  have rest : 0 < value / 128 := by omega
  rw [encodeVariableIntLoop]
  simp only [if_pos rest, if_neg (Nat.ne_of_gt rest)]

/-- The loop writes a code of the number behind what is there. -/
theorem encodeVariableIntLoop_code (width : Nat) {value : Nat} (fits : value < 128 ^ (width + 1))
    (front : List UInt8) :
    ∃ code, encodeVariableIntLoop.run (value, front) = front ++ code ∧ Code code value ∧
      code.length ≤ width + 1 := by
  induction width generalizing value front with
  | zero =>
    have small : value < 128 := by simpa using fits
    have code := @Code.last (UInt8.ofNat value) (by rwa [group_toNat small])
    rw [group_toNat small, Nat.mod_eq_of_lt small] at code
    exact ⟨_, encodeVariableIntLoop_last small, code, le_rfl⟩
  | succ width ih =>
    by_cases small : value < 128
    · have code := @Code.last (UInt8.ofNat value) (by rwa [group_toNat small])
      rw [group_toNat small, Nat.mod_eq_of_lt small] at code
      exact ⟨_, encodeVariableIntLoop_last small, code, by simp⟩
    have below : value % 128 < 128 := Nat.mod_lt _ (by decide)
    have marked := marked_toNat below
    have rest : value / 128 < 128 ^ (width + 1) := by
      rw [Nat.div_lt_iff_lt_mul (by decide)]
      exact fits
    obtain ⟨code, ran, is, short⟩ := ih rest (front ++ [UInt8.ofNat (value % 128) ||| 0x80])
    have whole := @Code.more (UInt8.ofNat (value % 128) ||| 0x80) code _ (by omega) is
    have number : (UInt8.ofNat (value % 128) ||| 0x80).toNat % 128 + value / 128 * 128 = value := by
      omega
    rw [number] at whole
    refine ⟨_ :: code, ?_, whole, by simpa using short⟩
    rw [encodeVariableIntLoop_more small, ran, append_assoc, singleton_append]

/-- A number that can be written is written as a code of four bytes at most. -/
theorem encodeVariableInt_code {value : Nat} {encoded : List UInt8}
    (written : encodeVariableInt value = .ok encoded) :
    Code encoded value ∧ encoded.length ≤ 4 := by
  rw [encodeVariableInt] at written
  split at written
  · cases written
  · obtain ⟨code, ran, is, short⟩ := @encodeVariableIntLoop_code 3 value (by omega) []
    obtain rfl : code = encoded := by simpa [ran] using written
    exact ⟨is, short⟩

theorem encodeVariableInt_isOk_iff (value : Nat) :
    (∃ encoded, encodeVariableInt value = .ok encoded) ↔ value ≤ 268435455 := by
  rw [encodeVariableInt]
  split
  · exact iff_of_false (by simp) (by omega)
  · exact iff_of_true ⟨_, rfl⟩ (by omega)

/-- A code of four bytes at most is read, whatever follows. -/
theorem decodeVariableInt_code {code : List UInt8} {value : Nat} (is : Code code value)
    (short : code.length ≤ 4) (rest : List UInt8) :
    decodeVariableInt (code ++ rest) = .ok (some (value, code.length)) := by
  have front : (code ++ rest).take 4 = code ++ rest.take (4 - code.length) := by
    rw [take_append, take_of_length_le short]
  rw [decodeVariableInt, front, readCode_of_code is]
  simp

/-- What `decode_variable_int` finds in bytes. -/
inductive VariableInt (bytes : List UInt8) : Except VmError (Option (Nat × Nat)) → Prop where
  | found {code rest : List UInt8} {value : Nat} (split : bytes = code ++ rest)
      (is : Code code value) (short : code.length ≤ 4) :
      VariableInt bytes (.ok (some (value, code.length)))
  | long (marked : ∀ byte ∈ bytes.take 4, ¬byte.toNat < 128) (enough : 4 ≤ bytes.length) :
      VariableInt bytes (.error (.hostError "mqtt variable length integer exceeds 4 bytes"))
  | missing (marked : ∀ byte ∈ bytes, ¬byte.toNat < 128) (few : bytes.length < 4) :
      VariableInt bytes (.ok none)

theorem decodeVariableInt_finds (bytes : List UInt8) :
    VariableInt bytes (decodeVariableInt bytes) := by
  rcases code_or_marked with ⟨code, value, rest, front, is⟩ | marked
  · have whole : bytes = code ++ (rest ++ bytes.drop 4) := by
      rw [← append_assoc, ← front, take_append_drop]
    have short : code.length ≤ 4 := by
      have lengths := congrArg length front
      rw [length_append, length_take] at lengths
      omega
    have read := decodeVariableInt_code is short (rest ++ bytes.drop 4)
    rw [← whole] at read
    rw [read]
    exact .found whole is short
  · rw [decodeVariableInt, readCode_marked marked]
    by_cases enough : bytes.length ≥ 4
    · simp only [if_pos enough]
      exact .long marked enough
    · simp only [if_neg enough]
      rw [take_of_length_le (by omega)] at marked
      exact .missing marked (by omega)

/-! ## Reading back -/

theorem decodeU16_toBeBytes (front : List UInt8) (word : UInt16) (rest : List UInt8)
    (field : String) :
    decodeU16 (front ++ toBeBytes word ++ rest) front.length field =
      .ok (word, (front ++ toBeBytes word).length) := by
  have enough : ¬front.length + 2 > (front ++ toBeBytes word ++ rest).length := by
    simp only [toBeBytes, length_append, length_cons]
    omega
  have high : (front ++ toBeBytes word ++ rest).getD front.length 0 = (word >>> 8).toUInt8 := by
    simp [toBeBytes]
  have low : (front ++ toBeBytes word ++ rest).getD (front.length + 1) 0 = word.toUInt8 := by
    simp [toBeBytes]
  rw [decodeU16, if_neg enough, high, low, fromBeBytes_toBeBytes]
  simp [toBeBytes]

variable {value topic reasonText : List Char} {header qos : UInt8} {packetId : Option UInt16}

theorem encodeUtf8_eq_ok {encoded : List UInt8} (written : encodeUtf8 value = .ok encoded) :
    (toUtf8 value).length ≤ 65535 ∧
      encoded = toBeBytes (UInt16.ofNat (toUtf8 value).length) ++ toUtf8 value := by
  rw [encodeUtf8] at written
  split at written
  · rename_i fits
    cases written
    exact ⟨fits, rfl⟩
  · cases written

theorem decodeUtf8_encodeUtf8 {encoded : List UInt8} (written : encodeUtf8 value = .ok encoded)
    (rendering : Rendering) (front rest : List UInt8) (field : String) :
    decodeUtf8 rendering (front ++ encoded ++ rest) front.length field =
      .ok (value, (front ++ encoded).length) := by
  obtain ⟨fits, rfl⟩ := encodeUtf8_eq_ok written
  have length : (UInt16.ofNat (toUtf8 value).length).toNat = (toUtf8 value).length := by
    rw [UInt16.toNat_ofNat']
    omega
  generalize UInt16.ofNat (toUtf8 value).length = word at length
  have read := decodeU16_toBeBytes front word (toUtf8 value ++ rest) field
  rw [← append_assoc, append_assoc front] at read
  have enough : ¬(front ++ toBeBytes word).length + word.toNat >
      (front ++ (toBeBytes word ++ toUtf8 value) ++ rest).length := by
    simp only [length_append, length]
    omega
  have text : ((front ++ (toBeBytes word ++ toUtf8 value) ++ rest).drop
      (front ++ toBeBytes word).length).take word.toNat = toUtf8 value := by
    rw [← append_assoc, append_assoc _ (toUtf8 value), drop_left, length, take_left]
  simp only [decodeUtf8, read, bind, Except.bind, if_neg enough, text, fromUtf8_toUtf8]
  simp [length, Nat.add_assoc]

/-- A section of no properties. -/
theorem decodePropertiesLength_zero (front rest : List UInt8) :
    decodePropertiesLength (front ++ [0] ++ rest) front.length =
      .ok (0, (front ++ [0]).length) := by
  have code : Code [0] 0 := @Code.last 0 (by decide)
  have read := decodeVariableInt_code code (by decide) rest
  have enough : ¬front.length + [(0 : UInt8)].length + 0 > (front ++ ([0] ++ rest)).length := by
    simp only [length_append]
    omega
  rw [decodePropertiesLength, append_assoc front, drop_left, read]
  simp only [bind, Except.bind, if_neg enough]
  rw [length_append]

/-- A whole packet is found, and its body is read. -/
theorem decodePacket_whole {code body : List UInt8} (is : Code code body.length)
    (short : code.length ≤ 4) (rendering : Rendering) (header : UInt8) (rest : List UInt8) :
    decodePacket rendering (header :: (code ++ (body ++ rest))) =
      (decodeBody rendering (header >>> 4) (header &&& 0x0f) body).map
        fun packet => some (packet, 1 + code.length + body.length) := by
  have nonempty := is.length_pos
  have two : ¬(header :: (code ++ (body ++ rest))).length < 2 := by
    simp only [length_cons, length_append]
    omega
  have read := decodeVariableInt_code is short (body ++ rest)
  have enough : ¬(header :: (code ++ (body ++ rest))).length < 1 + code.length + body.length := by
    simp only [length_cons, length_append]
    omega
  have inner : ((header :: (code ++ (body ++ rest))).drop (1 + code.length)).take body.length =
      body := by
    rw [Nat.add_comm, drop_succ_cons, drop_left, take_left]
  simp only [decodePacket, if_neg two, tail_cons, read, bind, Except.bind, if_neg enough,
    inner, headD_cons]
  cases decodeBody rendering (header >>> 4) (header &&& 0x0f) body <;> rfl

attribute [local simp] bind Except.bind

theorem encodeFixedPacket_eq_ok {body encoded : List UInt8}
    (written : encodeFixedPacket header body = .ok encoded) :
    ∃ code, Code code body.length ∧ code.length ≤ 4 ∧ encoded = header :: (code ++ body) := by
  rw [encodeFixedPacket] at written
  cases length : encodeVariableInt body.length with
  | error err => simp [length] at written
  | ok code =>
    obtain ⟨is, short⟩ := encodeVariableInt_code length
    refine ⟨code, is, short, ?_⟩
    simpa [length, pure, Except.pure] using written.symm

/-- A packet that was written is found, and its body is read. -/
theorem decodePacket_encodeFixedPacket {body encoded : List UInt8}
    (written : encodeFixedPacket header body = .ok encoded) (rendering : Rendering)
    (trailing : List UInt8) :
    decodePacket rendering (encoded ++ trailing) =
      (decodeBody rendering (header >>> 4) (header &&& 0x0f) body).map
        fun packet => some (packet, encoded.length) := by
  obtain ⟨code, is, short, rfl⟩ := encodeFixedPacket_eq_ok written
  rw [cons_append, append_assoc, decodePacket_whole is short]
  have length : (header :: (code ++ body)).length = 1 + code.length + body.length := by
    simp only [length_cons, length_append]
    omega
  rw [length]

/-- The flags of a publish packet. -/
theorem publish_header (low : qos ≤ 1) {retain : Bool} : let header :=
      (0b00110000 : UInt8) ||| (qos &&& 0x03) <<< 1 ||| (if retain then 0b00000001 else 0)
    header >>> 4 = 3 ∧ ((header &&& 0x0f) >>> 1) &&& 0x03 = qos ∧
      decide (header &&& 0x0f &&& 0x01 ≠ 0) = retain ∧
      decide (header &&& 0x0f &&& 0x08 ≠ 0) = false := by
  have cases : qos = 0 ∨ qos = 1 := by
    have small : qos.toNat ≤ 1 := low
    rcases Nat.le_one_iff_eq_zero_or_eq_one.mp small with zero | one
    · exact Or.inl (UInt8.toNat_inj.mp zero)
    · exact Or.inr (UInt8.toNat_inj.mp one)
  rcases cases with rfl | rfl <;> cases retain <;> decide

/-- The packet id is read where one was written. -/
theorem decodePublishId_packetIdBytes (low : qos ≤ 1) (given : packetId.isSome = true ↔ qos = 1)
    (front rest : List UInt8) :
    decodePublishId qos (front ++ packetIdBytes packetId ++ rest) front.length =
      .ok (packetId, (front ++ packetIdBytes packetId).length) := by
  cases packetId with
  | none =>
    have zero : ¬qos > 0 := by
      have other : qos ≠ 1 := by simpa using given
      intro positive
      exact other (UInt8.le_antisymm low positive)
    rw [decodePublishId, if_neg zero]
    simp [packetIdBytes]
  | some word =>
    obtain rfl : qos = 1 := given.mp rfl
    have read := decodeU16_toBeBytes front word rest "publish packet id"
    show (decodeU16 (front ++ toBeBytes word ++ rest) front.length "publish packet id" >>= _) = _
    rw [read]
    rfl

/-- The body of a publish packet is read as it was written. -/
theorem decodePublish_body {text : List UInt8} (written : encodeUtf8 topic = .ok text)
    (rendering : Rendering) {flags : UInt8} (read : (flags >>> 1) &&& 0x03 = qos) (low : qos ≤ 1)
    (given : packetId.isSome = true ↔ qos = 1) (payload : List UInt8) :
    decodePublish rendering flags (text ++ packetIdBytes packetId ++ [0] ++ payload) =
      .ok (.publish topic payload qos (decide (flags &&& 0x01 ≠ 0)) (decide (flags &&& 0x08 ≠ 0))
        packetId) := by
  have topicRead := decodeUtf8_encodeUtf8 written rendering []
    (packetIdBytes packetId ++ [0] ++ payload) "publish topic"
  have idRead := decodePublishId_packetIdBytes low given text ([0] ++ payload)
  have propertiesRead := decodePropertiesLength_zero (text ++ packetIdBytes packetId) payload
  simp only [nil_append, length_nil, ← append_assoc] at topicRead
  rw [← append_assoc] at idRead
  have supported : ¬qos > 1 := UInt8.not_lt.mpr low
  have enough : ¬(text ++ packetIdBytes packetId ++ [0]).length + 0 >
      (text ++ packetIdBytes packetId ++ [0] ++ payload).length := by
    simp only [length_append]
    omega
  simp only [decodePublish, read, if_neg supported, topicRead, idRead, propertiesRead, bind,
    Except.bind, if_neg enough]
  rw [Nat.add_zero, drop_left]

/-- The body of a puback is read as it was written. -/
theorem decodePubAck_body (packetId : UInt16) :
    decodePubAck (toBeBytes packetId ++ [0x00, 0x00]) = .ok (.pubAck packetId 0) := by
  have idRead := decodeU16_toBeBytes [] packetId [0, 0] "puback packet id"
  have propertiesRead : decodePropertiesLength (toBeBytes packetId ++ [0, 0]) 3 = .ok (0, 4) :=
    decodePropertiesLength_zero (toBeBytes packetId ++ [0]) []
  simp only [nil_append, length_nil] at idRead
  have length : (toBeBytes packetId).length = 2 := rfl
  have whole : (toBeBytes packetId ++ [0x00, 0x00]).length = 4 := rfl
  have reason : (toBeBytes packetId ++ [0x00, 0x00]).getD 2 0 = 0 := rfl
  simp only [decodePubAck, idRead, bind, Except.bind, length, whole, reason, Nat.reduceLT,
    Nat.reduceAdd, ↓reduceIte, propertiesRead, ne_eq, not_true_eq_false]

/-! ## What can be written -/

theorem bind_isOk_iff {ε α β : Type} {first : Except ε α} {next : α → Except ε β} :
    (∃ result, (first >>= next) = .ok result) ↔
      ∃ value, first = .ok value ∧ ∃ result, next value = .ok result := by
  cases first with
  | error err | ok value => simp

theorem encodeUtf8_isOk_iff (value : List Char) :
    (∃ encoded, encodeUtf8 value = .ok encoded) ↔ (toUtf8 value).length ≤ 65535 := by
  rw [encodeUtf8]
  split
  · rename_i fits
    exact iff_of_true ⟨_, rfl⟩ fits
  · rename_i long
    exact iff_of_false (by simp) long

theorem encodeFixedPacket_isOk_iff (header : UInt8) (body : List UInt8) :
    (∃ encoded, encodeFixedPacket header body = .ok encoded) ↔ body.length ≤ 268435455 := by
  rw [encodeFixedPacket, bind_isOk_iff, ← encodeVariableInt_isOk_iff]
  exact ⟨fun ⟨code, written, _⟩ => ⟨code, written⟩, fun ⟨code, written⟩ => ⟨code, written, _, rfl⟩⟩

/-- What is written behind a text can be written exactly if the text fits and the rest does. -/
theorem behind_text_isOk_iff {α : Type} (value : List Char) (next : List UInt8 → Except VmError α) :
    (∃ result, (encodeUtf8 value >>= next) = .ok result) ↔
      (toUtf8 value).length ≤ 65535 ∧
        ∃ result, next (toBeBytes (UInt16.ofNat (toUtf8 value).length) ++ toUtf8 value) =
          .ok result := by
  rw [bind_isOk_iff]
  constructor
  · rintro ⟨encoded, written, result, rest⟩
    obtain ⟨fits, rfl⟩ := encodeUtf8_eq_ok written
    exact ⟨fits, result, rest⟩
  rintro ⟨fits, result, rest⟩
  obtain ⟨encoded, written⟩ := (encodeUtf8_isOk_iff value).mpr fits
  obtain ⟨-, rfl⟩ := encodeUtf8_eq_ok written
  exact ⟨_, written, result, rest⟩

theorem encodePublishPacket_isOk_iff (topic : List Char) (payload : List UInt8) (qos : UInt8)
    (retain : Bool) (packetId : Option UInt16) :
    (∃ encoded, encodePublishPacket topic payload qos retain packetId = .ok encoded) ↔
      (toUtf8 topic).length ≤ 65535 ∧
        2 + (toUtf8 topic).length + (packetIdBytes packetId).length + 1 + payload.length ≤
          268435455 := by
  rw [encodePublishPacket, behind_text_isOk_iff, encodeFixedPacket_isOk_iff]
  simp only [length_append, toBeBytes, length_cons, length_nil, Nat.zero_add]

theorem encodePubackPacket_isOk (packetId : UInt16) :
    ∃ encoded, encodePubackPacket packetId = .ok encoded := by
  rw [encodePubackPacket, encodeFixedPacket_isOk_iff]
  simp [toBeBytes]

theorem encodeSubscribePacket_isOk_iff (filter : List Char) (qos : UInt8) (packetId : UInt16) :
    (∃ encoded, encodeSubscribePacket filter qos packetId = .ok encoded) ↔
      (toUtf8 filter).length ≤ 65535 := by
  rw [encodeSubscribePacket, behind_text_isOk_iff, encodeFixedPacket_isOk_iff, and_iff_left_iff_imp]
  simp only [length_append, toBeBytes, length_cons, length_nil]
  omega

theorem encodeUnsubscribePacket_isOk_iff (filter : List Char) (packetId : UInt16) :
    (∃ encoded, encodeUnsubscribePacket filter packetId = .ok encoded) ↔
      (toUtf8 filter).length ≤ 65535 := by
  rw [encodeUnsubscribePacket, behind_text_isOk_iff, encodeFixedPacket_isOk_iff,
    and_iff_left_iff_imp]
  simp only [length_append, toBeBytes, length_cons, length_nil]
  omega

theorem reasonProperties_eq_ok {properties : List UInt8}
    (written : reasonProperties reasonText = .ok properties) : properties.length ≤ 65538 := by
  rw [reasonProperties] at written
  split at written
  · cases written
    simp
  cases text : encodeUtf8 reasonText with
  | error err => simp [text] at written
  | ok encoded =>
    obtain ⟨fits, rfl⟩ := encodeUtf8_eq_ok text
    simp only [text, bind, Except.bind, pure, Except.pure, Except.ok.injEq] at written
    rw [← written, length_cons, length_append]
    simp only [toBeBytes, length_cons, length_nil]
    omega

theorem reasonProperties_isOk_iff (reasonText : List Char) :
    (∃ properties, reasonProperties reasonText = .ok properties) ↔
      (toUtf8 reasonText).length ≤ 65535 := by
  rw [reasonProperties]
  split
  · rename_i empty
    rw [empty]
    exact iff_of_true ⟨_, rfl⟩ (by simp [toUtf8])
  rw [bind_isOk_iff, ← encodeUtf8_isOk_iff]
  constructor
  · rintro ⟨text, written, -⟩
    exact ⟨text, written⟩
  · rintro ⟨text, written⟩
    exact ⟨text, written, _, rfl⟩

theorem encodeDisconnectPacket_isOk_iff (reasonCode : UInt8) (reasonText : List Char) :
    (∃ encoded, encodeDisconnectPacket reasonCode reasonText = .ok encoded) ↔
      (toUtf8 reasonText).length ≤ 65535 := by
  rw [encodeDisconnectPacket]
  split
  · rename_i plain
    rw [plain.2]
    exact iff_of_true ⟨_, rfl⟩ (by simp [toUtf8])
  rw [bind_isOk_iff, ← reasonProperties_isOk_iff]
  refine exists_congr fun properties => and_iff_left_iff_imp.mpr fun written => ?_
  have short := reasonProperties_eq_ok written
  obtain ⟨length, code⟩ := (encodeVariableInt_isOk_iff properties.length).mpr (by omega)
  rw [bind_isOk_iff]
  refine ⟨length, code, (encodeFixedPacket_isOk_iff _ _).mpr ?_⟩
  have four := (encodeVariableInt_code code).2
  simp only [length_append, length_cons, length_nil]
  omega

theorem encodeOptional_length {value : Option (List Char)} {encoded : List UInt8}
    (written : encodeOptional value = .ok encoded) : encoded.length ≤ 65537 := by
  cases value with
  | none =>
    cases written
    simp
  | some value =>
    obtain ⟨fits, rfl⟩ := encodeUtf8_eq_ok written
    simp only [length_append, toBeBytes, length_cons, length_nil]
    omega

theorem encodeOptional_isOk_iff (value : Option (List Char)) :
    (∃ encoded, encodeOptional value = .ok encoded) ↔
      ∀ text ∈ value, (toUtf8 text).length ≤ 65535 := by
  cases value with
  | none => simp [encodeOptional]
  | some value => simpa [encodeOptional] using encodeUtf8_isOk_iff value

theorem encodeConnectPacket_isOk_iff (config : MqttConnectConfig) :
    (∃ encoded, encodeConnectPacket config = .ok encoded) ↔
      (toUtf8 config.clientId).length ≤ 65535 ∧
        (∀ text ∈ config.username, (toUtf8 text).length ≤ 65535) ∧
        ∀ text ∈ config.password, (toUtf8 text).length ≤ 65535 := by
  rw [encodeConnectPacket, behind_text_isOk_iff, and_iff_right (by decide), behind_text_isOk_iff,
    bind_isOk_iff, ← encodeOptional_isOk_iff, ← encodeOptional_isOk_iff]
  refine and_congr_right fun fits => ?_
  constructor
  · rintro ⟨username, named, written⟩
    obtain ⟨password, kept, -⟩ := bind_isOk_iff.mp written
    exact ⟨⟨username, named⟩, password, kept⟩
  rintro ⟨⟨username, named⟩, password, kept⟩
  refine ⟨username, named, bind_isOk_iff.mpr ⟨password, kept, ?_⟩⟩
  have first := encodeOptional_length named
  have second := encodeOptional_length kept
  rw [encodeFixedPacket_isOk_iff]
  have protocol : (toUtf8 ['M', 'Q', 'T', 'T']).length = 4 := by decide
  simp only [length_append, toBeBytes, length_cons, length_nil, protocol]
  omega

/-! ## The codec -/

/-- What the encoders write is read back, and what does not fit is refused. -/
structure RoundTrips (rendering : Rendering) : Prop where
  publish : ∀ (topic : List Char) (payload : List UInt8) (qos : UInt8) (retain : Bool)
    (packetId : Option UInt16) (encoded trailing : List UInt8), qos ≤ 1 →
    (packetId.isSome = true ↔ qos = 1) →
    encodePublishPacket topic payload qos retain packetId = .ok encoded →
    decodePacket rendering (encoded ++ trailing) =
      .ok (some (.publish topic payload qos retain false packetId, encoded.length))
  puback : ∀ (packetId : UInt16) (encoded trailing : List UInt8),
    encodePubackPacket packetId = .ok encoded →
    decodePacket rendering (encoded ++ trailing) = .ok (some (.pubAck packetId 0, encoded.length))
  disconnect : ∀ (reasonCode : UInt8) (reasonText : List Char) (encoded trailing : List UInt8),
    encodeDisconnectPacket reasonCode reasonText = .ok encoded →
    decodePacket rendering (encoded ++ trailing) =
      .ok (some (.disconnect reasonCode, encoded.length))
  variableInt : ∀ (value : Nat) (encoded trailing : List UInt8),
    encodeVariableInt value = .ok encoded →
    decodeVariableInt (encoded ++ trailing) = .ok (some (value, encoded.length))
  /-- The numbers up to the maximum are those that are written and those that are read. -/
  writable : ∀ value : Nat, (∃ encoded, encodeVariableInt value = .ok encoded) ↔ value ≤ 268435455
  readable : ∀ value : Nat, (∃ bytes used, decodeVariableInt bytes = .ok (some (value, used))) ↔
    value ≤ 268435455
  /-- A text is written exactly if it fits, and so is a packet with its body. -/
  textFits : ∀ value : List Char, (∃ encoded, encodeUtf8 value = .ok encoded) ↔
    (toUtf8 value).length ≤ 65535
  bodyFits : ∀ (header : UInt8) (body : List UInt8),
    (∃ encoded, encodeFixedPacket header body = .ok encoded) ↔ body.length ≤ 268435455
  connectFits : ∀ config : MqttConnectConfig,
    (∃ encoded, encodeConnectPacket config = .ok encoded) ↔
      (toUtf8 config.clientId).length ≤ 65535 ∧
      (∀ text ∈ config.username, (toUtf8 text).length ≤ 65535) ∧
      ∀ text ∈ config.password, (toUtf8 text).length ≤ 65535
  publishFits : ∀ (topic : List Char) (payload : List UInt8) (qos : UInt8) (retain : Bool)
    (packetId : Option UInt16),
    (∃ encoded, encodePublishPacket topic payload qos retain packetId = .ok encoded) ↔
      (toUtf8 topic).length ≤ 65535 ∧
        2 + (toUtf8 topic).length + (packetIdBytes packetId).length + 1 + payload.length ≤ 268435455
  subscribeFits : ∀ (filter : List Char) (qos : UInt8) (packetId : UInt16),
    (∃ encoded, encodeSubscribePacket filter qos packetId = .ok encoded) ↔
      (toUtf8 filter).length ≤ 65535
  unsubscribeFits : ∀ (filter : List Char) (packetId : UInt16),
    (∃ encoded, encodeUnsubscribePacket filter packetId = .ok encoded) ↔
      (toUtf8 filter).length ≤ 65535
  pubackFits : ∀ packetId : UInt16, ∃ encoded, encodePubackPacket packetId = .ok encoded
  disconnectFits : ∀ (reasonCode : UInt8) (reasonText : List Char),
    (∃ encoded, encodeDisconnectPacket reasonCode reasonText = .ok encoded) ↔
      (toUtf8 reasonText).length ≤ 65535

theorem decodeVariableInt_encodeVariableInt {value : Nat} {encoded : List UInt8}
    (written : encodeVariableInt value = .ok encoded) (trailing : List UInt8) :
    decodeVariableInt (encoded ++ trailing) = .ok (some (value, encoded.length)) := by
  obtain ⟨is, short⟩ := encodeVariableInt_code written
  exact decodeVariableInt_code is short trailing

theorem decodeVariableInt_le {bytes : List UInt8} {value used : Nat}
    (read : decodeVariableInt bytes = .ok (some (value, used))) : value ≤ 268435455 := by
  have finds := decodeVariableInt_finds bytes
  rw [read] at finds
  cases finds with
  | found split is short =>
    have below := is.lt_pow
    have most := Nat.pow_le_pow_right (show 0 < 128 by decide) short
    omega

theorem decodePacket_publish {payload : List UInt8} {retain : Bool} {encoded : List UInt8}
    (low : qos ≤ 1) (given : packetId.isSome = true ↔ qos = 1)
    (written : encodePublishPacket topic payload qos retain packetId = .ok encoded)
    {rendering : Rendering} {trailing : List UInt8} :
    decodePacket rendering (encoded ++ trailing) =
      .ok (some (.publish topic payload qos retain false packetId, encoded.length)) := by
  rw [encodePublishPacket] at written
  cases text : encodeUtf8 topic with
  | error err => simp [text] at written
  | ok bytes =>
    simp only [text, bind, Except.bind] at written
    obtain ⟨kind, quality, kept, fresh⟩ := publish_header low
    have body := decodePublish_body text rendering quality low given payload
    rw [kept, fresh] at body
    rw [decodePacket_encodeFixedPacket written, decodeBody, kind, if_neg (by decide), if_pos rfl,
      body]
    rfl

theorem decodePacket_puback {packetId : UInt16} {encoded : List UInt8}
    (written : encodePubackPacket packetId = .ok encoded) {rendering : Rendering}
    {trailing : List UInt8} :
    decodePacket rendering (encoded ++ trailing) =
      .ok (some (.pubAck packetId 0, encoded.length)) := by
  rw [decodePacket_encodeFixedPacket written]
  show (decodePubAck (toBeBytes packetId ++ [0x00, 0x00])).map _ = _
  rw [decodePubAck_body]
  rfl

theorem decodePacket_disconnect {reasonCode : UInt8} {encoded : List UInt8}
    (written : encodeDisconnectPacket reasonCode reasonText = .ok encoded) {rendering : Rendering}
    {trailing : List UInt8} :
    decodePacket rendering (encoded ++ trailing) =
      .ok (some (.disconnect reasonCode, encoded.length)) := by
  rw [encodeDisconnectPacket] at written
  split at written
  · rename_i plain
    cases written
    have zero : Code [0] 0 := @Code.last 0 (by decide)
    have whole := @decodePacket_whole [0] [] zero (by decide) rendering 0xE0 trailing
    rw [plain.1]
    exact whole
  cases properties : reasonProperties reasonText with
  | error err => simp [properties] at written
  | ok section' =>
    cases length : encodeVariableInt section'.length with
    | error err => simp [properties, length] at written
    | ok code =>
      simp only [properties, length, bind, Except.bind] at written
      rw [decodePacket_encodeFixedPacket written]
      rfl

/-- The codec reads back what it writes. -/
theorem codec_roundTrips (rendering : Rendering) : RoundTrips rendering where
  publish _ _ _ _ _ _ trailing low given written := decodePacket_publish low given written
  puback _ _ trailing written := decodePacket_puback written
  disconnect _ _ _ trailing written := decodePacket_disconnect written
  variableInt _ _ trailing written := decodeVariableInt_encodeVariableInt written trailing
  writable := encodeVariableInt_isOk_iff
  readable value := by
    constructor
    · rintro ⟨bytes, used, read⟩
      exact decodeVariableInt_le read
    · intro small
      obtain ⟨encoded, written⟩ := (encodeVariableInt_isOk_iff value).mpr small
      exact ⟨encoded ++ [], _, decodeVariableInt_encodeVariableInt written []⟩
  textFits := encodeUtf8_isOk_iff
  bodyFits := encodeFixedPacket_isOk_iff
  connectFits := encodeConnectPacket_isOk_iff
  publishFits := encodePublishPacket_isOk_iff
  subscribeFits := encodeSubscribePacket_isOk_iff
  unsubscribeFits := encodeUnsubscribePacket_isOk_iff
  pubackFits := encodePubackPacket_isOk
  disconnectFits := encodeDisconnectPacket_isOk_iff

end PdEdge.Mqtt

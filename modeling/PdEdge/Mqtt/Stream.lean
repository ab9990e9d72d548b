import PdEdge.Lib.Framing
import PdEdge.Mqtt.Codec

/-!
# The packets of a stream

`decode_packet` looks at a buffer that grows. It asks for more until the length of the packet and
its whole body are there, and then looks at nothing behind the body; so it is a decoder of frames,
and the packets of a stream do not depend on the reads that bring it.
-/

namespace PdEdge.Mqtt

open Numerals List

variable {rendering : Rendering}

/-! ## What `decode_packet` finds -/

/-- A length that has not arrived asks for more, one that is too long fails. -/
theorem decodePacket_unlengthed {header : UInt8} {rest : List UInt8} (some' : rest ≠ []) :
    (∀ err, decodeVariableInt rest = .error err →
      decodePacket rendering (header :: rest) = .error err) ∧
    (decodeVariableInt rest = .ok none → decodePacket rendering (header :: rest) = .ok none) := by
  have two : ¬(header :: rest).length < 2 := by
    have positive := length_pos_iff.mpr some'
    rw [length_cons]
    omega
  constructor
  · intro err failed
    simp only [decodePacket, if_neg two, tail_cons, failed, bind, Except.bind]
  · intro missing
    simp only [decodePacket, if_neg two, tail_cons, missing, bind, Except.bind]
    rfl

/-- A body that has not arrived asks for more. -/
theorem decodePacket_unfinished {code : List UInt8} {value : Nat} (is : Code code value)
    (short : code.length ≤ 4) {body : List UInt8} (few : body.length < value) (header : UInt8) :
    decodePacket rendering (header :: (code ++ body)) = .ok none := by
  have nonempty := is.length_pos
  have two : ¬(header :: (code ++ body)).length < 2 := by
    simp only [length_cons, length_append]
    omega
  have missing : (header :: (code ++ body)).length < 1 + code.length + value := by
    simp only [length_cons, length_append]
    omega
  simp only [decodePacket, if_neg two, tail_cons, decodeVariableInt_code is short, bind,
    Except.bind, if_pos missing]
  rfl

/-- What `decode_packet` finds in a buffer. -/
inductive PacketAt (rendering : Rendering) :
    List UInt8 → Except VmError (Option (MqttIncomingPacket × Nat)) → Prop where
  /-- The header is missing, or the length behind it. -/
  | few {bytes : List UInt8} (few : bytes.length < 2) : PacketAt rendering bytes (.ok none)
  /-- The length goes on for too long. -/
  | overlong {header : UInt8} {rest : List UInt8} {err : VmError}
      (marked : ∀ byte ∈ rest.take 4, ¬byte.toNat < 128) (enough : 4 ≤ rest.length)
      (failed : decodeVariableInt rest = .error err) :
      PacketAt rendering (header :: rest) (.error err)
  | unlengthed {header : UInt8} {rest : List UInt8} :
      PacketAt rendering (header :: rest) (.ok none)
  | unfinished {header : UInt8} {code body : List UInt8} :
      PacketAt rendering (header :: (code ++ body)) (.ok none)
  | whole {header : UInt8} {code body rest : List UInt8} (is : Code code body.length)
      (short : code.length ≤ 4) :
      PacketAt rendering (header :: (code ++ (body ++ rest)))
        ((decodeBody rendering (header >>> 4) (header &&& 0x0f) body).map
          fun packet => some (packet, 1 + code.length + body.length))

theorem decodePacket_finds (bytes : List UInt8) :
    PacketAt rendering bytes (decodePacket rendering bytes) := by
  by_cases few : bytes.length < 2
  · have nothing : decodePacket rendering bytes = .ok none := by
      rw [decodePacket, if_pos few]
      rfl
    rw [nothing]
    exact .few few
  obtain ⟨header, rest, rfl⟩ : ∃ header rest, bytes = header :: rest := by
    cases bytes with
    | nil => simp at few
    | cons header rest => exact ⟨header, rest, rfl⟩
  have some' : rest ≠ [] := by
    rintro rfl
    simp at few
  have finds := decodeVariableInt_finds rest
  generalize length : decodeVariableInt rest = found at finds
  cases finds with
  | @found code arrived value split is short =>
    subst split
    by_cases enough : value ≤ arrived.length
    · have body : (arrived.take value).length = value := length_take_of_le enough
      rw [← take_append_drop value arrived]
      have is' : Code code (arrived.take value).length := by rwa [body]
      rw [decodePacket_whole is' short]
      exact .whole is' short
    · rw [decodePacket_unfinished is short (by omega)]
      exact .unfinished
  | long marked enough =>
    rw [(decodePacket_unlengthed some').1 _ length]
    exact .overlong marked enough length
  | missing marked few =>
    rw [(decodePacket_unlengthed some').2 length]
    exact .unlengthed

variable {bytes : List UInt8} {packet : MqttIncomingPacket} {used : Nat}

section

variable (decoded : decodePacket rendering bytes = .ok (some (packet, used)))
include decoded

/-- A packet that is found is all there, with its length in front. -/
theorem decodePacket_eq_ok :
    ∃ header code body rest, bytes = header :: (code ++ (body ++ rest)) ∧
      Code code body.length ∧ code.length ≤ 4 ∧ used = 1 + code.length + body.length ∧
      decodeBody rendering (header >>> 4) (header &&& 0x0f) body = .ok packet := by
  have finds := @decodePacket_finds rendering bytes
  generalize decodePacket rendering bytes = found at finds decoded
  cases finds with
  | few | overlong | unlengthed | unfinished => cases decoded
  | @whole header code body rest is short =>
    cases read : decodeBody rendering (header >>> 4) (header &&& 0x0f) body with
    | error err => simp [read, Except.map] at decoded
    | ok found =>
      obtain ⟨rfl, rfl⟩ : found = packet ∧ 1 + code.length + body.length = used := by
        simpa [read, Except.map] using decoded
      exact ⟨header, code, body, rest, rfl, is, short, rfl, read⟩

/-! ## The laws -/

theorem decodePacket_within : 0 < used ∧ used ≤ bytes.length := by
  obtain ⟨header, code, body, rest, rfl, -, -, rfl, -⟩ := decodePacket_eq_ok decoded
  simp only [length_cons, length_append]
  omega

theorem decodePacket_extend {more : List UInt8} :
    decodePacket rendering (bytes ++ more) = .ok (some (packet, used)) := by
  obtain ⟨header, code, body, rest, rfl, is, short, rfl, read⟩ := decodePacket_eq_ok decoded
  rw [cons_append, append_assoc, append_assoc, decodePacket_whole is short, read]
  rfl

theorem decodePacket_awaits {count : Nat} (before : count < used) :
    decodePacket rendering (bytes.take count) = .ok none := by
  obtain ⟨header, code, body, rest, rfl, is, short, rfl, -⟩ := decodePacket_eq_ok decoded
  cases count with
  | zero => rfl
  | succ count =>
    rw [take_succ_cons]
    by_cases inCode : count < code.length
    · -- The length has not arrived: every byte of it that has is marked.
      rw [take_append_of_le_length (Nat.le_of_lt inCode)]
      by_cases none : code.take count = []
      · rw [none]
        rfl
      have marked := is.marked_take inCode
      refine (decodePacket_unlengthed none).2 ?_
      have few : ¬(code.take count).length ≥ 4 := by
        rw [length_take]
        omega
      have front : (code.take count).take 4 = code.take count := take_of_length_le (by omega)
      rw [decodeVariableInt, front, readCode_marked marked]
      simp only [if_neg few]
    · obtain ⟨part, rfl⟩ : ∃ part, count = code.length + part := ⟨count - code.length, by omega⟩
      rw [take_length_add_append]
      refine decodePacket_unfinished is short ?_ header
      rw [length_take]
      omega

end

theorem decodePacket_persists {err : VmError} (failed : decodePacket rendering bytes = .error err)
    {more : List UInt8} : decodePacket rendering (bytes ++ more) = .error err := by
  have finds := @decodePacket_finds rendering bytes
  generalize decodePacket rendering bytes = found at finds failed
  cases finds with
  | few | unlengthed | unfinished => cases failed
  | @overlong header rest _ marked enough length =>
    cases failed
    have some' : rest ++ more ≠ [] := by
      intro empty
      have zero := congrArg List.length empty
      simp only [length_append, length_nil] at zero
      omega
    refine (decodePacket_unlengthed some').1 _ ?_
    have front : (rest ++ more).take 4 = rest.take 4 := take_append_of_le_length enough
    have enough' : (rest ++ more).length ≥ 4 := by
      rw [length_append]
      omega
    rw [decodeVariableInt, readCode_marked marked] at length
    rw [decodeVariableInt, front, readCode_marked marked]
    simpa only [if_pos enough, if_pos enough'] using length
  | @whole header code body rest is short =>
    cases read : decodeBody rendering (header >>> 4) (header &&& 0x0f) body with
    | ok packet => simp [read, Except.map] at failed
    | error found =>
      obtain rfl : found = err := by simpa [read, Except.map] using failed
      rw [cons_append, append_assoc, append_assoc, decodePacket_whole is short, read]
      rfl

/-- `decode_packet` as a decoder of frames. -/
def packetDecoder (rendering : Rendering) : Framing.Decoder VmError MqttIncomingPacket where
  decode := decodePacket rendering
  within _ _ _ := decodePacket_within
  extend _ _ _ := decodePacket_extend
  awaits _ _ _ decoded _ := decodePacket_awaits decoded
  persists _ _ := decodePacket_persists

end PdEdge.Mqtt

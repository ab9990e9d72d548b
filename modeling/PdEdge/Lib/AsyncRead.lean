import PdEdge.Lib.Wire

/-!
# Streams that are polled with a buffer

A poll gives bytes that fit the buffer it is handed, an error, or nothing yet. What the
stream still holds is what it gave followed by what it holds afterwards, so whatever buffers
are used, no byte is lost, repeated or moved. Only so many polls are pending or fail, so polls
that go on bring all of it.
-/

namespace Streams

/-- How a poll ends, with the bytes it put into the buffer. -/
inductive Poll (ε : Type) where
  | pending
  | failed (err : ε)
  | ready (bytes : List UInt8)

/-- The bytes that a poll gave. -/
def Poll.bytes {ε : Type} : Poll ε → List UInt8
  | .ready bytes => bytes
  | _ => []

/-- The poll is pending or fails. -/
def Poll.stalls {ε : Type} : Poll ε → Nat
  | .ready _ => 0
  | _ => 1

/-- A stream that can be polled, and the bytes that it still holds. -/
structure AsyncRead (σ ε : Type) where
  /-- Poll with room for so many bytes. -/
  pollRead : σ → Nat → Poll ε × σ
  /-- What is still to come. -/
  remaining : σ → List UInt8
  fits : ∀ state room, (pollRead state room).1.bytes.length ≤ room
  keeps : ∀ state room,
    remaining state = (pollRead state room).1.bytes ++ remaining (pollRead state room).2
  /-- A poll that has room and gives nothing has found the end. -/
  ends : ∀ state room, 0 < room → (pollRead state room).1 = .ready [] → remaining state = []
  /-- How many polls are still to stall. -/
  stalls : σ → Nat
  /-- A poll that stalls is one of them. -/
  yields : ∀ state room,
    (pollRead state room).1.stalls + stalls (pollRead state room).2 ≤ stalls state

namespace AsyncRead

variable {σ ε : Type} (stream : AsyncRead σ ε)

/-- Polls with one buffer after the other: all that they gave, and the stream behind them. -/
def reads (state : σ) : List Nat → List (Poll ε) × σ
  | [] => ([], state)
  | room :: rooms =>
    let (poll, next) := stream.pollRead state room
    let (polls, final) := reads next rooms
    (poll :: polls, final)

/-- What was read, and what is still to come behind it, is what was to come. -/
theorem remaining_reads (state : σ) (rooms : List Nat) :
    (stream.reads state rooms).1.flatMap Poll.bytes ++
      stream.remaining (stream.reads state rooms).2 = stream.remaining state := by
  induction rooms generalizing state with
  | nil => rfl
  | cons room rooms ih => rw [reads, List.flatMap_cons, List.append_assoc, ih, ← stream.keeps]

end AsyncRead

/-! ## Sockets -/

open Wire

section

variable {ε : Type}

/-- A read that brings more than there is room for leaves the rest for the next. -/
def pollSocket : Socket ε → Nat → Poll ε × Socket ε
  | socket, 0 => (.ready [], socket)
  | [], _ + 1 => (.ready [], [])
  | .data segment :: rest, room + 1 =>
    (.ready (segment.bytes.take (room + 1)), if more : segment.bytes.drop (room + 1) ≠ [] then
        .data ⟨segment.bytes.drop (room + 1), more⟩ :: rest
      else rest)
  | .error err :: rest, _ + 1 => (.failed err, rest)
  | .dropped :: rest, _ + 1 => (.pending, rest)

variable (socket : Socket ε) (room : Nat)

theorem pollSocket_fits : (pollSocket socket room).1.bytes.length ≤ room := by
  fun_cases pollSocket socket room with
  | case3 segment rest room => exact List.length_take_le _ _
  | case1 | case2 | case4 | case5 => exact Nat.zero_le _

theorem pollSocket_keeps :
    carried socket = (pollSocket socket room).1.bytes ++ carried (pollSocket socket room).2 := by
  fun_cases pollSocket socket room with
  | case1 | case2 | case4 | case5 => rfl
  | case3 segment rest room =>
    have whole := List.take_append_drop (room + 1) segment.bytes
    simp only [Poll.bytes, carried]
    split
    · rw [carried, ← List.append_assoc, whole]
    · rename_i none
      rw [not_not.mp none, List.append_nil] at whole
      rw [whole]

theorem pollSocket_ends (positive : 0 < room) (empty : (pollSocket socket room).1 = .ready []) :
    carried socket = [] := by
  fun_cases pollSocket socket room with
  | case1 => contradiction
  | case2 => rfl
  | case3 segment rest room =>
    have nothing : segment.bytes.take (room + 1) = [] := by simpa [pollSocket] using empty
    exact absurd nothing (by simp [segment.nonempty])
  | case4 | case5 => simp [pollSocket] at empty

/-- The reads that fail or are dropped. -/
def interruptions : Socket ε → Nat
  | [] => 0
  | .data _ :: rest => interruptions rest
  | _ :: rest => interruptions rest + 1

theorem pollSocket_yields :
    (pollSocket socket room).1.stalls + interruptions (pollSocket socket room).2 ≤
      interruptions socket := by
  fun_cases pollSocket socket room with
  | case1 | case2 => exact Nat.le_of_eq (Nat.zero_add _)
  | case3 segment rest room => split <;> exact Nat.le_of_eq (Nat.zero_add _)
  | case4 | case5 => exact Nat.le_of_eq (Nat.add_comm _ _)

/-- A socket gives its bytes in order, whatever the buffers. -/
def socketRead : AsyncRead (Socket ε) ε where
  pollRead := pollSocket
  remaining := carried
  fits := pollSocket_fits
  keeps := pollSocket_keeps
  ends := pollSocket_ends
  stalls := interruptions
  yields := pollSocket_yields

/-- A poll takes events away. -/
theorem pollSocket_length :
    (pollSocket socket room).2.length ≤ socket.length ∧
      ((pollSocket socket room).1 = .pending →
        (pollSocket socket room).2.length < socket.length) := by
  fun_cases pollSocket socket room with
  | case1 | case2 | case4 | case5 => simp
  | case3 segment rest room => split <;> simp

/-- Await a read with room for so many bytes, however often it is polled. -/
def awaitRead : Socket ε → Nat → Except ε (List UInt8) × Socket ε
  | [], _ => (.ok [], [])
  | .data segment :: rest, room =>
    (.ok (segment.bytes.take room),
      if more : segment.bytes.drop room ≠ [] then .data ⟨segment.bytes.drop room, more⟩ :: rest
      else rest)
  | .error err :: rest, _ => (.error err, rest)
  | .dropped :: rest, room => awaitRead rest room

/-- What a read that returns has brought, and what is left. -/
theorem awaitRead_ok {socket rest : Socket ε} {room : Nat} {bytes : List UInt8}
    (read : awaitRead socket room = (.ok bytes, rest)) :
    bytes.length ≤ room ∧ carried socket = bytes ++ carried rest := by
  induction socket with
  | nil =>
    obtain ⟨rfl, rfl⟩ : [] = bytes ∧ [] = rest := by simpa [awaitRead] using read
    simp
  | cons event later ih =>
    cases event with
    | data segment =>
      obtain ⟨took, rfl⟩ := Prod.mk.inj read
      cases took
      refine ⟨List.length_take_le _ _, ?_⟩
      have whole := List.take_append_drop room segment.bytes
      rw [carried]
      split
      · rw [carried, ← List.append_assoc, whole]
      · rename_i none
        rw [not_not.mp none, List.append_nil] at whole
        rw [whole]
    | error err => simp [awaitRead] at read
    | dropped => exact ih read

end

end Streams

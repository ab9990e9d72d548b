import Mathlib.Data.List.Basic

/-!
# Reading a byte stream through a buffer

A socket is the list of what awaiting its next reads gives: a segment of bytes, an
error, or the end of the awaiting task itself, which is dropped while suspended. After
the listed events every read returns no bytes, the end of the stream. A `Reader` is a
socket with the bytes already read from it and not yet used.

What a reader will still see is `Reader.unread`, the buffered bytes followed by the bytes
that arrive before the first event that is not data, and `Reader.later`, the events from
there on. Every operation below is specified by these two alone, which is why nothing
decoded from a reader depends on how its bytes were split into reads.
-/

namespace Wire

open List

/-- The bytes of one successful read; a read of no bytes is the end of the stream. -/
structure Segment where
  /-- What the read returned. -/
  bytes : List UInt8
  /-- At least one byte. -/
  nonempty : bytes ≠ []

/-- How awaiting one read of a socket ends. -/
inductive ReadEvent (ε : Type) where
  /-- Bytes arrive. -/
  | data (segment : Segment)
  /-- The read fails. -/
  | error (err : ε)
  /-- The task that awaits the read is dropped while it is suspended. -/
  | dropped

def ReadEvent.isError {ε : Type} : ReadEvent ε → Bool
  | .error _ => true
  | _ => false

def ReadEvent.isDropped {ε : Type} : ReadEvent ε → Bool
  | .dropped => true
  | _ => false

/-- The future reads of a connection; after them the stream has ended. -/
abbrev Socket (ε : Type) := List (ReadEvent ε)

/-- The outcome of an asynchronous operation that reads. -/
inductive Awaited (ε α : Type) where
  /-- It returned a value. -/
  | ready (value : α)
  /-- It returned an error. -/
  | failed (err : ε)
  /-- It never returned: its task was dropped at an await. -/
  | dropped

def Awaited.isReady {ε α : Type} : Awaited ε α → Bool
  | .ready _ => true
  | _ => false

/-! ## Line ends -/

/-- The two bytes that end a line. -/
def crlf : List UInt8 := [13, 10]

/-- The position of the first line end in a buffer. -/
def findCrlf : List UInt8 → Option Nat
  | first :: second :: rest =>
    if first = 13 ∧ second = 10 then some 0 else (findCrlf (second :: rest)).map (· + 1)
  | _ => none

/-- A byte that starts no line end leaves the search to the rest. -/
theorem findCrlf_cons {first : UInt8} {rest : List UInt8}
    (other : ∀ tail, first :: rest ≠ 13 :: 10 :: tail) :
    findCrlf (first :: rest) = (findCrlf rest).map (· + 1) := by
  cases rest with
  | nil => simp [findCrlf]
  | cons second rest =>
    rw [findCrlf, if_neg]
    rintro ⟨rfl, rfl⟩
    exact other rest rfl

/-- The line end that follows a line without one is the first. -/
theorem findCrlf_line {line : List UInt8} (single : findCrlf line = none) (rest : List UInt8) :
    findCrlf (line ++ crlf ++ rest) = some line.length := by
  induction line with
  | nil => simp [crlf, findCrlf]
  | cons first line ih =>
    have inner : ∀ tail, first :: line ≠ 13 :: 10 :: tail := by
      rintro tail same
      rw [same] at single
      simp [findCrlf] at single
    rw [findCrlf_cons inner] at single
    have tail := ih (by simpa using single)
    have outer : ∀ tail, first :: (line ++ crlf ++ rest) ≠ 13 :: 10 :: tail := by
      rintro tail same
      cases line with
      | nil => simp [crlf] at same
      | cons second line =>
        obtain ⟨rfl, rfl, -⟩ := same
        exact inner line rfl
    rw [cons_append, cons_append, findCrlf_cons outer, tail]
    rfl

variable {buffer : List UInt8}

/-- A found line end splits the buffer there, and no line end stands before it. -/
theorem findCrlf_some {position : Nat} (found : findCrlf buffer = some position) :
    position = (buffer.take position).length ∧ findCrlf (buffer.take position) = none ∧
      buffer = buffer.take position ++ crlf ++ buffer.drop (position + 2) := by
  induction buffer generalizing position with
  | nil => simp [findCrlf] at found
  | cons first rest ih =>
    by_cases ends : ∃ tail, first :: rest = 13 :: 10 :: tail
    · obtain ⟨tail, same⟩ := ends
      rw [same] at found ⊢
      simp only [findCrlf, and_self, ↓reduceIte, Option.some.injEq] at found
      subst found
      simp [crlf, findCrlf]
    have other : ∀ tail, first :: rest ≠ 13 :: 10 :: tail := fun tail same => ends ⟨tail, same⟩
    rw [findCrlf_cons other, Option.map_eq_some_iff] at found
    obtain ⟨index, found, rfl⟩ := found
    obtain ⟨length, none, split⟩ := ih found
    refine ⟨by simp [← length], ?_, by simpa using split⟩
    have shorter : ∀ tail, first :: rest.take index ≠ 13 :: 10 :: tail := by
      rintro tail same
      cases rest with
      | nil => simp at same
      | cons second rest =>
        cases index with
        | zero => simp at same
        | succ index =>
          simp only [take_succ_cons, cons.injEq] at same
          exact other rest (by rw [same.1, same.2.1])
    rw [take_succ_cons, findCrlf_cons shorter, none]
    rfl

/-- A buffer holds a line end exactly when it is a line, its end, and what follows. -/
theorem findCrlf_isSome :
    (findCrlf buffer).isSome ↔
      ∃ line rest, buffer = line ++ crlf ++ rest ∧ findCrlf line = none := by
  constructor
  · intro found
    obtain ⟨position, found⟩ := Option.isSome_iff_exists.mp found
    obtain ⟨-, none, split⟩ := findCrlf_some found
    exact ⟨_, _, split, none⟩
  · rintro ⟨line, rest, rfl, single⟩
    rw [findCrlf_line single]
    rfl

/-- A line end once seen stays the first when more bytes arrive. -/
theorem findCrlf_append (found : (findCrlf buffer).isSome) (more : List UInt8) :
    (findCrlf (buffer ++ more)).isSome := by
  obtain ⟨line, rest, rfl, single⟩ := findCrlf_isSome.mp found
  exact findCrlf_isSome.mpr ⟨line, rest ++ more, by simp, single⟩

/-- A line and what follows it are determined by the bytes. -/
theorem line_unique {left right leftRest rightRest : List UInt8}
    (leftSingle : findCrlf left = none) (rightSingle : findCrlf right = none)
    (same : left ++ crlf ++ leftRest = right ++ crlf ++ rightRest) :
    left = right ∧ leftRest = rightRest := by
  have first := findCrlf_line leftSingle leftRest
  rw [same, findCrlf_line rightSingle] at first
  have lengths : left.length = right.length := (Option.some.inj first).symm
  rw [append_assoc, append_assoc] at same
  obtain ⟨equal, rest⟩ := append_inj same lengths
  exact ⟨equal, append_cancel_left rest⟩

/-- Bytes that are no carriage return hold no line end. -/
theorem findCrlf_none {line : List UInt8} (absent : (13 : UInt8) ∉ line) :
    findCrlf line = none := by
  induction line with
  | nil => rfl
  | cons first line ih =>
    simp only [mem_cons, not_or] at absent
    rw [findCrlf_cons (by rintro tail same; exact absent.1 (cons.inj same).1.symm), ih absent.2]
    rfl

/-! ## Sockets -/

variable {ε : Type}

/-- The bytes that arrive before the first event that is not data. -/
def arriving : Socket ε → List UInt8
  | .data segment :: rest => segment.bytes ++ arriving rest
  | _ => []

/-- The events from the first one that is not data. -/
def later : Socket ε → Socket ε
  | .data _ :: rest => later rest
  | socket => socket

/-- All bytes a socket still holds, behind errors too. -/
def held : Socket ε → Nat
  | [] => 0
  | .data segment :: rest => segment.bytes.length + held rest
  | _ :: rest => held rest

/-- All bytes a socket still holds, in order, behind errors and drops too. -/
def carried : Socket ε → List UInt8
  | [] => []
  | .data segment :: rest => segment.bytes ++ carried rest
  | _ :: rest => carried rest

theorem carried_eq (socket : Socket ε) :
    carried socket = arriving socket ++ carried (later socket) := by
  induction socket with
  | nil => rfl
  | cons event rest ih =>
    cases event with
    | data segment => simp [carried, arriving, later, ih]
    | error err | dropped => rfl

theorem carried_append (first second : Socket ε) :
    carried (first ++ second) = carried first ++ carried second := by
  induction first with
  | nil => rfl
  | cons event rest ih => cases event <;> simp [carried, ih]

/-- Only data stands before the first event that is not data. -/
theorem error_mem_later {socket : Socket ε} {err : ε} (member : .error err ∈ later socket) :
    .error err ∈ socket := by
  induction socket with
  | nil => exact member
  | cons event rest ih =>
    cases event with
    | data segment => exact mem_cons_of_mem _ (ih member)
    | error other | dropped => exact member

/-- A connection as its readers see it: the reads to come and the bytes read ahead. -/
structure Reader (ε : Type) where
  /-- The reads to come. -/
  socket : Socket ε
  /-- Bytes read and not yet used. -/
  buffered : List UInt8

namespace Reader

/-- The bytes still to be used before the first event that is not data. -/
def unread (reader : Reader ε) : List UInt8 := reader.buffered ++ arriving reader.socket

/-- The events from the first one that is not data. -/
def later (reader : Reader ε) : Socket ε := Wire.later reader.socket

/-- Every byte still to be used, behind errors and drops too. -/
def ahead (reader : Reader ε) : List UInt8 := reader.buffered ++ carried reader.socket

variable (reader : Reader ε)

theorem ahead_eq : reader.ahead = reader.unread ++ carried reader.later := by
  rw [ahead, carried_eq, unread, later, append_assoc]

/-- Bytes used in front of the first event that is not data are used of all that is ahead. -/
theorem ahead_of_split {before after : Reader ε} {used : List UInt8}
    (split : before.unread = used ++ after.unread) (later : after.later = before.later) :
    before.ahead = used ++ after.ahead := by
  rw [ahead_eq, ahead_eq, split, later, append_assoc]

/-- Every use of bytes and every read lowers this. -/
def weight (reader : Reader ε) : Nat :=
  2 * (reader.buffered.length + held reader.socket) + reader.socket.length

/-- Drop bytes from the front of the buffer. -/
def advance (reader : Reader ε) (count : Nat) : Reader ε :=
  { reader with buffered := reader.buffered.drop count }

/-- Append one read to the buffer and return how many bytes it brought. -/
def readBuf (reader : Reader ε) : Awaited ε Nat × Reader ε :=
  match reader.socket with
  | [] => (.ready 0, reader)
  | .data segment :: rest => (.ready segment.bytes.length, ⟨rest, reader.buffered ++ segment.bytes⟩)
  | .error err :: rest => (.failed err, { reader with socket := rest })
  | .dropped :: rest => (.dropped, { reader with socket := rest })

/-- Read until the buffer passes a test, or until the stream ends without it. -/
def fillUntil (enough : List UInt8 → Bool) : Socket ε → List UInt8 → Awaited ε Bool × Reader ε
  | [], buffered => (.ready (enough buffered), ⟨[], buffered⟩)
  | .data segment :: rest, buffered =>
    if enough buffered then (.ready true, ⟨.data segment :: rest, buffered⟩)
    else fillUntil enough rest (buffered ++ segment.bytes)
  | .error err :: rest, buffered =>
    if enough buffered then (.ready true, ⟨.error err :: rest, buffered⟩)
    else (.failed err, ⟨rest, buffered⟩)
  | .dropped :: rest, buffered =>
    if enough buffered then (.ready true, ⟨.dropped :: rest, buffered⟩)
    else (.dropped, ⟨rest, buffered⟩)

/-- Read until a number of bytes is buffered; false when the stream ends before. -/
def ensure (reader : Reader ε) (count : Nat) : Awaited ε Bool × Reader ε :=
  fillUntil (fun buffered => count ≤ buffered.length) reader.socket reader.buffered

/-- Read one line and drop its end; none when the stream ends before a line end. -/
def readLine (reader : Reader ε) : Awaited ε (Option (List UInt8)) × Reader ε :=
  match fillUntil (fun buffered => (findCrlf buffered).isSome) reader.socket reader.buffered with
  | (.ready true, reader) =>
    match findCrlf reader.buffered with
    | some lineEnd => (.ready (some (reader.buffered.take lineEnd)), reader.advance (lineEnd + 2))
    | none => (.ready none, reader)
  | (.ready false, reader) => (.ready none, reader)
  | (.failed err, reader) => (.failed err, reader)
  | (.dropped, reader) => (.dropped, reader)

variable {count : Nat}

/-- What is taken from the front of the buffer is the front of the unread bytes. -/
theorem unread_take (count : Nat) :
    reader.unread = reader.buffered.take count ++ (reader.advance count).unread := by
  simp [unread, advance, ← append_assoc]

variable {reader : Reader ε}

/-- Taking as much as is buffered, up to a limit, takes something. -/
theorem take_min {limit : Nat} (some : reader.buffered ≠ []) (positive : limit ≠ 0) :
    (reader.buffered.take (min reader.buffered.length limit)).length =
      min reader.buffered.length limit ∧
    reader.buffered.take (min reader.buffered.length limit) ≠ [] ∧
    (reader.advance (min reader.buffered.length limit)).weight < reader.weight := by
  have length : (reader.buffered.take (min reader.buffered.length limit)).length =
      min reader.buffered.length limit := by
    rw [length_take]
    omega
  have buffered := length_pos_iff.mpr some
  refine ⟨length, ?_, ?_⟩
  · intro nothing
    rw [nothing, length_nil] at length
    omega
  · simp only [weight, advance, length_drop]
    omega

/-- What filling leaves: nothing is lost, and the test holds if it answers so. -/
structure Filled (enough : List UInt8 → Bool) (before after : Reader ε) : Prop where
  /-- The same bytes are unread. -/
  unread : after.unread = before.unread
  /-- The same events follow them. -/
  later : after.later = before.later
  /-- The test holds of the buffer. -/
  enough : enough after.buffered
  /-- No event was added. -/
  weight : after.weight ≤ before.weight

/-- Filling stops with the test passed when all the data to come would pass it. -/
theorem fillUntil_enough (enough : List UInt8 → Bool) {reader : Reader ε}
    (passes : enough reader.unread) :
    ∃ after, fillUntil enough reader.socket reader.buffered = (.ready true, after) ∧
      Filled enough reader after := by
  obtain ⟨socket, buffered⟩ := reader
  induction socket generalizing buffered with
  | nil =>
    have now : enough buffered := by simpa [unread, arriving] using passes
    exact ⟨⟨[], buffered⟩, by simp [fillUntil, now], ⟨rfl, rfl, now, Nat.le_refl _⟩⟩
  | cons event rest ih =>
    by_cases now : enough buffered
    · refine ⟨⟨event :: rest, buffered⟩, ?_, ⟨rfl, rfl, now, Nat.le_refl _⟩⟩
      cases event <;> simp [fillUntil, now]
    cases event with
    | data segment =>
      obtain ⟨after, filled, kept⟩ := ih (buffered ++ segment.bytes)
        (by simpa [unread, arriving] using passes)
      refine ⟨after, by simp [fillUntil, now, filled], ?_⟩
      have weight := kept.weight
      refine ⟨?_, kept.later, kept.enough, ?_⟩
      · rw [kept.unread]; simp [unread, arriving]
      · simp only [Reader.weight, held, length_append, length_cons] at weight ⊢
        omega
    | error err | dropped => simp [unread, arriving] at passes; exact absurd passes now

/-- How a read that the data to come cannot satisfy ends: with the event behind the data. -/
inductive Starved {α : Type} (short : α) (before : Reader ε) : Awaited ε α × Reader ε → Prop
  /-- The stream ends. -/
  | ended (last : before.later = []) : Starved short before (.ready short, ⟨[], before.unread⟩)
  /-- The socket fails. -/
  | failed {err : ε} {rest : Socket ε} (last : before.later = .error err :: rest) :
    Starved short before (.failed err, ⟨rest, before.unread⟩)
  /-- The task is dropped. -/
  | dropped {rest : Socket ε} (last : before.later = .dropped :: rest) :
    Starved short before (.dropped, ⟨rest, before.unread⟩)

/-- However such a read ends, all the data is held. -/
theorem Starved.holds {α : Type} {short : α} {before : Reader ε} {result : Awaited ε α × Reader ε}
    (starved : Starved short before result) : result.2.buffered = before.unread := by
  cases starved <;> rfl

/-- Filling with too little data reads all of it and ends with the event behind it. -/
theorem fillUntil_short (enough : List UInt8 → Bool)
    (grows : ∀ buffer more, enough buffer → enough (buffer ++ more)) (reader : Reader ε)
    (fails : ¬ enough reader.unread) :
    Starved false reader (fillUntil enough reader.socket reader.buffered) := by
  obtain ⟨socket, buffered⟩ := reader
  have now : ¬ enough buffered := fun now => fails (grows _ _ now)
  induction socket generalizing buffered with
  | nil =>
    have same : (⟨[], buffered⟩ : Reader ε).unread = buffered := by simp [unread, arriving]
    have starved : Starved false (⟨[], buffered⟩ : Reader ε)
      (.ready false, ⟨[], (⟨[], buffered⟩ : Reader ε).unread⟩) := .ended rfl
    simpa [fillUntil, now, same] using starved
  | cons event rest ih =>
    cases event with
    | data segment =>
      have same : (⟨.data segment :: rest, buffered⟩ : Reader ε).unread =
          (⟨rest, buffered ++ segment.bytes⟩ : Reader ε).unread := by simp [unread, arriving]
      rw [same] at fails
      have starved := ih (buffered ++ segment.bytes) fails fun now => fails (grows _ _ now)
      simp only [fillUntil, now, Bool.false_eq_true, ↓reduceIte]
      generalize outcome : fillUntil enough rest (buffered ++ segment.bytes) = result at starved
      cases starved with
      | ended last => rw [← same]; exact .ended last
      | failed last => rw [← same]; exact .failed last
      | dropped last => rw [← same]; exact .dropped last
    | error err =>
      have same : (⟨.error err :: rest, buffered⟩ : Reader ε).unread = buffered := by
        simp [unread, arriving]
      have starved : Starved false (⟨.error err :: rest, buffered⟩ : Reader ε) (.failed err,
        ⟨rest, (⟨.error err :: rest, buffered⟩ : Reader ε).unread⟩) := .failed rfl
      simpa [fillUntil, now, same] using starved
    | dropped =>
      have same : (⟨.dropped :: rest, buffered⟩ : Reader ε).unread = buffered := by
        simp [unread, arriving]
      have starved : Starved false (⟨.dropped :: rest, buffered⟩ : Reader ε) (.dropped,
        ⟨rest, (⟨.dropped :: rest, buffered⟩ : Reader ε).unread⟩) := .dropped rfl
      simpa [fillUntil, now, same] using starved

/-- A read with nothing to come ends with the event behind the data. -/
theorem readBuf_short (empty : reader.unread = []) : Starved 0 reader reader.readBuf := by
  obtain ⟨socket, buffered⟩ := reader
  have whole := empty
  simp only [unread, append_eq_nil_iff] at empty
  obtain ⟨rfl, nothing⟩ := empty
  have same : ∀ rest : Socket ε, (⟨rest, []⟩ : Reader ε) = ⟨rest, (⟨socket,
    []⟩ : Reader ε).unread⟩ :=
    fun rest => by rw [whole]
  cases socket with
  | nil => exact same [] ▸ .ended rfl
  | cons event rest =>
    cases event with
    | data segment =>
      simp only [arriving, append_eq_nil_iff] at nothing
      exact absurd nothing.1 segment.nonempty
    | error err =>
      simp only [readBuf]
      exact same rest ▸ .failed rfl
    | dropped =>
      simp only [readBuf]
      exact same rest ▸ .dropped rfl

/-- A read with data to come moves a segment of it into the buffer. -/
theorem readBuf_data (empty : reader.buffered = []) (some : reader.unread ≠ []) :
    ∃ count after, reader.readBuf = (.ready (count + 1), after) ∧ after.unread = reader.unread ∧
      after.later = reader.later ∧ after.weight < reader.weight := by
  obtain ⟨socket, buffered⟩ := reader
  cases empty
  cases socket with
  | nil => exact absurd rfl some
  | cons event rest =>
    cases event with
    | data segment =>
      have positive : segment.bytes.length ≠ 0 := fun zero =>
        segment.nonempty (eq_nil_of_length_eq_zero zero)
      refine ⟨segment.bytes.length - 1, ⟨rest, segment.bytes⟩, ?_, ?_, rfl, ?_⟩
      · rw [Nat.sub_add_cancel (by omega)]
        rfl
      · simp [unread, arriving]
      · simp only [weight, held, length_cons, length_nil]
        omega
    | error err | dropped => exact absurd rfl some

/-- A number of bytes among the unread ones gets buffered. -/
theorem ensure_enough (within : count ≤ reader.unread.length) :
    ∃ after, reader.ensure count = (.ready true, after) ∧
      Filled (fun buffered => count ≤ buffered.length) reader after :=
  fillUntil_enough _ (by simpa using within)

/-- Fewer unread bytes than asked for end with the event behind them. -/
theorem ensure_short (short : reader.unread.length < count) :
    Starved false reader (reader.ensure count) :=
  fillUntil_short _ (by simp only [decide_eq_true_eq, length_append]; omega) reader
    (by simpa using short)

/-- What reading a line leaves behind it. -/
structure LineRead (rest : List UInt8) (before after : Reader ε) : Prop where
  /-- The bytes after the line end are unread. -/
  unread : after.unread = rest
  /-- The same events follow them. -/
  later : after.later = before.later
  /-- At least the line end was used. -/
  weight : after.weight + 4 ≤ before.weight

/-- A line among the unread bytes is read, and exactly what follows it stays unread. -/
theorem readLine_found {line rest : List UInt8} (split : reader.unread = line ++ crlf ++ rest)
    (single : findCrlf line = none) :
    ∃ after, reader.readLine = (.ready (some line), after) ∧ LineRead rest reader after := by
  obtain ⟨filled, fills, kept⟩ := fillUntil_enough (fun buffered => (findCrlf buffered).isSome)
    (findCrlf_isSome.mpr ⟨line, rest, split, single⟩)
  obtain ⟨first, tail, bufferedSplit, firstSingle⟩ := findCrlf_isSome.mp kept.enough
  have whole : first ++ crlf ++ (tail ++ arriving filled.socket) = line ++ crlf ++ rest := by
    rw [← split, ← kept.unread, unread, bufferedSplit]
    simp
  obtain ⟨rfl, restSplit⟩ := line_unique firstSingle single whole
  have found := findCrlf_line firstSingle tail
  rw [← bufferedSplit] at found
  have within : first.length + 2 ≤ filled.buffered.length := by
    rw [bufferedSplit]
    simp [crlf]
  have dropped : filled.buffered.drop (first.length + 2) = tail := by
    rw [bufferedSplit]
    exact drop_left' (by simp [crlf])
  refine ⟨filled.advance (first.length + 2), ?_, ?_, kept.later, ?_⟩
  · simp only [readLine, fills, found]
    rw [bufferedSplit, append_assoc, take_left]
  · simp [unread, advance, dropped, ← restSplit]
  · have weight := kept.weight
    simp only [Reader.weight, advance, length_drop] at weight ⊢
    omega

/-- With no line end among the unread bytes, reading a line ends with the event behind them. -/
theorem readLine_short (absent : findCrlf reader.unread = none) :
    Starved none reader reader.readLine := by
  have starved := fillUntil_short (fun buffered => (findCrlf buffered).isSome)
    (fun _ more found => findCrlf_append found more) reader (by simp [absent])
  unfold readLine
  generalize fillUntil _ _ _ = result at starved
  cases starved with
  | ended last => exact .ended last
  | failed last => exact .failed last
  | dropped last => exact .dropped last

/-- A line is read or it is not there. -/
theorem readLine_cases :
    (∃ line after, reader.unread = line ++ crlf ++ after.unread ∧ findCrlf line = none ∧
      reader.readLine = (.ready (some line), after) ∧ LineRead after.unread reader after) ∨
    (findCrlf reader.unread = none ∧ Starved none reader reader.readLine) := by
  cases found : findCrlf reader.unread with
  | none => exact Or.inr ⟨rfl, readLine_short found⟩
  | some position =>
    obtain ⟨-, single, split⟩ := findCrlf_some found
    obtain ⟨after, read, kept⟩ := readLine_found split single
    rw [← kept.unread] at split kept
    exact Or.inl ⟨_, after, split, single, read, kept⟩

end Reader

end Wire

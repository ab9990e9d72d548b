import PdEdge.Http1.Headers

/-!
# The stream of a downstream response

`DownstreamResponseBodyStream` puts what a program writes on a channel to the response. A write
is sent at once or, if it is implicit, gathered with others until there are enough bytes; the
first chunk on the channel, or an explicit start, commits the response. The lemmas say what each
operation does to the bytes that were written and to the two flags, whenever the response still
listens; every later module uses those.
-/

namespace PdEdge.Output

/-- `IMPLICIT_DOWNSTREAM_RESPONSE_STREAM_CHUNK_BYTES`. -/
def implicitDownstreamResponseStreamChunkBytes : Nat := 8 * 1024

/-- `DownstreamResponseStreamWriteMode`. -/
inductive DownstreamResponseStreamWriteMode where
  | implicitBuffered
  | explicitImmediate

/-- `DownstreamResponseBodyStream`, and the channel behind its two ends. -/
structure DownstreamResponseBodyStream where
  /-- The sender has not been dropped. -/
  sender : Bool
  /-- The receiver has not been taken. -/
  receiver : Bool
  /-- The chunks that were put on the channel. -/
  sent : List (List UInt8)
  /-- The receiver has not been dropped, wherever it is. -/
  heard : Bool
  buffered : List UInt8
  committed : Bool
  finished : Bool

namespace DownstreamResponseBodyStream

/-- `DownstreamResponseBodyStream::new`. -/
def new : DownstreamResponseBodyStream := ⟨true, true, [], true, [], false, false⟩

def alreadyFinished : VmError := .hostError "downstream response stream is already finished"

variable (stream : DownstreamResponseBodyStream)

/-- `start`: whether this has committed the response. -/
def start : Except VmError Bool × DownstreamResponseBodyStream :=
  if stream.finished then (.error alreadyFinished, stream)
  else if stream.committed then (.ok false, stream)
  else (.ok true, { stream with committed := true })

/-- `send` on the channel. -/
def send (chunk : List UInt8) : Except VmError Unit × DownstreamResponseBodyStream :=
  if !stream.sender then
    (.error (.hostError "downstream response stream is unavailable for further writes"), stream)
  else if !stream.heard then
    (.error (.hostError "downstream response stream receiver closed before writes completed"),
      stream)
  else (.ok (), { stream with sent := stream.sent ++ [chunk] })

/-- `flush_buffered`; the chunk is gone where it cannot be sent. -/
def flushBuffered : Except VmError Bool × DownstreamResponseBodyStream :=
  if stream.buffered.isEmpty then (.ok false, stream)
  else
    let chunk := stream.buffered
    match { stream with buffered := [] }.start with
    | (.error err, stream) => (.error err, stream)
    | (.ok committedNow, stream) =>
      match stream.send chunk with
      | (.error err, stream) => (.error err, stream)
      | (.ok (), stream) => (.ok committedNow, stream)

/-- `buffered.extend_from_slice`. -/
def gathered (bytes : List UInt8) : DownstreamResponseBodyStream :=
  { stream with buffered := stream.buffered ++ bytes }

/-- `write_bytes`. -/
def writeBytes (bytes : List UInt8) (mode : DownstreamResponseStreamWriteMode) :
    Except VmError Bool × DownstreamResponseBodyStream :=
  if stream.finished then (.error alreadyFinished, stream)
  else if bytes.isEmpty then (.ok false, stream)
  else
    match mode with
    | .explicitImmediate => (stream.gathered bytes).flushBuffered
    | .implicitBuffered =>
      if implicitDownstreamResponseStreamChunkBytes ≤ (stream.gathered bytes).buffered.length then
        (stream.gathered bytes).flushBuffered
      else (.ok false, stream.gathered bytes)

/-- `finish`. -/
def finish : Except VmError Bool × DownstreamResponseBodyStream :=
  if stream.finished then (.ok false, stream)
  else
    match stream.flushBuffered with
    | (.error err, stream) => (.error err, stream)
    | (.ok committedNow, stream) =>
      (.ok committedNow, { stream with finished := true, sender := false })

/-- `take_receiver`. -/
def takeReceiver : Except VmError Unit × DownstreamResponseBodyStream :=
  if stream.receiver then (.ok (), { stream with receiver := false })
  else (.error (.hostError "downstream response stream receiver has already been consumed"), stream)

/-! ## What was written -/

/-- What was sent, and behind it what is still to be sent. -/
def written : List UInt8 := stream.sent.flatten ++ stream.buffered

/-- The response will use this stream: it is committed, or finishing it will commit it. -/
def commits : Bool := stream.committed || !stream.buffered.isEmpty

/-- The sender is there until the stream is finished, nothing is left to send behind that, and
what was sent is part of the response. -/
structure Sound : Prop where
  sends : stream.sender = !stream.finished
  flushed : stream.finished → stream.buffered = []
  commits : stream.sent ≠ [] → stream.committed

theorem sound_new : new.Sound := ⟨rfl, by decide, by decide⟩

variable {stream}

/-- An operation that was accepted: it has added these bytes, and the stream is as open as
before. -/
structure Accepts (before : DownstreamResponseBodyStream) (bytes : List UInt8)
    (result : Except VmError Bool × DownstreamResponseBodyStream) : Prop where
  accepted : ∃ committedNow, result.1 = .ok committedNow
  sound : result.2.Sound
  heard : result.2.heard = before.heard
  receiver : result.2.receiver = before.receiver
  committed : before.committed → result.2.committed
  written : result.2.written = before.written ++ bytes
  finished : result.2.finished = before.finished

section

variable (sound : stream.Sound)
include sound

/-- An operation that does nothing is accepted. -/
theorem Accepts.nothing (committedNow : Bool) : Accepts stream [] (.ok committedNow, stream) :=
  ⟨⟨_, rfl⟩, sound, rfl, rfl, id, (List.append_nil _).symm, rfl⟩

variable (opened : stream.finished = false)
include opened

theorem start_spec : Accepts stream [] stream.start ∧ stream.start.2.committed = true := by
  cases committed : stream.committed with
  | true =>
    have started : stream.start = (.ok false, stream) := by simp [start, opened, committed]
    rw [started]
    exact ⟨.nothing sound false, committed⟩
  | false =>
    have started : stream.start = (.ok true, { stream with committed := true }) := by
      simp [start, opened, committed]
    rw [started]
    exact ⟨⟨⟨_, rfl⟩, ⟨sound.sends, sound.flushed, fun _ => rfl⟩, rfl, rfl, fun _ => rfl,
      (List.append_nil _).symm, rfl⟩, rfl⟩

/-- Flushing loses nothing, and commits if there is anything to send. -/
theorem flushBuffered_spec (heard : stream.heard) :
    Accepts stream [] stream.flushBuffered ∧ stream.flushBuffered.2.buffered = [] ∧
      stream.flushBuffered.2.committed = stream.commits := by
  cases buffered : stream.buffered with
  | nil =>
    have flushed : stream.flushBuffered = (.ok false, stream) := by simp [flushBuffered, buffered]
    rw [flushed]
    exact ⟨.nothing sound false, buffered, by simp [commits, buffered]⟩
  | cons byte bytes =>
    have sender : stream.sender = true := by rw [sound.sends, opened]; rfl
    have flushed : stream.flushBuffered = (.ok !stream.committed, { stream with
        buffered := [], committed := true, sent := stream.sent ++ [byte :: bytes] }) := by
      cases committed : stream.committed <;>
        simp [flushBuffered, buffered, start, send, opened, committed, sender, heard]
    rw [flushed]
    refine ⟨⟨⟨_, rfl⟩, ⟨sound.sends, fun _ => rfl, fun _ => rfl⟩, rfl, rfl, fun _ => rfl, ?_, rfl⟩,
      rfl, ?_⟩
    · simp [written, buffered]
    · simp [commits, buffered]

/-- Gathering bytes loses nothing. -/
theorem gathered_spec {bytes : List UInt8} :
    Accepts stream bytes (.ok false, stream.gathered bytes) ∧
      (stream.gathered bytes).commits = (stream.commits || !bytes.isEmpty) := by
  refine ⟨⟨⟨_, rfl⟩, ⟨sound.sends, fun finished => ?_, sound.commits⟩, rfl, rfl, id, ?_, rfl⟩, ?_⟩
  · exact absurd (opened ▸ finished) Bool.false_ne_true
  · simp [gathered, written]
  · cases bytes <;> simp [gathered, commits]

/-- A write to a stream that is not finished is accepted. -/
theorem writeBytes_spec (heard : stream.heard) (bytes : List UInt8)
    (mode : DownstreamResponseStreamWriteMode) :
    Accepts stream bytes (stream.writeBytes bytes mode) ∧
      (stream.writeBytes bytes mode).2.commits = (stream.commits || !bytes.isEmpty) := by
  by_cases hollow : bytes = []
  · subst hollow
    have written : stream.writeBytes [] mode = (.ok false, stream) := by simp [writeBytes, opened]
    rw [written]
    exact ⟨.nothing sound false, by simp⟩
  obtain ⟨gathers, later⟩ := gathered_spec sound opened
  obtain ⟨flushes, empty, committed⟩ := flushBuffered_spec gathers.sound opened heard
  have sends : Accepts stream bytes (stream.gathered bytes).flushBuffered ∧
      (stream.gathered bytes).flushBuffered.2.commits = (stream.commits || !bytes.isEmpty) := by
    refine ⟨⟨flushes.accepted, flushes.sound, flushes.heard, flushes.receiver,
      flushes.committed, ?_, flushes.finished⟩, ?_⟩
    · rw [flushes.written, List.append_nil, gathers.written]
    · rw [← later, ← committed]
      simp [commits, empty]
  have written : stream.writeBytes bytes mode = (stream.gathered bytes).flushBuffered ∨
      stream.writeBytes bytes mode = (.ok false, stream.gathered bytes) := by
    cases mode with
    | explicitImmediate => simp [writeBytes, opened, hollow]
    | implicitBuffered =>
      by_cases enough : implicitDownstreamResponseStreamChunkBytes ≤
        (stream.gathered bytes).buffered.length <;> simp [writeBytes, opened, hollow, enough]
  rcases written with same | same <;> rw [same]
  · exact sends
  · exact ⟨gathers, later⟩

end

section

variable (finished : stream.finished)
include finished

/-- A finished stream refuses every write. -/
theorem writeBytes_finished (bytes : List UInt8) (mode : DownstreamResponseStreamWriteMode) :
    stream.writeBytes bytes mode = (.error alreadyFinished, stream) := by
  simp [writeBytes, finished]

theorem start_finished : stream.start = (.error alreadyFinished, stream) := by
  simp [start, finished]

theorem finish_finished : stream.finish = (.ok false, stream) := by
  simp [finish, finished]

end

/-- Finishing sends what is left, and commits if there is or was anything. -/
theorem finish_spec (sound : stream.Sound) (heard : stream.heard) :
    (∃ committedNow, stream.finish.1 = .ok committedNow) ∧ stream.finish.2.Sound ∧
      stream.finish.2.receiver = stream.receiver ∧ stream.finish.2.finished = true ∧
      stream.finish.2.heard = stream.heard ∧
      stream.finish.2.sent.flatten = stream.written ∧
      stream.finish.2.committed = stream.commits := by
  cases finished : stream.finished with
  | true =>
    have empty := sound.flushed finished
    rw [finish_finished finished]
    exact ⟨⟨_, rfl⟩, sound, rfl, finished, rfl, by simp [written, empty], by simp [commits, empty]⟩
  | false =>
    obtain ⟨flushes, empty, committed⟩ := flushBuffered_spec sound finished heard
    obtain ⟨committedNow, accepted⟩ := flushes.accepted
    have finishes : stream.finish = (.ok committedNow,
        { stream.flushBuffered.2 with finished := true, sender := false }) := by
      rw [finish, finished, ← accepted]
      generalize stream.flushBuffered = flushed at accepted
      obtain ⟨result, after⟩ := flushed
      subst accepted
      rfl
    rw [finishes]
    refine ⟨⟨_, rfl⟩, ⟨rfl, fun _ => empty, flushes.sound.commits⟩, flushes.receiver, rfl,
      flushes.heard, ?_, committed⟩
    have whole := flushes.written
    simpa [written, empty] using whole

end DownstreamResponseBodyStream

end PdEdge.Output

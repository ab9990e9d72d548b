import PdEdge.Http1.Basic
import PdEdge.Lib.Loop
import PdEdge.Lib.Source

/-!
# Buffered reading of a body

`BufferedByteStream` keeps everything it has pulled from a source and a read position in it,
so that a body that was read can still be sent on. Each operation pulls until it has what it
wants; what it pulled, and how the pulling ended, is the same for all of them.
-/

namespace PdEdge.State

open Iteration Sources Wire

/-- `BufferedByteStream`. -/
structure BufferedByteStream where
  buffered : List UInt8
  readOffset : Nat
  eof : Bool
  deriving DecidableEq

namespace BufferedByteStream

/-- `BufferedByteStream::default`. -/
def default : BufferedByteStream := ⟨[], 0, false⟩

/-- `apply_pull`. -/
def applyPull (stream : BufferedByteStream) : Pull → BufferedByteStream
  | .chunk bytes =>
    if bytes ≠ [] then { stream with buffered := stream.buffered ++ bytes } else stream
  | .skip => stream
  | .eof => { stream with eof := true }

/-- The stream with more bytes in its buffer. -/
def filled (stream : BufferedByteStream) (data : List UInt8) : BufferedByteStream :=
  { stream with buffered := stream.buffered ++ data }

/-- The stream at the end of its source. -/
def ended (stream : BufferedByteStream) : BufferedByteStream := { stream with eof := true }

/-- The read position is behind the buffer. -/
def consumed (stream : BufferedByteStream) : Bool := stream.buffered.length ≤ stream.readOffset

/-- What one pass of the loop of `read_next_line` returns, if it does not pull. -/
def takeLine (stream : BufferedByteStream) : Option (List UInt8 × BufferedByteStream) :=
  let start := min stream.readOffset stream.buffered.length
  let rest := stream.buffered.drop start
  if start < stream.buffered.length then
    if (10 : UInt8) ∈ rest then
      let stop := start + rest.idxOf 10
      some (rest.take (rest.idxOf 10), { stream with readOffset := stop + 1 })
    else if stream.eof then
      some (rest, { stream with readOffset := stream.buffered.length })
    else none
  else if stream.eof then some ([], stream)
  else none

section

variable {σ : Type} (source : Source σ VmError)

/-- One pass of a loop that pulls while the stream wants more. -/
def pullTurn (wants : BufferedByteStream → Bool) (stream : BufferedByteStream) (state : σ) :
    Turn (BufferedByteStream × σ) (Awaited VmError Unit × BufferedByteStream × σ) :=
  if wants stream && !stream.eof then
    match source.pull state with
    | (.ready pull, next) => .again (stream.applyPull pull, next)
    | (.failed err, next) => .leave (.failed err, stream, next)
    | (.dropped, next) => .leave (.dropped, stream, next)
  else .leave (.ready (), stream, state)

/-- What is left to pull for a stream. -/
def toPull (stream : BufferedByteStream) (state : σ) : Nat :=
  if stream.eof then 0 else source.measure state + 1

theorem pullTurn_lowers (wants : BufferedByteStream → Bool) {stream stream' : BufferedByteStream}
    {state state' : σ} (turned : pullTurn source wants stream state = .again (stream', state')) :
    toPull source stream' state' < toPull source stream state := by
  unfold pullTurn at turned
  split at turned
  · rename_i wanted
    have notEof : stream.eof = false := by
      simp only [Bool.and_eq_true, Bool.not_eq_true'] at wanted
      exact wanted.2
    cases pulled : source.pull state with
    | mk result next =>
      rw [pulled] at turned
      cases result with
      | ready pull =>
        cases turned
        unfold toPull
        rw [notEof]
        cases pull with
        | chunk bytes =>
          have less := Source.lower pulled (by simp)
          by_cases empty : bytes = []
          all_goals simp [applyPull, empty, notEof, less]
        | skip =>
          have less := Source.lower pulled (by simp)
          simp [applyPull, notEof, less]
        | eof => simp [applyPull]
      | failed err | dropped => cases turned
  · cases turned

/-- A loop that pulls while the stream wants more and its source has not ended. -/
def pullWhile (wants : BufferedByteStream → Bool) :
    Loop (BufferedByteStream × σ) (Awaited VmError Unit × BufferedByteStream × σ) where
  turn pair := pullTurn source wants pair.1 pair.2
  measure pair := toPull source pair.1 pair.2
  lowers _ _ turned := pullTurn_lowers source wants turned

/-- Go on with a stream that was filled. -/
def andThen {α : Type} (filled : Awaited VmError Unit × BufferedByteStream × σ)
    (next : BufferedByteStream → α × BufferedByteStream) :
    Awaited VmError α × BufferedByteStream × σ :=
  match filled with
  | (.ready _, stream, state) => (.ready (next stream).1, (next stream).2, state)
  | (.failed err, stream, state) => (.failed err, stream, state)
  | (.dropped, stream, state) => (.dropped, stream, state)

/-- `ensure_readable_byte`, which is also the loop of `eof`. -/
def ensureReadableByte (stream : BufferedByteStream) (state : σ) :
    Awaited VmError Unit × BufferedByteStream × σ :=
  (pullWhile source consumed).run (stream, state)

/-- `read_next_chunk`. -/
def readNextChunk (maxBytes : Nat) (stream : BufferedByteStream) (state : σ) :
    Awaited VmError (List UInt8) × BufferedByteStream × σ :=
  andThen (ensureReadableByte source stream state) fun stream =>
    if stream.consumed then ([], stream)
    else
      let stop := min (stream.readOffset + maxBytes) stream.buffered.length
      ((stream.buffered.take stop).drop stream.readOffset, { stream with readOffset := stop })

/-- `read_next_line`. -/
def readNextLine (stream : BufferedByteStream) (state : σ) :
    Awaited VmError (List UInt8) × BufferedByteStream × σ :=
  andThen ((pullWhile source fun stream => stream.takeLine.isNone).run (stream, state))
    fun stream => stream.takeLine.getD ([], stream)

/-- `read_all`. -/
def readAll (stream : BufferedByteStream) (state : σ) :
    Awaited VmError (List UInt8) × BufferedByteStream × σ :=
  andThen ((pullWhile source fun _ => true).run (stream, state)) fun stream =>
    (stream.buffered, stream)

/-- `read_all_and_consume`. -/
def readAllAndConsume (stream : BufferedByteStream) (state : σ) :
    Awaited VmError (List UInt8) × BufferedByteStream × σ :=
  andThen ((pullWhile source fun _ => true).run (stream, state)) fun stream =>
    (stream.buffered, { stream with readOffset := stream.buffered.length })

/-- `eof`. -/
def readEof (stream : BufferedByteStream) (state : σ) :
    Awaited VmError Bool × BufferedByteStream × σ :=
  andThen (ensureReadableByte source stream state) fun stream =>
    (stream.eof && stream.consumed, stream)

end

/-! ## What an operation does -/

variable (stream : BufferedByteStream)

@[simp] theorem filled_buffered (data : List UInt8) :
    (stream.filled data).buffered = stream.buffered ++ data := rfl

@[simp] theorem filled_eof (data : List UInt8) : (stream.filled data).eof = stream.eof := rfl

@[simp] theorem ended_eof : stream.ended.eof = true := rfl

@[simp] theorem ended_buffered : stream.ended.buffered = stream.buffered := rfl

@[simp] theorem filled_nil : stream.filled [] = stream := by simp [filled]

theorem filled_filled (first second : List UInt8) :
    (stream.filled first).filled second = stream.filled (first ++ second) := by
  simp [filled, List.append_assoc]

theorem applyPull_chunk (bytes : List UInt8) :
    stream.applyPull (.chunk bytes) = stream.filled bytes := by
  by_cases empty : bytes = []
  · simp [applyPull, empty]
  · simp [applyPull, empty, filled]

section

variable {σ : Type} {source : Source σ VmError} {wants : BufferedByteStream → Bool}
variable {stream : BufferedByteStream} {state : σ}

/-- Everything a loop that pulls can do. -/
inductive Fills (source : Source σ VmError) (wants : BufferedByteStream → Bool)
    (stream : BufferedByteStream) (state : σ) :
    Awaited VmError Unit × BufferedByteStream × σ → Prop
  /-- It has what it wants, or had seen the end before. -/
  | enough {data : List UInt8} {next : σ} (gives : Gives source state data next)
    (content : ¬ (wants (stream.filled data) && !stream.eof)) :
    Fills source wants stream state (.ready (), stream.filled data, next)
  /-- It has come to the end. -/
  | ended {data : List UInt8} {next : σ} (running : stream.eof = false)
    (ends : Ends source state data next) :
    Fills source wants stream state (.ready (), (stream.filled data).ended, next)
  | broke {data : List UInt8} {err : VmError} {next : σ} (running : stream.eof = false)
    (breaks : Breaks source state data err next) :
    Fills source wants stream state (.failed err, stream.filled data, next)
  | hung {data : List UInt8} {next : σ} (running : stream.eof = false)
    (hangs : Hangs source state data next) :
    Fills source wants stream state (.dropped, stream.filled data, next)

/-- A pull that gave something stands in front of what the loop does next. -/
theorem Fills.front {bytes : List UInt8} {middle : σ}
    {result : Awaited VmError Unit × BufferedByteStream × σ}
    (gives : ∀ {data last}, Gives source middle data last → Gives source state (bytes ++ data) last)
    (fills : Fills source wants (stream.filled bytes) middle result) :
    Fills source wants stream state result := by
  cases fills with
  | enough rest content =>
    rw [filled_filled] at content ⊢
    exact .enough (gives rest) content
  | ended running ends =>
    obtain ⟨last, rest, ended⟩ := ends
    rw [filled_filled]
    exact .ended running ⟨last, gives rest, ended⟩
  | broke running breaks =>
    obtain ⟨last, rest, broke⟩ := breaks
    rw [filled_filled]
    exact .broke running ⟨last, gives rest, broke⟩
  | hung running hangs =>
    obtain ⟨last, rest, hung⟩ := hangs
    rw [filled_filled]
    exact .hung running ⟨last, gives rest, hung⟩

/-- A loop that pulls does nothing else. -/
theorem pullWhile_fills {wants : BufferedByteStream → Bool} (stream : BufferedByteStream)
    (state : σ) :
    Fills source wants stream state ((pullWhile source wants).run (stream, state)) := by
  generalize start : (stream, state) = pair
  induction pair using (pullWhile source wants).run_induct generalizing stream state with
  | left pair result turned =>
    rw [(pullWhile source wants).run_leave turned]
    subst start
    change pullTurn source wants stream state = .leave result at turned
    unfold pullTurn at turned
    split at turned
    · rename_i wanted
      have running : stream.eof = false := by
        simp only [Bool.and_eq_true, Bool.not_eq_true'] at wanted
        exact wanted.2
      split at turned
      · cases turned
      · rename_i err next pulled
        cases turned
        have broke := @Fills.broke σ source wants stream state [] err next running
          ⟨state, .refl state, pulled⟩
        rwa [filled_nil] at broke
      rename_i next pulled
      cases turned
      have hung := @Fills.hung σ source wants stream state [] next running
        ⟨state, .refl state, pulled⟩
      rwa [filled_nil] at hung
    · cases turned
      have kept : Fills source wants stream state (.ready (), stream.filled [], state) :=
        .enough (.refl state) (by rwa [filled_nil])
      rwa [filled_nil] at kept
  | again pair next turned ih =>
    rw [(pullWhile source wants).run_again turned]
    subst start
    change pullTurn source wants stream state = .again next at turned
    unfold pullTurn at turned
    split at turned
    · rename_i wanted
      have running : stream.eof = false := by
        simp only [Bool.and_eq_true, Bool.not_eq_true'] at wanted
        exact wanted.2
      split at turned
      · rename_i pull middle pulled
        cases turned
        cases pull with
        | chunk bytes =>
          have rest := ih (stream.applyPull (.chunk bytes)) middle rfl
          rw [applyPull_chunk] at rest ⊢
          exact rest.front fun more => .chunk pulled more
        | skip =>
          have rest := ih stream middle rfl
          have same : stream.applyPull .skip = stream.filled [] := (filled_nil stream).symm
          rw [← filled_nil stream] at rest
          rw [same]
          exact rest.front fun more => .skip pulled more
        | eof =>
          -- at the end the loop leaves
          have leaves : (pullWhile source wants).run (stream.ended, middle) =
              (.ready (), stream.ended, middle) := by
            apply (pullWhile source wants).run_leave
            simp [pullWhile, pullTurn]
          have ended := @Fills.ended σ source wants stream state [] middle running
            ⟨state, .refl state, pulled⟩
          rw [filled_nil, ← leaves] at ended
          exact ended
      all_goals cases turned
    · cases turned

end

end BufferedByteStream

end PdEdge.State

import PdEdge.State.BodyIo

/-!
# Reading a body from a program

A program reads a body with a sequence of operations, each of which tells it that it failed,
that the body has ended, or neither. `Reads` lists everything an operation can do to the
buffer and the source. Over whole sequences, an end is told after a failure exactly when the
source masks the failure.
-/

namespace PdEdge.State

open Sources Wire BufferedByteStream List

/-- The operations that read a buffered body. -/
inductive Read where
  | nextChunk (maxBytes : Nat)
  | nextLine
  | all
  | allAndConsume
  | eof
  deriving DecidableEq

/-- What an operation tells its caller about the body. -/
inductive Report where
  /-- It returned an error. -/
  | failed
  /-- It never returned. -/
  | dropped
  /-- The body is complete. -/
  | ended
  /-- It returned without a word about the end. -/
  | went
  deriving DecidableEq

section

variable {σ α : Type} (source : Source σ VmError)

/-- The report of an operation, by whether its value tells the end. -/
def reportOf (tells : α → BufferedByteStream → Bool) :
    Awaited VmError α × BufferedByteStream × σ → Report × BufferedByteStream × σ
  | (.ready value, stream, state) => (if tells value stream then .ended else .went, stream, state)
  | (.failed _, stream, state) => (.failed, stream, state)
  | (.dropped, stream, state) => (.dropped, stream, state)

/-- An operation and its report. No bytes where some were asked for are the end, and so is no
line when none was passed over. Whoever reads all relies on it being all. -/
def Read.run (read : Read) (stream : BufferedByteStream) (state : σ) :
    Report × BufferedByteStream × σ :=
  match read with
  | .nextChunk maxBytes =>
    reportOf (fun bytes _ => maxBytes ≠ 0 && bytes = [])
      (readNextChunk source maxBytes stream state)
  | .nextLine =>
    reportOf (fun line after => line = [] && after.readOffset = stream.readOffset)
      (readNextLine source stream state)
  | .all => reportOf (fun _ _ => true) (readAll source stream state)
  | .allAndConsume => reportOf (fun _ _ => true) (readAllAndConsume source stream state)
  | .eof => reportOf (fun ended _ => ended) (readEof source stream state)

/-- A sequence of operations and their reports. -/
def reads : List Read → BufferedByteStream → σ → List Report × BufferedByteStream × σ
  | [], stream, state => ([], stream, state)
  | read :: rest, stream, state =>
    let (report, stream, state) := read.run source stream state
    let (reports, final) := reads rest stream state
    (report :: reports, final)

end

/-! ## What an operation does -/

section

variable {σ α : Type} {source : Source σ VmError} {stream : BufferedByteStream} {state : σ}
variable {wants : BufferedByteStream → Bool}

/-- Everything an operation can do; only the read position is left open. -/
inductive Reads (source : Source σ VmError) (stream : BufferedByteStream) (state : σ) :
    Report × BufferedByteStream × σ → Prop
  /-- It takes some of what the source gives. An end that it tells was seen before. -/
  | more {data : List UInt8} {report : Report} {stream' : BufferedByteStream} {next : σ}
    (gives : Gives source state data next)
    (buffered : stream'.buffered = stream.buffered ++ data) (same : stream'.eof = stream.eof)
    (told : report = .went ∨ report = .ended ∧ stream.eof = true) :
    Reads source stream state (report, stream', next)
  /-- It comes to the end. -/
  | ended {data : List UInt8} {report : Report} {stream' : BufferedByteStream} {next : σ}
    (running : stream.eof = false) (ends : Ends source state data next)
    (buffered : stream'.buffered = stream.buffered ++ data) (eof : stream'.eof = true)
    (told : report = .went ∨ report = .ended) :
    Reads source stream state (report, stream', next)
  | broke {data : List UInt8} {err : VmError} {next : σ} (running : stream.eof = false)
    (breaks : Breaks source state data err next) :
    Reads source stream state (.failed, stream.filled data, next)
  | hung {data : List UInt8} {next : σ} (running : stream.eof = false)
    (hangs : Hangs source state data next) :
    Reads source stream state (.dropped, stream.filled data, next)

theorem ite_told {tells : Bool} :
    (if tells then Report.ended else Report.went) = .went ∨
      (if tells then Report.ended else Report.went) = .ended ∧ tells = true := by
  cases tells
  · exact Or.inl rfl
  · exact Or.inr ⟨rfl, rfl⟩

/-- An operation that fills the stream, moves the read position, and tells the end only from
a stream that is content because it has seen it. -/
theorem andThen_reads {next : BufferedByteStream → α × BufferedByteStream}
    {tells : α → BufferedByteStream → Bool}
    (buffered : ∀ stream, (next stream).2.buffered = stream.buffered)
    (eof : ∀ stream, (next stream).2.eof = stream.eof)
    (seen : ∀ stream', stream'.readOffset = stream.readOffset → stream'.eof = false →
      ¬ wants stream' → tells (next stream').1 (next stream').2 = false)
    {result : Awaited VmError Unit × BufferedByteStream × σ}
    (fills : Fills source wants stream state result) :
    Reads source stream state (reportOf tells (andThen result next)) := by
  cases fills with
  | @enough data after gives content =>
    refine .more gives (buffered _) (eof _) ?_
    rcases ite_told with
      went | ⟨told, tells⟩
    · exact Or.inl went
    refine Or.inr ⟨told, ?_⟩
    cases running : stream.eof with
    | true => rfl
    | false =>
      have enough : ¬ wants (stream.filled data) := by simpa [running] using content
      rw [seen (stream.filled data) rfl running enough] at tells
      cases tells
  | @ended data after running ends =>
    refine .ended running ends (buffered _) (eof _) ?_
    rcases ite_told with went | ⟨told, -⟩
    · exact Or.inl went
    · exact Or.inr told
  | broke running breaks => exact .broke running breaks
  | hung running hangs => exact .hung running hangs

/-- A line is found in front of the end only with a line end that is then passed over. -/
theorem takeLine_running {stream after : BufferedByteStream} {line : List UInt8}
    (running : stream.eof = false) (taken : stream.takeLine = some (line, after)) :
    after.readOffset ≠ stream.readOffset := by
  simp only [takeLine, running, Bool.false_eq_true, ↓reduceIte] at taken
  split at taken
  · split at taken
    · cases taken
      simp only
      omega
    · cases taken
  · cases taken

/-- An operation does nothing else. -/
theorem Read.run_reads (read : Read) (stream : BufferedByteStream) (state : σ) :
    Reads source stream state (read.run source stream state) := by
  cases read with
  | nextChunk maxBytes =>
    refine andThen_reads ?_ ?_ ?_ (pullWhile_fills stream state)
    · intro stream
      split <;> rfl
    · intro stream
      split <;> rfl
    intro stream' position running enough
    rw [if_neg enough]
    simp only [Bool.and_eq_false_imp, decide_eq_true_eq, decide_eq_false_iff_not]
    intro some nothing
    have length := congrArg length nothing
    simp only [consumed, decide_eq_true_eq] at enough
    simp only [length_drop, length_take, length_nil] at length
    omega
  | nextLine =>
    refine andThen_reads ?_ ?_ ?_ (pullWhile_fills stream state)
    · intro stream
      unfold takeLine
      dsimp only
      split
      · split
        · rfl
        · split <;> rfl
      · split <;> rfl
    · intro stream
      unfold takeLine
      dsimp only
      split
      · split
        · rfl
        · split <;> rfl
      · split <;> rfl
    · intro stream' position running enough
      cases taken : stream'.takeLine with
      | none => simp [taken] at enough
      | some pair =>
        have moved := takeLine_running running taken
        rw [position] at moved
        simp [moved]
  | all | allAndConsume =>
    refine andThen_reads (fun _ => rfl) (fun _ => rfl) ?_ (pullWhile_fills stream state)
    intro stream' position running enough
    exact absurd rfl enough
  | eof =>
    refine andThen_reads (fun _ => rfl) (fun _ => rfl) ?_ (pullWhile_fills stream state)
    intro stream' position running enough
    simp [running]

end

/-! ## Sequences of operations -/

/-- An end is told after a failure. -/
def Masked (reports : List Report) : Prop :=
  ∃ before after, reports = before ++ .failed :: after ∧ .ended ∈ after

variable {reports : List Report}

theorem Masked.ended (masked : Masked reports) : .ended ∈ reports := by
  obtain ⟨before, after, rfl, ended⟩ := masked
  exact mem_append_right _ (mem_cons_of_mem _ ended)

theorem masked_cons {report : Report} :
    Masked (report :: reports) ↔ report = .failed ∧ .ended ∈ reports ∨ Masked reports := by
  constructor
  · rintro ⟨before, after, same, ended⟩
    cases before with
    | nil =>
      cases same
      exact Or.inl ⟨rfl, ended⟩
    | cons first before =>
      cases same
      exact Or.inr ⟨before, after, rfl, ended⟩
  · rintro (⟨rfl, ended⟩ | ⟨before, after, rfl, ended⟩)
    · exact ⟨[], reports, rfl, ended⟩
    · exact ⟨report :: before, after, rfl, ended⟩

section

variable {σ : Type} {source : Source σ VmError} {stream : BufferedByteStream} {state : σ}

/-- No end has been seen and none will come. -/
def Quiet (source : Source σ VmError) (stream : BufferedByteStream) (state : σ) : Prop :=
  stream.eof = false ∧ ¬ Comes source state

/-- The end has been seen, or no failure will be masked. -/
def Sound (source : Source σ VmError) (stream : BufferedByteStream) (state : σ) : Prop :=
  stream.eof = true ∨ ¬ Masks source state

variable {result : Report × BufferedByteStream × σ} {next : σ} {piece : Pull}

theorem Reads.quiet (quiet : Quiet source stream state) (does : Reads source stream state result) :
    result.1 ≠ .ended ∧ Quiet source result.2.1 result.2.2 := by
  obtain ⟨running, never⟩ := quiet
  cases does with
  | more gives buffered same told =>
    refine ⟨?_, same.trans running, fun comes => never (comes.before gives)⟩
    rintro rfl
    rcases told with told | ⟨-, eof⟩
    · cases told
    · rw [running] at eof
      cases eof
  | ended _ ends => exact absurd ends.comes never
  | broke _ breaks => exact ⟨by simp, running, fun comes => never (breaks.comes comes)⟩
  | hung _ hangs => exact ⟨by simp, running, fun comes => never (hangs.comes comes)⟩

theorem Reads.sound (sound : Sound source stream state) (does : Reads source stream state result) :
    result.1 = .failed ∧ Quiet source result.2.1 result.2.2 ∨
      result.1 ≠ .failed ∧ Sound source result.2.1 result.2.2 := by
  cases does with
  | more gives buffered same told =>
    refine Or.inr ⟨?_, ?_⟩
    · rcases told with rfl | ⟨rfl, -⟩
      all_goals simp
    · rcases sound with eof | never
      · exact Or.inl (same.trans eof)
      · exact Or.inr fun masks => never (masks.before gives)
  | ended running ends buffered eof told =>
    refine Or.inr ⟨?_, Or.inl eof⟩
    rcases told with rfl | rfl
    all_goals simp
  | broke running breaks =>
    rcases sound with eof | never
    · rw [running] at eof
      cases eof
    · exact Or.inl ⟨rfl, running, fun comes => never (breaks.masks comes)⟩
  | hung running hangs =>
    rcases sound with eof | never
    · rw [running] at eof
      cases eof
    · exact Or.inr ⟨by simp, Or.inr fun masks => never (hangs.masks masks)⟩

/-- Without an end to come none is told. -/
theorem reads_quiet (ops : List Read) (quiet : Quiet source stream state) :
    .ended ∉ (reads source ops stream state).1 ∧
      Quiet source (reads source ops stream state).2.1 (reads source ops stream state).2.2 := by
  induction ops generalizing stream state with
  | nil => exact ⟨by simp [reads], quiet⟩
  | cons read ops ih =>
    obtain ⟨silent, quiet⟩ := (read.run_reads stream state).quiet quiet
    obtain ⟨others, quiet⟩ := ih quiet
    refine ⟨?_, quiet⟩
    simp only [reads, mem_cons, not_or]
    exact ⟨Ne.symm silent, others⟩

/-- What holds after operations on a source that masks nothing. -/
theorem reads_sound {ops : List Read} (sound : Sound source stream state) :
    ¬ Masked (reads source ops stream state).1 ∧
      (.failed ∈ (reads source ops stream state).1 →
        Quiet source (reads source ops stream state).2.1 (reads source ops stream state).2.2) := by
  induction ops generalizing stream state with
  | nil =>
    refine ⟨fun masked => ?_, by simp [reads]⟩
    exact absurd masked.ended (by simp [reads])
  | cons read ops ih =>
    rcases (read.run_reads stream state).sound sound with ⟨failed, quiet⟩ | ⟨fine, sound⟩
    · obtain ⟨silent, quiet⟩ := reads_quiet ops quiet
      refine ⟨?_, fun _ => quiet⟩
      simp only [reads, masked_cons, not_or, not_and]
      exact ⟨fun _ => silent, fun masked => silent masked.ended⟩
    obtain ⟨honest, quiet⟩ := ih sound
    refine ⟨?_, ?_⟩
    · simp only [reads, masked_cons, not_or, not_and]
      exact ⟨fun failed => absurd failed fine, honest⟩
    simp only [reads, mem_cons]
    rintro (failed | failed)
    · exact absurd failed.symm fine
    · exact quiet failed

/-! ## Reading on after a failure -/

attribute [local simp] pullTurn

section

variable (running : stream.eof = false)
include running

theorem run_all_again (pulled : source.pull state = (.ready piece, next)) :
    Read.all.run source stream state = Read.all.run source (stream.applyPull piece) next := by
  simp only [Read.run, readAll]
  congr 2
  apply (pullWhile source fun _ => true).run_again
  simp [pullWhile, running, pulled]

theorem run_all_failed {err : VmError} (pulled : source.pull state = (.failed err, next)) :
    Read.all.run source stream state = (.failed, stream, next) := by
  have left : (pullWhile source fun _ => true).run (stream, state) =
      (.failed err, stream, next) := by
    apply (pullWhile source fun _ => true).run_leave
    simp [pullWhile, running, pulled]
  simp only [Read.run, readAll, left, andThen, reportOf]

theorem run_all_dropped (pulled : source.pull state = (.dropped, next)) :
    Read.all.run source stream state = (.dropped, stream, next) := by
  have left : (pullWhile source fun _ => true).run (stream, state) = (.dropped, stream, next) := by
    apply (pullWhile source fun _ => true).run_leave
    simp [pullWhile, running, pulled]
  simp only [Read.run, readAll, left, andThen, reportOf]

end

theorem run_all_over (past : stream.eof = true) :
    Read.all.run source stream state = (.ended, stream, state) := by
  have left : (pullWhile source fun _ => true).run (stream, state) = (.ready (), stream,
    state) := by
    apply (pullWhile source fun _ => true).run_leave
    simp [pullWhile, past]
  simp only [Read.run, readAll, left, andThen, reportOf, ↓reduceIte]

theorem run_all_eof (running : stream.eof = false)
    (pulled : source.pull state = (.ready .eof, next)) :
    Read.all.run source stream state = (.ended, stream.ended, next) := by
  rw [run_all_again running pulled]
  exact run_all_over rfl

/-- Reading all again and again. -/
def attempts (source : Source σ VmError) (count : Nat) (stream : BufferedByteStream) (state : σ) :
    List Report :=
  (reads source (List.replicate count .all) stream state).1

theorem attempts_succ (count : Nat) (stream : BufferedByteStream) (state : σ) :
    attempts source (count + 1) stream state =
      (Read.all.run source stream state).1 :: attempts source count
        (Read.all.run source stream state).2.1 (Read.all.run source stream state).2.2 := rfl

/-- A piece is read by the attempt that also reads what comes behind it. -/
theorem attempts_again (running : stream.eof = false)
    (pulled : source.pull state = (.ready piece, next)) (count : Nat) :
    attempts source (count + 1) stream state =
      attempts source (count + 1) (stream.applyPull piece) next := by
  rw [attempts_succ, attempts_succ, run_all_again running pulled]

theorem applyPull_running (running : stream.eof = false) (other : piece ≠ .eof) :
    (stream.applyPull piece).eof = false := by
  cases piece with
  | chunk bytes =>
    rw [applyPull_chunk]
    exact running
  | skip => exact running
  | eof => exact absurd rfl other

/-- An end that comes is told by some attempt. -/
theorem told_of_comes (comes : Comes source state) (stream : BufferedByteStream)
    (running : stream.eof = false) :
    ∃ count, .ended ∈ attempts source (count + 1) stream state := by
  induction comes generalizing stream with
  | @now state ended =>
    refine ⟨0, ?_⟩
    rw [attempts_succ, run_all_eof running (Prod.ext ended rfl)]
    exact mem_cons_self
  | @later state comes ih =>
    cases pulled : source.pull state with
    | mk result next =>
      rw [pulled] at ih
      rcases result with piece | err | _
      · by_cases eof : piece = .eof
        · subst eof
          refine ⟨0, ?_⟩
          rw [attempts_succ, run_all_eof running pulled]
          exact mem_cons_self
        · obtain ⟨count, told⟩ := ih _ (applyPull_running running eof)
          refine ⟨count, ?_⟩
          rwa [attempts_again running pulled]
      · obtain ⟨count, told⟩ := ih stream running
        refine ⟨count + 1, ?_⟩
        rw [attempts_succ, run_all_failed running pulled]
        exact mem_cons_of_mem _ told
      · obtain ⟨count, told⟩ := ih stream running
        refine ⟨count + 1, ?_⟩
        rw [attempts_succ, run_all_dropped running pulled]
        exact mem_cons_of_mem _ told

/-- A failure that the source masks is masked by reading all again and again. -/
theorem masked_of_masks (masks : Masks source state) (stream : BufferedByteStream)
    (running : stream.eof = false) : ∃ count,
      Masked (attempts source (count + 1) stream state) := by
  induction masks generalizing stream with
  | @now state err broke comes =>
    obtain ⟨count, told⟩ := told_of_comes comes stream running
    refine ⟨count + 1, ?_⟩
    rw [attempts_succ, run_all_failed running (Prod.ext broke rfl), masked_cons]
    exact Or.inl ⟨rfl, told⟩
  | @later state masks ih =>
    cases pulled : source.pull state with
    | mk result next =>
      rw [pulled] at ih
      rcases result with piece | err | _
      · by_cases eof : piece = .eof
        · subst eof
          exact absurd (.later masks) (not_masks_of_eof (congrArg Prod.fst pulled))
        · obtain ⟨count, masked⟩ := ih _ (applyPull_running running eof)
          refine ⟨count, ?_⟩
          rwa [attempts_again running pulled]
      · obtain ⟨count, masked⟩ := ih stream running
        refine ⟨count + 1, ?_⟩
        rw [attempts_succ, run_all_failed running pulled, masked_cons]
        exact Or.inr masked
      obtain ⟨count, masked⟩ := ih stream running
      refine ⟨count + 1, ?_⟩
      rw [attempts_succ, run_all_dropped running pulled, masked_cons]
      exact Or.inr masked

end

end PdEdge.State

import PdEdge.Lib.Runs
import PdEdge.State.Inbound
import PdEdge.State.Reads

/-!
# The mark on the downstream transport

Every operation on the request body may mark the downstream transport: as closed where it takes
the body to be at its end, and as failed where the body has failed.
-/

namespace PdEdge.State

open Sources Wire Runs BufferedByteStream

/-- `is_drained`: the whole body has been received and consumed. -/
def BufferedByteStream.drained (stream : BufferedByteStream) : Bool :=
  stream.eof && stream.consumed

section

variable {σ : Type} (source : Source σ VmError) (body : BufferedByteStream × σ)

/-- An operation on the request body with `finalize_downstream_body_read_result`,
`finalize_downstream_body_all_result` or `finalize_downstream_body_eof_result`: where it reports
`ended` it marks the transport as closed, and where it reports `failed` as failed. -/
def Read.finalize : Read → Report × BufferedByteStream × σ
  | .nextChunk maxBytes =>
    reportOf (fun bytes after => bytes = [] || after.drained)
      (readNextChunk source maxBytes body.1 body.2)
  | .nextLine =>
    reportOf (fun line after => line = [] || after.drained) (readNextLine source body.1 body.2)
  | .all => reportOf (fun _ _ => true) (readAll source body.1 body.2)
  | .allAndConsume => reportOf (fun _ _ => true) (readAllAndConsume source body.1 body.2)
  | .eof => reportOf (fun ended _ => ended) (readEof source body.1 body.2)

/-- The body behind an operation. -/
def advance (read : Read) : BufferedByteStream × σ := (read.finalize source body).2

/-- An operation that marks the transport as closed leaves nothing of the body. -/
def MarksEnd (read : Read) : Prop :=
  (read.finalize source body).1 = .ended → (advance source body read).1.drained = true

/-- A chunk has a size, which the host functions see to; a line that is asked for is not empty,
unless it is the last of a body that has ended; and nothing is left where all is asked for. -/
def MarkClear : Read → Prop
  | .nextChunk maxBytes => 0 < maxBytes
  | .nextLine => ∀ data next, Gives source body.2 data next →
      ((body.1.buffered ++ data).drop body.1.readOffset).head? = some 10 →
        body.1.eof = true ∧ (body.1.buffered ++ data).length ≤ body.1.readOffset + 1
  | .all => ∀ data next, Gives source body.2 data next → (body.1.filled data).consumed = true
  | .allAndConsume => True
  | .eof => True

variable {source body}

/-- An operation marks the transport only if it returns, with a body that has ended or that it
wants no more of. -/
theorem marks_end {α : Type} {wants : BufferedByteStream → Bool}
    {result : Awaited VmError Unit × BufferedByteStream × σ}
    {next : BufferedByteStream → α × BufferedByteStream} {tells : α → BufferedByteStream → Bool}
    (fills : Fills source wants body.1 body.2 result)
    (right : ∀ data last stream, Gives source body.2 data last →
      stream.buffered = body.1.buffered ++ data → stream.readOffset = body.1.readOffset →
      stream.eof = true ∨ body.1.eof = false ∧ wants stream = false →
      tells (next stream).1 (next stream).2 = true → (next stream).2.drained = true)
    (told : (reportOf tells (andThen result next)).1 = .ended) :
    (reportOf tells (andThen result next)).2.1.drained = true := by
  have loud (stream : BufferedByteStream)
      (told : (if tells (next stream).1 (next stream).2 then Report.ended else .went) = .ended) :
      tells (next stream).1 (next stream).2 = true := by
    by_contra silent
    simp [silent] at told
  cases fills with
  | enough gives content =>
    refine right _ _ _ gives rfl rfl ?_ (loud _ told)
    rw [filled_eof]
    cases seen : body.1.eof <;> simp_all
  | ended running ends =>
    obtain ⟨middle, gives, -⟩ := ends
    exact right _ middle _ gives rfl rfl (Or.inl rfl) (loud _ told)
  | broke running breaks | hung running hangs => cases told

/-- Only at the end, or in front of a line end, is a line empty. -/
theorem takeLine_empty {stream after : BufferedByteStream}
    (taken : stream.takeLine = some ([], after)) :
    after.drained = true ∨ (stream.buffered.drop stream.readOffset).head? = some 10 ∧
      after = { stream with readOffset := stream.readOffset + 1 } := by
  simp only [takeLine] at taken
  split at taken
  · rename_i inside
    have start : min stream.readOffset stream.buffered.length = stream.readOffset := by omega
    rw [start] at taken inside
    obtain ⟨first, rest, split⟩ := List.exists_cons_of_ne_nil
      (List.drop_eq_nil_iff.not.mpr (by omega) : stream.buffered.drop stream.readOffset ≠ [])
    rw [split] at taken ⊢
    by_cases line : first = 10
    · simp [line] at taken
      exact Or.inr ⟨by simp [line], taken.symm⟩
    · split at taken
      · simp [line] at taken
      · split at taken <;> cases taken
  · split at taken
    · rename_i outside ended
      cases taken
      refine Or.inl ?_
      simp only [drained, consumed, ended, Bool.true_and, decide_eq_true_eq]
      omega
    · cases taken

theorem takeLine_ended {stream : BufferedByteStream} (ended : stream.eof = true) :
    stream.takeLine.isNone = false := by
  unfold takeLine
  simp only [ended, ↓reduceIte]
  split
  · split <;> rfl
  · rfl

theorem marksEnd_of_clear (read : Read) (clear : MarkClear source body read) :
    MarksEnd source body read := by
  cases read with
  | nextChunk maxBytes =>
    refine marks_end (pullWhile_fills body.1 body.2)
      fun data last stream gives bytes position enough tells => ?_
    replace clear : 0 < maxBytes := clear
    split at tells
    · rename_i consumed
      rw [if_pos consumed, drained, consumed, Bool.and_true]
      simpa [consumed] using enough
    rename_i more
    rw [if_neg more]
    have some' : ((stream.buffered.take (min (stream.readOffset + maxBytes)
        stream.buffered.length)).drop stream.readOffset) ≠ [] := by
      simp only [consumed, decide_eq_true_eq] at more
      simp only [ne_eq, List.drop_eq_nil_iff, List.length_take]
      omega
    simpa [some'] using tells
  | nextLine =>
    refine marks_end (pullWhile_fills body.1 body.2)
      fun data last stream gives bytes position enough tells => ?_
    have found : stream.takeLine.isNone = false := enough.elim takeLine_ended And.right
    obtain ⟨⟨line, after⟩, taken⟩ := Option.isSome_iff_exists.mp (by simpa using found)
    simp only [taken, Option.getD_some, Bool.or_eq_true, decide_eq_true_eq] at tells ⊢
    rcases tells with rfl | drained
    · rcases takeLine_empty taken with drained | ⟨first, rfl⟩
      · exact drained
      rw [bytes, position] at first
      obtain ⟨ended, short⟩ := clear data last gives first
      have seen : stream.eof = true := enough.elim id fun running => by simp [ended] at running
      simpa [drained, consumed, seen, bytes, position] using short
    · exact drained
  | all =>
    refine marks_end (pullWhile_fills body.1 body.2)
      fun data last stream gives bytes position enough _ => ?_
    have consumed := clear data last gives
    simp_all [drained, BufferedByteStream.consumed, filled]
  | allAndConsume =>
    refine marks_end (pullWhile_fills body.1 body.2) fun _ _ stream _ _ _ enough _ => ?_
    simpa [drained, consumed] using enough
  | eof => exact marks_end (pullWhile_fills body.1 body.2) fun _ _ _ _ _ _ _ tells => tells

/-- A line is asked for where the next byte of the body is no line end. -/
theorem nextLine_clear {rest : List UInt8} (entire : Entire source body.2 rest)
    (other : ((body.1.buffered ++ rest).drop body.1.readOffset).head? ≠ some 10) :
    MarkClear source body .nextLine := by
  intro data next gives first
  obtain ⟨behind, -, rfl⟩ := entire.after gives
  rw [← List.append_assoc, List.drop_append, List.head?_append, first] at other
  exact absurd rfl other

end

/-- Along every run on a request body whose steps are clear, the downstream transport is marked
as closed only when the whole body has been received and consumed. -/
theorem closed_when_drained (body : Option Body) (reads : List Read)
    (clear : AllClear (advance inboundSource) (MarkClear inboundSource) (default, body) reads) :
    AllClear (advance inboundSource) (MarksEnd inboundSource) (default, body) reads :=
  clear.imp marksEnd_of_clear

/-- A body of two lines in two frames: the second is read in a chunk and the rest, which closes. -/
theorem drained_request_closed :
    let body : Body := .hyper ⟨[.ready (.data ⟨[97, 98, 10], by decide⟩),
      .ready (.data ⟨[99, 100], by decide⟩)], none⟩
    AllClear (advance inboundSource) (MarksEnd inboundSource) (default, some body)
      [.nextLine, .nextChunk 1, .nextLine, .eof] ∧
    (Read.finalize inboundSource ([.nextLine, .nextChunk 1].foldl (advance inboundSource)
      (default, some body)) .nextLine).1 = .ended := by
  intro body
  have second : Entire inboundSource
      (some (.hyper ⟨[.ready (.data ⟨[99, 100], by decide⟩)], none⟩)) [99, 100] :=
    @Entire.chunk _ _ inboundSource _ _ [99, 100] [] rfl (.eof rfl)
  exact ⟨closed_when_drained _ _ ⟨nextLine_clear (.chunk rfl second) (by decide), Nat.one_pos,
    @nextLine_clear _ inboundSource _ [] (.eof rfl) (by decide +kernel), trivial, trivial⟩, by decide +kernel⟩

/-- An empty line in front of another byte. -/
theorem blank_line_closes : ¬ ∀ (body : Option Body) (reads : List Read),
    (∀ size, .nextChunk size ∈ reads → 0 < size) →
      AllClear (advance inboundSource) (MarksEnd inboundSource) (default, body) reads := by
  intro closes
  have marked := (closes (some (.hyper ⟨[.ready (.data ⟨[10, 120], by decide⟩)], none⟩))
    [.nextLine] (by simp)).1 rfl
  exact absurd marked (by decide)

end PdEdge.State

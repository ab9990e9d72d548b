import PdEdge.Lib.AsyncRead
import PdEdge.Downstream.Serve

/-!
# Giving a connection to hyper

A connection that the fast path gives up goes to hyper behind a reader that replays what was
buffered. Of the request in front nothing has been used by then and nothing has been written
for it, and the requests before it have been used up to their ends.
-/

namespace PdEdge.Downstream

open Streams Wire List

/-! ## The replaying reader -/

/-- `ReplayPrefixedIo`. -/
structure ReplayPrefixedIo (σ : Type) where
  prefixBytes : List UInt8
  prefixOffset : Nat
  inner : σ

namespace ReplayPrefixedIo

variable {σ ε : Type} (stream : AsyncRead σ ε)

/-- `new`. -/
def new (prefixBytes : List UInt8) (inner : σ) : ReplayPrefixedIo σ := ⟨prefixBytes, 0, inner⟩

/-- `poll_read`; a poll without room goes to the inner stream. -/
def pollRead (io : ReplayPrefixedIo σ) (room : Nat) : Poll ε × ReplayPrefixedIo σ :=
  if io.prefixOffset < io.prefixBytes.length && 0 < room then
    let remaining := io.prefixBytes.length - io.prefixOffset
    let toCopy := min remaining room
    let stop := io.prefixOffset + toCopy
    (.ready ((io.prefixBytes.take stop).drop io.prefixOffset),
      if io.prefixBytes.length ≤ stop then { io with prefixBytes := [], prefixOffset := 0 }
      else { io with prefixOffset := stop })
  else
    let (poll, inner) := stream.pollRead io.inner room
    (poll, { io with inner := inner })

/-- What is still to be replayed, and what the inner stream holds. -/
def remaining (io : ReplayPrefixedIo σ) : List UInt8 :=
  io.prefixBytes.drop io.prefixOffset ++ stream.remaining io.inner

section

variable (io : ReplayPrefixedIo σ) (room : Nat)

/-- The slice that a poll copies. -/
theorem slice_eq (count : Nat) :
    (io.prefixBytes.take (io.prefixOffset + count)).drop io.prefixOffset =
      (io.prefixBytes.drop io.prefixOffset).take count := by
  rw [drop_take, Nat.add_sub_cancel_left]

theorem pollRead_fits : (pollRead stream io room).1.bytes.length ≤ room := by
  unfold pollRead
  split
  · rw [Poll.bytes, slice_eq, length_take]
    omega
  · exact stream.fits io.inner room

theorem pollRead_keeps :
    remaining stream io =
      (pollRead stream io room).1.bytes ++ remaining stream (pollRead stream io room).2 := by
  unfold pollRead
  split
  · dsimp only
    rw [Poll.bytes, slice_eq, remaining]
    split
    · have whole : (io.prefixBytes.drop io.prefixOffset).take
          (min (io.prefixBytes.length - io.prefixOffset) room) =
            io.prefixBytes.drop io.prefixOffset := by
        apply take_of_length_le
        rw [length_drop]
        omega
      rw [whole]
      rfl
    · rw [remaining, ← append_assoc]
      congr 1
      rw [← drop_drop, take_append_drop]
  · rename_i goesOn
    have inner := stream.keeps io.inner room
    simp only [remaining]
    by_cases left : io.prefixOffset < io.prefixBytes.length
    · -- without room the inner stream gives nothing
      have none : room = 0 := by
        have narrow : ¬ 0 < room := fun some => goesOn (by simp [left, some])
        omega
      have fits := stream.fits io.inner room
      have empty : (stream.pollRead io.inner room).1.bytes = [] :=
        eq_nil_of_length_eq_zero (by omega)
      rw [empty, nil_append] at inner
      rw [empty, nil_append, inner]
    · rw [drop_eq_nil_of_le (Nat.not_lt.mp left), nil_append, nil_append]
      exact inner

theorem pollRead_ends (positive : 0 < room) (empty : (pollRead stream io room).1 = .ready []) :
    remaining stream io = [] := by
  unfold pollRead at empty
  split at empty
  · rename_i replays
    have left : io.prefixOffset < io.prefixBytes.length := by simpa [positive] using replays
    simp only [Poll.ready.injEq] at empty
    have length := congrArg length empty
    rw [slice_eq, length_take, length_drop, length_nil] at length
    omega
  rename_i goesOn
  have done : io.prefixBytes.length ≤ io.prefixOffset := by simpa [positive] using goesOn
  rw [remaining, drop_eq_nil_of_le done, nil_append]
  exact stream.ends io.inner room positive empty

/-- The replay itself never stalls. -/
theorem pollRead_yields :
    (pollRead stream io room).1.stalls + stream.stalls (pollRead stream io room).2.inner ≤
      stream.stalls io.inner := by
  unfold pollRead
  split
  · dsimp only
    split <;> exact Nat.le_of_eq (Nat.zero_add _)
  · exact stream.yields io.inner room

end

/-- The replaying reader is a stream of its own. -/
def read : AsyncRead (ReplayPrefixedIo σ) ε where
  pollRead := pollRead stream
  remaining := remaining stream
  fits := pollRead_fits stream
  keeps := pollRead_keeps stream
  ends := pollRead_ends stream
  stalls io := stream.stalls io.inner
  yields := pollRead_yields stream

end ReplayPrefixedIo

/-! ## Rounds -/

section

variable {υ : Type} {libraries : ServeLibraries υ} {snapshots : Snapshots υ}
variable {reader next : Reader IoError} {writes writes' : Writes}

/-- The connection is given away with everything that was to come, and nothing was written. -/
theorem readNext_fallback {libraries : RequestLibraries υ} {socket : Socket IoError}
    {buffered : List UInt8}
    (fell : (readNextFastHttp1Request libraries writes socket buffered).decision =
      .ready .fallbackToHyper) :
    ∃ after : Reader IoError, after.ahead = (⟨socket, buffered⟩ : Reader IoError).ahead ∧
      readNextFastHttp1Request libraries writes socket buffered =
        ⟨.ready .fallbackToHyper, .ofReader after, writes, false⟩ := by
  fun_induction readNextFastHttp1Request libraries writes socket buffered with
  | case1 socket buffered full | case3 socket buffered small message invalid => exact ⟨_, rfl, rfl⟩
  | case2 socket buffered small raw consumed complete =>
    have decides := decideRequest_decides libraries raw consumed ⟨socket, buffered⟩ writes
    generalize decideRequest libraries raw consumed ⟨socket, buffered⟩ writes = read at fell decides
    cases decides with
    | left refused => exact ⟨_, rfl, rfl⟩
    | taken | failed | dropped => cases fell
  | case4 buffered small waits =>
    split at fell
    · cases fell
    · rename_i some
      rw [if_neg some]
      exact ⟨_, rfl, rfl⟩
  | case5 buffered small waits segment more ih =>
    obtain ⟨after, ahead, read⟩ := ih fell
    refine ⟨after, ahead.trans ?_, read⟩
    simp [Reader.ahead, carried]
  | case6 buffered small waits err more | case7 buffered small waits more => cases fell

variable {connection : FastHttp1ConnectionIo}

theorem ofReader_injective : Function.Injective FastHttp1ConnectionIo.ofReader := by
  rintro ⟨socket, buffered⟩ ⟨socket', buffered'⟩ same
  simpa [FastHttp1ConnectionIo.ofReader] using same

/-- A last response is the end of the loop, and not for hyper. -/
theorem writeLast_leaves (libraries : ServeLibraries υ) (method : Method)
    (connection : FastHttp1ConnectionIo) (writes : Writes) (response : Response) :
    ∃ exit, (writeLast libraries method connection writes response).2 = .leave exit ∧
      ∀ back, exit ≠ .hyper back := by
  unfold writeLast
  split <;> exact ⟨_, rfl, by simp⟩

theorem rejectRequest_leaves (libraries : ServeLibraries υ) (method : Method)
    (connection : FastHttp1ConnectionIo) (writes : Writes) (err : FastHttp1ReadError) :
    ∃ exit, (rejectRequest libraries method connection writes err).2 = .leave exit ∧
      ∀ back, exit ≠ .hyper back := by
  cases err with
  | io err => exact ⟨_, rfl, by simp⟩
  | badRequest message | payloadTooLarge =>
    exact writeLast_leaves libraries method connection writes _

variable {request : FastHttp1Request υ} {lease : Option FastHttp1RequestBodyState}
variable {connection back : FastHttp1ConnectionIo} {resolution : Http1DownstreamResolution}
variable {parsed : FastHttp1ParsedRequest υ}

/-- A request that was read is not left to hyper any more. -/
theorem respond_stays {writes : Writes} :
    (respond libraries request lease connection writes resolution).2 ≠ .leave (.hyper back) := by
  unfold respond
  cases finishLease lease connection with
  | dropped => simp
  | failed failure =>
    obtain ⟨exit, leaves, other⟩ :=
      rejectRequest_leaves libraries request.method failure.2 writes failure.1
    simpa [leaves] using other back
  | ready connection =>
    dsimp only
    split
    · simp
    split
    · simp
    · simp
    · split <;> simp

theorem serveRequest_stays {writes : Writes} :
    (serveRequest libraries snapshots parsed connection writes).2 ≠ .leave (.hyper back) := by
  unfold serveRequest
  split
  · exact respond_stays
  split
  · obtain ⟨exit, leaves, other⟩ := writeLast_leaves libraries parsed.request.method connection
      writes (textResponse .notFound "not found")
    simpa [leaves] using other back
  · exact respond_stays

/-- A response behind which the loop goes on has taken the connection back. -/
theorem respond_again (again : (respond libraries request lease connection writes resolution).2 =
      .again (next, writes')) : finishLease lease connection = .ready (.ofReader next) := by
  unfold respond at again
  cases finished : finishLease lease connection with
  | dropped =>
    rw [finished] at again
    cases again
  | failed failure =>
    rw [finished] at again
    obtain ⟨exit, leaves, -⟩ :=
      rejectRequest_leaves libraries request.method failure.2 writes failure.1
    cases leaves.symm.trans again
  | ready back =>
    obtain ⟨stream, buffered⟩ := back
    rw [finished] at again
    dsimp only at again
    split at again
    · cases again
    split at again
    · cases again
    · cases again
    split at again
    · cases again
      rfl
    · cases again

/-- A round behind which the loop goes on has read a request and served it. -/
theorem serveRound_again
    (again : (serveRound libraries snapshots reader writes).2 = .again (next, writes')) :
    let read := readNextFastHttp1Request libraries.toRequestLibraries writes reader.socket
      reader.buffered
    ∃ parsed, read.decision = .ready (.request parsed) ∧
      (serveRequest libraries snapshots parsed read.connection read.writes).2 =
        .again (next, writes') ∧
      (serveRequest libraries snapshots parsed read.connection read.writes).1 ⊆
        (serveRound libraries snapshots reader writes).1 := by
  unfold serveRound at again ⊢
  generalize readNextFastHttp1Request libraries.toRequestLibraries writes reader.socket
    reader.buffered = read at again
  obtain ⟨decision, connection, later, continued⟩ := read
  cases decision with
  | dropped => cases again
  | failed err =>
    obtain ⟨exit, leaves, -⟩ :=
      rejectRequest_leaves libraries ⟨Text.ascii "GET"⟩ connection later err
    cases leaves.symm.trans again
  | ready decision =>
    cases decision with
    | endOfStream | fallbackToHyper => cases again
    | request parsed => exact ⟨parsed, rfl, again, subset_append_right _ _⟩

variable {events : List (ServeEvent υ)}

/-- A round that falls back has written nothing, and gives away all that was to come. -/
theorem serveRound_fallback
    (fell : serveRound libraries snapshots reader writes = (events, .leave (.hyper connection))) :
    events = [] ∧ ∃ after, connection = .ofReader after ∧ after.ahead = reader.ahead := by
  have read := @readNext_fallback υ writes libraries.toRequestLibraries reader.socket
    reader.buffered
  unfold serveRound at fell
  generalize readNextFastHttp1Request libraries.toRequestLibraries writes reader.socket
    reader.buffered = found at fell read
  obtain ⟨decision, given, later, continued⟩ := found
  cases decision with
  | dropped => cases fell
  | failed err =>
    obtain ⟨exit, leaves, other⟩ :=
      rejectRequest_leaves libraries ⟨Text.ascii "GET"⟩ given later err
    have left : (rejectRequest libraries ⟨Text.ascii "GET"⟩ given later err).2 =
        .leave (.hyper connection) := congrArg Prod.snd fell
    rw [leaves, Iteration.Turn.leave.injEq] at left
    exact absurd left (other connection)
  | ready decision =>
    cases decision with
    | endOfStream => cases fell
    | request parsed =>
      have left : (serveRequest libraries snapshots parsed given later).2 =
          .leave (.hyper connection) := congrArg Prod.snd fell
      exact absurd left (serveRequest_stays)
    | fallbackToHyper =>
      obtain ⟨after, ahead, same⟩ := read rfl
      cases same
      cases fell
      exact ⟨rfl, after, rfl, ahead⟩

end

end PdEdge.Downstream

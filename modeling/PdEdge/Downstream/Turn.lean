import PdEdge.Downstream.Body
import PdEdge.Lib.Decoding

/-!
# What one turn of `pull_next` does

`Takes` lists everything a turn can do from a state that holds its connection and no error,
in terms of the bytes that are still unread and the event behind them. Every result about
the leased body is derived from this list and not from the code of the turn.
-/

namespace PdEdge.Downstream

open Wire Chunked FastHttp1ChunkedState FastHttp1ConnectionIo

/-- The lines of a chunked body as the request decoder reads them: any trailer passes. -/
def requestRules : Chunked.Rules := decoderRules fun _ => True

/-- The place in a chunked body that a state of the decoder stands for. -/
def FastHttp1ChunkedState.place : FastHttp1ChunkedState → Place
  | .needSize => .size
  | .readData remaining => .data remaining
  | .expectChunkTerminator => .dataEnd
  | .readTrailers => .trailers

namespace FastHttp1StreamingBodyKind

/-- The bytes at hand suffice for a turn: it does not have to await more than them. -/
def enough (kind : FastHttp1StreamingBodyKind) (bytes : List UInt8) : Bool :=
  match kind with
  | .fixed remaining => remaining = 0 || bytes ≠ []
  | .chunked state => state.place.enough bytes

/-- The bytes at hand announce a chunk that the budget does not allow. -/
def overBudget (kind : FastHttp1StreamingBodyKind) (budget : Nat) (bytes : List UInt8) : Bool :=
  match kind, findCrlf bytes with
  | .chunked .needSize, some lineEnd =>
    match chunkSize (bytes.take lineEnd) with
    | .ok size => budget < size
    | .error _ => false
  | _, _ => false

/-- These bytes complete the body, and this is the content in them. -/
inductive Remains (rules : Chunked.Rules) :
    FastHttp1StreamingBodyKind → List UInt8 → List UInt8 → Prop
  | fixed {remaining : Nat} {bytes : List UInt8} (full : bytes.length = remaining) :
    Remains rules (.fixed remaining) bytes bytes
  | chunked {state : FastHttp1ChunkedState} {encoded content : List UInt8}
    (rest : Rest rules state.place encoded content) :
    Remains rules (.chunked state) encoded content

/-- A step that uses bytes, yields content and pays for announced chunks from the budget. -/
inductive Advances : FastHttp1StreamingBodyKind × Nat → List UInt8 → List UInt8 →
    FastHttp1StreamingBodyKind × Nat → Prop
  | fixed {remaining budget : Nat} {bytes : List UInt8} (fits : bytes.length ≤ remaining) :
    Advances (.fixed remaining, budget) bytes bytes (.fixed (remaining - bytes.length), budget)
  | chunked {state next : FastHttp1ChunkedState} {budget budget' : Nat}
    {used yielded : List UInt8} (move : Moves requestRules state.place used yielded next.place)
    (paid : budget + state.place.pending = budget' + next.place.pending + yielded.length) :
    Advances (.chunked state, budget) used yielded (.chunked next, budget')

/-- The bytes at which a turn finds the body complete. -/
inductive Ends : FastHttp1StreamingBodyKind → List UInt8 → Prop
  | fixed : Ends (.fixed 0) []
  | chunked : Ends (.chunked .readTrailers) crlf

end FastHttp1StreamingBodyKind

open FastHttp1StreamingBodyKind

namespace FastHttp1RequestBodyState

/-- The state that holds its connection. -/
def holding (terminal : Option StoredFastHttp1ReadError) (reader : Reader IoError)
    (kind : FastHttp1StreamingBodyKind) (budget : Nat) : FastHttp1RequestBodyState :=
  ⟨some (.ofReader reader), kind, budget, terminal⟩

/-- The state that holds its connection and no error. -/
abbrev live (reader : Reader IoError) (kind : FastHttp1StreamingBodyKind) (budget : Nat) :
    FastHttp1RequestBodyState :=
  holding none reader kind budget

/-- The turn stays within its budget and does not run into an error or a drop. -/
structure Calm (reader : Reader IoError) (kind : FastHttp1StreamingBodyKind) (budget : Nat) :
    Prop where
  within : ¬ overBudget kind budget reader.unread
  fed : kind.enough reader.unread ∨ reader.later = []

/-- Everything a turn can do. -/
inductive Takes (terminal : Option StoredFastHttp1ReadError) (reader : Reader IoError)
    (kind : FastHttp1StreamingBodyKind) (budget : Nat) : PullTurn → Prop
  /-- It goes round again. -/
  | again {used : List UInt8} {after : Reader IoError} {next : FastHttp1StreamingBodyKind}
    {left : Nat} (calm : Calm reader kind budget)
    (step : Advances (kind, budget) used [] (next, left))
    (split : reader.unread = used ++ after.unread) (later : after.later = reader.later)
    (lower : (holding terminal after next left).weight <
      (holding terminal reader kind budget).weight) :
    Takes terminal reader kind budget (.again (holding terminal after next left))
  /-- It hands out content. -/
  | deliver {data : List UInt8} {after : Reader IoError} {next : FastHttp1StreamingBodyKind}
    (calm : Calm reader kind budget) (nonempty : data ≠ [])
    (step : Advances (kind, budget) data data (next, budget))
    (split : reader.unread = data ++ after.unread) (later : after.later = reader.later)
    (lower : (holding terminal after next budget).weight <
      (holding terminal reader kind budget).weight) :
    Takes terminal reader kind budget
      (.leave (.ready (some data), holding terminal after next budget))
  /-- It finds the body complete. -/
  | finished {used : List UInt8} {after : Reader IoError} (calm : Calm reader kind budget)
    (step : Ends kind used)
    (split : reader.unread = used ++ after.unread) (later : after.later = reader.later) :
    Takes terminal reader kind budget
      (.leave (.ready none, holding terminal after (.fixed 0) budget))
  /-- It refuses bytes that do not go on with a body, and remembers that. -/
  | refused {after : Reader IoError} {message : String} (calm : Calm reader kind budget)
    (bad : ∀ encoded content tail, Remains requestRules kind encoded content →
      reader.unread ≠ encoded ++ tail) :
    Takes terminal reader kind budget
      (.leave ((holding terminal after (.fixed 0) budget).rememberError (.badRequest message)))
  /-- It refuses a chunk that only a larger budget would allow, and forgets that. -/
  | exceeded {used : List UInt8} {after : Reader IoError} {size : Nat}
    (exceeds : overBudget kind budget reader.unread)
    (step : Advances (kind, size) used [] (.chunked (.readData size), 0))
    (split : reader.unread = used ++ after.unread) (later : after.later = reader.later) :
    Takes terminal reader kind budget
      (.leave (.failed .payloadTooLarge, holding terminal after (.fixed 0) budget))
  /-- It passes on a socket error, and forgets that. -/
  | failed {err : IoError} {rest : Socket IoError} (short : ¬ kind.enough reader.unread)
    (last : reader.later = .error err :: rest) :
    Takes terminal reader kind budget
      (.leave (.failed (.io err), holding terminal ⟨rest, reader.unread⟩ (.fixed 0) budget))
  /-- It is dropped while it awaits a read. -/
  | dropped {rest : Socket IoError} (short : ¬ kind.enough reader.unread)
    (last : reader.later = .dropped :: rest) :
    Takes terminal reader kind budget
      (.leave (.dropped, holding terminal ⟨rest, reader.unread⟩ (.fixed 0) budget))

variable (terminal : Option StoredFastHttp1ReadError) (reader : Reader IoError)
variable (kind : FastHttp1StreamingBodyKind) (budget : Nat)

@[simp] theorem reader_holding : (holding terminal reader kind budget).reader = .ok reader := rfl

@[simp] theorem withReader_holding (reader after : Reader IoError)
    (kind : FastHttp1StreamingBodyKind) (budget : Nat) :
    (holding terminal reader kind budget).withReader after =
      holding terminal after kind budget := rfl

@[simp] theorem connectionMut_holding :
    (holding terminal reader kind budget).connectionMut =
      .ok ⟨some reader.socket, reader.buffered⟩ := rfl

variable {kind : FastHttp1StreamingBodyKind}

/-- Bytes too few for a turn do not hold the rest of a body. -/
theorem remains_short {bytes encoded content tail : List UInt8} (short : ¬ kind.enough bytes)
    (remains : Remains requestRules kind encoded content) : bytes ≠ encoded ++ tail := by
  rintro rfl
  apply short
  cases remains with
  | @fixed remaining bytes full =>
    by_cases zero : remaining = 0
    · simp [enough, zero]
    have some : encoded ≠ [] := by
      rintro rfl
      exact zero full.symm
    simp [enough, some]
  | chunked rest => exact rest.enough tail

/-- Only a size line can be over the budget. -/
theorem overBudget_of_ne (other : kind ≠ .chunked .needSize) (budget : Nat) (bytes : List UInt8) :
    kind.overBudget budget bytes = false := by
  rcases kind with remaining | _ | remaining | _ | _
  · rfl
  · exact absurd rfl other
  all_goals rfl

attribute [local simp] Place.enough

/-- Where a turn needs more bytes than are at hand, no size line has been seen. -/
theorem overBudget_short {budget : Nat} {bytes : List UInt8} (short : ¬ kind.enough bytes) :
    ¬ kind.overBudget budget bytes := by
  by_cases size : kind = .chunked .needSize
  · subst size
    have absent : findCrlf bytes = none := by simpa [enough, place] using short
    simp [overBudget, absent]
  · simp [overBudget_of_ne size]

/-- A stream that ends where a turn needs more bytes is refused. -/
theorem Takes.ended {terminal : Option StoredFastHttp1ReadError} {reader after : Reader IoError}
    {budget : Nat} {message : String} (short : ¬ kind.enough reader.unread)
    (last : reader.later = []) :
    Takes terminal reader kind budget
      (.leave ((holding terminal after (.fixed 0) budget).rememberError (.badRequest message))) :=
  .refused ⟨overBudget_short short, Or.inr last⟩ fun _ _ _ => remains_short short

/-- The weight of a holding terminal state. -/
theorem weight_holding :
    (holding terminal reader kind budget).weight =
      reader.weight + (holding terminal ⟨[], []⟩ kind budget).weight := by
  simp [weight, holding, ofReader, Reader.weight, held]

/-- The turn that hands out bytes, for both kinds of body that do so. -/
theorem pullBytes_takes {reader : Reader IoError} {budget remaining : Nat}
    {resume : Nat → FastHttp1StreamingBodyKind} {closed : String}
    (few : ∀ bytes, kind.enough bytes ↔ bytes ≠ [])
    (free : ∀ bytes, overBudget kind budget bytes = false) (same : resume remaining = kind)
    (positive : remaining ≠ 0) (steps : ∀ bytes : List UInt8, bytes.length ≤ remaining →
      Advances (kind, budget) bytes bytes (resume (remaining - bytes.length), budget))
    (lighter : ∀ left, (holding terminal ⟨[], []⟩ (resume left) budget).weight ≤
      (holding terminal ⟨[], []⟩ kind budget).weight) :
    Takes terminal reader kind budget
      ((holding terminal reader (.fixed 0) budget).pullBytes remaining resume closed) := by
  have calm : reader.unread ≠ [] → Calm reader kind budget := fun nonempty =>
    ⟨by simp [free], Or.inl ((few _).mpr nonempty)⟩
  unfold pullBytes
  simp only [connectionMut_holding, reader_holding, withReader_holding]
  by_cases empty : reader.buffered = []
  · rw [if_pos (by simp [empty])]
    by_cases nothing : reader.unread = []
    · have short : ¬ kind.enough reader.unread := by simp [few, nothing]
      have starved := Reader.readBuf_short nothing
      generalize reader.readBuf = result at starved ⊢
      cases starved with
      | ended last => exact .ended short last
      | failed last => exact .failed short last
      | dropped last => exact .dropped short last
    · obtain ⟨count, after, read, unread, later, lower⟩ := Reader.readBuf_data empty nothing
      rw [read]
      have step := steps [] (Nat.zero_le _)
      show Takes terminal reader kind budget
        (.again (holding terminal after (resume remaining) budget))
      refine .again (calm nothing) step unread.symm later ?_
      rw [weight_holding terminal after, weight_holding terminal reader, same]
      omega
  · rw [if_neg (by simpa using empty)]
    obtain ⟨length, nonempty, lower⟩ := Reader.take_min empty positive
    have step := steps (reader.buffered.take (min reader.buffered.length remaining)) (by omega)
    rw [length] at step
    refine .deliver (calm ?_) nonempty step (reader.unread_take _) rfl ?_
    · simp [Reader.unread, empty]
    · rw [weight_holding terminal (reader.advance _), weight_holding terminal reader]
      have lighter := lighter (remaining - min reader.buffered.length remaining)
      omega

theorem pullFixed_takes (remaining budget : Nat) :
    Takes terminal reader (.fixed remaining) budget
      ((holding terminal reader (.fixed 0) budget).pullFixed remaining) := by
  unfold pullFixed
  by_cases zero : remaining = 0
  · rw [if_pos zero, zero]
    exact .finished ⟨by simp [overBudget], Or.inl rfl⟩ .fixed rfl rfl
  rw [if_neg zero]
  apply pullBytes_takes
  · simp [enough, zero]
  · exact fun bytes => by simp [overBudget]
  · rfl
  · exact zero
  · exact fun bytes fits => .fixed fits
  · exact fun left => Nat.le_refl _

/-- The state after some of a chunk stands where what is left of the chunk says. -/
theorem afterData_eq {remaining : Nat} :
    ∃ state, afterData remaining = .chunked state ∧ state.place = Place.within remaining := by
  unfold afterData Place.within
  split
  all_goals exact ⟨_, rfl, rfl⟩

theorem pullData_takes (remaining budget : Nat) :
    Takes terminal reader (.chunked (.readData remaining)) budget
      ((holding terminal reader (.fixed 0) budget).pullData remaining) := by
  have steps : ∀ bytes : List UInt8, bytes.length ≤ remaining →
      Advances (.chunked (.readData remaining), budget) bytes bytes
        (afterData (remaining - bytes.length), budget) := by
    intro bytes fits
    obtain ⟨state, same, place⟩ := afterData_eq
    rw [same]
    refine .chunked ?_ ?_
    · rw [place]
      exact .data fits
    · rw [place, Place.pending_within]
      simp only [FastHttp1ChunkedState.place, Place.pending]
      omega
  unfold pullData
  by_cases zero : remaining = 0
  · subst zero
    have step := steps [] (Nat.le_refl _)
    have calm : Calm reader (.chunked (.readData 0)) budget := ⟨by simp [overBudget], Or.inl rfl⟩
    exact .again calm step rfl rfl (by simp [weight, holding])
  rw [if_neg zero]
  apply pullBytes_takes
  · simp [enough, FastHttp1ChunkedState.place, zero]
  · exact fun bytes => by simp [overBudget]
  · simp [afterData, zero]
  · exact zero
  · exact steps
  intro left
  unfold afterData
  split
  · simp [weight, holding]
  · exact Nat.le_refl _

/-- A size line over the budget is seen as such. -/
theorem overBudget_of_line {bytes line rest : List UInt8} {budget : Nat}
    (split : bytes = line ++ crlf ++ rest) (single : findCrlf line = none) :
    overBudget (.chunked .needSize) budget bytes = (chunkSize line).toOption.any (budget < ·) := by
  have found := findCrlf_line single rest
  rw [← split] at found
  have front : bytes.take line.length = line := by simp [split]
  simp only [overBudget, found, front]
  cases chunkSize line <;> rfl

theorem pullSize_takes :
    Takes terminal reader (.chunked .needSize) budget
      ((holding terminal reader (.fixed 0) budget).pullSize) := by
  unfold pullSize
  simp only [reader_holding, withReader_holding]
  obtain ⟨line, after, whole, single, read, kept⟩ | ⟨absent, starved⟩ := reader.readLine_cases
  · have lighter := kept.weight
    have limit : overBudget _ budget _ = _ := overBudget_of_line whole single
    have fed : enough (.chunked .needSize) reader.unread := by
      rw [enough, place, Place.enough, whole, findCrlf_line single]
      rfl
    cases sized : chunkSize line with
    | error err =>
      simp only [read, sized]
      rw [sized] at limit
      refine .refused ⟨by simp [limit, Except.toOption], Or.inl fed⟩
        fun encoded content tail remains same => ?_
      cases remains with
      | chunked body =>
        obtain ⟨size, right⟩ := Rest.sized body single (whole.symm.trans same)
        cases sized.symm.trans right
    | ok size =>
      simp only [sized, Except.toOption, Option.any_some] at limit
      simp only [read, sized]
      by_cases zero : size = 0
      · subst zero
        refine .again ⟨by simp [limit], Or.inl fed⟩ (.chunked (.last single sized) rfl) whole
          kept.later ?_
        rw [weight_holding terminal after, weight_holding terminal reader]
        simp only [weight, holding, ofReader]
        omega
      by_cases exceeds : (holding terminal reader (.fixed 0) budget).remainingBudget < size
      · rw [if_neg zero, if_pos exceeds]
        refine .exceeded ?_ (.chunked (.chunk single sized zero) ?_) whole kept.later
        · rw [limit]
          exact decide_eq_true exceeds
        · simp [place, Place.pending]
      rw [if_neg zero, if_neg exceeds]
      refine .again ⟨?_, Or.inl fed⟩ (.chunked (.chunk single sized zero) ?_) whole kept.later ?_
      · rw [limit]
        simpa using (show ¬ budget < size from exceeds)
      · have within : ¬ budget < size := exceeds
        show budget + 0 = budget - size + size + 0
        omega
      · rw [weight_holding terminal after, weight_holding terminal reader]
        simp only [weight, holding, ofReader]
        omega
  · have short : ¬ enough (.chunked .needSize) reader.unread := by
      simp [enough, place, absent]
    generalize reader.readLine = result at starved ⊢
    cases starved with
    | ended last => exact .ended short last
    | failed last => exact .failed short last
    | dropped last => exact .dropped short last

theorem pullTerminator_takes :
    Takes terminal reader (.chunked .expectChunkTerminator) budget
      ((holding terminal reader (.fixed 0) budget).pullTerminator) := by
  unfold pullTerminator
  simp only [reader_holding, withReader_holding]
  by_cases few : reader.unread.length < 2
  · have short : ¬ enough (.chunked .expectChunkTerminator) reader.unread := by
      simpa [enough, place] using few
    have starved := Reader.ensure_short few
    generalize reader.ensure 2 = result at starved ⊢
    cases starved with
    | ended last => exact .ended short last
    | failed last => exact .failed short last
    | dropped last => exact .dropped short last
  · obtain ⟨after, ensured, kept⟩ := Reader.ensure_enough (Nat.le_of_not_lt few)
    have buffered : 2 ≤ after.buffered.length := by simpa using kept.enough
    have whole : reader.unread = after.buffered.take 2 ++ (after.advance 2).unread := by
      rw [← kept.unread, ← after.unread_take]
    have calm : Calm reader (.chunked .expectChunkTerminator) budget := by
      refine ⟨by simp [overBudget], Or.inl ?_⟩
      exact decide_eq_true (by omega)
    simp only [ensured]
    by_cases ended : after.buffered.take 2 = crlf
    · rw [if_pos ended]
      rw [ended] at whole
      refine .again calm (.chunked .dataEnd rfl) whole kept.later ?_
      have lighter := kept.weight
      rw [weight_holding terminal (after.advance 2), weight_holding terminal reader]
      simp only [weight, holding, ofReader, Reader.advance,
        Reader.weight, List.length_drop] at lighter ⊢
      omega
    · rw [if_neg ended]
      refine .refused calm fun encoded content tail remains same => ?_
      cases remains with
      | chunked rest =>
        exact ended (Rest.terminated rest (by simp [buffered]) (whole.symm.trans same))

theorem pullTrailer_takes :
    Takes terminal reader (.chunked .readTrailers) budget
      ((holding terminal reader (.fixed 0) budget).pullTrailer) := by
  unfold pullTrailer
  simp only [reader_holding, withReader_holding]
  obtain ⟨line, after, whole, single, read, kept⟩ | ⟨absent, starved⟩ := reader.readLine_cases
  · have calm : Calm reader (.chunked .readTrailers) budget := by
      refine ⟨by simp [overBudget], Or.inl ?_⟩
      rw [enough, place, Place.enough, whole, findCrlf_line single]
      rfl
    simp only [read]
    by_cases ended : line = []
    · subst ended
      exact .finished calm .chunked whole kept.later
    rw [if_neg ended]
    refine .again calm (.chunked (.trailer ⟨single, trivial, ended⟩) rfl) whole kept.later ?_
    have lighter := kept.weight
    rw [weight_holding terminal after, weight_holding terminal reader]
    simp only [weight, holding, ofReader]
    omega
  · have short : ¬ enough (.chunked .readTrailers) reader.unread := by
      simp [enough, place, absent]
    generalize reader.readLine = result at starved ⊢
    cases starved with
    | ended last => exact .ended short last
    | failed last => exact .failed short last
    | dropped last => exact .dropped short last

/-- A turn from a state that holds its connection does what `Takes` lists. -/
theorem pullTurn_takes (kind : FastHttp1StreamingBodyKind) (budget : Nat) :
    Takes terminal reader kind budget (holding terminal reader kind budget).pullTurn := by
  cases kind with
  | fixed remaining => exact pullFixed_takes terminal reader remaining budget
  | chunked state =>
    cases state with
    | needSize => exact pullSize_takes terminal reader budget
    | readData remaining => exact pullData_takes terminal reader remaining budget
    | expectChunkTerminator => exact pullTerminator_takes terminal reader budget
    | readTrailers => exact pullTrailer_takes terminal reader budget

end FastHttp1RequestBodyState

end PdEdge.Downstream

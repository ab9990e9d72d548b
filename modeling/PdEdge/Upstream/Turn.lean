import PdEdge.Upstream.Body

/-!
# What one turn of the client's `pull_next` does

The list `Takes` of everything a turn can do from a body that holds its connection, in
terms of the unread bytes and the event behind them; `pullTurn_takes` shows that the turn
does nothing else.
-/

namespace PdEdge.Upstream

open Iteration Wire Chunked Reader

/-- The lines of a chunked body as the response decoder reads them. -/
def responseRules : Chunked.Rules :=
  decoderRules fun line => ∃ entry, trailerEntry line = .ok entry

/-- The place in a chunked body that a state of the decoder stands for. -/
def ChunkedState.place : ChunkedState → Place
  | .needSize => .size
  | .readData remaining => .data remaining
  | .expectChunkTerminator => .dataEnd
  | .readTrailers => .trailers

namespace PlainHttp1BodyKind

/-- The bytes at hand suffice for a turn. -/
def enough (kind : PlainHttp1BodyKind) (bytes : List UInt8) : Bool :=
  match kind with
  | .done => true
  | .fixed remaining => remaining = 0 || bytes ≠ []
  | .chunked state => state.place.enough bytes
  | .closeDelimited => bytes ≠ []

/-- These bytes complete a body that has an end of its own. -/
inductive Remains (rules : Chunked.Rules) :
    PlainHttp1BodyKind → List UInt8 → List UInt8 → Prop
  | fixed {remaining : Nat} {bytes : List UInt8} (full : bytes.length = remaining) :
    Remains rules (.fixed remaining) bytes bytes
  | chunked {state : ChunkedState} {encoded content : List UInt8}
    (rest : Rest rules state.place encoded content) :
    Remains rules (.chunked state) encoded content

/-- A step that does not end the body. -/
inductive Advances : PlainHttp1BodyKind → List UInt8 → List UInt8 → PlainHttp1BodyKind → Prop
  | fixed {remaining : Nat} {bytes : List UInt8} (fits : bytes.length < remaining) :
    Advances (.fixed remaining) bytes bytes (.fixed (remaining - bytes.length))
  | chunked {state next : ChunkedState} {used yielded : List UInt8}
    (move : Moves responseRules state.place used yielded next.place) :
    Advances (.chunked state) used yielded (.chunked next)
  | closeDelimited {bytes : List UInt8} : Advances .closeDelimited bytes bytes .closeDelimited

/-- A step that ends the body, perhaps with the last of its content. -/
inductive Ends : PlainHttp1BodyKind → List UInt8 → Option (List UInt8) → Prop
  | zero : Ends (.fixed 0) [] none
  | fixed {bytes : List UInt8} (nonempty : bytes ≠ []) :
    Ends (.fixed bytes.length) bytes (some bytes)
  | chunked : Ends (.chunked .readTrailers) crlf none

end PlainHttp1BodyKind

open PlainHttp1BodyKind

namespace PlainHttp1ResponseBody

variable {κ : Type}

/-- The body that holds its connection. -/
def holding (lease : PlainHttp1SenderLease κ) (reader : Reader IoError)
    (kind : PlainHttp1BodyKind) (trailers : Option HeaderMap) : PlainHttp1ResponseBody κ :=
  ⟨{ lease with connection := some reader }, kind, trailers⟩

section

variable (lease : PlainHttp1SenderLease κ) (reader after : Reader IoError)
variable (kind : PlainHttp1BodyKind) (trailers : Option HeaderMap)

@[simp] theorem connectionMut_holding :
    (holding lease reader kind trailers).connectionMut = .ok reader := rfl

@[simp] theorem withConnection_holding :
    (holding lease reader kind trailers).withConnection after =
      holding lease after kind trailers := rfl

theorem weight_holding :
    (holding lease reader kind trailers).weight =
      reader.weight + (holding lease ⟨[], []⟩ kind trailers).weight := by
  simp [weight, holding, Reader.weight, held]

end

variable [DecidableEq κ]

/-- The pool and the body after its connection was released. -/
def released (pool : PlainHttp1SenderPool κ) (lease : PlainHttp1SenderLease κ)
    (reader : Reader IoError) (trailers : Option HeaderMap) :
    PlainHttp1SenderPool κ × PlainHttp1ResponseBody κ :=
  let (pool, lease) := PlainHttp1SenderLease.release { lease with connection := some reader } pool
  (pool, ⟨lease, .done, trailers⟩)

/-- What going round again does to the trailers: among them the line used is recorded. -/
inductive Records (trailers : Option HeaderMap) :
    PlainHttp1BodyKind → List UInt8 → Option HeaderMap → Prop
  | nothing {kind : PlainHttp1BodyKind} {used : List UInt8}
    (other : kind ≠ .chunked .readTrailers) : Records trailers kind used trailers
  | field {line : List UInt8} {name : HeaderName} {value : HeaderValue}
    (recorded : trailerEntry line = .ok (name, value)) :
    Records trailers (.chunked .readTrailers) (line ++ crlf)
      (some ((trailers.getD []).add name value))

/-- Everything a turn can do. -/
inductive Takes (pool : PlainHttp1SenderPool κ) (lease : PlainHttp1SenderLease κ)
    (reader : Reader IoError) (kind : PlainHttp1BodyKind) (trailers : Option HeaderMap) :
    PullTurn κ → Prop
  /-- The body is over already. -/
  | idle (past : kind = .done) :
    Takes pool lease reader kind trailers
      (.leave (.ready none, pool, holding lease reader .done trailers))
  /-- It goes round again. -/
  | again {used : List UInt8} {after : Reader IoError} {next : PlainHttp1BodyKind}
    {trailers' : Option HeaderMap} (step : Advances kind used [] next)
    (split : reader.unread = used ++ after.unread) (later : after.later = reader.later)
    (records : Records trailers kind used trailers')
    (lower : (holding lease after next trailers').weight <
      (holding lease reader kind trailers).weight) :
    Takes pool lease reader kind trailers (.again (pool, holding lease after next trailers'))
  /-- It hands out content. -/
  | deliver {data : List UInt8} {after : Reader IoError} {next : PlainHttp1BodyKind}
    (nonempty : data ≠ []) (step : Advances kind data data next)
    (split : reader.unread = data ++ after.unread) (later : after.later = reader.later) :
    Takes pool lease reader kind trailers
      (.leave (.ready (some data), pool, holding lease after next trailers))
  /-- It ends the body, perhaps with the last of its content, and releases the connection. -/
  | finished {used : List UInt8} {chunk : Option (List UInt8)} {after : Reader IoError}
    (ends : Ends kind used chunk) (split : reader.unread = used ++ after.unread)
    (later : after.later = reader.later) :
    Takes pool lease reader kind trailers
      (.leave (.ready chunk, released pool lease after trailers))
  /-- The stream ends a body that has no other end. -/
  | closed (close : kind = .closeDelimited) (nothing : reader.unread = [])
    (last : reader.later = []) :
    Takes pool lease reader kind trailers
      (.leave (.ready none, released pool lease ⟨[], []⟩ trailers))
  /-- It refuses bytes that do not go on with a body that has an end of its own. -/
  | refused {lease' : PlainHttp1SenderLease κ} {err : VmError} (holds : lease'.connection.isSome)
    (bad : ∀ encoded content tail, Remains responseRules kind encoded content →
      reader.unread ≠ encoded ++ tail)
    (framed : kind ≠ .done ∧ kind ≠ .closeDelimited := by simp) :
    Takes pool lease reader kind trailers (.leave (.failed err, pool, ⟨lease', .done, trailers⟩))
  /-- It passes on a socket error. -/
  | failed {err : IoError} {rest : Socket IoError} (short : ¬ kind.enough reader.unread)
    (last : reader.later = .error err :: rest) :
    Takes pool lease reader kind trailers (.leave (.failed (readError err), pool,
      holding lease ⟨rest, reader.unread⟩ .done trailers))
  /-- It is dropped while it awaits a read. -/
  | dropped {rest : Socket IoError} (short : ¬ kind.enough reader.unread)
    (last : reader.later = .dropped :: rest) :
    Takes pool lease reader kind trailers (.leave (.dropped, pool,
      holding lease ⟨rest, reader.unread⟩ .done trailers))

section

variable (pool : PlainHttp1SenderPool κ) (lease : PlainHttp1SenderLease κ)
variable (reader after : Reader IoError) (trailers : Option HeaderMap)

theorem finish_holding (chunk : Option (List UInt8)) :
    (holding lease reader .done trailers).finish pool chunk =
      .leave (.ready chunk, released pool lease reader trailers) := rfl

variable {kind : PlainHttp1BodyKind}

/-- Bytes too few for a turn do not hold the rest of a body. -/
theorem remains_short {bytes encoded content tail : List UInt8} (short : ¬ kind.enough bytes)
    (remains : Remains responseRules kind encoded content) : bytes ≠ encoded ++ tail := by
  rintro rfl
  apply short
  cases remains with
  | @fixed remaining bytes full =>
    by_cases zero : remaining = 0
    · simp [enough, zero]
    have some : encoded ≠ [] := by
      rintro rfl
      exact zero full.symm
    simp [enough, some]
  | chunked rest => exact rest.enough tail

/-- A read that is needed for a turn brings data or ends with the event behind the data. -/
theorem readMore_takes {ended : PlainHttp1ResponseBody κ → PullTurn κ}
    (empty : reader.buffered = []) (few : ∀ bytes, kind.enough bytes ↔ bytes ≠ [])
    (step : Advances kind [] [] kind) (other : kind ≠ .chunked .readTrailers)
    (atEnd : ¬ kind.enough reader.unread → reader.unread = [] → reader.later = [] →
      Takes pool lease reader kind trailers (ended (holding lease ⟨[], []⟩ .done trailers))) :
    Takes pool lease reader kind trailers
      ((holding lease reader .done trailers).readMore pool reader kind ended) := by
  unfold readMore
  by_cases nothing : reader.unread = []
  · have short : ¬ kind.enough reader.unread := by simp [few, nothing]
    have starved := readBuf_short nothing
    generalize reader.readBuf = result at starved ⊢
    cases starved with
    | ended last =>
      have taken := atEnd short nothing last
      rw [← nothing] at taken
      exact taken
    | failed last => exact .failed short last
    | dropped last => exact .dropped short last
  · obtain ⟨count, after, read, unread, later, lower⟩ := readBuf_data empty nothing
    rw [read]
    show Takes pool lease reader kind trailers (.again (pool, holding lease after kind trailers))
    refine .again step unread.symm later (.nothing other) ?_
    rw [weight_holding lease after, weight_holding lease reader]
    omega

theorem pullFixed_takes (remaining : Nat) :
    Takes pool lease reader (.fixed remaining) trailers
      ((holding lease reader .done trailers).pullFixed pool remaining) := by
  unfold pullFixed
  by_cases zero : remaining = 0
  · rw [if_pos zero, finish_holding, zero]
    exact .finished .zero rfl rfl
  rw [if_neg zero]
  simp only [connectionMut_holding]
  by_cases empty : reader.buffered = []
  · rw [if_pos (by simp [empty])]
    have few : ∀ bytes, enough (.fixed remaining) bytes ↔ bytes ≠ [] := by simp [enough, zero]
    have step : Advances (.fixed remaining) [] [] (.fixed remaining) :=
      Advances.fixed (Nat.pos_of_ne_zero zero)
    exact readMore_takes pool lease reader trailers empty few step (by simp) fun short _ _ =>
      .refused rfl fun encoded content tail => remains_short short
  · rw [if_neg (by simpa using empty)]
    obtain ⟨length, nonempty, -⟩ := take_min empty zero
    have split := reader.unread_take (min reader.buffered.length remaining)
    by_cases last : remaining - min reader.buffered.length remaining = 0
    · rw [if_pos last, withConnection_holding, finish_holding]
      have whole : remaining =
          (reader.buffered.take (min reader.buffered.length remaining)).length := by omega
      refine .finished ?_ split rfl
      have ends := Ends.fixed nonempty
      rwa [← whole] at ends
    rw [if_neg last]
    have step := @Advances.fixed remaining
      (reader.buffered.take (min reader.buffered.length remaining)) (by omega)
    rw [length] at step
    exact .deliver nonempty step split rfl

theorem pullCloseDelimited_takes :
    Takes pool lease reader .closeDelimited trailers
      ((holding lease reader .done trailers).pullCloseDelimited pool) := by
  unfold pullCloseDelimited
  simp only [connectionMut_holding]
  by_cases empty : reader.buffered = []
  · rw [if_pos (by simp [empty])]
    have few : ∀ bytes, enough .closeDelimited bytes ↔ bytes ≠ [] := by simp [enough]
    exact readMore_takes pool lease reader trailers empty few .closeDelimited (by simp)
      fun _ nothing last => .closed rfl nothing last
  rw [if_neg (by simpa using empty)]
  have split : reader.unread = reader.buffered ++
      (reader.advance reader.buffered.length).unread := by
    simp [unread, advance]
  exact .deliver empty .closeDelimited split rfl

/-- The state after some of a chunk stands where what is left of the chunk says. -/
theorem place_afterData (remaining : Nat) :
    (afterData remaining).place = Place.within remaining := by
  unfold afterData Place.within
  split <;> rfl

attribute [local simp] ChunkedState.place Place.enough

theorem pullData_takes (remaining : Nat) :
    Takes pool lease reader (.chunked (.readData remaining)) trailers
      ((holding lease reader .done trailers).pullData pool remaining) := by
  have steps : ∀ bytes : List UInt8, bytes.length ≤ remaining →
      Advances (.chunked (.readData remaining)) bytes bytes
        (.chunked (afterData (remaining - bytes.length))) := by
    intro bytes fits
    refine .chunked ?_
    rw [place_afterData]
    exact .data fits
  unfold pullData
  by_cases zero : remaining = 0
  · subst zero
    have step := steps [] (Nat.le_refl _)
    exact .again step rfl rfl (.nothing (by simp)) (by simp [weight, holding])
  rw [if_neg zero]
  simp only [connectionMut_holding]
  by_cases empty : reader.buffered = []
  · rw [if_pos (by simp [empty])]
    have few : ∀ bytes, enough (.chunked (.readData remaining)) bytes ↔ bytes ≠ [] := by
      simp [enough, zero]
    have step := steps [] (Nat.zero_le _)
    rw [List.length_nil, Nat.sub_zero, afterData, if_neg zero] at step
    exact readMore_takes pool lease reader trailers empty few step (by simp) fun short _ _ =>
      .refused rfl fun encoded content tail => remains_short short
  · rw [if_neg (by simpa using empty)]
    obtain ⟨length, nonempty, -⟩ := take_min empty zero
    have split := reader.unread_take (min reader.buffered.length remaining)
    have step := steps (reader.buffered.take (min reader.buffered.length remaining)) (by omega)
    rw [length] at step
    exact .deliver nonempty step split rfl

theorem pullSize_takes :
    Takes pool lease reader (.chunked .needSize) trailers
      ((holding lease reader .done trailers).pullSize pool) := by
  unfold pullSize
  simp only [connectionMut_holding, withConnection_holding]
  obtain ⟨line, after, whole, single, read, kept⟩ | ⟨absent, starved⟩ := reader.readLine_cases
  · cases sized : chunkSize line with
    | error err =>
      simp only [read, sized]
      refine .refused rfl fun encoded content tail remains same => ?_
      cases remains with
      | chunked body =>
        obtain ⟨size, right⟩ := Rest.sized body single (whole.symm.trans same)
        cases sized.symm.trans right
    | ok size =>
      simp only [read, sized]
      have step : Advances (.chunked .needSize) (line ++ crlf) []
          (.chunked (if size = 0 then .readTrailers else .readData size)) := by
        refine .chunked ?_
        split
        · rename_i zero
          exact .last single (zero ▸ sized)
        · rename_i positive
          exact .chunk single sized positive
      refine .again step whole kept.later (.nothing (by simp)) ?_
      have lighter := kept.weight
      simp only [weight, holding]
      split <;> omega
  · have short : ¬ enough (.chunked .needSize) reader.unread := by
      simp [enough, absent]
    generalize reader.readLine = result at starved ⊢
    cases starved with
    | ended last => exact .refused rfl fun encoded content tail => remains_short short
    | failed last => exact .failed short last
    | dropped last => exact .dropped short last

theorem pullTerminator_takes :
    Takes pool lease reader (.chunked .expectChunkTerminator) trailers
      ((holding lease reader .done trailers).pullTerminator pool) := by
  unfold pullTerminator
  simp only [connectionMut_holding, withConnection_holding]
  by_cases few : reader.unread.length < 2
  · have short : ¬ enough (.chunked .expectChunkTerminator) reader.unread := by
      simpa [enough] using few
    have starved := Reader.ensure_short few
    generalize reader.ensure 2 = result at starved ⊢
    cases starved with
    | ended last => exact .refused rfl fun encoded content tail => remains_short short
    | failed last => exact .failed short last
    | dropped last => exact .dropped short last
  · obtain ⟨after, ensured, kept⟩ := Reader.ensure_enough (Nat.le_of_not_lt few)
    have buffered : 2 ≤ after.buffered.length := by simpa using kept.enough
    have whole : reader.unread = after.buffered.take 2 ++ (after.advance 2).unread := by
      rw [← kept.unread, ← after.unread_take]
    simp only [ensured]
    by_cases ended : after.buffered.take 2 = crlf
    · rw [if_pos ended]
      rw [ended] at whole
      refine .again (.chunked .dataEnd) whole kept.later (.nothing (by simp)) ?_
      have lighter := kept.weight
      simp only [weight, holding, Reader.advance, Reader.weight, List.length_drop] at lighter ⊢
      omega
    rw [if_neg ended]
    refine .refused rfl fun encoded content tail remains same => ?_
    cases remains with
    | chunked rest =>
      exact ended (Rest.terminated rest (by simp [buffered]) (whole.symm.trans same))

theorem pullTrailer_takes :
    Takes pool lease reader (.chunked .readTrailers) trailers
      ((holding lease reader .done trailers).pullTrailer pool) := by
  unfold pullTrailer
  simp only [connectionMut_holding, withConnection_holding]
  obtain ⟨line, after, whole, single, read, kept⟩ | ⟨absent, starved⟩ := reader.readLine_cases
  · simp only [read]
    by_cases ended : line = []
    · subst ended
      exact .finished .chunked whole kept.later
    rw [if_neg ended]
    cases recorded : trailerEntry line with
    | error message =>
      refine .refused rfl fun encoded content tail remains same => ?_
      cases remains with
      | chunked body =>
        cases body with
        | @trailers lines accepted =>
          cases lines with
          | nil =>
            have ends : line ++ crlf ++ after.unread = [] ++ crlf ++ tail := whole.symm.trans same
            exact ended (line_unique single rfl ends).1
          | cons first lines =>
            have front := accepted first List.mem_cons_self
            have lineSplit : line ++ crlf ++ after.unread =
                first ++ crlf ++ (encodeTrailers lines ++ tail) := by
              rw [← whole, same]
              simp [encodeTrailers]
            obtain ⟨rfl, -⟩ := line_unique single front.single lineSplit
            obtain ⟨entry, accepted⟩ := front.admitted
            cases recorded.symm.trans accepted
    | ok entry =>
      have step : Advances (.chunked .readTrailers) (line ++ crlf) [] (.chunked .readTrailers) :=
        .chunked (.trailer ⟨single, ⟨entry, recorded⟩, ended⟩)
      refine .again step whole kept.later (.field recorded) ?_
      have lighter := kept.weight
      simp only [weight, holding]
      omega
  · have short : ¬ enough (.chunked .readTrailers) reader.unread := by
      simp [enough, absent]
    generalize reader.readLine = result at starved ⊢
    cases starved with
    | ended last => exact .refused rfl fun encoded content tail => remains_short short
    | failed last => exact .failed short last
    | dropped last => exact .dropped short last

/-- A turn of a body that holds its connection does what `Takes` lists. -/
theorem pullTurn_takes (kind : PlainHttp1BodyKind) :
    Takes pool lease reader kind trailers
      (pullTurn (pool, holding lease reader kind trailers)) := by
  rcases kind with _ | remaining | state | _
  · exact .idle rfl
  · exact pullFixed_takes pool lease reader trailers remaining
  · cases state with
    | needSize => exact pullSize_takes pool lease reader trailers
    | readData remaining => exact pullData_takes pool lease reader trailers remaining
    | expectChunkTerminator => exact pullTerminator_takes pool lease reader trailers
    | readTrailers => exact pullTrailer_takes pool lease reader trailers
  · exact pullCloseDelimited_takes pool lease reader trailers

/-- The same for a turn by its result. -/
theorem Takes.of_turned {turn : PullTurn κ}
    (turned : pullTurn (pool, holding lease reader kind trailers) = turn) :
    Takes pool lease reader kind trailers turn :=
  turned ▸ pullTurn_takes pool lease reader trailers kind

end

/-! ## The loop -/

attribute [local simp] connectionMut pullTurn fail

/-- A turn without a connection reads nothing. -/
theorem pullTurn_lowers (pool : PlainHttp1SenderPool κ) (body : PlainHttp1ResponseBody κ)
    {next : PlainHttp1SenderPool κ × PlainHttp1ResponseBody κ}
    (turned : pullTurn (pool, body) = .again next) : next.2.weight < body.weight := by
  obtain ⟨⟨key, capacity, mayReuse, dirty, connection⟩, kind, trailers⟩ := body
  cases connection with
  | none =>
    rcases kind with _ | remaining | (_ | remaining | _ | _) | _
    · cases turned
    · by_cases zero : remaining = 0
      · simp [pullFixed, zero, finish] at turned
      · simp [pullFixed, zero] at turned
    · simp [pullSize] at turned
    · by_cases zero : remaining = 0
      · simp only [pullTurn, pullData, zero, ↓reduceIte, Turn.again.injEq] at turned
        subst turned
        simp [weight]
      · simp [pullData, zero] at turned
    · simp [pullTerminator] at turned
    · simp [pullTrailer] at turned
    · simp [pullCloseDelimited] at turned
  | some reader =>
    cases Takes.of_turned pool ⟨key, capacity, mayReuse, dirty, none⟩ reader trailers turned with
    | again step split later records lower => exact lower

variable (κ) in
/-- The loop of `pull_next`. -/
def pullLoop : Loop (PlainHttp1SenderPool κ × PlainHttp1ResponseBody κ)
    (Pulled × PlainHttp1SenderPool κ × PlainHttp1ResponseBody κ) where
  turn := pullTurn
  measure state := state.2.weight
  lowers state _ turned := pullTurn_lowers state.1 state.2 turned

/-- `pull_next`. -/
def pullNext (body : PlainHttp1ResponseBody κ) (pool : PlainHttp1SenderPool κ) :
    Pulled × PlainHttp1SenderPool κ × PlainHttp1ResponseBody κ :=
  (pullLoop κ).run (pool, body)

end PlainHttp1ResponseBody

end PdEdge.Upstream

import PdEdge.Downstream.Fallback

/-!
# How much of a connection is held in memory

Every read of the fast path appends to the one buffer of the connection, and a turn reads
until it has enough. A head is given up once it passes its limit; a chunk-size line and a
trailer section are read to their ends, however far away these are. So the buffer is bounded
by the limit of a head and one read as long as these ends come within that limit.
-/

namespace PdEdge.Downstream

open Wire Wire.Reader FastHttp1RequestBodyState FastHttp1StreamingBodyKind List
open FastHttp1ChunkedState

/-! ## Reading until there is enough -/

/-- No read brings more than this. -/
def Sized (readSize : Nat) (socket : Socket IoError) : Prop :=
  ∀ segment, .data segment ∈ socket → segment.bytes.length ≤ readSize

theorem Sized.tail {readSize : Nat} {event : ReadEvent IoError} {rest : Socket IoError}
    (sized : Sized readSize (event :: rest)) : Sized readSize rest :=
  fun segment member => sized segment (mem_cons_of_mem _ member)

section

variable {readSize limit : Nat} {enough : List UInt8 → Bool} {socket : Socket IoError}
variable {buffered : List UInt8}

/-- Reading takes reads from the front of the socket. -/
theorem fillUntil_sized (sized : Sized readSize socket) (buffered : List UInt8) :
    Sized readSize (fillUntil enough socket buffered).2.socket := by
  fun_induction fillUntil enough socket buffered with
  | case1 | case2 | case4 | case6 => exact sized
  | case3 segment rest buffered more ih => exact ih sized.tail
  | case5 | case7 => exact sized.tail

/-- Nothing is read where there is enough. -/
theorem fillUntil_of_enough (done : enough buffered) {socket : Socket IoError} :
    (fillUntil enough socket buffered).2 = ⟨socket, buffered⟩ := by
  cases socket with
  | nil => rfl
  | cons event rest => cases event <;> simp [fillUntil, done]

/-- Where few bytes are enough, few are read. -/
theorem fillUntil_bounded (sized : Sized readSize socket)
    (few : ∀ front, front <+: buffered ++ arriving socket → ¬ enough front → front.length ≤ limit)
    (start : buffered.length ≤ limit + readSize) :
    (fillUntil enough socket buffered).2.buffered.length ≤ limit + readSize := by
  fun_induction fillUntil enough socket buffered with
  | case1 | case2 | case4 | case5 | case6 | case7 => exact start
  | case3 segment rest buffered more ih =>
    have short := few buffered (prefix_append _ _) more
    have added := sized segment mem_cons_self
    refine ih sized.tail ?_ ?_
    · simpa [arriving] using few
    · rw [length_append]
      omega

end

/-- A reader that holds at most a head and a read. -/
structure Tame (readSize : Nat) (reader : Reader IoError) : Prop where
  held : reader.buffered.length ≤ maxHttp1HeadBytes + readSize
  sized : Sized readSize reader.socket

/-! ## Turns -/

/-- The reader of a turn once it has read enough, or all it can. -/
def FastHttp1StreamingBodyKind.filled (kind : FastHttp1StreamingBodyKind)
    (reader : Reader IoError) : Reader IoError :=
  (fillUntil kind.enough reader.socket reader.buffered).2

/-- A reader that was left behind by using bytes of another. -/
structure UsesOf (reader after : Reader IoError) : Prop where
  socket : after.socket = reader.socket
  buffered : after.buffered <:+ reader.buffered

variable (reader : Reader IoError)

theorem UsesOf.refl : UsesOf reader reader :=
  ⟨rfl, suffix_rfl⟩

theorem UsesOf.advance (count : Nat) : UsesOf reader (reader.advance count) :=
  ⟨rfl, drop_suffix _ _⟩

theorem Tame.uses {readSize : Nat} {reader after : Reader IoError} (tame : Tame readSize reader)
    (uses : UsesOf reader after) : Tame readSize after :=
  ⟨Nat.le_trans uses.buffered.length_le tame.held, uses.socket ▸ tame.sized⟩

/-- A read for a head is made only where the buffer is within the limit. -/
theorem Tame.read {readSize : Nat} {segment : Segment} {socket : Socket IoError}
    {buffered : List UInt8} (tame : Tame readSize ⟨.data segment :: socket, buffered⟩)
    (small : ¬ maxHttp1HeadBytes < buffered.length) :
    Tame readSize ⟨socket, buffered ++ segment.bytes⟩ := by
  have added := tame.sized segment mem_cons_self
  refine ⟨?_, tame.sized.tail⟩
  simp only [length_append]
  omega

/-- The state that a turn ends with. -/
def turnState : PullTurn → FastHttp1RequestBodyState
  | .again state => state
  | .leave (_, state) => state

/-- A state with a connection whose reader was left behind by using bytes of another. -/
def HoldsOf (reader : Reader IoError) (state : FastHttp1RequestBodyState) : Prop :=
  ∃ terminal after kind budget, state = holding terminal after kind budget ∧ UsesOf reader after

/-- A line is cut off the reader that was filled. -/
theorem readLine_uses :
    UsesOf (fillUntil (fun buffered => (findCrlf buffered).isSome) reader.socket
      reader.buffered).2 reader.readLine.2 := by
  unfold Reader.readLine
  split
  · rename_i after filled
    rw [filled]
    split
    · exact .advance _ _
    · exact .refl _
  · rename_i after filled
    rw [filled]
    exact .refl _
  · rename_i err after filled
    rw [filled]
    exact .refl _
  · rename_i after filled
    rw [filled]
    exact .refl _

section

variable (terminal : Option StoredFastHttp1ReadError) (reader : Reader IoError) (budget : Nat)
variable {kind : FastHttp1StreamingBodyKind}

section

variable (few : ∀ bytes, kind.enough bytes = decide (bytes ≠ []))
include few

/-- One read is enough for a turn that hands out bytes. -/
theorem filled_data (empty : reader.buffered = []) : kind.filled reader = reader.readBuf.2 := by
  obtain ⟨socket, buffered⟩ := reader
  subst empty
  cases socket with
  | nil => rfl
  | cons event rest =>
    cases event with
    | data segment =>
      have done : kind.enough segment.bytes := by simp [few, segment.nonempty]
      have hungry : kind.enough [] = false := by simp [few]
      simp only [filled, fillUntil, hungry, Bool.false_eq_true, ↓reduceIte, nil_append,
        fillUntil_of_enough done]
      rfl
    | error err | dropped =>
      have hungry : kind.enough [] = false := by simp [few]
      simp only [filled, fillUntil, hungry, Bool.false_eq_true, ↓reduceIte]
      rfl

theorem pullBytes_holds {remaining : Nat} {resume : Nat → FastHttp1StreamingBodyKind}
    {closed : String} :
    HoldsOf (kind.filled reader) (turnState
      ((holding terminal reader (.fixed 0) budget).pullBytes remaining resume closed)) := by
  unfold pullBytes
  simp only [connectionMut_holding, reader_holding, withReader_holding]
  by_cases empty : reader.buffered.length = 0
  · have none := eq_nil_of_length_eq_zero empty
    rw [if_pos empty, filled_data reader few none]
    split <;> rename_i read <;> rw [read] <;> exact ⟨_, _, _, _, rfl, .refl _⟩
  rw [if_neg empty]
  have done : kind.enough reader.buffered := by
    rw [few, decide_eq_true_eq]
    exact fun none => empty (congrArg length none)
  rw [filled, fillUntil_of_enough done]
  exact ⟨_, _, _, _, rfl, .advance reader _⟩

end

/-- A turn leaves what it has read, and uses bytes from the front of that. -/
theorem pullTurn_holds {kind : FastHttp1StreamingBodyKind} :
    HoldsOf (kind.filled reader) (turnState (holding terminal reader kind budget).pullTurn) := by
  have nothing (kind : FastHttp1StreamingBodyKind) (done : ∀ bytes, kind.enough bytes) :
      kind.filled reader = reader := fillUntil_of_enough (done _)
  rcases kind with remaining | _ | remaining | _ | _
  · show HoldsOf _ (turnState ((holding terminal reader (.fixed 0) budget).pullFixed remaining))
    unfold pullFixed
    by_cases zero : remaining = 0
    · rw [if_pos zero, nothing _ (by simp [enough, zero])]
      exact ⟨_, _, _, _, rfl, .refl _⟩
    · rw [if_neg zero]
      exact pullBytes_holds terminal reader budget (by simp [enough, zero])
  · show HoldsOf _ (turnState (holding terminal reader (.fixed 0) budget).pullSize)
    have uses : UsesOf (filled (.chunked .needSize) reader) reader.readLine.2 :=
      readLine_uses reader
    unfold pullSize
    simp only [reader_holding, withReader_holding]
    generalize reader.readLine = read at uses
    obtain ⟨outcome, after⟩ := read
    rcases outcome with (_ | line) | err | _
    · exact ⟨_, _, _, _, rfl, uses⟩
    · dsimp only
      split
      · exact ⟨_, _, _, _, rfl, uses⟩
      · split
        · exact ⟨_, _, _, _, rfl, uses⟩
        · split <;> exact ⟨_, _, _, _, rfl, uses⟩
    all_goals exact ⟨_, _, _, _, rfl, uses⟩
  · show HoldsOf _ (turnState ((holding terminal reader (.fixed 0) budget).pullData remaining))
    unfold pullData
    by_cases zero : remaining = 0
    · rw [if_pos zero, nothing _ (by simp [enough, place, Chunked.Place.enough, zero])]
      exact ⟨_, _, _, _, rfl, .refl _⟩
    · rw [if_neg zero]
      exact pullBytes_holds terminal reader budget
        (by simp [enough, place, Chunked.Place.enough, zero])
  · show HoldsOf _ (turnState (holding terminal reader (.fixed 0) budget).pullTerminator)
    have ensured : filled (.chunked .expectChunkTerminator) reader = (reader.ensure 2).2 := rfl
    rw [ensured]
    unfold pullTerminator
    simp only [reader_holding, withReader_holding]
    generalize reader.ensure 2 = read
    obtain ⟨outcome, after⟩ := read
    rcases outcome with (_ | _) | _ | _
    · exact ⟨_, _, _, _, rfl, .refl _⟩
    · dsimp only
      split <;> exact ⟨_, _, _, _, rfl, .advance _ _⟩
    all_goals exact ⟨_, _, _, _, rfl, .refl _⟩
  · show HoldsOf _ (turnState (holding terminal reader (.fixed 0) budget).pullTrailer)
    have uses : UsesOf (filled (.chunked .readTrailers) reader) reader.readLine.2 :=
      readLine_uses reader
    unfold pullTrailer
    simp only [reader_holding, withReader_holding]
    generalize reader.readLine = read at uses
    obtain ⟨outcome, after⟩ := read
    rcases outcome with (_ | trailer) | err | _
    · exact ⟨_, _, _, _, rfl, uses⟩
    · dsimp only
      split <;> exact ⟨_, _, _, _, rfl, uses⟩
    all_goals exact ⟨_, _, _, _, rfl, uses⟩

end

/-! ## Ends within reach -/

/-- A line that ends within the limit of a head, or bytes that do not go further than that. -/
def LineInReach (bytes : List UInt8) : Prop :=
  bytes.length ≤ maxHttp1HeadBytes ∨ (findCrlf (bytes.take maxHttp1HeadBytes)).isSome

/-- Trailers that end within the limit of a head, or bytes that do not go further than that. -/
def TrailersInReach (bytes : List UInt8) : Prop :=
  bytes.length ≤ maxHttp1HeadBytes ∨
    ∃ lines rest, bytes = Chunked.encodeTrailers lines ++ rest ∧
      (∀ line ∈ lines, findCrlf line = none) ∧
      (Chunked.encodeTrailers lines).length ≤ maxHttp1HeadBytes

/-- The end that the next turn reads up to is within reach. -/
def FastHttp1RequestBodyState.EndsInReach (state : FastHttp1RequestBodyState) : Prop :=
  ∀ reader ∈ state.reader?, (state.kind = .chunked .needSize → LineInReach reader.unread) ∧
    (state.kind = .chunked .readTrailers → TrailersInReach reader.unread)

/-- The end of the trailers is no nearer than that of the first. -/
theorem lineInReach_of_trailers {bytes : List UInt8} (trailers : TrailersInReach bytes) :
    LineInReach bytes := by
  obtain short | ⟨lines, rest, rfl, single, fits⟩ := trailers
  · exact Or.inl short
  right
  have front : (Chunked.encodeTrailers lines ++ rest).take maxHttp1HeadBytes =
      Chunked.encodeTrailers lines ++
        rest.take (maxHttp1HeadBytes - (Chunked.encodeTrailers lines).length) := by
    rw [take_append, take_of_length_le fits]
  rw [front, findCrlf_isSome]
  generalize rest.take (maxHttp1HeadBytes - (Chunked.encodeTrailers lines).length) = more
  cases lines with
  | nil => exact ⟨[], more, rfl, rfl⟩
  | cons line lines =>
    refine ⟨line, Chunked.encodeTrailers lines ++ more, ?_, single line mem_cons_self⟩
    simp [Chunked.encodeTrailers]

/-- Bytes that do not hold the end of a line are few, if it is within reach. -/
theorem few_of_lineInReach {bytes front : List UInt8} (inReach : LineInReach bytes)
    (starts : front <+: bytes) (absent : (findCrlf front).isSome = false) :
    front.length ≤ maxHttp1HeadBytes := by
  obtain short | found := inReach
  · exact Nat.le_trans starts.length_le short
  by_contra long
  obtain ⟨rest, rfl⟩ := starts
  rw [take_append_of_le_length (by omega)] at found
  have whole := findCrlf_append found (front.drop maxHttp1HeadBytes)
  rw [take_append_drop, absent] at whole
  contradiction

/-! ## The states of a pull -/

/-- What the buffer holds at the fullest of the next turn. -/
def FastHttp1RequestBodyState.peak (state : FastHttp1RequestBodyState) : Nat :=
  (state.reader?.map fun reader => (state.kind.filled reader).buffered.length).getD 0

/-- A state whose connection holds at most a head and a read. -/
def TameState (readSize : Nat) (state : FastHttp1RequestBodyState) : Prop :=
  ∃ terminal reader kind budget, state = holding terminal reader kind budget ∧ Tame readSize reader

section

variable {readSize : Nat} {state : FastHttp1RequestBodyState}

/-- What a turn reads is few, where the end that it reads up to is within reach. -/
theorem filled_tame {terminal : Option StoredFastHttp1ReadError} {reader : Reader IoError}
    {kind : FastHttp1StreamingBodyKind} {budget : Nat} (tame : Tame readSize reader)
    (inReach : (holding terminal reader kind budget).EndsInReach) :
    Tame readSize (kind.filled reader) := by
  obtain ⟨line, trailers⟩ := inReach reader rfl
  have few : ∀ front, front <+: reader.unread → ¬ kind.enough front →
      front.length ≤ maxHttp1HeadBytes := by
    intro front starts short
    rcases kind with remaining | _ | remaining | _ | _
    · have empty : front = [] := by
        by_contra some
        exact short (by simp [enough, some])
      simp [empty]
    · exact few_of_lineInReach (line rfl) starts (Bool.not_eq_true _ ▸ short)
    · have empty : front = [] := by
        by_contra some
        exact short (by simp [enough, place, Chunked.Place.enough, some])
      simp [empty]
    · have few : front.length < 2 := by
        simpa [enough, place, Chunked.Place.enough] using short
      have limit : 2 ≤ maxHttp1HeadBytes := by decide
      omega
    · exact few_of_lineInReach (lineInReach_of_trailers (trailers rfl)) starts
        (Bool.not_eq_true _ ▸ short)
  exact ⟨fillUntil_bounded tame.sized few tame.held, fillUntil_sized tame.sized _⟩

/-- A turn holds no more than a head and a read, and leaves no more. -/
theorem TameState.turn (tame : TameState readSize state) (inReach : state.EndsInReach) :
    state.peak ≤ maxHttp1HeadBytes + readSize ∧ TameState readSize (turnState state.pullTurn) := by
  obtain ⟨terminal, reader, kind, budget, rfl, tame⟩ := tame
  have full := filled_tame tame inReach
  obtain ⟨terminal', after, kind', budget', left, uses⟩ := pullTurn_holds terminal reader budget
  exact ⟨full.held, terminal', after, kind', budget', left, full.uses uses⟩

/-- The states in which the turns of a pull start; a remembered error takes none. -/
def FastHttp1RequestBodyState.pullStates (state : FastHttp1RequestBodyState) :
    List FastHttp1RequestBodyState :=
  if state.terminalError.isSome then [] else pullLoop.trace state

/-- These states hold no more than a head and a read. -/
def Held (readSize : Nat) (states : List FastHttp1RequestBodyState) : Prop :=
  ∀ state ∈ states, state.peak ≤ maxHttp1HeadBytes + readSize

theorem Held.nil (readSize : Nat) : Held readSize [] := by simp [Held]

theorem Held.append {states more : List FastHttp1RequestBodyState} (held : Held readSize states)
    (rest : Held readSize more) : Held readSize (states ++ more) :=
  forall_mem_append.mpr ⟨held, rest⟩

theorem pullLoop_tame (tame : TameState readSize state)
    (inReach : ∀ visited ∈ pullLoop.trace state, visited.EndsInReach) :
    Held readSize (pullLoop.trace state) ∧ TameState readSize (pullLoop.run state).2 := by
  induction state using pullLoop.run_induct with
  | left state result turned =>
    rw [pullLoop.trace_leave turned] at inReach ⊢
    rw [pullLoop.run_leave turned]
    obtain ⟨held, left⟩ := tame.turn (inReach state mem_cons_self)
    rw [show state.pullTurn = _ from turned] at left
    exact ⟨by simpa [Held] using held, left⟩
  | again state next turned ih =>
    rw [pullLoop.trace_again turned] at inReach ⊢
    rw [pullLoop.run_again turned]
    obtain ⟨held, left⟩ := tame.turn (inReach state mem_cons_self)
    rw [show state.pullTurn = _ from turned] at left
    obtain ⟨rest, final⟩ := ih left fun visited member =>
      inReach visited (mem_cons_of_mem _ member)
    exact ⟨forall_mem_cons.mpr ⟨held, rest⟩, final⟩

/-- So does a pull. -/
theorem TameState.pull (tame : TameState readSize state)
    (inReach : ∀ visited ∈ state.pullStates, visited.EndsInReach) :
    Held readSize state.pullStates ∧ TameState readSize state.pullNext.2 := by
  unfold pullStates at inReach ⊢
  unfold pullNext
  cases stored : state.terminalError with
  | some err => exact ⟨.nil readSize, tame⟩
  | none =>
    rw [stored] at inReach
    exact pullLoop_tame tame inReach

/-- The states in which the turns of a drain start. -/
def FastHttp1RequestBodyState.drainStates (state : FastHttp1RequestBodyState) :
    List FastHttp1RequestBodyState :=
  (drainLoop.trace state).flatMap pullStates

/-- A turn of a drain ends with the state that its pull leaves. -/
theorem drainLoop_turn {state : FastHttp1RequestBodyState} :
    (∃ result, drainLoop.turn state = .leave (result, state.pullNext.2)) ∨
      drainLoop.turn state = .again state.pullNext.2 := by
  simp only [drainLoop]
  generalize state.pullNext = pulled
  obtain ⟨outcome, next⟩ := pulled
  rcases outcome with (_ | data) | err | _
  · exact Or.inl ⟨_, rfl⟩
  · exact Or.inr rfl
  all_goals exact Or.inl ⟨_, rfl⟩

/-- Draining holds no more than a head and a read. -/
theorem TameState.drain (tame : TameState readSize state)
    (inReach : ∀ visited ∈ state.drainStates, visited.EndsInReach) :
    Held readSize state.drainStates ∧ TameState readSize state.drainRemaining.2 := by
  unfold drainStates at inReach ⊢
  unfold drainRemaining
  induction state using drainLoop.run_induct with
  | left state result turned =>
    rw [drainLoop.trace_leave turned] at inReach ⊢
    rw [drainLoop.run_leave turned]
    rw [flatMap_singleton] at inReach ⊢
    obtain ⟨held, pulled⟩ := tame.pull inReach
    obtain ⟨outcome, ends⟩ | goesOn := drainLoop_turn
    · cases turned.symm.trans ends
      exact ⟨held, pulled⟩
    · cases turned.symm.trans goesOn
  | again state next turned ih =>
    rw [drainLoop.trace_again turned] at inReach ⊢
    rw [drainLoop.run_again turned]
    rw [flatMap_cons, forall_mem_append] at inReach
    obtain ⟨held, pulled⟩ := tame.pull inReach.1
    have same : next = state.pullNext.2 := by
      obtain ⟨outcome, ends⟩ | goesOn := drainLoop_turn
      · cases turned.symm.trans ends
      · cases turned.symm.trans goesOn
        rfl
    rw [← same] at pulled
    obtain ⟨rest, final⟩ := ih pulled inReach.2
    exact ⟨held.append rest, final⟩

/-! ## Bodies -/

/-- A body whose connection, if it has one, holds at most a head and a read. -/
def TameLease (readSize : Nat) (lease : Option FastHttp1RequestBodyState) : Prop :=
  ∀ state ∈ lease, TameState readSize state

/-- The states in which the turns of a poll start. -/
def RequestBody.pollStates (body : RequestBody) : List FastHttp1RequestBodyState :=
  match body.lease, body.ended with
  | some state, false => state.pullStates
  | _, _ => []

/-- The states in which the turns of a run of a program start. -/
def Interaction.states : Interaction → RequestBody → List FastHttp1RequestBodyState
  | .done _, _ => []
  | .pull next, body => body.pollStates ++ (next body.poll.1).states body.poll.2

/-- The states in which the turns start that take a connection back. -/
def leaseStates (lease : Option FastHttp1RequestBodyState) : List FastHttp1RequestBodyState :=
  (lease.map drainStates).getD []

theorem TameLease.poll {body : RequestBody} (tame : TameLease readSize body.lease)
    (inReach : ∀ visited ∈ body.pollStates, visited.EndsInReach) :
    Held readSize body.pollStates ∧ TameLease readSize body.poll.2.lease := by
  obtain ⟨lease, ended⟩ := body
  cases lease with
  | none => exact ⟨.nil readSize, tame⟩
  | some state =>
    cases ended with
    | true => exact ⟨.nil readSize, tame⟩
    | false =>
      obtain ⟨held, pulled⟩ := (tame state rfl).pull inReach
      refine ⟨held, fun next member => ?_⟩
      unfold RequestBody.poll at member
      dsimp only at member
      generalize state.pullNext = result at pulled member
      obtain ⟨outcome, after⟩ := result
      rcases outcome with (_ | data) | err | _ <;>
      · cases member
        exact pulled

theorem TameLease.play {body : RequestBody} (tame : TameLease readSize body.lease)
    (program : Interaction) (inReach : ∀ visited ∈ program.states body, visited.EndsInReach) :
    Held readSize (program.states body) ∧ TameLease readSize (program.play body).2.2.lease := by
  induction program generalizing body with
  | done result => exact ⟨.nil readSize, tame⟩
  | pull next ih =>
    rw [Interaction.states, forall_mem_append] at inReach
    obtain ⟨held, polled⟩ := tame.poll inReach.1
    obtain ⟨rest, final⟩ := ih body.poll.1 polled inReach.2
    exact ⟨held.append rest, final⟩

/-- A connection that is taken back holds at most a head and a read. -/
theorem TameLease.finish {lease : Option FastHttp1RequestBodyState}
    {connection : FastHttp1ConnectionIo} (tame : TameLease readSize lease)
    (spare : ∀ reader, connection = .ofReader reader → Tame readSize reader)
    (inReach : ∀ visited ∈ leaseStates lease, visited.EndsInReach) :
    Held readSize (leaseStates lease) ∧
      ∀ next, finishLease lease connection = .ready (.ofReader next) → Tame readSize next := by
  cases lease with
  | none =>
    refine ⟨.nil readSize, fun next finished => spare next ?_⟩
    simpa [finishLease] using finished
  | some state =>
    obtain ⟨held, terminal, reader, kind, budget, drained, final⟩ := (tame state rfl).drain inReach
    refine ⟨held, fun next finished => ?_⟩
    simp only [finishLease, FastHttp1RequestBodyState.finish] at finished
    generalize state.drainRemaining = result at drained finished
    obtain ⟨outcome, after⟩ := result
    subst drained
    cases outcome with
    | ready done =>
      have same : FastHttp1ConnectionIo.ofReader reader = .ofReader next := by
        simpa [holding] using finished
      exact ofReader_injective same ▸ final
    | failed err => simp [holding] at finished
    | dropped => cases finished

end

/-! ## Rounds -/

section

variable {υ : Type} {readSize : Nat}

/-- What the buffer holds each time the head is parsed. -/
def headBuffers (libraries : RequestLibraries υ) : Socket IoError → List UInt8 → List Nat
  | socket, buffered =>
    if maxHttp1HeadBytes < buffered.length then [buffered.length]
    else
      match libraries.requests.parse buffered, socket with
      | .incomplete, .data segment :: rest =>
        buffered.length :: headBuffers libraries rest (buffered ++ segment.bytes)
      | _, _ => [buffered.length]

/-- The states in which the turns start that read the body of a request. -/
def requestStates (snapshots : Snapshots υ) (parsed : FastHttp1ParsedRequest υ) :
    List FastHttp1RequestBodyState :=
  if !snapshots.loaded then leaseStates parsed.bodyLease
  else
    match snapshots.program with
    | none => []
    | some program =>
      (program parsed.request).states ⟨parsed.bodyLease, false⟩ ++
        leaseStates ((program parsed.request).play ⟨parsed.bodyLease, false⟩).2.2.lease

/-- The states in which the turns of a round start. -/
def roundStates (libraries : ServeLibraries υ) (snapshots : Snapshots υ) (reader : Reader IoError)
    (writes : Writes) : List FastHttp1RequestBodyState :=
  match (readNextFastHttp1Request libraries.toRequestLibraries writes reader.socket
    reader.buffered).decision with
  | .ready (.request parsed) => requestStates snapshots parsed
  | _ => []

variable {socket : Socket IoError} {buffered : List UInt8} {parsed : FastHttp1ParsedRequest υ}

/-- A head is read in no more than its limit and a read. -/
theorem headBuffers_held (libraries : RequestLibraries υ)
    (tame : Tame readSize ⟨socket, buffered⟩) :
    ∀ count ∈ headBuffers libraries socket buffered, count ≤ maxHttp1HeadBytes + readSize := by
  fun_induction headBuffers libraries socket buffered with
  | case1 socket buffered full | case3 socket buffered small other => simpa using tame.held
  | case2 buffered small segment rest waits ih =>
    exact forall_mem_cons.mpr ⟨tame.held, ih (tame.read small)⟩

/-- A body is leased with the reader behind its head. -/
theorem leaseBody_tame {after : Reader IoError} (tame : Tame readSize after)
    {kind : DownstreamHttp1FastBodyKind} :
    TameLease readSize (leaseBody kind after).1 ∧
      ∀ reader, (leaseBody kind after).2 = .ofReader reader → Tame readSize reader := by
  cases kind with
  | empty =>
    refine ⟨fun state member => ?_, fun reader same => ofReader_injective same ▸ tame⟩
    cases member
  | fixed length | chunked =>
    refine ⟨fun state member => ?_, fun reader same => by cases same⟩
    cases member
    exact ⟨_, _, _, _, rfl, tame⟩

variable {libraries : ServeLibraries υ} {snapshots : Snapshots υ} {reader : Reader IoError}
variable {writes : Writes}

/-- Serving a request holds no more than a head and a read, and leaves no more. -/
theorem serveRequest_tame {connection : FastHttp1ConnectionIo}
    (tame : TameLease readSize parsed.bodyLease)
    (spare : ∀ reader, connection = .ofReader reader → Tame readSize reader)
    (inReach : ∀ state ∈ requestStates snapshots parsed, state.EndsInReach) :
    Held readSize (requestStates snapshots parsed) ∧ ∀ next writes',
      (serveRequest libraries snapshots parsed connection writes).2 = .again (next, writes') →
        Tame readSize next := by
  unfold requestStates at inReach ⊢
  unfold serveRequest
  cases loaded : snapshots.loaded with
  | false =>
    rw [loaded] at inReach
    obtain ⟨held, final⟩ := tame.finish spare inReach
    exact ⟨held, fun next writes' again => final next (respond_again again)⟩
  | true =>
    rw [loaded] at inReach
    cases running : snapshots.program with
    | none =>
      refine ⟨.nil readSize, fun next writes' again => ?_⟩
      obtain ⟨exit, leaves, -⟩ := writeLast_leaves libraries parsed.request.method connection writes
        (textResponse .notFound "not found")
      cases leaves.symm.trans again
    | some program =>
      simp only [running, Bool.not_true, Bool.false_eq_true, ↓reduceIte,
        forall_mem_append] at inReach
      have leased : TameLease readSize (RequestBody.lease ⟨parsed.bodyLease, false⟩) := tame
      obtain ⟨held, played⟩ := leased.play (program parsed.request) inReach.1
      obtain ⟨rest, final⟩ := played.finish spare inReach.2
      exact ⟨held.append rest, fun next writes' again => final next (respond_again again)⟩

/-- A round holds no more than a head and a read, and leaves no more to the next. -/
theorem serveRound_tame (tame : Tame readSize reader)
    (inReach : ∀ state ∈ roundStates libraries snapshots reader writes, state.EndsInReach) :
    Held readSize (roundStates libraries snapshots reader writes) ∧ ∀ next writes',
      (serveRound libraries snapshots reader writes).2 = .again (next, writes') →
        Tame readSize next := by
  by_cases reads : ∃ parsed, (readNextFastHttp1Request libraries.toRequestLibraries writes
    reader.socket reader.buffered).decision = .ready (.request parsed)
  · obtain ⟨parsed, found⟩ := reads
    have states : roundStates libraries snapshots reader writes =
        requestStates snapshots parsed := by rw [roundStates, found]
    rw [states] at inReach ⊢
    obtain ⟨raw, consumed, kind, after, held, -, -, -, lease, connection, -⟩ :=
      readNext_request (Tame readSize) (fun small tame => tame.read small) tame found
    have behind := held.uses (.advance _ consumed)
    obtain ⟨leased, spare⟩ := leaseBody_tame behind
    rw [← lease] at leased
    rw [← connection] at spare
    obtain ⟨held, final⟩ := serveRequest_tame leased spare inReach
    refine ⟨held, fun next writes' again => ?_⟩
    obtain ⟨parsed', found', again', -⟩ := serveRound_again again
    cases found.symm.trans found'
    exact final next writes' again'
  · have none : roundStates libraries snapshots reader writes = [] := by
      unfold roundStates
      split
      · rename_i parsed found
        exact absurd ⟨parsed, found⟩ reads
      · rfl
    refine ⟨none ▸ .nil readSize, fun next writes' again => ?_⟩
    obtain ⟨parsed, found, -, -⟩ := serveRound_again again
    exact absurd ⟨parsed, found⟩ reads

/-! ## Runs -/

/-- Where the rounds of a run start: their numbers, readers and writes to come. -/
def roundStarts (libraries : ServeLibraries υ) (snapshots : Nat → Snapshots υ) :
    (rounds round : Nat) → Reader IoError → Writes → List (Nat × Reader IoError × Writes)
  | 0, _, _, _ => []
  | rounds + 1, round, reader, writes =>
    (round, reader, writes) ::
      match (serveRound libraries (snapshots round) reader writes).2 with
      | .leave _ => []
      | .again (reader, writes) => roundStarts libraries snapshots rounds (round + 1) reader writes

/-- On a connection whose chunk-size lines and trailer sections end within the limit of a head,
the buffer never holds more than that limit and one read, while heads and while bodies are
read. -/
theorem buffering_bounded (libraries : ServeLibraries υ) (snapshots : Nat → Snapshots υ)
    (rounds round : Nat) (socket : Socket IoError) (writes : Writes) (readSize : Nat)
    (sized : Sized readSize socket)
    (inReach : ∀ start ∈ roundStarts libraries snapshots rounds round ⟨socket, []⟩ writes,
      ∀ state ∈ roundStates libraries (snapshots start.1) start.2.1 start.2.2, state.EndsInReach) :
    ∀ start ∈ roundStarts libraries snapshots rounds round ⟨socket, []⟩ writes,
      (∀ count ∈ headBuffers libraries.toRequestLibraries start.2.1.socket start.2.1.buffered,
        count ≤ maxHttp1HeadBytes + readSize) ∧
      Held readSize (roundStates libraries (snapshots start.1) start.2.1 start.2.2) := by
  have tame : Tame readSize ⟨socket, []⟩ := ⟨Nat.zero_le _, sized⟩
  generalize (⟨socket, []⟩ : Reader IoError) = reader at tame inReach ⊢
  induction rounds generalizing round reader writes with
  | zero => exact forall_mem_nil _
  | succ rounds ih =>
    rw [roundStarts] at inReach ⊢
    rw [forall_mem_cons] at inReach ⊢
    obtain ⟨held, kept⟩ := serveRound_tame tame inReach.1
    refine ⟨⟨headBuffers_held _ tame, held⟩, ?_⟩
    cases turned : (serveRound libraries (snapshots round) reader writes).2 with
    | leave exit => exact forall_mem_nil _
    | again after =>
      obtain ⟨next, later⟩ := after
      rw [turned] at inReach
      exact ih (round + 1) later next (kept next later turned) inReach.2

end

/-- The head of a request with a chunked body. -/
def chunkedHead : Segment :=
  ⟨Text.ascii "PUT / HTTP/1.1\r\nTransfer-Encoding: chunked\r\n\r\n", by decide⟩

/-- The request as the parser gives it. -/
def chunkedRaw : HttparseRequest :=
  ⟨some (Text.ascii "PUT"), some (Text.ascii "/"), some 1,
    [⟨Text.ascii "Transfer-Encoding", Text.ascii "chunked"⟩]⟩

/-- Libraries that know this one head. -/
def chunkedLibraries : ServeLibraries Unit :=
  ⟨⟨.literal chunkedHead.bytes chunkedHead.nonempty chunkedRaw, fun name => some ⟨name⟩,
    fun _ => some ()⟩, fun _ => none⟩

/-- A short chunked body, in three reads. -/
theorem buffering_bounded_sample :
    let socket : Socket IoError := [.data chunkedHead, .data ⟨Text.ascii "2\r\na", by decide⟩,
      .data ⟨Text.ascii "b\r\n0\r\n\r\n", by decide⟩]
    ∀ start ∈ roundStarts chunkedLibraries (fun _ => ⟨false, none⟩) 2 0 ⟨socket, []⟩ [],
      (∀ count ∈ headBuffers chunkedLibraries.toRequestLibraries start.2.1.socket
        start.2.1.buffered, count ≤ maxHttp1HeadBytes + 64) ∧
      Held 64 (roundStates chunkedLibraries ⟨false, none⟩ start.2.1 start.2.2) := by
  intro socket
  have short : ((roundStarts chunkedLibraries (fun _ => ⟨false, none⟩) 2 0 ⟨socket, []⟩ []).all
      fun start => (roundStates chunkedLibraries ⟨false, none⟩ start.2.1 start.2.2).all fun state =>
        state.reader?.all fun reader => reader.unread.length ≤ maxHttp1HeadBytes) := by
    decide +kernel
  refine buffering_bounded chunkedLibraries (fun _ => ⟨false, none⟩) 2 0 socket [] 64 ?_ ?_
  · intro segment member
    simp only [socket, mem_cons, ReadEvent.data.injEq, not_mem_nil, or_false] at member
    rcases member with rfl | rfl | rfl <;> decide
  intro start starts state visited reader held
  rw [all_eq_true] at short
  have few := all_eq_true.mp (short start starts) state visited
  rw [held] at few
  have few : reader.unread.length ≤ maxHttp1HeadBytes := by simpa using few
  exact ⟨fun _ => Or.inl few, fun _ => Or.inl few⟩

/-- A client's digits, one in each read. -/
def digits (count : Nat) : Socket IoError := List.replicate count (.data ⟨[49], by decide⟩)

theorem arriving_digits (count : Nat) : arriving (digits count) = replicate count 49 := by
  induction count with
  | zero => rfl
  | succ count ih => exact congrArg ([49] ++ ·) ih

/-- While the line that announces a chunk does not end, all of it is held. -/
theorem peak_of_digits (count budget : Nat) :
    (live ⟨digits count, []⟩ (.chunked .needSize) budget).peak = count := by
  have endless : findCrlf (⟨digits count, []⟩ : Reader IoError).unread = none := by
    rw [Reader.unread, arriving_digits]
    exact findCrlf_none (by simp [mem_replicate])
  have starved := fillUntil_short (fun buffered => (findCrlf buffered).isSome)
    (fun _ more found => findCrlf_append found more) ⟨digits count, []⟩ (by simp [endless])
  have all : ((FastHttp1StreamingBodyKind.chunked .needSize).filled
      ⟨digits count, []⟩).buffered = (⟨digits count, []⟩ : Reader IoError).unread := by
    exact starved.holds
  calc (live ⟨digits count, []⟩ (.chunked .needSize) budget).peak
    _ = (⟨digits count, []⟩ : Reader IoError).unread.length := congrArg length all
    _ = count := by simp [Reader.unread, arriving_digits]

/-- However long a chunk-size line is, it is all held: no bound is kept. -/
theorem size_line_unbounded : ¬ ∃ bound, ∀ (libraries : ServeLibraries Unit)
    (snapshots : Nat → Snapshots Unit) (rounds round : Nat) (socket : Socket IoError)
    (writes : Writes), Sized 8192 socket →
    ∀ start ∈ roundStarts libraries snapshots rounds round ⟨socket, []⟩ writes,
      ∀ state ∈ roundStates libraries (snapshots start.1) start.2.1 start.2.2,
        state.peak ≤ bound := by
  rintro ⟨bound, all⟩
  let state := live ⟨digits (bound + 1), []⟩ (.chunked .needSize) maxDownstreamHttp1FastBodyBytes
  have sized : Sized 8192 (.data chunkedHead :: digits (bound + 1)) := by
    intro segment member
    simp only [digits, mem_cons, mem_replicate, ReadEvent.data.injEq] at member
    rcases member with rfl | ⟨_, rfl⟩ <;> decide
  have visited : state ∈ roundStates chunkedLibraries ⟨false, none⟩
      ⟨.data chunkedHead :: digits (bound + 1), []⟩ [] := by
    exact mem_flatMap.mpr ⟨state, drainLoop.mem_trace, pullLoop.mem_trace⟩
  have held := all chunkedLibraries (fun _ => ⟨false, none⟩) 1 0
    (.data chunkedHead :: digits (bound + 1)) [] sized _ mem_cons_self state visited
  rw [peak_of_digits] at held
  omega

end PdEdge.Downstream

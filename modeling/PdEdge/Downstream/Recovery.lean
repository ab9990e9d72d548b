import PdEdge.Downstream.Pull

/-!
# What `finish` hands back after pulls that went wrong

An error of `pull_next` is remembered on some exits and forgotten on others: a refused
line, a refused chunk end and an early end of the stream are stored, while a socket error
and a chunk over the budget leave through `?` or a plain `return` with the placeholder
`fixed 0` in place of the state. A dropped call leaves the same placeholder. From the
placeholder `finish` succeeds at once, wherever in the body the connection stands.
-/

namespace PdEdge.Downstream

open Wire Chunked FastHttp1StreamingBodyKind

/-- Every byte still to come on a connection. -/
def FastHttp1ConnectionIo.ahead (connection : FastHttp1ConnectionIo) : List UInt8 :=
  connection.buffered ++ carried (connection.stream.getD [])

namespace FastHttp1RequestBodyState

/-! ## The two states an error leaves -/

variable {state : FastHttp1RequestBodyState} {err : StoredFastHttp1ReadError}
variable {reader : Reader IoError} {kind : FastHttp1StreamingBodyKind} {budget : Nat}
variable {rest : Socket IoError}

/-- A remembered error is returned by every further pull. -/
theorem pullNext_stored (stored : state.terminalError = some err) :
    state.pullNext = (.failed err.toReadError, state) := by
  simp [pullNext, stored]

/-- A remembered error makes `finish` fail. -/
theorem finish_stored (stored : state.terminalError = some err)
    (connection : FastHttp1ConnectionIo) : state.finish ≠ .ready connection := by
  have turned : drainLoop.turn state = .leave (.failed err.toReadError, state) := by
    simp [drainLoop, pullNext_stored stored]
  have drained : state.drainRemaining = (.failed err.toReadError, state) :=
    drainLoop.run_leave turned
  unfold finish
  rw [drained]
  dsimp only
  split <;> simp

/-- Pulls of a body that counts as complete return its end. -/
theorem pullNext_done (reader : Reader IoError) (budget : Nat) :
    (live reader (.fixed 0) budget).pullNext = (.ready none, live reader (.fixed 0) budget) := by
  have turned : pullLoop.turn (live reader (.fixed 0) budget) =
      .leave (.ready none, live reader (.fixed 0) budget) := rfl
  exact pullLoop.run_leave turned

/-- A body that counts as complete gives its connection back as it stands. -/
theorem finish_done (reader : Reader IoError) (budget : Nat) :
    (live reader (.fixed 0) budget).finish = .ready (.ofReader reader) := by
  rfl

theorem pulls_stored (stored : state.terminalError = some err) (count : Nat) :
    (state.pulls count).2 = state := by
  induction count with
  | zero => rfl
  | succ count ih => simp [pulls, pullNext_stored stored, ih]

theorem pulls_done (reader : Reader IoError) (budget count : Nat) :
    ((live reader (.fixed 0) budget).pulls count).2 = live reader (.fixed 0) budget := by
  induction count with
  | zero => rfl
  | succ count ih => simp [pulls, pullNext_done, ih]

/-- The states in which a number of pulls start a turn. -/
def visited : Nat → FastHttp1RequestBodyState → List FastHttp1RequestBodyState
  | 0, _ => []
  | count + 1, state =>
    (match state.terminalError with
      | some _ => []
      | none => pullLoop.trace state) ++ visited count state.pullNext.2

theorem visited_stored (stored : state.terminalError = some err) (count : Nat) :
    state.visited count = [] := by
  induction count with
  | zero => rfl
  | succ count ih => simp [visited, stored, pullNext_stored stored, ih]

/-! ## Errors -/

/-- Once a pull has failed, `finish` does not succeed. -/
def ErrorsStick (state : FastHttp1RequestBodyState) (count : Nat) : Prop :=
  (∃ err, .failed err ∈ (state.pulls count).1) →
    ∀ connection, (state.pulls count).2.finish ≠ .ready connection

theorem errorsStick_succ {count : Nat} :
    state.ErrorsStick (count + 1) ↔
      ((∃ err, state.pullNext.1 = .failed err) ∨
        ∃ err, .failed err ∈ (state.pullNext.2.pulls count).1) →
      ∀ connection, (state.pullNext.2.pulls count).2.finish ≠ .ready connection := by
  simp only [ErrorsStick, pulls, List.mem_cons]
  constructor
  · rintro stick (⟨err, failed⟩ | ⟨err, later⟩)
    · exact stick ⟨err, Or.inl failed.symm⟩
    · exact stick ⟨err, Or.inr later⟩
  · rintro stick ⟨err, failed | later⟩
    · exact stick (Or.inl ⟨err, failed.symm⟩)
    · exact stick (Or.inr ⟨err, later⟩)

/-- Nothing but the last turn of a pull and the pulls after it decides. -/
theorem visited_succ (reader : Reader IoError) (kind : FastHttp1StreamingBodyKind)
    (budget count : Nat) :
    ∃ used middle next left, Path Advances (kind, budget) used [] (next, left) ∧
      reader.unread = used ++ middle.unread ∧ middle.later = reader.later ∧
      Takes none middle next left (.leave (live reader kind budget).pullNext) ∧
      ∀ {good : FastHttp1RequestBodyState → Prop}, (∀ {state}, Untroubled state → good state) →
        ((∀ state ∈ (live reader kind budget).visited (count + 1), good state) ↔
          good (live middle next left) ∧
            ∀ state ∈ (live reader kind budget).pullNext.2.visited count, good state) := by
  have pull := pullNext_pulls reader kind budget
  have seen : (live reader kind budget).visited (count + 1) =
    pullLoop.trace (live reader kind budget) ++
      (live reader kind budget).pullNext.2.visited count := rfl
  rw [seen]
  generalize (live reader kind budget).pullNext = result at pull ⊢
  generalize pullLoop.trace (live reader kind budget) = trace at pull ⊢
  cases pull with
  | @intro used middle next left result before path split later calm takes =>
    refine ⟨used, middle, next, left, path, split, later, takes, fun quiet => ?_⟩
    simp only [List.mem_append, List.mem_singleton]
    constructor
    · intro all
      exact ⟨all _ (Or.inl (Or.inr rfl)), fun state member => all state (Or.inr member)⟩
    rintro ⟨last, others⟩ state ((early | rfl) | member)
    · exact quiet (calm state early)
    · exact last
    · exact others state member

/-- A turn that is dropped met no error. -/
theorem readFails_of_dropped (last : reader.later = .dropped :: rest) :
    ¬ (live reader kind budget).readFails := by
  rw [readFails, readEnds_live, last]
  simp [ReadEvent.isError]

/-- A turn that needs more than what arrives before an error meets it. -/
theorem readFails_of_error {err : IoError} (short : ¬ kind.enough reader.unread)
    (last : reader.later = .error err :: rest) : (live reader kind budget).readFails := by
  rw [readFails, readEnds_live, last]
  simpa [ReadEvent.isError] using short

attribute [local simp] ErrorsStick

/-- The failed pulls of a request keep `finish` from succeeding exactly when none of their
turns met a socket error or a chunk over the budget. -/
theorem errorsStick_iff (reader : Reader IoError) (kind : FastHttp1StreamingBodyKind)
    (budget count : Nat) :
    (live reader kind budget).ErrorsStick count ↔
      ∀ state ∈ (live reader kind budget).visited count,
        ¬ state.overBudget ∧ ¬ state.readFails := by
  induction count generalizing reader kind budget with
  | zero => simp [pulls, visited]
  | succ count ih =>
    obtain ⟨used, middle, next, left, -, -, -, takes, seen⟩ := visited_succ reader kind budget count
    rw [errorsStick_succ, seen fun calm => ⟨calm.within, calm.read⟩]
    generalize (live reader kind budget).pullNext = result at takes ⊢
    cases takes with
    | @deliver data after kind' calm nonempty step =>
      have good := calm.untroubled
      rw [← ih after kind' left]
      simp [good.within, good.read]
    | @finished used after calm =>
      have good := calm.untroubled
      rw [← ih after (.fixed 0) left]
      simp [good.within, good.read]
    | @refused after message calm =>
      have good := calm.untroubled
      have stored : ((live after (.fixed 0) left).rememberError
        (.badRequest message)).2.terminalError = some (.badRequest message) := rfl
      rw [visited_stored stored, pulls_stored stored]
      simpa [good.within, good.read] using fun _ => finish_stored stored
    | @exceeded used after size exceeds =>
      rw [pulls_done]
      simp [finish_done, show (live middle next left).overBudget from exceeds]
    | @failed err rest short last =>
      rw [pulls_done]
      simp [finish_done, readFails_of_error short last]
    | @dropped rest short last =>
      have within : ¬ (live middle next left).overBudget := overBudget_short short
      rw [← ih ⟨rest, middle.unread⟩ (.fixed 0) left]
      simp [within, readFails_of_dropped last]

/-- A chunk over the budget is refused once and forgotten: `finish` then hands back a
connection that stands in front of the chunk's data. -/
theorem errors_forgotten : ¬ ∀ (reader : Reader IoError) (kind : FastHttp1StreamingBodyKind)
    (budget count : Nat), (live reader kind budget).ErrorsStick count := by
  intro stick
  have pulled : (live ⟨[], Text.ascii "100001\r\nGET /admin HTTP/1.1\r\n"⟩ (.chunked .needSize)
      1048576).pulls 1 = ([.failed .payloadTooLarge],
        live ⟨[], Text.ascii "GET /admin HTTP/1.1\r\n"⟩ (.fixed 0) 1048576) := by rfl
  have sticks := stick _ _ _ _ ⟨.payloadTooLarge, by rw [pulled]; exact List.mem_cons_self⟩
  exact sticks _ (finish_done _ _)

/-! ## Drops -/

/-- A turn that is dropped is seen as such. -/
theorem readDropped_of_dropped (short : ¬ kind.enough reader.unread)
    (last : reader.later = .dropped :: rest) : (live reader kind budget).readDropped := by
  rw [readDropped, readEnds_live, last]
  simpa [ReadEvent.isDropped] using short

/-- The connection stands where this much of a body is still to come, and then the rest. -/
structure Stands (reader : Reader IoError) (kind : FastHttp1StreamingBodyKind)
    (encoded rest : List UInt8) : Prop where
  body : ∃ content, Remains Rfc9112.rules kind encoded content
  sound : ∀ err, .error err ∉ reader.later
  arrives : reader.ahead = encoded ++ rest

section

variable {reader after : Reader IoError} {kind next : FastHttp1StreamingBodyKind}
variable {budget left : Nat} {used yielded encoded rest : List UInt8}
variable (stands : Stands reader kind encoded rest)
include stands

/-- Steps move the connection along the body. -/
theorem Stands.along (path : Path Advances (kind, budget) used yielded (next, left))
    (split : reader.unread = used ++ after.unread) (later : after.later = reader.later) :
    ∃ encoded', Stands after next encoded' rest := by
  obtain ⟨content, remains⟩ := stands.body
  have whole : encoded ++ rest = used ++ after.ahead := by
    rw [← stands.arrives, Reader.ahead_of_split split later]
  obtain ⟨encoded', content', remains', -, -, arrives⟩ :=
    remains.along (chunkSize_agrees _) path whole
  exact ⟨encoded', ⟨content', remains'⟩, later ▸ stands.sound, arrives⟩

/-- Where a turn finds the body complete, the connection stands at the rest. -/
theorem Stands.ended (ends : Ends kind used) (split : reader.unread = used ++ after.unread)
    (later : after.later = reader.later) : Stands after (.fixed 0) [] rest := by
  obtain ⟨content, remains⟩ := stands.body
  have whole : encoded ++ rest = used ++ after.ahead := by
    rw [← stands.arrives, Reader.ahead_of_split split later]
  refine ⟨⟨[], .fixed rfl⟩, later ▸ stands.sound, ?_⟩
  cases ends with
  | fixed =>
    cases remains with
    | fixed full =>
      rw [List.eq_nil_of_length_eq_zero full] at whole
      exact whole.symm
  | chunked =>
    cases remains with
    | chunked body => exact (Rest.endAfter body whole).2.2

/-- Where a turn needs more bytes, some of the body is still to come. -/
theorem Stands.owes (short : ¬ kind.enough reader.unread) : encoded ≠ [] := by
  obtain ⟨content, remains⟩ := stands.body
  rintro rfl
  cases remains with
  | fixed full => exact short (by simp [enough, ← full])
  | chunked body => exact body.nonempty rfl

/-- Where some of the body is still to come, the connection does not stand at the rest. -/
theorem Stands.inside (owes : encoded ≠ []) : reader.ahead ≠ rest := by
  intro same
  have lengths := congrArg List.length (stands.arrives.symm.trans same)
  rw [List.length_append] at lengths
  have positive := List.length_pos_iff.mpr owes
  omega

/-- Draining a body leaves the connection at the rest, if it ends. -/
theorem Stands.finish {connection : FastHttp1ConnectionIo}
    (finished : (live reader kind budget).finish = .ready connection) :
    connection.ahead = rest := by
  obtain ⟨yielded, final, left, completes, rfl⟩ := completes_of_finish finished
  cases completes with
  | intro reaches ends split later =>
    obtain ⟨used, path, front⟩ := reaches.steps
    obtain ⟨encoded', stands'⟩ := stands.along path front reaches.later
    exact (stands'.ended ends split later).arrives

end

/-- `finish` hands back no connection that stands anywhere but at the rest. -/
def KeepsPlace (state : FastHttp1RequestBodyState) (count : Nat) (rest : List UInt8) : Prop :=
  ∀ connection, (state.pulls count).2.finish = .ready connection → connection.ahead = rest

theorem keepsPlace_done {count : Nat} {rest : List UInt8} :
    (live reader (.fixed 0) budget).KeepsPlace count rest ↔ reader.ahead = rest := by
  rw [KeepsPlace, pulls_done, finish_done]
  constructor
  · intro keeps
    exact keeps _ rfl
  · rintro rfl connection same
    cases same
    rfl

theorem keepsPlace_iff_of_stands {encoded rest : List UInt8}
    (stands : Stands reader kind encoded rest) {budget count : Nat} :
    (live reader kind budget).KeepsPlace count rest ↔
      ∀ state ∈ (live reader kind budget).visited count,
        ¬ state.overBudget ∧ ¬ state.readDropped := by
  induction count generalizing reader kind budget encoded with
  | zero =>
    simp only [KeepsPlace, pulls, visited, List.not_mem_nil, false_imp_iff, implies_true, iff_true]
    exact fun connection finished => stands.finish finished
  | succ count ih =>
    have after_pull : (live reader kind budget).KeepsPlace (count + 1) rest ↔
      (live reader kind budget).pullNext.2.KeepsPlace count rest := Iff.rfl
    obtain ⟨used, middle, next, left, path, split, later, takes, seen⟩ :=
      visited_succ reader kind budget count
    obtain ⟨encoded', stands'⟩ := stands.along path split later
    rw [after_pull, seen fun calm => ⟨calm.within, calm.kept⟩]
    generalize (live reader kind budget).pullNext = result at takes ⊢
    cases takes with
    | deliver calm nonempty step split' later' =>
      have good := calm.untroubled
      obtain ⟨encoded'', stands''⟩ := stands'.along (.one step) split' later'
      rw [ih stands'']
      simp [good.within, good.kept]
    | finished calm ends split' later' =>
      have good := calm.untroubled
      rw [ih (stands'.ended ends split' later')]
      simp [good.within, good.kept]
    | @refused after message calm =>
      have good := calm.untroubled
      have stored : ((live after (.fixed 0) left).rememberError
        (.badRequest message)).2.terminalError = some (.badRequest message) := rfl
      rw [KeepsPlace, visited_stored stored, pulls_stored stored]
      simpa [good.within, good.kept] using
        fun connection same => absurd same (finish_stored stored connection)
    | @exceeded used after size exceeds step split' later' =>
      obtain ⟨encoded'', stands''⟩ := stands'.along (.one step) split' later'
      have owes : encoded'' ≠ [] := by
        obtain ⟨content, remains⟩ := stands''.body
        cases remains with
        | chunked body => exact body.nonempty
      rw [keepsPlace_done]
      refine iff_of_false (stands''.inside owes) fun good => ?_
      exact good.1.1 exceeds
    | @failed err rest short last => exact absurd (last ▸ List.mem_cons_self) (stands'.sound err)
    | @dropped others short last =>
      have same : (⟨others, middle.unread⟩ : Reader IoError).ahead = middle.ahead := by
        rw [Reader.ahead_eq middle, last]
        rfl
      rw [keepsPlace_done, same]
      refine iff_of_false (stands'.inside (stands'.owes short)) fun good => ?_
      exact good.1.2 (readDropped_of_dropped short last)

/-- After pulls that may have been dropped anywhere, `finish` hands back the connection at
the first byte behind the body exactly when no turn of the pulls was dropped while it
awaited bytes and none met a chunk over the budget. -/
theorem keepsPlace_iff {reader : Reader IoError} {kind : FastHttp1StreamingBodyKind}
    {encoded content rest : List UInt8} (body : Remains Rfc9112.rules kind encoded content)
    (sound : ∀ err, .error err ∉ reader.socket) (arrives : reader.ahead = encoded ++ rest)
    (budget count : Nat) :
    (live reader kind budget).KeepsPlace count rest ↔
      ∀ state ∈ (live reader kind budget).visited count,
        ¬ state.overBudget ∧ ¬ state.readDropped := by
  have stands : Stands reader kind encoded rest :=
    ⟨⟨content, body⟩, fun err member => sound err (error_mem_later member), arrives⟩
  exact keepsPlace_iff_of_stands stands

/-- A drop behind the end of the body does no harm. -/
theorem keepsPlace_dropped_behind :
    (live ⟨[.data ⟨Text.ascii "ab", by decide⟩, .dropped, .data ⟨Text.ascii "GET", by decide⟩], []⟩
      (.fixed 2) 0).KeepsPlace 3 (Text.ascii "GET") := by
  have body : Remains Rfc9112.rules (.fixed 2) (Text.ascii "ab") (Text.ascii "ab") :=
    .fixed (by decide)
  refine (keepsPlace_iff body ?_ (by decide) 0 3).mpr (by decide)
  simp

/-- A pull that is dropped inside a body of three bytes makes `finish` hand back the
connection there. -/
theorem drops_lose_place : ¬ ∀ (reader : Reader IoError) (kind : FastHttp1StreamingBodyKind)
    (encoded content rest : List UInt8) (budget count : Nat),
    Remains Rfc9112.rules kind encoded content → (∀ err, .error err ∉ reader.socket) →
    reader.ahead = encoded ++ rest → (live reader kind budget).KeepsPlace count rest := by
  intro keeps
  have place := keeps
    ⟨[.data ⟨Text.ascii "a", by decide⟩, .dropped, .data ⟨Text.ascii "bcGET", by decide⟩], []⟩
    (.fixed 3) (Text.ascii "abc") (Text.ascii "abc") (Text.ascii "GET") 0 2 (.fixed (by decide))
    (by simp) (by decide)
  have ahead := place ⟨some [.data ⟨Text.ascii "bcGET", by decide⟩], []⟩ rfl
  exact absurd ahead (by decide)

end FastHttp1RequestBodyState

end PdEdge.Downstream

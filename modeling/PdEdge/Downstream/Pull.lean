import PdEdge.Downstream.Lease

/-!
# What a whole `pull_next` does

A pull is a path of turns that go round again and one turn that leaves (`pullNext_pulls`).
Along a path the bytes still owed to the body shrink by what was used and the content by
what was yielded; this holds forwards, for any rules that agree with the decoder on sizes,
and backwards, for the rules of the decoder itself.
-/

namespace PdEdge.Downstream

open Wire Chunked List

namespace FastHttp1StreamingBodyKind

/-- The announced chunks that the content still owes are within the budget. -/
def Affords (kind : FastHttp1StreamingBodyKind) (budget : Nat) (content : List UInt8) : Prop :=
  match kind with
  | .fixed _ => True
  | .chunked state => content.length ≤ budget + state.place.pending

section

variable {kind next : FastHttp1StreamingBodyKind} {budget left : Nat}
variable {used yielded encoded content tail unread : List UInt8}
variable {state after : FastHttp1StreamingBodyKind × Nat}

/-- What a step is made in front of remains, with what the step used. -/
theorem Advances.before (step : Advances state used yielded after)
    (remains : Remains requestRules after.1 encoded content) :
    Remains requestRules state.1 (used ++ encoded) (yielded ++ content) := by
  cases step with
  | fixed fits =>
    cases remains with
    | fixed full =>
      refine .fixed ?_
      rw [length_append]
      omega
  | chunked move paid =>
    cases remains with
    | chunked rest => exact .chunked (move.restBefore rest)

theorem Remains.before (remains : Remains requestRules next encoded content)
    (path : Path Advances (kind, budget) used yielded (next, left)) :
    Remains requestRules kind (used ++ encoded) (yielded ++ content) :=
  path.before (fun state => Remains requestRules state.1) Advances.before remains

variable {rules : Chunked.Rules}

/-- A step on bytes that start with the rest of a body leaves the rest of a body. -/
theorem Advances.consumes (agree : requestRules.Agree rules) :
    Consumes (fun state : FastHttp1StreamingBodyKind × Nat => Remains rules state.1) Advances := by
  intro state next used yielded encoded content tail unread step remains same
  cases step with
  | fixed fits =>
    cases remains with
    | fixed full =>
      obtain ⟨more, rfl, behind⟩ := owed_front same (by omega)
      refine ⟨more, more, .fixed ?_, rfl, rfl, behind⟩
      rw [← full, length_append]
      omega
  | chunked move paid =>
    cases remains with
    | chunked rest =>
      obtain ⟨encoded', content', after, splits⟩ := move.restAfter agree rest same
      exact ⟨encoded', content', .chunked after, splits⟩

theorem Remains.along (agree : requestRules.Agree rules)
    (remains : Remains rules kind encoded content)
    (path : Path Advances (kind, budget) used yielded (next, left))
    (same : encoded ++ tail = used ++ unread) :
    ∃ encoded' content', Remains rules next encoded' content' ∧ encoded = used ++ encoded' ∧
      content = yielded ++ content' ∧ unread = encoded' ++ tail :=
  path.after (fun state => Remains rules state.1) (Advances.consumes agree) remains same

/-- A step pays for what it announces. -/
theorem Advances.affords (step : Advances state used yielded after) :
    Affords state.1 state.2 (yielded ++ content) ↔ Affords after.1 after.2 content := by
  cases step with
  | fixed fits => exact Iff.rfl
  | chunked move paid =>
    simp only [Affords, length_append]
    omega

theorem affords_along (path : Path Advances (kind, budget) used yielded (next, left))
    (affords : Affords kind budget (yielded ++ content)) : Affords next left content :=
  path.keeps (fun state => Affords state.1 state.2) (fun step => step.affords.mp) affords

theorem affords_before (path : Path Advances state used yielded after)
    (affords : Affords after.1 after.2 content) : Affords state.1 state.2 (yielded ++ content) := by
  induction path with
  | refl => exact affords
  | cons step rest ih =>
    rw [append_assoc]
    exact step.affords.mpr (ih affords)

end

end FastHttp1StreamingBodyKind

open FastHttp1StreamingBodyKind

namespace FastHttp1RequestBodyState

/-! ## The state before a turn -/

/-- The reader of a state, where it has one. -/
def reader? (state : FastHttp1RequestBodyState) : Option (Reader IoError) :=
  match state.connection with
  | some ⟨some socket, buffered⟩ => some ⟨socket, buffered⟩
  | _ => none

/-- The next turn finds a chunk announced that the budget does not allow. -/
def overBudget (state : FastHttp1RequestBodyState) : Bool :=
  state.reader?.any fun reader =>
    state.kind.overBudget state.remainingBudget reader.unread

/-- The next turn needs more than the bytes that arrive before an event of this sort. -/
def readEnds (state : FastHttp1RequestBodyState) (sort : ReadEvent IoError → Bool) : Bool :=
  state.reader?.any fun reader =>
    reader.later.head?.any sort && !state.kind.enough reader.unread

/-- The next turn needs more than the bytes that arrive before the socket fails. -/
def readFails (state : FastHttp1RequestBodyState) : Bool := state.readEnds ReadEvent.isError

/-- The next turn needs more than the bytes that arrive before its task is dropped. -/
def readDropped (state : FastHttp1RequestBodyState) : Bool := state.readEnds ReadEvent.isDropped

theorem readEnds_live (reader : Reader IoError) (kind : FastHttp1StreamingBodyKind)
    (budget : Nat) (sort : ReadEvent IoError → Bool) :
    (live reader kind budget).readEnds sort =
      (reader.later.head?.any sort && !kind.enough reader.unread) := rfl

/-- The next turn runs into none of the three. -/
structure Untroubled (state : FastHttp1RequestBodyState) : Prop where
  within : ¬ state.overBudget
  read : ¬ state.readFails
  kept : ¬ state.readDropped

theorem Calm.untroubled {reader : Reader IoError} {kind : FastHttp1StreamingBodyKind}
    {budget : Nat} (calm : Calm reader kind budget) : (live reader kind budget).Untroubled := by
  have quiet : ∀ sort, (live reader kind budget).readEnds sort = false := by
    intro sort
    rw [readEnds_live]
    rcases calm.fed with fed | last
    · simp [fed]
    · simp [last]
  exact ⟨calm.within, by simp [readFails, quiet], by simp [readDropped, quiet]⟩

/-! ## Pulls -/

/-- A pull: turns that go round again, none of them troubled, and one turn that leaves. -/
inductive Pulls (reader : Reader IoError) (kind : FastHttp1StreamingBodyKind) (budget : Nat) :
    Pulled × FastHttp1RequestBodyState → List FastHttp1RequestBodyState → Prop
  | intro {used : List UInt8} {middle : Reader IoError} {next : FastHttp1StreamingBodyKind}
    {left : Nat} {result : Pulled × FastHttp1RequestBodyState}
    {before : List FastHttp1RequestBodyState} (path : Path Advances (kind, budget) used [] (next,
      left))
    (split : reader.unread = used ++ middle.unread) (later : middle.later = reader.later)
    (calm : ∀ state ∈ before, state.Untroubled)
    (takes : Takes none middle next left (.leave result)) :
    Pulls reader kind budget result (before ++ [live middle next left])

/-- Every pull from a state that holds its connection is one. -/
theorem pullNext_pulls (reader : Reader IoError) (kind : FastHttp1StreamingBodyKind)
    (budget : Nat) :
    Pulls reader kind budget (live reader kind budget).pullNext
      (pullLoop.trace (live reader kind budget)) := by
  show Pulls reader kind budget (pullLoop.run _) _
  generalize start : live reader kind budget = state
  induction state using pullLoop.run_induct generalizing reader kind budget with
  | left state result turned =>
    rw [pullLoop.run_leave turned, pullLoop.trace_leave turned]
    subst start
    have takes := pullTurn_takes none reader kind budget
    rw [show (holding none reader kind budget).pullTurn = _ from turned] at takes
    have none : ∀ state ∈ ([] : List FastHttp1RequestBodyState), state.Untroubled := by simp
    exact .intro (.refl (kind, budget)) rfl rfl none takes
  | again state next turned ih =>
    rw [pullLoop.run_again turned, pullLoop.trace_again turned]
    subst start
    have takes := pullTurn_takes none reader kind budget
    rw [show (holding none reader kind budget).pullTurn = _ from turned] at takes
    cases takes with
    | @again used after next left calm step split later lower =>
      have rest := ih after next left rfl
      generalize pullLoop.trace (holding none after next left) = trace at rest
      cases rest with
      | @intro used' middle last final result before path split' later' calms takes =>
        have whole : Path Advances (kind, budget) (used ++ used') [] (last, final) :=
          .cons step path
        have all : ∀ state ∈ live reader kind budget :: before, state.Untroubled :=
          forall_mem_cons.mpr ⟨calm.untroubled, calms⟩
        refine .intro whole ?_ (later'.trans later) all takes
        rw [split, split', append_assoc]

/-! ## Draining -/

/-- Steps have been made to the end of the body. -/
inductive Completes (reader : Reader IoError) (kind : FastHttp1StreamingBodyKind) (budget : Nat)
    (yielded : List UInt8) (final : Reader IoError) (left : Nat) : Prop
  | intro {middle : Reader IoError} {last : FastHttp1StreamingBodyKind} {ending : List UInt8}
    (reaches : Reaches Advances reader (kind, budget) yielded middle (last,
      left)) (ends : Ends last ending)
    (split : middle.unread = ending ++ final.unread) (later : final.later = middle.later)

section

variable {reader after : Reader IoError} {kind next : FastHttp1StreamingBodyKind}
variable {budget left : Nat} {yielded : List UInt8} {state : FastHttp1RequestBodyState}

section

variable (reaches : Reaches Advances reader (kind, budget) yielded after (next, left))
include reaches

/-- A pull that hands out bytes reaches the state it leaves. -/
theorem reaches_of_deliver {data : List UInt8}
    (pulled : (live after next left).pullNext = (.ready (some data), state)) :
    ∃ final last rest, state = live final last rest ∧
      Reaches Advances reader (kind, budget) (yielded ++ data) final (last, rest) := by
  have pull := pullNext_pulls after next left
  rw [pulled] at pull
  generalize pullLoop.trace (live after next left) = trace at pull
  cases pull with
  | intro path split later calm takes =>
    have middle := reaches.along path split later
    rw [append_nil] at middle
    cases takes with
    | @deliver _ final last _ nonempty step split' later' =>
      exact ⟨final, last, _, rfl, middle.along (.one step) split' later'⟩

/-- A pull that finds the end has reached it. -/
theorem completes_of_end (pulled : (live after next left).pullNext = (.ready none, state)) :
    ∃ final rest, Completes reader kind budget yielded final rest ∧
      state = live final (.fixed 0) rest := by
  have pull := pullNext_pulls after next left
  rw [pulled] at pull
  generalize pullLoop.trace (live after next left) = trace at pull
  cases pull with
  | intro path split later calm takes =>
    have middle := reaches.along path split later
    rw [append_nil] at middle
    cases takes with
    | finished calm ends split' later' => exact ⟨_, _, .intro middle ends split' later', rfl⟩

end

/-- A body that could be finished was read step by step to its end. -/
theorem completes_of_finish {connection : FastHttp1ConnectionIo}
    (finished : (live reader kind budget).finish = .ready connection) :
    ∃ yielded final rest, Completes reader kind budget yielded final rest ∧
      connection = .ofReader final := by
  have drained : (live reader kind budget).drainRemaining.1 = .ready () →
      ∃ yielded final rest, Completes reader kind budget yielded final rest ∧
        (live reader kind budget).drainRemaining.2 = live final (.fixed 0) rest := by
    refine drainLoop.run_invariant
      (fun state => ∃ yielded after next left, state = live after next left ∧
        Reaches Advances reader (kind, budget) yielded after (next, left))
      (fun value => value.1 = .ready () → ∃ yielded final rest,
        Completes reader kind budget yielded final rest ∧ value.2 = live final (.fixed 0) rest)
      ?_ ?_ _ ⟨[], _, _, _, rfl, .refl _ _⟩
    · rintro state next ⟨yielded, after, kind', left, rfl, reaches⟩ turned
      simp only [drainLoop] at turned
      split at turned
      · rename_i data state pulled
        cases turned
        obtain ⟨final, last, rest, same, reaches⟩ := reaches_of_deliver reaches pulled
        exact ⟨_, final, last, rest, same, reaches⟩
      all_goals cases turned
    · rintro state value ⟨yielded, after, kind', left, rfl, reaches⟩ turned ready
      simp only [drainLoop] at turned
      split at turned
      · cases turned
      · rename_i state pulled
        cases turned
        exact ⟨yielded, completes_of_end reaches pulled⟩
      all_goals
        cases turned
        cases ready
  unfold finish at finished
  split at finished
  · cases finished
  · rename_i state same
    rw [same] at drained
    obtain ⟨yielded, final, rest, completes, rfl⟩ := drained rfl
    cases finished
    exact ⟨yielded, final, rest, completes, rfl⟩
  · split at finished <;> cases finished

/-- What has been read to its end is a body that the decoder's rules accept. -/
theorem Completes.remains {final : Reader IoError}
    (completes : Completes reader kind budget yielded final left) :
    ∃ used, Remains requestRules kind used yielded ∧ reader.unread = used ++ final.unread := by
  cases completes with
  | @intro middle last ending reaches ends split later =>
    obtain ⟨used, path, front⟩ := reaches.steps
    have closing : Remains requestRules last ending [] := by
      cases ends with
      | fixed => exact .fixed rfl
      | chunked => exact .chunked (Rest.ending requestRules)
    have whole := closing.before path
    rw [append_nil] at whole
    exact ⟨used ++ ending, whole, by rw [front, split, append_assoc]⟩

end

end FastHttp1RequestBodyState

end PdEdge.Downstream

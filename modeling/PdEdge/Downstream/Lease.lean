import PdEdge.Downstream.Turn

/-!
# The life of a leased body

`pull_next` repeats its turn until one leaves, `drain_remaining` repeats `pull_next` until
the body is complete, and `finish` drains the body and gives the connection back. All three
end on every stream.
-/

namespace PdEdge.Downstream

open Iteration Wire

namespace FastHttp1RequestBodyState

/-- A turn that goes round again or hands out bytes leaves less to do. -/
def Lowers (state : FastHttp1RequestBodyState) : PullTurn → Prop
  | .again next => next.weight < state.weight
  | .leave (.ready (some _), next) => next.weight < state.weight
  | .leave _ => True

attribute [local simp] connectionMut pullTurn FastHttp1ConnectionIo.partsMut Lowers reader pullFixed
  pullBytes pullData

/-- A turn without a socket reads nothing, so it can only use up the buffer. -/
theorem pullTurn_unheld (state : FastHttp1RequestBodyState)
    (unheld : state.connection = none ∨ ∃ buffered, state.connection = some ⟨none, buffered⟩) :
    state.Lowers state.pullTurn := by
  obtain ⟨connection, kind, budget, terminal⟩ := state
  rcases unheld with rfl | ⟨buffered, rfl⟩
  · rcases kind with remaining | _ | remaining | _ | _
    · by_cases zero : remaining = 0
      all_goals simp [zero]
    · simp [pullSize]
    · by_cases zero : remaining = 0
      · simp [zero, weight]
      · simp [zero]
    · simp [pullTerminator]
    · simp [pullTrailer]
  · rcases kind with remaining | _ | remaining | _ | _
    · by_cases zero : remaining = 0
      · simp [zero]
      by_cases empty : buffered = []
      · simp [zero, empty]
      have some : 0 < buffered.length := List.length_pos_iff.mpr empty
      simp only [pullTurn, pullFixed, zero, pullBytes, connectionMut, Lowers, weight,
        Reader.weight, List.length_drop, if_neg, List.length_eq_zero_iff, empty,
        not_false_eq_true, Option.getD, held, List.length_nil]
      omega
    · simp [pullSize]
    · by_cases zero : remaining = 0
      · simp [zero, weight]
      by_cases empty : buffered = []
      · simp [zero, empty]
      have some : 0 < buffered.length := List.length_pos_iff.mpr empty
      simp only [pullTurn, pullData, zero, pullBytes, connectionMut, Lowers, weight,
        Reader.weight, List.length_drop, if_neg, List.length_eq_zero_iff, empty,
        not_false_eq_true, Option.getD, held, List.length_nil]
      split <;> omega
    · simp [pullTerminator]
    · simp [pullTrailer]

/-- Every turn that goes round again or hands out bytes leaves less to do. -/
theorem pullTurn_lowers (state : FastHttp1RequestBodyState) : state.Lowers state.pullTurn := by
  by_cases unheld : state.connection = none ∨ ∃ buffered, state.connection = some ⟨none, buffered⟩
  · exact state.pullTurn_unheld unheld
  obtain ⟨connection, kind, budget, terminal⟩ := state
  rcases connection with _ | ⟨_ | socket, buffered⟩
  · exact absurd (Or.inl rfl) unheld
  · exact absurd (Or.inr ⟨_, rfl⟩) unheld
  have takes := pullTurn_takes terminal ⟨socket, buffered⟩ kind budget
  show Lowers (holding terminal ⟨socket, buffered⟩ kind budget)
    (holding terminal ⟨socket, buffered⟩ kind budget).pullTurn
  generalize (holding terminal ⟨socket, buffered⟩ kind budget).pullTurn = turn at takes ⊢
  cases takes with
  | again calm step split later lower | deliver calm nonempty step split later lower => exact lower
  | finished | refused | exceeded | failed | dropped => trivial

/-- The loop of `pull_next`. -/
def pullLoop : Loop FastHttp1RequestBodyState (Pulled × FastHttp1RequestBodyState) where
  turn := pullTurn
  measure := weight
  lowers state next turned := by
    have lowers := state.pullTurn_lowers
    rwa [turned] at lowers

/-- `pull_next`. -/
def pullNext (state : FastHttp1RequestBodyState) : Pulled × FastHttp1RequestBodyState :=
  match state.terminalError with
  | some err => (.failed err.toReadError, state)
  | none => pullLoop.run state

/-- A pull that hands out bytes leaves less to do. -/
theorem pullNext_lowers {state next : FastHttp1RequestBodyState} {data : List UInt8}
    (pulled : state.pullNext = (.ready (some data), next)) : next.weight < state.weight := by
  unfold pullNext at pulled
  split at pulled
  · cases pulled
  refine pullLoop.run_invariant (fun current => current.weight ≤ state.weight)
    (fun value => ∀ data next, value = (.ready (some data), next) →
      next.weight < state.weight) ?_ ?_ state (Nat.le_refl _) data next pulled
  · intro current after held turned
    have lower := pullLoop.lowers current after turned
    exact Nat.le_trans (Nat.le_of_lt lower) held
  rintro current value held turned data next rfl
  have lower := current.pullTurn_lowers
  rw [show current.pullTurn = _ from turned] at lower
  exact Nat.lt_of_lt_of_le lower held

/-- The loop of `drain_remaining`. -/
def drainLoop : Loop FastHttp1RequestBodyState
    (Awaited FastHttp1ReadError Unit × FastHttp1RequestBodyState) where
  turn state :=
    match state.pullNext with
    | (.ready (some _), next) => .again next
    | (.ready none, next) => .leave (.ready (), next)
    | (.failed err, next) => .leave (.failed err, next)
    | (.dropped, next) => .leave (.dropped, next)
  measure := weight
  lowers state next turned := by
    split at turned
    · rename_i pulled
      cases turned
      exact pullNext_lowers pulled
    all_goals cases turned

/-- `drain_remaining`. -/
def drainRemaining (state : FastHttp1RequestBodyState) :
    Awaited FastHttp1ReadError Unit × FastHttp1RequestBodyState :=
  drainLoop.run state

/-- `FastHttp1RequestBodyLease::finish`: the connection, or the error and the connection. -/
def finish (state : FastHttp1RequestBodyState) :
    Awaited (FastHttp1ReadError × FastHttp1ConnectionIo) FastHttp1ConnectionIo :=
  match state.drainRemaining with
  | (.dropped, _) => .dropped
  | (.ready (), state) =>
    match state.connection with
    | none => .failed (connectionUnavailable, ⟨none, []⟩)
    | some connection => .ready connection
  | (.failed err, state) =>
    match state.connection with
    | none => .failed (connectionUnavailable, ⟨none, []⟩)
    | some connection => .failed (err, connection)

/-- A number of calls of `pull_next`, one after the other. -/
def pulls : Nat → FastHttp1RequestBodyState → List Pulled × FastHttp1RequestBodyState
  | 0, state => ([], state)
  | count + 1, state =>
    let (pulled, next) := state.pullNext
    let (results, final) := pulls count next
    (pulled :: results, final)

theorem pulls_succ (count : Nat) (state : FastHttp1RequestBodyState) :
    state.pulls (count + 1) = (state.pullNext.1 :: (state.pullNext.2.pulls count).1,
      (state.pullNext.2.pulls count).2) := rfl

end FastHttp1RequestBodyState

end PdEdge.Downstream

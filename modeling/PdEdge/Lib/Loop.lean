import Mathlib.Tactic.Common

/-!
# Loops that end

A `loop` of an imperative program is one turn repeated until a turn leaves with a
result. A `Loop` carries the turn together with a natural measure that every turn
going round again lowers, so running it is a total function. The run is structural
in the measure and can be evaluated; every proof about it goes through the equations
of `run` and `trace` and the two induction rules below.
-/

namespace Iteration

variable {σ ρ : Type}

/-- The end of one turn: the state to go round again with, or the result to leave with. -/
inductive Turn (σ ρ : Type) where
  /-- Repeat the loop body from this state. -/
  | again (state : σ)
  /-- Leave the loop with this result. -/
  | leave (result : ρ)

/-- A loop body whose repetitions lower a measure. -/
structure Loop (σ ρ : Type) where
  /-- One execution of the body. -/
  turn : σ → Turn σ ρ
  /-- What every further turn has less of. -/
  measure : σ → Nat
  /-- Going round again lowers the measure. -/
  lowers : ∀ state next, turn state = .again next → measure next < measure state

namespace Loop

variable (loop : Loop σ ρ)

/-- Repeat the body at most as often as a bound above the measure allows, and list the
states its turns start in. -/
def execBelow : (bound : Nat) → (state : σ) → loop.measure state < bound → List σ × ρ
  | 0, _, below => absurd below (Nat.not_lt_zero _)
  | bound + 1, state, below =>
    match turned : loop.turn state with
    | .leave result => ([state], result)
    | .again next =>
      let rest := execBelow bound next (by
        have lower := loop.lowers state next turned
        omega)
      (state :: rest.1, rest.2)

/-- Repeat the body until it leaves. -/
def exec (state : σ) : List σ × ρ :=
  loop.execBelow (loop.measure state + 1) state (Nat.lt_succ_self _)

/-- The result of repeating the body until it leaves. -/
def run (state : σ) : ρ := (loop.exec state).2

/-- The states in which the turns of a run start. -/
def trace (state : σ) : List σ := (loop.exec state).1

/-- Nothing depends on the bound that made the recursion structural. -/
theorem execBelow_eq (bound : Nat) (state : σ) (below : loop.measure state < bound) :
    loop.execBelow bound state below = loop.exec state := by
  suffices agree : ∀ (first second : Nat) (state : σ) (below : loop.measure state < first)
      (under : loop.measure state < second),
      loop.execBelow first state below = loop.execBelow second state under from
    agree _ _ state below _
  intro first
  induction first with
  | zero => intro second state below; exact absurd below (Nat.not_lt_zero _)
  | succ first ih =>
    intro second state below under
    cases second with
    | zero => exact absurd under (Nat.not_lt_zero _)
    | succ second =>
      unfold execBelow
      split
      · rfl
      · rw [ih second]

variable {state next : σ} {result : ρ}

/-- A turn that leaves ends the run. -/
theorem exec_leave (turned : loop.turn state = .leave result) :
    loop.exec state = ([state], result) := by
  unfold exec execBelow
  split
  · rename_i found same
    rw [Turn.leave.inj (same.symm.trans turned)]
  · rename_i next same
    cases same.symm.trans turned

/-- A turn that goes round again is followed by the rest of the run. -/
theorem exec_again (turned : loop.turn state = .again next) :
    loop.exec state = (state :: loop.trace next, loop.run next) := by
  conv => lhs; unfold exec execBelow
  split
  · rename_i result same
    cases same.symm.trans turned
  rename_i found same
  cases same.symm.trans turned
  rw [execBelow_eq]
  rfl

theorem run_leave (turned : loop.turn state = .leave result) : loop.run state = result := by
  rw [run, loop.exec_leave turned]

theorem run_again (turned : loop.turn state = .again next) : loop.run state = loop.run next := by
  rw [run, loop.exec_again turned]

theorem trace_leave (turned : loop.turn state = .leave result) : loop.trace state = [state] := by
  rw [trace, loop.exec_leave turned]

theorem trace_again (turned : loop.turn state = .again next) :
    loop.trace state = state :: loop.trace next := by
  rw [trace, loop.exec_again turned]

/-- A run starts in its first state. -/
theorem mem_trace {state : σ} : state ∈ loop.trace state := by
  cases turned : loop.turn state with
  | leave result => rw [loop.trace_leave turned]; exact List.mem_cons_self
  | again next => rw [loop.trace_again turned]; exact List.mem_cons_self

/-- Induction along a run: the states it passes through, from the last one back. -/
theorem run_induct {motive : σ → Prop}
    (left : ∀ state result, loop.turn state = .leave result → motive state)
    (again : ∀ state next, loop.turn state = .again next → motive next → motive state)
    (state : σ) : motive state := by
  induction measured : loop.measure state using Nat.strongRecOn generalizing state with
  | ind size ih =>
    cases turned : loop.turn state with
    | leave result => exact left state result turned
    | again next =>
      have lower := loop.lowers state next turned
      exact again state next turned (ih (loop.measure next) (by omega) next rfl)

/-- What every turn going round again keeps and every leaving turn turns into a fact
about its result holds of the result of a run. -/
theorem run_invariant (holds : σ → Prop) (result : ρ → Prop)
    (keeps : ∀ state next, holds state → loop.turn state = .again next → holds next)
    (leaves : ∀ state value, holds state → loop.turn state = .leave value → result value)
    (state : σ) (start : holds state) : result (loop.run state) := by
  revert start
  induction state using loop.run_induct with
  | left state value turned =>
    intro start
    rw [loop.run_leave turned]
    exact leaves state value start turned
  | again state next turned ih =>
    intro start
    rw [loop.run_again turned]
    exact ih (keeps state next start turned)

end Loop

end Iteration

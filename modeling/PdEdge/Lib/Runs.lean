/-!
# Runs of a step function

What holds along every run is shown by an invariant; where only some runs keep it, by one
equivalence for a single step.
-/

namespace Runs

variable {σ ε : Type} (step : σ → ε → σ)

/-- It holds at every point of a run. -/
def Always (holds : σ → Prop) (state : σ) : List ε → Prop
  | [] => holds state
  | event :: events => holds state ∧ Always holds (step state event) events

/-- Every step of a run is clear. -/
def AllClear (clear : σ → ε → Prop) (state : σ) : List ε → Prop
  | [] => True
  | event :: events => clear state event ∧ AllClear clear (step state event) events

variable {step} {holds kept : σ → Prop} {clear : σ → ε → Prop} {state : σ} {events : List ε}

/-- Steps that are clear and keep an invariant are all clear in another sense. -/
theorem AllClear.imp_of_step {right : σ → ε → Prop} (implied : ∀ state event, kept state →
    clear state event → kept (step state event) ∧ right state event) (start : kept state)
    (all : AllClear step clear state events) : AllClear step right state events := by
  induction events generalizing state with
  | nil => trivial
  | cons event events ih =>
    obtain ⟨keeps, first⟩ := implied state event start all.1
    exact ⟨first, ih keeps all.2⟩

/-- Steps that are clear are all clear in a weaker sense. -/
theorem AllClear.imp {right : σ → ε → Prop} (implied : ∀ {state} event, clear state event →
    right state event) (all : AllClear step clear state events) :
    AllClear step right state events :=
  @AllClear.imp_of_step _ _ _ (fun _ => True) _ _ _ _
    (fun _ event _ clear => ⟨trivial, implied event clear⟩) trivial all

/-- What holds along a run holds at its start. -/
theorem Always.first (always : Always step holds state events) : holds state := by
  cases events with
  | nil => exact always
  | cons event events => exact always.1

/-- What follows from something that holds along a run holds along it. -/
theorem Always.imp {right : σ → Prop} (implied : ∀ state, holds state → right state)
    (always : Always step holds state events) : Always step right state events := by
  induction events generalizing state with
  | nil => exact implied state always
  | cons event events ih => exact ⟨implied state always.1, ih always.2⟩

/-- What holds at the start and is kept by every step holds along every run. -/
theorem Always.of_step (keeps : ∀ state event, holds state → holds (step state event))
    (start : holds state) : Always step holds state events := by
  induction events generalizing state with
  | nil => exact start
  | cons event events ih => exact ⟨start, ih (keeps state event start)⟩

/-- Where an invariant is kept by every step, something holds along a run exactly when each of
its steps is one that keeps it. -/
theorem always_iff (keeps : ∀ state event, kept state → kept (step state event))
    (each : ∀ state event, kept state → holds state →
      (holds (step state event) ↔ clear state event))
    (invariant : kept state) (start : holds state) :
    Always step holds state events ↔ AllClear step clear state events := by
  induction events generalizing state with
  | nil => exact iff_of_true start trivial
  | cons event events ih =>
    have first := each state event invariant start
    constructor
    · rintro ⟨-, rest⟩
      exact ⟨first.mp rest.first, (ih (keeps state event invariant) rest.first).mp rest⟩
    · rintro ⟨clear, rest⟩
      exact ⟨start, (ih (keeps state event invariant) (first.mpr clear)).mpr rest⟩

end Runs

import Mathlib.Logic.Function.Basic

/-!
# Waiting for the write side to close

Any number of waiters and closers of a proxy stream. Waiters change the stream only where they
take its `Notify`, and closers in the lock and where they call `notify_waiters`. A `Notified`
future receives every `notify_waiters` call that is made behind its creation.
-/

namespace PdEdge.Proxy

/-- Where a waiter stands in `wait_for_proxy_stream_write_close`; a `Notify` is the number of
those that were made before it. -/
inductive WaiterPoint where
  /-- At the head of the loop. -/
  | start
  /-- In front of `notified()`. -/
  | listen (notify : Nat)
  /-- In front of its look at the flag, and whether its future has been notified. -/
  | check (notify : Nat) (woken : Bool)
  | await (notify : Nat) (woken : Bool)
  | returned

namespace WaiterPoint

/-- The `Notify` that the waiter holds. -/
@[simp] def held : WaiterPoint → Option Nat
  | .listen notify | .check notify _ | .await notify _ => some notify
  | _ => none

/-- `notify_waiters`. -/
def wake (called : Nat) : WaiterPoint → WaiterPoint
  | .check notify woken => .check notify (woken || notify = called)
  | .await notify woken => .await notify (woken || notify = called)
  | point => point

/-- A notice leaves a waiter asleep only if it is for another `Notify`. -/
theorem of_wake (called : Nat) (point : WaiterPoint) :
    (point.wake called).held = point.held ∧ (point.wake called = .returned → point = .returned) ∧
      ∀ notify, point.wake called = .await notify false →
        point = .await notify false ∧ notify ≠ called := by
  cases point <;> simp +contextual [wake]

end WaiterPoint

/-- What the wait uses of a `ProxyByteStreamState`, from its creation on, and its waiters. -/
structure WriteSide (ι : Type) where
  writeClosed : Bool
  writeCloseNotify : Option Nat
  notifies : Nat
  /-- What closers that have left the lock are about to notify. -/
  closers : List (Option Nat)
  waiters : ι → WaiterPoint

/-- A step of a waiter or of a closer. -/
inductive WriteSideEvent (ι : Type) where
  | advance (waiter : ι)
  /-- `mark_proxy_stream_write_closed`, as far as the lock is held. -/
  | close
  /-- A closer that took this out of the lock calls `notify_waiters` on it. -/
  | notify (taken : Option Nat)

namespace WriteSide

variable {ι : Type} [DecidableEq ι]

/-- A new stream, and its waiters. -/
def new : WriteSide ι := ⟨false, none, 0, [], fun _ => .start⟩

variable (side : WriteSide ι)

/-- `write_close_notify`. -/
def takeNotify : Nat × WriteSide ι :=
  match side.writeCloseNotify with
  | some notify => (notify, side)
  | none =>
    (side.notifies,
      { side with writeCloseNotify := some side.notifies, notifies := side.notifies + 1 })

/-- A waiter goes on to another point. -/
def moved (waiter : ι) (point : WaiterPoint) : WriteSide ι :=
  { side with waiters := Function.update side.waiters waiter point }

/-- The next step of a waiter. -/
def advance (waiter : ι) : WriteSide ι :=
  match side.waiters waiter with
  | .start => side.takeNotify.2.moved waiter (.listen side.takeNotify.1)
  | .listen notify => side.moved waiter (.check notify false)
  | .check notify woken =>
    side.moved waiter (if side.writeClosed then .returned else .await notify woken)
  | .await _ true => side.moved waiter .start
  | .await _ false | .returned => side

/-- One step. -/
def step : WriteSideEvent ι → WriteSide ι
  | .advance waiter => side.advance waiter
  | .close =>
    if side.writeClosed then { side with closers := none :: side.closers }
    else { side with writeClosed := true, closers := side.writeCloseNotify :: side.closers }
  | .notify taken =>
    if taken ∈ side.closers then
      { side with
        closers := side.closers.erase taken
        waiters := fun waiter =>
          taken.elim (side.waiters waiter) fun notify => (side.waiters waiter).wake notify }
    else side

omit [DecidableEq ι] in
/-- A waiter at this point does not miss the close, and what it holds is the `Notify` of the
stream. -/
structure Watched (point : WaiterPoint) : Prop where
  returned : point = .returned → side.writeClosed
  suspended : ∀ notify, point = .await notify false →
    side.writeClosed = false ∨ some notify ∈ side.closers
  held : ∀ notify, point.held = some notify → side.writeCloseNotify = some notify

variable {side} {point : WaiterPoint}

omit [DecidableEq ι] in
/-- Taking the `Notify` changes nothing for those that hold it. -/
theorem Watched.takeNotify (watched : side.Watched point) :
    side.takeNotify.2.Watched point := by
  unfold WriteSide.takeNotify
  cases stored : side.writeCloseNotify with
  | some notify => exact watched
  | none =>
    refine ⟨watched.returned, watched.suspended, fun notify holds => ?_⟩
    cases stored.symm.trans (watched.held notify holds)

omit [DecidableEq ι] in
theorem takeNotify_stored (side : WriteSide ι) :
    side.takeNotify.2.writeCloseNotify = some side.takeNotify.1 := by
  unfold WriteSide.takeNotify
  cases stored : side.writeCloseNotify with
  | some notify => exact stored
  | none => rfl

/-- Where a waiter moves to what is watched, every waiter is. -/
theorem watched_moved (watched : ∀ waiter, side.Watched (side.waiters waiter)) {mover : ι}
    (there : side.Watched point) (waiter : ι) :
    (side.moved mover point).Watched ((side.moved mover point).waiters waiter) := by
  by_cases same : waiter = mover
  · subst same
    simp only [moved, Function.update_self]
    exact ⟨there.returned, there.suspended, there.held⟩
  · simp only [moved, Function.update_of_ne same]
    exact ⟨(watched waiter).returned, (watched waiter).suspended, (watched waiter).held⟩

section

variable (watched : ∀ waiter, side.Watched (side.waiters waiter))
include watched

theorem watched_advance (mover waiter : ι) :
    (side.advance mover).Watched ((side.advance mover).waiters waiter) := by
  have held := (watched mover).held
  unfold advance
  cases here : side.waiters mover with
  | start =>
    have others (waiter : ι) : side.takeNotify.2.Watched (side.takeNotify.2.waiters waiter) := by
      have same : side.takeNotify.2.waiters = side.waiters := by
        unfold WriteSide.takeNotify
        split <;> rfl
      rw [same]
      exact (watched waiter).takeNotify
    refine watched_moved others ⟨by simp, by simp, fun notify holds => ?_⟩ waiter
    rw [takeNotify_stored]
    exact holds
  | listen notify =>
    rw [here] at held
    refine watched_moved watched ?_ waiter
    exact ⟨by simp, by simp, held⟩
  | check notify woken =>
    rw [here] at held
    apply watched_moved watched
    cases marked : side.writeClosed with
    | true => exact ⟨fun _ => marked, by simp, by simp⟩
    | false => exact ⟨by simp, fun _ _ => Or.inl marked, held⟩
  | await notify woken =>
    cases woken with
    | true =>
      refine watched_moved watched ?_ waiter
      exact ⟨by simp, by simp, by simp⟩
    | false => exact watched waiter
  | returned => exact watched waiter

theorem watched_step (event : WriteSideEvent ι) (waiter : ι) :
    (side.step event).Watched ((side.step event).waiters waiter) := by
  have own := watched waiter
  cases event with
  | advance mover => exact watched_advance watched mover waiter
  | close =>
    simp only [step]
    split
    · refine ⟨own.returned, fun notify asleep => ?_, own.held⟩
      exact (own.suspended notify asleep).imp_right (List.mem_cons_of_mem _)
    · refine ⟨fun _ => rfl, fun notify asleep => Or.inr ?_, own.held⟩
      rw [← own.held notify (congrArg WaiterPoint.held asleep)]
      exact List.mem_cons_self
  | notify taken =>
    simp only [step]
    split
    · cases taken with
      | some called =>
        obtain ⟨held, back, sleeps⟩ := WaiterPoint.of_wake called (side.waiters waiter)
        refine ⟨fun returned => own.returned (back returned), fun notify asleep => ?_,
          fun notify holds => own.held notify (held ▸ holds)⟩
        obtain ⟨before, other⟩ := sleeps notify asleep
        exact (own.suspended notify before).imp_right
          (List.mem_erase_of_ne (by simpa using other)).mpr
      | none =>
        refine ⟨own.returned, fun notify asleep => ?_, own.held⟩
        exact (own.suspended notify asleep).imp_right (List.mem_erase_of_ne (by simp)).mpr
    · exact own

theorem watched_run (events : List (WriteSideEvent ι)) (waiter : ι) :
    (events.foldl step side).Watched ((events.foldl step side).waiters waiter) := by
  induction events generalizing side with
  | nil => exact watched waiter
  | cons event events ih => exact ih (watched_step watched event)

end

/-- However any number of waiters and closers interleave, no waiter misses the close. -/
theorem write_close_watched (events : List (WriteSideEvent ι)) (waiter : ι) :
    (events.foldl step new).Watched ((events.foldl step new).waiters waiter) :=
  watched_run (fun _ => ⟨by simp [new], by simp [new], by simp [new]⟩) events waiter

end WriteSide

end PdEdge.Proxy

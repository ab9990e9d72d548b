import PdEdge.Lib.Runs

/-!
# One opener for each HTTP/2 session

Tasks that ask for the session of one key share its `Http2SessionEntry`. Tasks at one place of
`acquire_or_open_session` are interchangeable, so that it is enough to know how many stand there.
-/

namespace PdEdge.Upstream

open Runs

/-- The flag `opening` of an entry, and how many tasks stand at each place. -/
structure Http2SessionEntry where
  opening : Bool
  /-- In front of `reusable_session`, and behind it in front of `try_begin_open`. -/
  looking : Nat
  claiming : Nat
  /-- In front of `notified()`, and in its `await` without and with a wake-up. -/
  listening : Nat
  asleep : Nat
  woken : Nat
  /-- In `open_session(..).await`, and in `finish_open` in front of the store and the notice. -/
  openers : Nat
  storing : Nat
  notifying : Nat

/-- A step of some task. What `reusable_session` finds depends on the session it looks at. -/
inductive OpenEvent where
  | arrive
  | look (found : Bool)
  | tryBeginOpen
  | listen
  | wake
  /-- `open_session` returns, with a session or an error. -/
  | opened
  | store
  | notifyWaiters
  | cancelOpener
  | cancelWaiter (woken : Bool)

namespace Http2SessionEntry

/-- `Http2SessionEntry::new`. -/
def new : Http2SessionEntry := ⟨false, 0, 0, 0, 0, 0, 0, 0, 0⟩

variable (entry : Http2SessionEntry)

/-- Some task stands where the step is made. -/
def Stands : OpenEvent → Prop
  | .arrive => True
  | .look _ => 0 < entry.looking
  | .tryBeginOpen => 0 < entry.claiming
  | .listen => 0 < entry.listening
  | .wake | .cancelWaiter true => 0 < entry.woken
  | .cancelWaiter false => 0 < entry.asleep
  | .opened | .cancelOpener => 0 < entry.openers
  | .store => 0 < entry.storing
  | .notifyWaiters => 0 < entry.notifying

instance (event : OpenEvent) : Decidable (entry.Stands event) := by
  unfold Stands
  split <;> infer_instance

/-- The step of a task. -/
def move (entry : Http2SessionEntry) : OpenEvent → Http2SessionEntry
  | .arrive => { entry with looking := entry.looking + 1 }
  | .look true => { entry with looking := entry.looking - 1 }
  | .look false => { entry with looking := entry.looking - 1, claiming := entry.claiming + 1 }
  | .tryBeginOpen =>
    if entry.opening then
      { entry with claiming := entry.claiming - 1, listening := entry.listening + 1 }
    else
      { entry with claiming := entry.claiming - 1, opening := true, openers := entry.openers + 1 }
  | .listen => { entry with listening := entry.listening - 1, asleep := entry.asleep + 1 }
  | .wake => { entry with woken := entry.woken - 1, looking := entry.looking + 1 }
  | .opened => { entry with openers := entry.openers - 1, storing := entry.storing + 1 }
  | .store =>
    { entry with
      storing := entry.storing - 1, opening := false, notifying := entry.notifying + 1 }
  | .notifyWaiters =>
    { entry with
      notifying := entry.notifying - 1, asleep := 0, woken := entry.woken + entry.asleep }
  | .cancelOpener => { entry with openers := entry.openers - 1 }
  | .cancelWaiter true => { entry with woken := entry.woken - 1 }
  | .cancelWaiter false => { entry with asleep := entry.asleep - 1 }

/-- One step; where no task can make it nothing happens. -/
def step (event : OpenEvent) : Http2SessionEntry :=
  if entry.Stands event then entry.move event else entry

/-- At most one task opens a session, and it does so under the flag. -/
def Single : Prop :=
  entry.openers + entry.storing ≤ 1 ∧ (entry.opening = false → entry.openers + entry.storing = 0)

/-- At most one task opens a session, and who is suspended waits for a live one. -/
def Served : Prop :=
  entry.openers + entry.storing ≤ 1 ∧
    (0 < entry.asleep → 0 < entry.openers + entry.storing + entry.notifying)

/-- No opener is cancelled while others wait for it, and none waits for one that is gone. -/
def Clear : OpenEvent → Prop
  | .listen => 0 < entry.listening → 0 < entry.openers + entry.storing + entry.notifying
  | .cancelOpener => 0 < entry.asleep → 0 < entry.openers → 0 < entry.notifying
  | _ => True

variable {entry}

/-- The flag is taken before a task opens and dropped when it has opened. -/
theorem Single.step (single : entry.Single) (event : OpenEvent) : (entry.step event).Single := by
  unfold Http2SessionEntry.step
  split
  · rename_i stands
    rcases event with _ | ⟨_ | _⟩ | _ | _ | _ | _ | _ | _ | _ | ⟨_ | _⟩ <;>
      simp only [Single, move, Stands] at * <;> grind
  · exact single

/-- Whatever fails or is cancelled, one task at most opens a session, and under the flag. -/
theorem one_opener (events : List OpenEvent) : Always step Single new events :=
  .of_step (fun _ event single => single.step event) ⟨by decide, by decide⟩

end Http2SessionEntry

end PdEdge.Upstream

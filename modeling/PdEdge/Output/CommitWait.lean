import PdEdge.Lib.Runs
import PdEdge.Output.Fidelity

/-!
# Waiting for the commit

The response task runs beside the program. It looks whether the stream of the response is
committed and, if not, waits to be notified; a call that commits the stream calls
`notify_waiters` when it has left the lock. That reaches whoever waits at that time.
-/

namespace PdEdge.Output

open Runs

/-- Where the response task stands in its loop. -/
inductive WaitPoint where
  | check
  /-- In front of `notified()`. -/
  | listen
  /-- In `notified().await`, and whether a `notify_waiters` has reached it. -/
  | await (woken : Bool)
  | committed

/-- `notify_waiters`. -/
def WaitPoint.notified : WaitPoint → WaitPoint
  | .await _ => .await true
  | point => point

/-- A program, and the response task that waits for its commit. -/
structure CommitWait where
  context : ProxyVmContext
  /-- A call has committed the stream and is about to call `notify_waiters`. -/
  notifying : Bool
  point : WaitPoint

/-- A step of the program or of the response task. -/
inductive WaitEvent where
  | call (call : ProgramCall)
  | notify
  | advance

namespace CommitWait

/-- A request whose program is about to run. -/
def new (route : State.Route) : CommitWait := ⟨.new route, false, .check⟩

variable (wait : CommitWait)

/-- `downstream_response_stream_committed`. -/
def streamCommitted : Bool := wait.context.responseOutput.streamCommitted

/-- One step. An operation on the stream returns whether it has committed the response just now. -/
def step (wait : CommitWait) : WaitEvent → CommitWait
  | .call call =>
    if wait.notifying then wait
    else
      let context := (call.run wait.context).2
      { wait with
        context
        notifying := !wait.streamCommitted && context.responseOutput.streamCommitted }
  | .notify =>
    if wait.notifying then { wait with notifying := false, point := wait.point.notified }
    else wait
  | .advance =>
    match wait.point with
    | .check => { wait with point := if wait.streamCommitted then .committed else .listen }
    | .listen => { wait with point := .await false }
    | .await true => { wait with point := .check }
    | .await false => wait
    | .committed => wait

/-- The task is suspended only while the stream is not committed or a wake-up is on its way. -/
def Attentive : Prop :=
  wait.point = .await false → wait.streamCommitted = false ∨ wait.notifying = true

/-- The task does not begin to wait for a commit that was notified already. -/
def Clear : WaitEvent → Prop
  | .advance => wait.point = .listen → wait.streamCommitted = false ∨ wait.notifying = true
  | _ => True

variable {wait}

theorem step_attentive (attentive : wait.Attentive) {event : WaitEvent} :
    (wait.step event).Attentive ↔ wait.Clear event := by
  cases event with
  | call call =>
    refine iff_of_true ?_ trivial
    simp only [step]
    split
    · exact attentive
    rename_i idle
    intro waiting
    have before : wait.streamCommitted = false := (attentive waiting).resolve_right idle
    cases after : (call.run wait.context).2.responseOutput.streamCommitted with
    | false => exact Or.inl after
    | true => exact Or.inr (by simp [before])
  | notify =>
    refine iff_of_true ?_ trivial
    simp only [step]
    split
    · intro waiting
      cases held : wait.point <;> simp [held, WaitPoint.notified] at waiting
    · exact attentive
  | advance =>
    cases held : wait.point with
    | listen => simp [step, held, Attentive, Clear, streamCommitted]
    | check =>
      refine iff_of_true (fun waiting => ?_) (by simp [Clear, held])
      simp only [step, held] at waiting
      split at waiting <;> cases waiting
    | committed =>
      refine iff_of_true ?_ (by simp [Clear, held])
      simpa only [step, held] using attentive
    | await woken =>
      refine iff_of_true ?_ (by simp [Clear, held])
      cases woken with
      | true => exact fun waiting => by simp [step, held] at waiting
      | false => simpa only [step, held] using attentive

/-- Along every interleaving the response task is suspended with a reason exactly when it never
begins to wait for a commit that was notified between its look and its wait. -/
theorem commit_seen_iff (route : State.Route) (events : List WaitEvent) :
    Always step Attentive (new route) events ↔ AllClear step Clear (new route) events := by
  refine always_iff (fun _ _ (_ : True) => trivial) ?_ trivial fun waiting => (by cases waiting)
  exact fun wait event _ attentive => step_attentive attentive

/-- The program starts the stream while the response task is about to wait. -/
theorem commit_missed :
    ¬ Always step Attentive (new untargeted) [.advance, .call .startStream, .notify, .advance] := by
  rintro ⟨-, -, -, -, attentive⟩
  exact absurd (attentive rfl) (by decide)

end CommitWait

end PdEdge.Output

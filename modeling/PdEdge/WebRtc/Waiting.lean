import PdEdge.Lib.Runs
import PdEdge.WebRtc.Delivery

/-!
# Reads that wait for a message

A read that has found nothing waits for `inbox_notify`, which only the callback for a message
notifies: the callbacks for the end of a connection notify others. A read sleeps with a reason
as long as there is nothing for it, or such a callback is about to wake it.
-/

namespace PdEdge.WebRtc

open Runs
open WebSocket (Base64)

/-- The peer states whose callback marks the connection closed. -/
def PeerState.ends : PeerState → Bool
  | .failed => true
  | .disconnected => true
  | .closed => true
  | .connected => false
  | .other => false

namespace Session

variable (session : Session)

/-- A read waits for a notice and has not got one. -/
def sleeps : Bool := session.reading.any fun reading => reading.point = .await false

/-- There is nothing for a read, or a callback is about to wake it. -/
def quiet : Bool :=
  session.inbox.isEmpty && session.runtime.failureMessage.isNone && !session.runtime.isClosed ||
    session.notices ≠ 0

/-- `connection_get_phase`: the phase that `refresh_async_state` finds in the flags. -/
def connectionGetPhase : WebRtcPhase :=
  if session.runtime.failureMessage.isSome then .failed
  else if session.runtime.isOpen then .opened
  else if session.runtime.isClosed then .closed
  else session.phase

/-- No read sleeps without a reason, and a connection is not both open and closed. -/
structure Watchful : Prop where
  sleeps : session.sleeps = true → session.quiet = true
  flags : session.runtime.isOpen = true → session.runtime.isClosed = false

/-- The step wakes whoever it has to: the end comes to no sleeping read and, from the peer, to no
open connection, and a read does not begin to sleep when there is something for it. -/
def Clear : Event → Prop
  | .peerStateChange state => state.ends = true →
    session.runtime.isOpen = false ∧ (session.sleeps = true → session.notices ≠ 0)
  | .channelClose => session.sleeps = true → session.notices ≠ 0
  | .advance => session.reading.any (fun reading => reading.point = .listen) = true →
    session.quiet = true
  | _ => True

variable {base64 : Base64} {lossy : List UInt8 → String} {session}

/-- A read that goes on does not sleep, unless it was about to listen or slept before. -/
theorem advance_watchful (watchful : session.Watchful) {reading : Reading}
    (held : session.reading = some reading) :
    (session.advance base64 reading).2.Watchful ↔
      (reading.point = .listen → session.quiet = true) := by
  obtain ⟨kind, found, point⟩ := reading
  have awake {after : Session} (sleepless : after.sleeps = false)
      (same : after.runtime = session.runtime) : after.Watchful :=
    ⟨fun sleeps => absurd sleeps (by simp [sleepless]), by rw [same]; exact watchful.flags⟩
  cases point with
  | listen =>
    have same : (session.advance base64 ⟨kind, found, .listen⟩).2.quiet = session.quiet := rfl
    constructor
    · intro after _
      rw [← same]
      exact after.sleeps rfl
    · exact fun quiet => ⟨fun _ => quiet rfl, watchful.flags⟩
  | await woken =>
    refine iff_of_true ?_ (by simp)
    cases woken with
    | true => exact awake rfl rfl
    | false => exact watchful
  | checkOpen | checkOpenAgain | pop | popFailure | popClosed | checkFailure | checkFailureAgain
  | refresh look =>
    refine iff_of_true ?_ (by simp)
    simp only [advance]
    split <;> exact awake rfl rfl
  | noteConnecting | awaitOpen => exact iff_of_true (awake rfl rfl) (by simp)

variable {runtime : WebRtcRuntimeState}

/-- A connection that is neither closed nor failed has nothing more for a read than before. -/
theorem Watchful.going (watchful : session.Watchful) (fine : runtime.failureMessage = none)
    (going : runtime.isClosed = false) : ({ session with runtime } : Session).Watchful := by
  refine ⟨fun asleep => ?_, fun _ => going⟩
  have quiet := watchful.sleeps asleep
  simp only [Session.quiet, Bool.or_eq_true, Bool.and_eq_true] at quiet ⊢
  rcases quiet with ⟨⟨empty, -⟩, -⟩ | notices
  · exact Or.inl ⟨⟨empty, by simp [fine]⟩, by simp [going]⟩
  · exact Or.inr notices

/-- The end of a connection wakes no read, and is seen where the connection is not open. -/
theorem closed_watchful (closed : runtime.isClosed = true) :
    ({ session with runtime } : Session).Watchful ↔
      runtime.isOpen = false ∧ (session.sleeps = true → session.notices ≠ 0) := by
  have quiet : ({ session with runtime } : Session).quiet = decide (session.notices ≠ 0) := by
    simp [Session.quiet, closed]
  constructor
  · rintro ⟨sleeps, flags⟩
    rw [quiet, decide_eq_true_eq] at sleeps
    refine ⟨?_, sleeps⟩
    cases opened : runtime.isOpen with
    | false => rfl
    | true => exact absurd (flags opened) (by simp [closed])
  rintro ⟨shut, notices⟩
  refine ⟨?_, fun opened => absurd opened (by simp [shut])⟩
  rw [quiet, decide_eq_true_eq]
  exact notices

/-- A step keeps the session watchful exactly when it is clear. -/
theorem step_watchful (watchful : session.Watchful) {event : Event} :
    (session.step base64 lossy event).2.Watchful ↔ session.Clear event := by
  obtain ⟨sleeps, flags⟩ := id watchful
  cases event with
  | peerStateChange state =>
    cases state with
    | failed | disconnected | closed =>
      exact (closed_watchful rfl).trans (by simp [Clear, PeerState.ends, Session.peerStateChange])
    | connected | other => exact iff_of_true watchful (by simp [Clear, PeerState.ends])
  | channelClose => exact (closed_watchful rfl).trans (by simp [Clear])
  | advance =>
    cases held : session.reading with
    | some reading =>
      have same : (session.step base64 lossy .advance).2 = (session.advance base64 reading).2 := by
        simp only [step, held]
      rw [same, advance_watchful watchful held, Clear, held]
      simp
    | none =>
      refine iff_of_true ?_ (by simp [Clear, held])
      simp only [step, held]
      split
      · cases ‹none = some _›
      · simp only [ask]
        split <;> exact ⟨fun asleep => by simp [Session.sleeps, held] at asleep, flags⟩
      · exact watchful
  | dataChannel | channelOpen => exact iff_of_true (watchful.going rfl rfl) trivial
  | channelMessage isString data =>
    exact iff_of_true ⟨fun _ => by simp [quiet, step], flags⟩ trivial
  | notifyInbox =>
    refine iff_of_true ?_ trivial
    simp only [step, notifyInbox]
    split
    · exact watchful
    refine ⟨fun asleep => ?_, flags⟩
    cases held : session.reading with
    | none => simp [Session.sleeps, held] at asleep
    | some reading =>
      simp only [Session.sleeps, held, Option.map_some, Option.any_some, Reading.notified] at asleep
      split at asleep
      · cases asleep
      · rename_i other
        exact absurd (of_decide_eq_true asleep) (other false)
  | read kind =>
    refine iff_of_true ?_ trivial
    simp only [step]
    split
    · exact watchful
    · exact ⟨fun asleep => (by cases asleep), flags⟩
  | eof =>
    refine iff_of_true ?_ trivial
    simp only [step]
    split
    · exact watchful
    · exact ⟨sleeps, flags⟩

section

variable (base64 : Base64) (lossy : List UInt8 → String)

/-- A session at an event. -/
def next (session : Session) (event : Event) : Session := (session.step base64 lossy event).2

/-- A connection that was closed is not reported open. -/
theorem Watchful.connectionGetPhase {session : Session} (watchful : session.Watchful)
    (closed : session.runtime.isClosed = true) : session.connectionGetPhase ≠ .opened := by
  have shut : session.runtime.isOpen = false := by
    by_contra opened
    exact absurd (watchful.flags (by simpa using opened)) (by simp [closed])
  unfold Session.connectionGetPhase
  rw [shut, closed]
  split <;> simp

/-- Along every run from a new connection no read sleeps through an end, and the flags exclude
each other, exactly when every step is clear; then a connection is not reported open behind its
close. -/
theorem readers_watchful_iff (phase : WebRtcPhase) (events : List Event) :
    (Always (next base64 lossy) Watchful (new phase) events ↔
      AllClear (next base64 lossy) Clear (new phase) events) ∧
    (AllClear (next base64 lossy) Clear (new phase) events →
      Always (next base64 lossy) (fun session => session.runtime.isClosed = true →
        session.connectionGetPhase ≠ .opened) (new phase) events) := by
  have watchful : Always (next base64 lossy) Watchful (new phase) events ↔
      AllClear (next base64 lossy) Clear (new phase) events := by
    refine always_iff (fun _ _ (_ : True) => trivial) ?_ trivial ?_
    · exact fun session event _ watchful => step_watchful watchful
    · exact ⟨fun asleep => (by cases asleep), fun opened => (by cases opened)⟩
  exact ⟨watchful, fun clear =>
    (watchful.mpr clear).imp fun _ watchful => watchful.connectionGetPhase⟩

end

/-- A read that waits when the channel closes sleeps on, and the end of the peer leaves the
connection open and closed at once: it is still reported open. -/
theorem end_slept_through :
    ¬ Always (next noBase64 asciiLossy) Watchful (new .configured)
      (opening ++ [.read .text] ++ List.replicate 8 .advance ++ [.channelClose]) ∧
    (¬ Always (next noBase64 asciiLossy) Watchful (new .configured)
      (opening ++ [.peerStateChange .disconnected]) ∧
      ((opening ++ [Event.peerStateChange .disconnected]).foldl (next noBase64 asciiLossy)
        (new .configured)).connectionGetPhase = .opened) := by
  refine ⟨?_, ?_, by decide +kernel⟩
  · rintro ⟨-, -, -, -, -, -, -, -, -, -, -, -, asleep, -⟩
    exact absurd (asleep rfl) (by decide)
  · rintro ⟨-, -, -, -, flags⟩
    exact absurd (flags rfl) (by decide)

end Session

end PdEdge.WebRtc

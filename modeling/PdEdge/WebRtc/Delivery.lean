import PdEdge.WebRtc.Session

/-!
# Delivery of WebRTC messages

When the messages of a data channel reach the program: every read that ends takes the first message
if it is of the read's type and none otherwise, no read ends without a message that was there when
it was called, no read sleeps over a message, and the end is reported only behind the last one.
-/

namespace PdEdge.WebRtc

open WebSocket (Base64 Payload ReadKind)

/-! ## What is promised -/

/-- The read waits, although there is a message and no notice is to come. -/
def Session.Stuck (session : Session) : Prop :=
  ∃ reading ∈ session.reading,
    reading.point = .await false ∧ session.inbox ≠ [] ∧ session.notices = 0

/-- A read ends as it should and leaves `left` of the inbox. -/
def Reading.Right (base64 : Base64) (reading : Reading) (inbox : List WebRtcMessage)
    (result : Except VmError Payload) (left : List WebRtcMessage) : Prop :=
  -- It returns the first message, if that is of its type;
  (∃ message, inbox = message :: left ∧ message.suits reading.kind = true ∧
    result = .ok (message.payload base64 reading.kind)) ∨
  -- a message of the other type stays, and the read says so;
  (∃ message, inbox.head? = some message ∧ message.suits reading.kind = false ∧
    result = .error (mismatch reading.kind) ∧ left = inbox) ∨
  -- and it ends in another way only if it found no message.
  (reading.found = false ∧ left = inbox ∧
    (result = .ok reading.kind.default ∨ ∃ err, result = .error err))

/-- The messages that an event brings. -/
def Event.messages (lossy : List UInt8 → String) : Event → List WebRtcMessage
  | .channelMessage isString data => [received lossy isString data]
  | _ => []

/-- The read has seen an empty inbox. -/
def Point.looked : Point → Bool
  | .popFailure => true
  | .popClosed => true
  | .listen => true
  | .await _ => true
  | _ => false

namespace Session

section

variable (base64 : Base64) (lossy : List UInt8 → String)

/-- The program gets what it should, and the inbox keeps what it does not get. -/
def Answered (session : Session) (event : Event) : Option Answer → Session → Prop
  | some (.read result), after =>
    ∃ reading ∈ session.reading, reading.Right base64 session.inbox result after.inbox
  | some (.eof ended), after =>
    ∃ asking ∈ session.asking, (ended = true → asking.found = false) ∧ after.inbox = session.inbox
  | none, after => after.inbox = session.inbox ++ event.messages lossy

/-- What is promised of a step. -/
def Right (session : Session) (event : Event) : Prop :=
  session.Answered base64 lossy event (session.step base64 lossy event).1
    (session.step base64 lossy event).2 ∧
  ¬(session.step base64 lossy event).2.Stuck

/-- What is promised of a run: messages reach the program once, in order and by reads of their
type, also those that came before the channel was closed, and the end is not reported before. -/
def Delivered (session : Session) : List Event → Prop
  | [] => True
  | event :: events =>
    session.Right base64 lossy event ∧ Delivered (session.step base64 lossy event).2 events

end

/-! ## When it holds -/

/-- The read is at a point where it does what it should. -/
def Suited (session : Session) (reading : Reading) : Prop :=
  match reading.point with
  -- The next message is of the type that is read.
  | .pop => ∀ message ∈ session.inbox.head?, message.suits reading.kind = true
  -- The connection is open whenever there is a message.
  | .checkFailure => session.runtime.failureMessage.isSome → reading.found = false
  | .checkFailureAgain => session.runtime.failureMessage.isSome → reading.found = false
  | .checkOpenAgain => session.runtime.isOpen = false → reading.found = false
  -- No message came since the read looked, or its notice is to come.
  | .listen => session.inbox ≠ [] → 0 < session.notices
  | _ => True

/-- The flag that `eof` looks at says that the connection is gone. -/
def Gone (session : Session) : Look → Prop
  | .failure => session.runtime.failureMessage.isSome
  | .opening => False
  | .closing => session.runtime.isClosed = true ∨ session.phase = .closed ∨ session.phase = .failed

/-- The condition on the state before a step. -/
def Suits (session : Session) : Event → Prop
  | .advance =>
    (∀ reading ∈ session.reading, session.Suited reading) ∧
    -- No message was there, if the connection is gone.
    (session.reading = none → ∀ asking ∈ session.asking, session.Gone asking.look →
      asking.found = false)
  | _ => True

instance (session : Session) : (reading : Reading) → Decidable (session.Suited reading)
  | ⟨_, _, .noteConnecting⟩ => isTrue trivial
  | ⟨_, _, .checkOpen⟩ => isTrue trivial
  | ⟨_, _, .checkFailure⟩ => inferInstanceAs (Decidable (_ → _))
  | ⟨_, _, .awaitOpen⟩ => isTrue trivial
  | ⟨_, _, .checkFailureAgain⟩ => inferInstanceAs (Decidable (_ → _))
  | ⟨_, _, .checkOpenAgain⟩ => inferInstanceAs (Decidable (_ → _))
  | ⟨_, _, .refresh _⟩ => isTrue trivial
  | ⟨_, _, .pop⟩ => inferInstanceAs (Decidable (∀ message ∈ session.inbox.head?, _))
  | ⟨_, _, .popFailure⟩ => isTrue trivial
  | ⟨_, _, .popClosed⟩ => isTrue trivial
  | ⟨_, _, .listen⟩ => inferInstanceAs (Decidable (_ → _))
  | ⟨_, _, .await _⟩ => isTrue trivial

instance (session : Session) : (look : Look) → Decidable (session.Gone look)
  | .failure => inferInstanceAs (Decidable (_ = true))
  | .opening => isFalse id
  | .closing => inferInstanceAs (Decidable (_ ∨ _ ∨ _))

instance (session : Session) : (event : Event) → Decidable (session.Suits event)
  | .peerStateChange _ => isTrue trivial
  | .dataChannel => isTrue trivial
  | .channelOpen => isTrue trivial
  | .channelMessage _ _ => isTrue trivial
  | .notifyInbox => isTrue trivial
  | .channelClose => isTrue trivial
  | .read _ => isTrue trivial
  | .eof => isTrue trivial
  | .advance => inferInstanceAs (Decidable (_ ∧ _))

/-- The condition on every step of a run. -/
def SuitsAll (base64 : Base64) (lossy : List UInt8 → String) (session : Session) :
    List Event → Prop
  | [] => True
  | event :: events =>
    session.Suits event ∧ SuitsAll base64 lossy (session.step base64 lossy event).2 events

instance decidableSuitsAll (base64 : Base64) (lossy : List UInt8 → String) :
    (session : Session) → (events : List Event) → Decidable (session.SuitsAll base64 lossy events)
  | _, [] => isTrue trivial
  | session, event :: events =>
    have := decidableSuitsAll base64 lossy (session.step base64 lossy event).2 events
    inferInstanceAs (Decidable (_ ∧ _))

/-! ## Runs -/

/-- A message that the read found is there until the read looks into the inbox. -/
def Finds (session : Session) : Prop :=
  ∀ reading ∈ session.reading, reading.found = true →
    session.inbox ≠ [] ∧ reading.point.looked = false

/-- What a run keeps. -/
structure Sound (session : Session) : Prop where
  found : session.Finds
  awake : ¬session.Stuck
  failure : ∀ message ∈ session.runtime.failureMessage, message = "webrtc peer connection failed"

section

variable {base64 : Base64} {lossy : List UInt8 → String} {session : Session} {reading : Reading}

theorem step_advance (under : session.reading = some reading) :
    session.step base64 lossy .advance = session.advance base64 reading := by
  simp only [step, under]

variable {asking : Asking} {result : Except VmError Payload} {event : Event}

theorem step_ask (idle : session.reading = none) (under : session.asking = some asking) :
    session.step base64 lossy .advance = session.ask asking := by
  simp only [step, idle, under]

/-- A session without a read is not stuck. -/
theorem not_stuck_of_none (idle : session.reading = none) : ¬session.Stuck := by
  rintro ⟨reading, there, _⟩
  rw [idle] at there
  cases there

variable {after : Session} {point : Point}

attribute [local simp] Event.messages

/-- A read that goes on, at a point where it does not wait, is right. -/
theorem right_of_goTo (turn : session.step base64 lossy .advance = (none, after.goTo reading point))
    (inbox : after.inbox = session.inbox) (moves : point ≠ .await false) :
    session.Right base64 lossy .advance := by
  rw [Right, turn]
  refine ⟨by simp [Answered, goTo, inbox], ?_⟩
  rintro ⟨_, there, waits, _⟩
  cases there
  exact moves waits

/-- A read that ends is judged by its result. -/
theorem right_finish_iff (under : session.reading = some reading)
    (turn : session.step base64 lossy .advance = after.finish result) :
    session.Right base64 lossy .advance ↔
      reading.Right base64 session.inbox result after.inbox := by
  rw [Right, turn]
  have idle : ¬(after.finish result).2.Stuck := not_stuck_of_none rfl
  simp only [finish, Answered, under, Option.mem_def, Option.some.injEq, exists_eq_left']
  exact ⟨fun right => right.1, fun right => ⟨right, idle⟩⟩

/-- A read that ends with an error in front of the inbox had nothing to find. -/
theorem right_error_iff {message : String} {left : List WebRtcMessage}
    (other : VmError.hostError message ≠ mismatch reading.kind) :
    reading.Right base64 left (.error (.hostError message)) left ↔ reading.found = false := by
  constructor
  · rintro (⟨_, _, _, same⟩ | ⟨_, _, _, same, _⟩ | ⟨none, _⟩)
    · cases same
    · exact absurd (Except.error.inj same) other
    · exact none
  · intro none
    exact Or.inr (Or.inr ⟨none, rfl, Or.inr ⟨_, rfl⟩⟩)

/-- The error of a failed peer is not that of a mismatch. -/
theorem failure_ne_mismatch (kind : ReadKind) :
    VmError.hostError "webrtc peer connection failed" ≠ mismatch kind := by
  cases kind <;> decide

/-- Nor is that of a connection that does not open. -/
theorem timeout_ne_mismatch (kind : ReadKind) :
    VmError.hostError "webrtc connection did not reach the open state before timeout" ≠
      mismatch kind := by
  cases kind <;> decide

/-- A look at the failure flag: the read ends if it is set, and goes on otherwise. -/
theorem checkFailure_right_iff (point : Point) (sound : session.Sound)
    (under : session.reading = some reading) (moves : point ≠ .await false)
    (ends : ∀ message, session.runtime.failureMessage = some message →
      session.advance base64 reading = session.finish (.error (.hostError message)))
    (goes : session.runtime.failureMessage = none →
      session.advance base64 reading = (none, session.goTo reading point)) :
    session.Right base64 lossy .advance ↔
      (session.runtime.failureMessage.isSome → reading.found = false) := by
  have turn : session.step base64 lossy .advance = session.advance base64 reading :=
    step_advance under
  cases failed : session.runtime.failureMessage with
  | none =>
    rw [goes failed] at turn
    exact ⟨fun _ => by simp, fun _ => right_of_goTo turn rfl moves⟩
  | some message =>
    rw [ends message failed] at turn
    have known := sound.failure message failed
    subst known
    rw [right_finish_iff under turn, right_error_iff (failure_ne_mismatch _)]
    simp

/-- The read of the first message. -/
theorem pop_right_iff {message : WebRtcMessage} {rest : List WebRtcMessage} :
    reading.Right base64 (message :: rest)
        (if message.suits reading.kind then .ok (message.payload base64 reading.kind)
         else .error (mismatch reading.kind)) rest ↔
      message.suits reading.kind = true := by
  constructor
  · rintro (⟨other, same, suits, _⟩ | ⟨_, _, _, _, same⟩ | ⟨_, same, _⟩)
    · cases same
      exact suits
    -- A message of the other type is lost, so the inbox is not what it was.
    all_goals exact absurd same (by simp)
  · intro suits
    exact Or.inl ⟨message, rfl, suits, by rw [if_pos suits]⟩

/-- A read that looked into the inbox had found nothing. -/
theorem Sound.none_found (sound : session.Sound) (under : session.reading = some reading)
    (looked : reading.point.looked = true) : reading.found = false := by
  by_contra found
  have fresh := (sound.found reading under (by simpa using found)).2
  rw [looked] at fresh
  cases fresh

/-- A read that goes on does what is promised exactly where it is suited. -/
theorem advance_right_iff (sound : session.Sound) (under : session.reading = some reading) :
    session.Right base64 lossy .advance ↔ session.Suited reading := by
  have turn : session.step base64 lossy .advance = session.advance base64 reading :=
    step_advance under
  have none_found := sound.none_found under
  obtain ⟨kind, found, point⟩ := reading
  cases point with
  | noteConnecting | awaitOpen => exact iff_of_true (right_of_goTo turn rfl (by simp)) trivial
  | checkOpen =>
    refine iff_of_true (right_of_goTo turn rfl ?_) trivial
    split <;> simp
  | checkFailure =>
    exact checkFailure_right_iff .awaitOpen sound under (by simp)
      (fun message failed => by simp only [advance, failed])
      (fun failed => by simp only [advance, failed])
  | checkFailureAgain =>
    exact checkFailure_right_iff .checkOpenAgain sound under (by simp)
      (fun message failed => by simp only [advance, failed])
      (fun failed => by simp only [advance, failed])
  | checkOpenAgain =>
    rw [advance] at turn
    dsimp only at turn
    cases opened : session.runtime.isOpen with
    | true =>
      rw [if_pos opened] at turn
      refine iff_of_true (right_of_goTo turn rfl (by simp)) ?_
      intro closed
      rw [opened] at closed
      cases closed
    | false =>
      rw [if_neg (by simp [opened])] at turn
      rw [right_finish_iff under turn, right_error_iff (timeout_ne_mismatch _)]
      simp only [Suited, opened, forall_const]
  | refresh look =>
    cases looked : session.runtime.refreshAsyncState look with
    | next look | done phase =>
      simp only [advance, looked] at turn
      exact iff_of_true (right_of_goTo turn rfl (by simp)) trivial
  | pop =>
    cases held : session.inbox with
    | nil =>
      simp only [advance, held] at turn
      refine iff_of_true (right_of_goTo turn rfl (by simp)) ?_
      simp [Suited, held]
    | cons message rest =>
      simp only [advance, held] at turn
      rw [right_finish_iff under turn, held, pop_right_iff]
      simp [Suited, held]
  | popFailure =>
    -- A read that looked into the inbox had found nothing, so it may end.
    rw [checkFailure_right_iff .popClosed sound under (by simp)
      (fun message failed => by simp only [advance, failed])
      (fun failed => by simp only [advance, failed])]
    exact iff_of_true (fun _ => none_found rfl) trivial
  | popClosed =>
    rw [advance] at turn
    dsimp only at turn
    split at turn
    · rw [right_finish_iff under turn]
      exact iff_of_true (Or.inr (Or.inr ⟨none_found rfl, rfl, Or.inl rfl⟩)) trivial
    · exact iff_of_true (right_of_goTo turn rfl (by simp)) trivial
  | listen =>
    rw [Right, turn]
    simp only [advance, Answered, Event.messages, goTo, List.append_nil, Stuck, Option.mem_def,
      Option.some.injEq, exists_eq_left', Suited, true_and, not_and, Nat.pos_iff_ne_zero, ne_eq]
  | await woken =>
    cases woken with
    | true => exact iff_of_true (right_of_goTo turn rfl (by simp)) trivial
    | false =>
      rw [Right, turn]
      exact iff_of_true ⟨by simp [advance, Answered], sound.awake⟩ trivial

theorem finish_finds {after : Session} : (after.finish result).2.Finds := by
  intro reading there
  cases there

/-- A read that goes on and has not looked keeps what it found. -/
theorem goTo_finds (sound : session.Sound) (under : session.reading = some reading)
    (inbox : after.inbox = session.inbox) (fresh : point.looked = false) :
    (after.goTo reading point).Finds := by
  intro next there found
  cases there
  exact ⟨inbox ▸ (sound.found reading under found).1, fresh⟩

/-- A read that found nothing keeps nothing. -/
theorem goTo_finds_of_none (none : reading.found = false) : (after.goTo reading point).Finds := by
  intro next there found
  cases there
  exact absurd found (by simp [none])

theorem advance_finds (sound : session.Sound) (under : session.reading = some reading) :
    (session.advance base64 reading).2.Finds := by
  have none_found := sound.none_found under
  unfold advance
  split
  · exact goTo_finds sound under rfl rfl
  · apply goTo_finds sound under rfl
    split <;> rfl
  · split
    · exact finish_finds
    · exact goTo_finds sound under rfl rfl
  · exact goTo_finds sound under rfl rfl
  · split
    · exact finish_finds
    · exact goTo_finds sound under rfl rfl
  · split
    · exact goTo_finds sound under rfl rfl
    · exact finish_finds
  · split <;> exact goTo_finds sound under rfl rfl
  · split
    · exact finish_finds
    -- Behind an empty inbox: what the read had found would still be there.
    · next empty =>
      apply goTo_finds_of_none
      by_contra found
      exact (sound.found reading under (by simpa using found)).1 empty
  · next at_point =>
    split
    · exact finish_finds
    · exact goTo_finds_of_none (none_found (by rw [at_point]; rfl))
  · next at_point =>
    split
    · exact finish_finds
    · exact goTo_finds_of_none (none_found (by rw [at_point]; rfl))
  · next at_point => exact goTo_finds_of_none (none_found (by rw [at_point]; rfl))
  · next at_point => exact goTo_finds_of_none (none_found (by rw [at_point]; rfl))
  · exact sound.found

/-- A read changes no flag. -/
theorem advance_runtime : (session.advance base64 reading).2.runtime = session.runtime := by
  unfold advance
  split <;> try split
  all_goals rfl

/-- A look of `eof` changes neither the read nor the inbox and the flags. -/
theorem ask_same :
    (session.ask asking).2.reading = session.reading ∧
      (session.ask asking).2.inbox = session.inbox ∧
      (session.ask asking).2.runtime = session.runtime := by
  unfold ask
  split <;> exact ⟨rfl, rfl, rfl⟩

/-- What `eof` says is right exactly if no message was there when the connection is gone. -/
theorem ask_right_iff (idle : session.reading = none) (under : session.asking = some asking) :
    session.Right base64 lossy .advance ↔ (session.Gone asking.look → asking.found = false) := by
  have awake : ¬(session.ask asking).2.Stuck := not_stuck_of_none ((ask_same).1.trans idle)
  rw [Right, step_ask idle under, and_iff_left awake]
  have goes (look : Look) (looked : session.runtime.refreshAsyncState asking.look = .next look) :
      session.Answered base64 lossy .advance (session.ask asking).1 (session.ask asking).2 := by
    simp [ask, looked, Answered]
  have answers (phase : Option WebRtcPhase)
      (looked : session.runtime.refreshAsyncState asking.look = .done phase) :
      session.Answered base64 lossy .advance (session.ask asking).1 (session.ask asking).2 ↔
        (phase.getD session.phase = .closed ∨ phase.getD session.phase = .failed →
          asking.found = false) := by
    simp [ask, looked, Answered, under]
  obtain ⟨found, look⟩ := asking
  cases look with
  | failure =>
    cases failed : session.runtime.failureMessage.isSome with
    | true => simp [answers (some .failed) (if_pos failed), Gone, failed]
    | false => simp [goes .opening (if_neg (by simp [failed])), Gone, failed]
  | opening =>
    cases opened : session.runtime.isOpen with
    | true => simp [answers (some .opened) (if_pos opened), Gone]
    | false => simp [goes .closing (if_neg (by simp [opened])), Gone]
  | closing =>
    cases closed : session.runtime.isClosed with
    | true => simp [answers (some .closed) (if_pos closed), Gone, closed]
    | false => simp [answers none (if_neg (by simp [closed])), Gone, closed]

variable (sound : session.Sound)
include sound

/-- A step keeps what the read found. -/
theorem step_finds : (session.step base64 lossy event).2.Finds := by
  cases event with
  | peerStateChange state | dataChannel | channelOpen | channelClose => exact sound.found
  | channelMessage isString data =>
    intro reading there found
    exact ⟨by simp [step], (sound.found reading there found).2⟩
  | notifyInbox =>
    simp only [step, notifyInbox]
    split
    · exact sound.found
    intro reading there found
    obtain ⟨before, under, rfl⟩ := Option.map_eq_some_iff.mp there
    have kept : before.notified.found = before.found := by
      unfold Reading.notified
      split <;> rfl
    have fresh := sound.found before under (kept ▸ found)
    refine ⟨fresh.1, ?_⟩
    unfold Reading.notified
    split
    · next waits => exact absurd fresh.2 (by simp [waits, Point.looked])
    · exact fresh.2
  | read kind =>
    simp only [step]
    split
    · exact sound.found
    · intro reading there found
      cases there
      exact ⟨by simpa using found, rfl⟩
  | eof =>
    simp only [step]
    split <;> exact sound.found
  | advance =>
    simp only [step]
    split
    · next under => exact advance_finds sound under
    · next asking _ _ =>
      rw [Finds, (ask_same).1, (ask_same).2.1]
      exact sound.found
    · exact sound.found

/-- The only failure that the flags hold is that of the peer. -/
theorem step_failure :
    ∀ message ∈ (session.step base64 lossy event).2.runtime.failureMessage,
      message = "webrtc peer connection failed" := by
  have failure := sound.failure
  cases event with
  | peerStateChange state =>
    cases state with
    | failed =>
      intro message there
      exact (Option.some.inj there).symm
    | connected | disconnected | closed | other => exact failure
  | dataChannel | channelOpen => simp [step]
  | channelMessage isString data | channelClose => exact failure
  | notifyInbox =>
    simp only [step, notifyInbox]
    split <;> exact failure
  | read kind | eof =>
    simp only [step]
    split <;> exact failure
  | advance =>
    simp only [step]
    split
    · rw [advance_runtime]
      exact failure
    · next asking _ _ =>
      rw [(ask_same).2.2]
      exact failure
    · exact failure

/-- A notice wakes the read that waits. -/
theorem notifyInbox_awake : ¬session.notifyInbox.Stuck := by
  unfold notifyInbox
  split
  · exact sound.awake
  rintro ⟨reading, there, waits, _⟩
  obtain ⟨before, _, rfl⟩ := Option.map_eq_some_iff.mp there
  unfold Reading.notified at waits
  split at waits
  · cases waits
  · next moves => exact moves false waits

/-- A step does what is promised exactly if its state suits it. -/
theorem step_right_iff : session.Right base64 lossy event ↔ session.Suits event := by
  have same : session.inbox = session.inbox ++ [] := (List.append_nil _).symm
  cases event with
  | peerStateChange state | dataChannel | channelOpen | channelClose =>
    exact iff_of_true ⟨same, sound.awake⟩ trivial
  | channelMessage isString data =>
    refine iff_of_true ⟨rfl, ?_⟩ trivial
    rintro ⟨_, _, _, _, quiet⟩
    cases quiet
  | notifyInbox =>
    refine iff_of_true ⟨?_, notifyInbox_awake sound⟩ trivial
    simp only [step, notifyInbox, Answered, Event.messages]
    split <;> exact same
  | read kind =>
    refine iff_of_true ?_ trivial
    rw [Right, step]
    split
    · exact ⟨same, sound.awake⟩
    refine ⟨same, ?_⟩
    rintro ⟨_, there, waits, _⟩
    cases there
    cases waits
  | eof =>
    refine iff_of_true ?_ trivial
    rw [Right, step]
    split
    all_goals exact ⟨same, sound.awake⟩
  | advance =>
    cases under : session.reading with
    | some reading =>
      rw [advance_right_iff sound under]
      simp [Suits, under]
    | none =>
      cases asked : session.asking with
      | some asking =>
        rw [ask_right_iff under asked]
        simp [Suits, under, asked]
      | none =>
        have turn : session.step base64 lossy .advance = (none, session) := by
          simp only [step, under, asked]
        rw [Right, turn]
        exact iff_of_true ⟨same, sound.awake⟩ (by simp [Suits, under, asked])

/-- A step that does what is promised leaves a session of which the invariant holds. -/
theorem step_sound (right : session.Right base64 lossy event) :
    (session.step base64 lossy event).2.Sound where
  found := step_finds sound
  awake := right.2
  failure := step_failure sound

theorem delivered_iff_suitsAll {events : List Event} :
    session.Delivered base64 lossy events ↔ session.SuitsAll base64 lossy events := by
  induction events generalizing session with
  | nil => exact Iff.rfl
  | cons event events ih =>
    have here : session.Right base64 lossy event ↔ session.Suits event := step_right_iff sound
    simp only [Delivered, SuitsAll, ← here]
    exact and_congr_right fun right => ih (step_sound sound right)

end

theorem new_sound {phase : WebRtcPhase} : (new phase).Sound where
  found := by
    intro reading there
    cases there
  awake := not_stuck_of_none rfl
  failure := by
    intro message there
    cases there

/-- The messages of a connection reach the program as promised exactly if every read that looks
into the inbox asks for the type of the first message, a read called when there is a message finds
the connection open and unfailed, no message comes with its notice between the look into the
empty inbox and the wait, and the end is asked for only when no message is left or the flags do not
say closed or failed. -/
theorem messages_delivered_iff (base64 : Base64) (lossy : List UInt8 → String)
    (phase : WebRtcPhase) (events : List Event) :
    (new phase).Delivered base64 lossy events ↔ (new phase).SuitsAll base64 lossy events :=
  delivered_iff_suitsAll (new_sound)

/-- No library is needed for the reads below. -/
def noBase64 : Base64 := ⟨fun _ => "", fun _ => .error "unsupported"⟩

/-- ASCII text. -/
def asciiLossy (data : List UInt8) : String :=
  String.ofList (data.map fun byte => Char.ofNat byte.toNat)

/-- A channel is opened. -/
def opening : List Event := [.dataChannel, .channelOpen]

/-- A text message arrives. -/
def arrival : List Event := [.channelMessage true [104, 105], .notifyInbox]

example : (new .configured).SuitsAll noBase64 asciiLossy
    (opening ++ arrival ++ [.read .text] ++ List.replicate 5 .advance) := by
  decide +kernel

/-- Four runs in which a message does not reach the program as it should. -/
theorem messages_lost :
    -- A read of binary messages takes the text that is next.
    ¬(new .configured).Delivered noBase64 asciiLossy
      (opening ++ arrival ++ [.read .binary] ++ List.replicate 5 .advance) ∧
    -- Behind the close of the channel, a read fails although there is a message,
    ¬(new .configured).Delivered noBase64 asciiLossy
      (opening ++ arrival ++ [.channelClose, .read .text] ++ List.replicate 6 .advance) ∧
    -- and the end is reported.
    ¬(new .configured).Delivered noBase64 asciiLossy
      (opening ++ arrival ++ [.channelClose, .eof] ++ List.replicate 3 .advance) ∧
    -- A message that comes between the look into the inbox and the wait leaves the read asleep.
    ¬(new .configured).Delivered noBase64 asciiLossy
      (opening ++ [.read .text] ++ List.replicate 7 .advance ++ arrival ++ [.advance]) := by
  simp only [delivered_iff_suitsAll (new_sound)]
  decide +kernel

end Session

end PdEdge.WebRtc

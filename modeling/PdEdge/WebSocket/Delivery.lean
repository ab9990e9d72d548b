import PdEdge.WebSocket.Connection

/-!
# The frames that reads of a WebSocket return

To the program a stream is the queue of its data frames. A read of the type of the first frame
returns and removes it. A read of the other type should leave it and does not: the frame is taken
from the stream before its type is looked at.
-/

namespace PdEdge.WebSocket

open Handle

/-- The data frames among some messages. -/
def dataFrames : List Message → List OutboundWebSocketFrame
  | [] => []
  | .text text :: rest => .text text :: dataFrames rest
  | .binary bytes :: rest => .binary bytes :: dataFrames rest
  | _ :: rest => dataFrames rest

/-- In front of the next data frame there is a ping that cannot be answered. -/
def interrupted : List Message → Bool
  | [] => false
  | .text _ :: _ => false
  | .binary _ :: _ => false
  | .ping _ refused :: rest => refused.isSome || interrupted rest
  | .pong _ :: rest => interrupted rest
  | .other :: rest => interrupted rest

namespace Handle

variable (handle : Handle)

/-- The frames that were not returned yet. -/
def unread : List OutboundWebSocketFrame :=
  (handle.state.io.map fun io => dataFrames io.messages).getD []

/-- The messages that a read finds, on the stream of the handle or on a new one. -/
def upcoming : List Message :=
  match handle.fate with
  | .already => (handle.state.io.map OutboundWebSocketIoState.messages).getD []
  | .connects connected => connected.messages
  | _ => []

end Handle

/-! ## What is to hold -/

/-- The calls of a program that reads. -/
inductive ReadCall where
  | read (kind : ReadKind)
  | eof

/-- The operation of a call. -/
def ReadCall.operation : ReadCall → Operation
  | .read kind => .read kind
  | .eof => .eof

/-- What a read is to do with these messages: to return the next frame if it is of its type, to
report that it is not and leave it, and to find the end only behind all of them. A ping that
cannot be answered may keep it from the frame. -/
def RightRead (base64 : Base64) (kind : ReadKind) (messages : List Message) (reply : Reply)
    (unread : List OutboundWebSocketFrame) : Prop :=
  if interrupted messages then (∃ err, reply = .failed err) ∧ unread = dataFrames messages
  else
    match dataFrames messages with
    | [] => (reply = .payload kind.default ∨ ∃ err, reply = .failed err) ∧ unread = []
    | frame :: rest =>
      if kind.takes frame then reply = .payload (kind.payload base64 frame) ∧ unread = rest
      else reply = .failed kind.mismatch ∧ unread = frame :: rest

/-- What a call is to do. -/
def RightCall (base64 : Base64) (handle : Handle) (call : ReadCall) : Prop :=
  match call with
  | .read kind =>
    RightRead base64 kind handle.upcoming (handle.perform base64 (.read kind)).1
      (handle.perform base64 (.read kind)).2.unread
  | .eof => (handle.perform base64 .eof).1 = .eof true → handle.unread = []

/-- Every call of a program does what it is to do. -/
def Delivered (base64 : Base64) : Handle → List ReadCall → Prop
  | _, [] => True
  | handle, call :: calls =>
    RightCall base64 handle call ∧ Delivered base64 (handle.perform base64 call.operation).2 calls

/-- A call is of the type of the next frame, if it gets to one. -/
def Suits (handle : Handle) : ReadCall → Prop
  | .read kind => interrupted handle.upcoming = false →
    ∀ frame ∈ (dataFrames handle.upcoming).head?, kind.takes frame = true
  | .eof => True

/-- Every call is of the type of the frame that is next when it is made. -/
def SuitsAll (base64 : Base64) : Handle → List ReadCall → Prop
  | _, [] => True
  | handle, call :: calls =>
    Suits handle call ∧ SuitsAll base64 (handle.perform base64 call.operation).2 calls

/-! ## One read -/

/-- What reading the next frame does. -/
inductive Took (io : OutboundWebSocketIoState) (messages : List Message) :
    Except VmError (Option OutboundWebSocketFrame) × OutboundWebSocketIoState → Prop
  | frame {frame : OutboundWebSocketFrame} {rest : List Message}
    (free : interrupted messages = false) (next : dataFrames messages = frame :: dataFrames rest) :
    Took io messages (.ok (some frame), { io with messages := rest })
  | interrupted (err : VmError) {rest : List Message} (caught : interrupted messages = true)
    (same : dataFrames rest = dataFrames messages) :
    Took io messages (.error err, { io with messages := rest })
  | ended {result : Except VmError (Option OutboundWebSocketFrame)}
    {after : OutboundWebSocketIoState} (free : WebSocket.interrupted messages = false)
    (none' : dataFrames messages = []) (nothing : result = .ok none ∨ ∃ err, result = .error err)
    (empty : after.messages = []) : Took io messages (result, after)

theorem readFrom_took (io : OutboundWebSocketIoState) (messages : List Message) :
    Took io messages (io.readFrom messages) := by
  induction messages with
  | nil =>
    rw [OutboundWebSocketIoState.readFrom]
    cases io.ending with
    | ended => exact .ended rfl rfl (.inl rfl) rfl
    | closed frame =>
      refine .ended rfl rfl (.inl rfl) ?_
      cases frame <;> rfl
    | failed err => exact .ended rfl rfl (.inr ⟨_, rfl⟩) rfl
  | cons message rest ih =>
    -- What is not a data frame is passed by.
    have passes {message : Message} (frames : dataFrames (message :: rest) = dataFrames rest)
        (caught : interrupted (message :: rest) = interrupted rest) :
        Took io (message :: rest) (io.readFrom rest) := by
      generalize io.readFrom rest = result at ih
      cases ih with
      | frame free next => exact .frame (caught.trans free) (frames.trans next)
      | interrupted err found same =>
        exact .interrupted err (caught.trans found) (same.trans frames.symm)
      | ended free none' nothing empty =>
        exact .ended (caught.trans free) (frames.trans none') nothing empty
    cases message with
    | text text | binary bytes => exact .frame rfl rfl
    | ping payload refused =>
      cases refused with
      | none => exact passes rfl rfl
      | some err => exact .interrupted _ rfl rfl
    | pong payload | other => exact passes rfl rfl

/-- A handle that is only read: a stream that has ended has no messages left, and no messages are
left on a stream that is not open any more. -/
structure Reading (handle : Handle) : Prop where
  ended : ∀ io ∈ handle.state.io, io.eof = true → io.messages = []
  idle : handle.state.isOpen = false → ∀ io ∈ handle.state.io, io.messages = []
  responded : handle.responded = true → handle.state.io = none

variable {base64 : Base64} {handle : Handle} {kind : ReadKind}

theorem unread_setIo_refresh {handle : Handle} {io : OutboundWebSocketIoState} :
    (handle.setIo io).refresh.unread = dataFrames io.messages := by
  rw [unread, refresh, WebSocketConnectionState.refreshCloseState, setIo]
  dsimp only
  split <;> rfl

variable {io : OutboundWebSocketIoState}

section

variable (isOpen : handle.state.phase = .opened)
include isOpen

variable (free : handle.responded = false)
include free

/-- The handle is as it was but for its stream, which was looked at. -/
theorem Reading.setIo_refresh (ended : io.eof = true → io.messages = []) :
    Reading (handle.setIo io).refresh := by
  rw [refresh, WebSocketConnectionState.refreshCloseState, setIo]
  dsimp only
  cases eof : io.eof with
  | true =>
    refine ⟨?_, ?_, by simp [free]⟩
    all_goals simpa using fun _ => ended eof
  | false =>
    refine ⟨by simp [eof], ?_, by simp [free]⟩
    simp [WebSocketConnectionState.isOpen, isOpen]

attribute [local simp] Handle.setIo

theorem Reading.setIo (ended : io.eof = true → io.messages = []) : Reading (handle.setIo io) := by
  refine ⟨by simpa using ended, ?_, by simp [free]⟩
  simp [WebSocketConnectionState.isOpen, isOpen]

/-- A read of an open handle is right exactly if it is of the type of the next frame. -/
theorem readIo_right (held : handle.state.io = some io) (ended : io.eof = true → io.messages = []) :
    (RightRead base64 kind io.messages (handle.readIo base64 kind).1
        (handle.readIo base64 kind).2.unread ↔
      (interrupted io.messages = false →
        ∀ frame ∈ (dataFrames io.messages).head?, kind.takes frame = true)) ∧
    Reading (handle.readIo base64 kind).2 := by
  have took := readFrom_took io io.messages
  rw [readIo, onIo, held]
  dsimp only
  rw [OutboundWebSocketIoState.read, OutboundWebSocketIoState.readNextFrame]
  generalize io.readFrom io.messages = result at took
  cases took with
  | @frame frame rest uncaught next =>
    have kept : io.eof = true → rest = [] := by
      intro eof
      rw [ended eof] at next
      cases next
    cases takes : kind.takes frame with
    | true =>
      simp only [takes, ↓reduceIte]
      refine ⟨iff_of_true ?_ (by simp [next, takes]), .setIo_refresh isOpen free kept⟩
      rw [RightRead, uncaught, next]
      simp only [Bool.false_eq_true, ↓reduceIte, takes]
      exact ⟨rfl, unread_setIo_refresh⟩
    | false =>
      -- The frame is gone although it is not returned.
      simp only [takes, Bool.false_eq_true, ↓reduceIte]
      refine ⟨iff_of_false ?_ ?_, .setIo isOpen free kept⟩
      · rw [RightRead, uncaught, next]
        simp only [Bool.false_eq_true, ↓reduceIte, takes]
        rintro ⟨-, left⟩
        exact (List.cons_ne_self frame (dataFrames rest)) left.symm
      · simp [uncaught, next, takes]
  | @interrupted err rest caught same =>
    have kept : io.eof = true → rest = [] := by
      intro eof
      rw [ended eof] at caught
      cases caught
    refine ⟨iff_of_true ?_ (by simp [caught]), .setIo isOpen free kept⟩
    rw [RightRead, caught]
    exact ⟨⟨err, rfl⟩, same⟩
  | @ended result after uncaught none' nothing empty =>
    have frames : dataFrames after.messages = [] := by rw [empty]; rfl
    have right {reply : Reply} {unread : List OutboundWebSocketFrame}
        (replied : reply = .payload kind.default ∨ ∃ err, reply = .failed err)
        (left : unread = []) :
        RightRead base64 kind io.messages reply unread ↔
          (WebSocket.interrupted io.messages = false →
            ∀ frame ∈ (dataFrames io.messages).head?, kind.takes frame = true) := by
      refine iff_of_true ?_ (by simp [none'])
      rw [RightRead, uncaught, none']
      exact ⟨replied, left⟩
    rcases nothing with rfl | ⟨err, rfl⟩
    · exact ⟨right (.inl rfl) ((unread_setIo_refresh).trans frames),
        .setIo_refresh isOpen free fun _ => empty⟩
    · exact ⟨right (.inr ⟨err, rfl⟩) frames, .setIo isOpen free fun _ => empty⟩

end

/-! ## Every program -/

theorem Reading.unread_nil (reading : Reading handle) (idle : handle.state.isOpen = false) :
    handle.unread = [] := by
  rw [unread]
  cases held : handle.state.io with
  | none => rfl
  | some io => simp [reading.idle idle io held, dataFrames]

/-- A read that does not get to a stream. -/
theorem rightRead_nothing {after : Handle} {err : VmError} (left : after.unread = []) :
    RightRead base64 kind [] (.failed err) after.unread := by
  rw [RightRead, left]
  exact ⟨.inr ⟨err, rfl⟩, rfl⟩

section

variable (reading : Reading handle)
include reading

theorem perform_read (kind : ReadKind) :
    (RightCall base64 handle (.read kind) ↔ Suits handle (.read kind)) ∧
      Reading (handle.perform base64 (.read kind)).2 := by
  have does := handle.ensureOpen_does
  rw [RightCall, Suits, perform, opening, upcoming]
  generalize handle.fate = fate at does
  generalize handle.ensureOpen = result at does
  cases does with
  | responded err responded =>
    have left : handle.unread = [] := by simp [unread, reading.responded responded]
    exact ⟨iff_of_true (rightRead_nothing left) (by simp [dataFrames]), reading⟩
  | unprepared err free idle =>
    exact ⟨iff_of_true (rightRead_nothing (reading.unread_nil idle)) (by simp [dataFrames]),
      reading⟩
  | fails err free idle failed =>
    obtain ⟨-, gone, same, -⟩ := failed
    refine ⟨iff_of_true (rightRead_nothing (by simp [unread, gone])) (by simp [dataFrames]), ?_⟩
    exact ⟨by simp [gone], by simp [gone], by simp [gone]⟩
  | stuck err free idle begun =>
    obtain ⟨-, gone, same, -⟩ := begun
    refine ⟨iff_of_true (rightRead_nothing (by simp [unread, gone])) (by simp [dataFrames]), ?_⟩
    exact ⟨by simp [gone], by simp [gone], by simp [gone]⟩
  | already free isOpen =>
    obtain ⟨phase, io, held⟩ := handle.state.of_isOpen isOpen
    rw [held]
    exact readIo_right phase free held (reading.ended io held)
  | connects free idle phase io responded connections =>
    exact readIo_right phase (responded.trans free) io
      (by simp [OutboundWebSocketIoState.newClient])

/-- The end is reported of a handle that has nothing left. -/
theorem Reading.eof (ended : handle.state.eof = true) : handle.unread = [] := by
  cases held : handle.state.io with
  | none => simp [unread, held]
  | some io =>
    cases eof : io.eof with
    | true => simp [unread, held, reading.ended io held eof, dataFrames]
    | false =>
      refine reading.unread_nil ?_
      have phase : handle.state.phase = .closed ∨ handle.state.phase = .failed := by
        simpa [WebSocketConnectionState.eof, WebSocketConnectionState.refreshCloseState, held, eof]
          using ended
      rcases phase with closed | failed
      · simp [WebSocketConnectionState.isOpen, closed]
      · simp [WebSocketConnectionState.isOpen, failed]

theorem delivered_iff_of_reading {calls : List ReadCall} :
    Delivered base64 handle calls ↔ SuitsAll base64 handle calls := by
  induction calls generalizing handle with
  | nil => exact Iff.rfl
  | cons call calls ih =>
    cases call with
    | read kind =>
      obtain ⟨step, kept⟩ := @perform_read base64 handle reading kind
      exact and_congr step (ih kept)
    | eof =>
      refine and_congr (iff_of_true (fun ended => reading.eof ?_) trivial) (ih reading)
      simpa [perform] using ended

end

attribute [local simp] WebSocketConnectionState.default

/-- Whatever frames come, on the first connection of a handle or on later ones, every read does
what it is to do exactly if no read is made of the other type than the frame that is next. -/
theorem delivered_iff (base64 : Base64) (number : Int) (responded : Bool)
    (prepared : Except VmError Prepared) (connects : List (Except String Connected))
    (calls : List ReadCall) :
    Delivered base64 (.new number responded prepared connects) calls ↔
      SuitsAll base64 (.new number responded prepared connects) calls :=
  delivered_iff_of_reading ⟨by simp [new], by simp [new], by simp [new]⟩

/-- No library is needed for text frames. -/
def noBase64 : Base64 := ⟨fun _ => "", fun _ => .error "unsupported"⟩

/-- Settings with which a handle can be connected. -/
def connectable : Prepared := ⟨false, .ok (), .ok ()⟩

/-- A peer that sends one text frame. -/
def oneText : Handle :=
  .new 2 false (.ok connectable) [.ok ⟨[.text "hi"], .ended, [], none⟩]

/-- A read of binary frames reports that the next frame is text, and a read of text then does not
find it. -/
theorem mismatched_frame_lost :
    (oneText.perform noBase64 (.read .binaryBase64)).2.unread.length = 0 ∧
    ¬ Delivered noBase64 oneText [.read .binaryBase64, .read .text] := by
  have gone : (oneText.perform noBase64 (.read .binaryBase64)).2.unread.length = 0 := by
    decide +kernel
  refine ⟨gone, ?_⟩
  rintro ⟨right, -⟩
  have left : (oneText.perform noBase64 (.read .binaryBase64)).2.unread = [.text "hi"] := right.2
  rw [left] at gone
  cases gone

end PdEdge.WebSocket

import PdEdge.WebSocket.Connection

/-!
# The phases of a WebSocket handle

A handle that is closed or has failed should stay so: reads report the end, writes fail, and no
operation opens another connection. But every operation goes through the opening of the handle,
which connects a handle that is not open, whatever its phase.
-/

namespace PdEdge.WebSocket

open Handle OutboundWebSocketIoState

/-! ## What is to hold -/

/-- What a program learns by the operation is that the stream has ended. -/
def Reply.reportsEnd (kind : ReadKind) (reply : Reply) : Prop := reply = .payload kind.default

/-- An operation writes. -/
def Operation.writes : Operation → Bool
  | .sendText _ => true
  | .sendBinary _ => true
  | .sendBinaryBase64 _ => true
  | _ => false

/-- What an operation on a handle that is closed or has failed is to do. -/
structure Remains (handle : Handle) (operation : Operation) (result : Reply × Handle) : Prop where
  ended : result.2.state.eof = true
  connections : result.2.connections = handle.connections
  reads : ∀ kind, operation = .read kind → result.1.reportsEnd kind
  writes : operation.writes = true → ∃ err, result.1 = .failed err

/-- Once a handle is closed or has failed, it remains so. -/
def Monotone (base64 : Base64) : Handle → List Operation → Prop
  | _, [] => True
  | handle, operation :: operations =>
    (handle.state.eof = true → Remains handle operation (handle.perform base64 operation)) ∧
      Monotone base64 (handle.perform base64 operation).2 operations

/-- An attempt to open the handle, if one is made, leaves it failed. -/
def Fate.leaves : Fate → Bool
  | .stuck => false
  | .connects _ => false
  | _ => true

/-- The next operation that sends on the stream of the handle fails. -/
def Handle.muted (handle : Handle) : Bool :=
  handle.state.io.any fun io => (io.sends.head?.join).isSome

/-- An operation that leaves a handle as closed as it is. -/
def Quiet (base64 : Base64) (handle : Handle) : Operation → Prop
  | .eof => True
  | .closeStream => True
  -- The end was met but not noted yet.
  | .read _ => handle.responded = false ∧ handle.state.isOpen = true
  | .connect => handle.fate.leaves = true
  | .close _ _ => handle.fate.leaves = true
  | .sendText _ => handle.fate.leaves = true ∧ (handle.fate = .already → handle.muted = true)
  | .sendBinary _ => handle.fate.leaves = true ∧ (handle.fate = .already → handle.muted = true)
  | .sendBinaryBase64 payload => handle.fate.leaves = true ∧
    (handle.fate = .already → (base64.decode payload).isOk = true → handle.muted = true)

/-- Every operation on a handle that is closed or has failed is quiet. -/
def QuietAll (base64 : Base64) : Handle → List Operation → Prop
  | _, [] => True
  | handle, operation :: operations =>
    (handle.state.eof = true → Quiet base64 handle operation) ∧
      QuietAll base64 (handle.perform base64 operation).2 operations

/-! ## Streams that have ended -/

/-- A stream that was found to have ended is used up. -/
def OutboundWebSocketIoState.Noted (io : OutboundWebSocketIoState) : Prop :=
  io.eof = true → io.messages = [] ∧ io.ending = .ended

/-- The stream of an open handle is used up if it was found to have ended. -/
def Noted (handle : Handle) : Prop :=
  handle.state.phase = .opened → ∀ io ∈ handle.state.io, io.Noted

attribute [local simp] OutboundWebSocketIoState.Noted

theorem readFrom_noted {io : OutboundWebSocketIoState} {messages : List Message}
    (noted : io.eof = true → messages = [] ∧ io.ending = .ended) :
    (io.readFrom messages).2.Noted := by
  -- On a stream that has ended there are no messages.
  have live {message : Message} {rest : List Message}
      (noted : io.eof = true → message :: rest = [] ∧ io.ending = .ended) : io.eof = false := by
    cases eof : io.eof with
    | false => rfl
    | true => cases (noted eof).1
  induction messages with
  | nil =>
    rw [readFrom]
    cases io.ending with
    | ended | failed err => exact fun _ => ⟨rfl, rfl⟩
    | closed frame => cases frame <;> exact fun _ => ⟨rfl, rfl⟩
  | cons message rest ih =>
    have running := live noted
    have goesOn := ih (by simp [running])
    cases message with
    | text text | binary bytes => simp [readFrom, running]
    | ping payload refused =>
      cases refused with
      | none => exact goesOn
      | some err => simp [readFrom, running]
    | pong payload | other => exact goesOn

section

variable {base64 : Base64} {handle : Handle}

theorem Noted.setIo {io : OutboundWebSocketIoState} (noted : io.Noted) :
    Noted (handle.setIo io) := by
  intro _ held same
  cases same
  exact noted

theorem Noted.refresh (noted : Noted handle) : Noted handle.refresh := by
  rw [Handle.refresh, WebSocketConnectionState.refreshCloseState]
  cases held : handle.state.io with
  | none => exact noted
  | some io =>
    dsimp only
    split
    · intro phase
      cases phase
    · exact noted

theorem readIo_noted (noted : Noted handle) (isOpen : handle.state.phase = .opened)
    {kind : ReadKind} : Noted (handle.readIo base64 kind).2 := by
  rw [readIo, onIo]
  cases held : handle.state.io with
  | none => exact noted
  | some io =>
    have after := readFrom_noted (noted isOpen io held)
    dsimp only
    rw [OutboundWebSocketIoState.read, OutboundWebSocketIoState.readNextFrame]
    generalize io.readFrom io.messages = result at after
    rcases result with ⟨(err | (- | frame)), next⟩
    · exact .setIo after
    · exact (Noted.setIo after).refresh
    dsimp only
    cases kind.takes frame
    · exact .setIo after
    · exact (Noted.setIo after).refresh

/-- What sending changes of a stream. -/
theorem send_keeps (io : OutboundWebSocketIoState) (failure : String) :
    (io.send failure).2 = { io with sends := io.sends.tail } := by
  rw [send]
  split <;> rfl

variable (noted : Noted handle)
include noted

theorem sendIo_noted (isOpen : handle.state.phase = .opened) {failure : String} {count : Nat} :
    Noted (handle.sendIo failure count).2 := by
  rw [sendIo, onIo]
  cases held : handle.state.io with
  | none => exact noted
  | some io =>
    have keeps := send_keeps io failure
    dsimp only
    generalize io.send failure = result at keeps
    obtain ⟨(err | value), next⟩ := result <;>
    · cases keeps
      exact .setIo (noted isOpen io held)

theorem closeIo_noted (isOpen : handle.state.phase = .opened) (frame : CloseFrame) :
    Noted (handle.closeIo frame).2 := by
  have closing : handle.state.noteClosing = { handle.state with phase := .closing } :=
    if_pos isOpen
  rw [closeIo, onIo, closing]
  cases held : handle.state.io with
  | none => exact noted
  | some io =>
    dsimp only
    generalize io.close frame = result
    obtain ⟨(err | -), next⟩ := result
    all_goals
      intro phase
      cases phase

/-- What is kept on an open handle is kept behind the opening. -/
theorem opening_noted {next : Handle → Reply × Handle}
    (keeps : ∀ handle, Noted handle → handle.state.phase = .opened → Noted (next handle).2) :
    Noted (handle.opening next).2 := by
  have does := handle.ensureOpen_does
  rw [opening]
  generalize handle.fate = fate at does
  generalize handle.ensureOpen = result at does
  cases does with
  | responded err responded | unprepared err free idle => exact noted
  | already free isOpen =>
    exact keeps handle noted (handle.state.of_isOpen isOpen).1
  | fails err free idle failed =>
    intro phase
    cases failed.1.symm.trans phase
  | stuck err free idle begun =>
    intro phase
    cases begun.1.symm.trans phase
  | @connects connected after free idle phase io responded connections =>
    refine keeps after (fun _ held same => ?_) phase
    cases io.symm.trans same
    intro ended
    cases ended

theorem perform_noted (operation : Operation) : Noted (handle.perform base64 operation).2 := by
  cases operation with
  | connect => exact opening_noted noted fun _ noted _ => noted
  | read kind => exact opening_noted noted fun _ noted isOpen => readIo_noted noted isOpen
  | sendText text | sendBinary bytes =>
    exact opening_noted noted fun _ noted isOpen => sendIo_noted noted isOpen
  | sendBinaryBase64 payload =>
    refine opening_noted noted fun handle noted isOpen => ?_
    rw [onIo]
    cases held : handle.state.io with
    | none => exact noted
    | some io =>
      cases base64.decode payload with
      | error err => exact noted
      | ok bytes => exact sendIo_noted noted isOpen
  | close code reason =>
    refine opening_noted noted fun handle noted isOpen => ?_
    split
    · exact closeIo_noted noted isOpen _
    · exact noted
  | closeStream =>
    rw [perform]
    split
    · exact noted
    · exact opening_noted noted fun _ noted isOpen => closeIo_noted noted isOpen _
  | eof => exact noted

end

/-! ## What an operation on an ended handle does -/

section

variable {base64 : Base64} {handle : Handle}

attribute [local simp] WebSocketConnectionState.refreshCloseState

/-- An open handle has ended only by its stream. -/
theorem eof_open (isOpen : handle.state.phase = .opened) {io : OutboundWebSocketIoState}
    (held : handle.state.io = some io) : handle.state.eof = io.eof := by
  cases eof : io.eof <;> simp [WebSocketConnectionState.eof, held, eof, isOpen]

/-- A handle without a stream has ended by its phase. -/
theorem eof_unopened {phase : WebSocketPhase} {after : Handle}
    (unopened : handle.Unopened phase after) :
    after.state.eof = (decide (phase = .closed) || decide (phase = .failed)) := by
  simp [WebSocketConnectionState.eof, unopened.1, unopened.2.1]

/-- What remains where the opening fails. -/
theorem remains_failed {operation : Operation} {after : Handle} {err : VmError}
    (ended : after.state.eof = true) (connections : after.connections = handle.connections)
    (other : ∀ kind, operation ≠ .read kind) : Remains handle operation (.failed err, after) :=
  ⟨ended, connections, fun kind same => absurd same (other kind), fun _ => ⟨err, rfl⟩⟩

/-- What an operation does on a handle that has ended and is open, where its stream was not looked
at since. -/
def OnOpen (handle : Handle) (operation : Operation) (next : Handle → Reply × Handle)
    (quiet : Prop) : Prop :=
  ∀ io, handle.state.phase = .opened → handle.state.io = some io → io.eof = true →
    (Remains handle operation (next handle) ↔ quiet)

/-- An operation that is not a read remains quiet by how the opening ends. -/
theorem opening_remains (ended : handle.state.eof = true) {operation : Operation}
    (other : ∀ kind, operation ≠ .read kind) {next : Handle → Reply × Handle} {quiet : Prop}
    (opens : ∀ handle, (next handle).2.connections = handle.connections)
    (onOpen : OnOpen handle operation next quiet) :
    Remains handle operation (handle.opening next) ↔
      handle.fate.leaves = true ∧ (handle.fate = .already → quiet) := by
  have does := handle.ensureOpen_does
  rw [opening]
  generalize handle.fate = fate at does
  generalize handle.ensureOpen = result at does
  cases does with
  | responded err responded | unprepared err free idle =>
    exact iff_of_true (remains_failed ended rfl other) ⟨rfl, by simp⟩
  | already free isOpen =>
    obtain ⟨phase, io, held⟩ := handle.state.of_isOpen isOpen
    have step := onOpen io phase held ((eof_open phase held).symm.trans ended)
    simpa [Fate.leaves] using step
  | fails err free idle failed =>
    exact iff_of_true (remains_failed (eof_unopened failed) failed.2.2.2 other) ⟨rfl, by simp⟩
  | stuck err free idle begun =>
    refine iff_of_false (fun remains => ?_) (by simp [Fate.leaves])
    cases (eof_unopened begun).symm.trans remains.ended
  | @connects connected after free idle phase io responded connections =>
    refine iff_of_false (fun remains => ?_) (by simp [Fate.leaves])
    have same : (next after).2.connections = handle.connections := remains.connections
    have counts := opens after
    omega

/-- Whether a handle has ended depends only on its phase and on whether its stream has. -/
theorem setIo_eof {io next : OutboundWebSocketIoState} (held : handle.state.io = some io)
    (same : next.eof = io.eof) : (handle.setIo next).state.eof = handle.state.eof := by
  cases eof : io.eof <;> simp [WebSocketConnectionState.eof, held, setIo, same, eof]

theorem sendIo_connections {failure : String} {count : Nat} (handle : Handle) :
    (handle.sendIo failure count).2.connections = handle.connections := by
  rw [sendIo, onIo]
  cases handle.state.io with
  | none => rfl
  | some io =>
    dsimp only
    split <;> rfl

theorem closeIo_connections (frame : CloseFrame) {handle : Handle} :
    (handle.closeIo frame).2.connections = handle.connections := by
  rw [closeIo, onIo]
  cases handle.state.io with
  | none => rfl
  | some io =>
    dsimp only
    split <;> rfl

theorem readIo_connections (kind : ReadKind) (handle : Handle) :
    (handle.readIo base64 kind).2.connections = handle.connections := by
  rw [readIo, onIo]
  cases handle.state.io with
  | none => rfl
  | some io =>
    dsimp only
    split <;> rfl

/-- A write to a stream that has ended is as it is to be exactly if sending fails. -/
theorem sendIo_onOpen {operation : Operation} (other : ∀ kind, operation ≠ .read kind)
    (writes : operation.writes = true) (failure : String) (count : Nat) :
    OnOpen handle operation (·.sendIo failure count) (handle.muted = true) := by
  intro io phase held eof
  have ended := (eof_open phase held).trans eof
  have kept := setIo_eof held (show ({ io with sends := io.sends.tail } :
    OutboundWebSocketIoState).eof = io.eof from rfl)
  have muted : handle.muted = io.sends.head?.join.isSome := by simp [muted, held]
  dsimp only
  rw [muted, sendIo, onIo, held]
  dsimp only
  rw [send]
  rcases io.sends.head? with - | (- | err)
  · refine iff_of_false (fun remains => ?_) (by simp)
    obtain ⟨err, failed⟩ := remains.writes writes
    cases failed
  · refine iff_of_false (fun remains => ?_) (by simp)
    obtain ⟨err, failed⟩ := remains.writes writes
    cases failed
  · exact iff_of_true (remains_failed (kept.trans ended) rfl other) rfl

/-- A stream that has ended can be closed. -/
theorem closeIo_onOpen {operation : Operation} (other : ∀ kind, operation ≠ .read kind)
    (reads : operation.writes = false) (frame : CloseFrame) :
    OnOpen handle operation (·.closeIo frame) True := by
  intro io phase held eof
  refine iff_of_true ?_ trivial
  have closing : handle.state.noteClosing = { handle.state with phase := .closing } := if_pos phase
  have keeps := send_keeps io "failed to close websocket session"
  dsimp only
  rw [closeIo, onIo, held, closing]
  dsimp only
  rw [close]
  generalize io.send "failed to close websocket session" = result at keeps
  obtain ⟨(err | value), next⟩ := result
  · cases keeps
    refine remains_failed ?_ rfl other
    simp [WebSocketConnectionState.eof, setIo, eof]
  · refine ⟨?_, rfl, fun kind same => absurd same (other kind), by simp [reads]⟩
    simp [WebSocketConnectionState.eof, setIo, WebSocketConnectionState.markClosed,
      recordCloseFrame]

/-- A read of an ended handle reports the end exactly if its stream was not looked at since. -/
theorem read_remains (noted : Noted handle) (ended : handle.state.eof = true) {kind : ReadKind} :
    Remains handle (.read kind) (handle.perform base64 (.read kind)) ↔
      handle.responded = false ∧ handle.state.isOpen = true := by
  have does := handle.ensureOpen_does
  rw [perform, opening]
  generalize handle.fate = fate at does
  generalize handle.ensureOpen = result at does
  have refuses {after : Handle} (err : VmError) :
      ¬ Remains handle (.read kind) (.failed err, after) := by
    intro remains
    cases remains.reads kind rfl
  cases does with
  | responded err responded => exact iff_of_false (refuses err) (by simp [responded])
  | unprepared err free idle | fails err free idle failed | stuck err free idle begun =>
    exact iff_of_false (refuses err) (by simp [idle])
  | @connects connected after free idle phase io responded connections =>
    refine iff_of_false (fun remains => ?_) (by simp [idle])
    have same : (after.readIo base64 kind).2.connections = handle.connections := remains.connections
    have counts := @readIo_connections base64 kind after
    omega
  | already free isOpen =>
    refine iff_of_true ?_ ⟨free, isOpen⟩
    obtain ⟨phase, io, held⟩ := handle.state.of_isOpen isOpen
    obtain ⟨empty, over'⟩ := noted phase io held ((eof_open phase held).symm.trans ended)
    dsimp only
    rw [readIo, onIo, held]
    dsimp only
    rw [OutboundWebSocketIoState.read, OutboundWebSocketIoState.readNextFrame, empty,
      readFrom, over']
    refine ⟨?_, rfl, fun other same => ?_, by simp [Operation.writes]⟩
    · simp [WebSocketConnectionState.eof, refresh, setIo]
    · cases same
      rfl

theorem perform_remains (noted : Noted handle) (ended : handle.state.eof = true)
    {operation : Operation} :
    Remains handle operation (handle.perform base64 operation) ↔ Quiet base64 handle operation := by
  cases operation with
  | eof => exact iff_of_true ⟨ended, rfl, by simp, by simp [Operation.writes]⟩ trivial
  | closeStream =>
    rw [perform, if_pos ended]
    exact iff_of_true ⟨ended, rfl, by simp, by simp [Operation.writes]⟩ trivial
  | read kind => exact read_remains noted ended
  | connect =>
    have step := @opening_remains handle ended .connect (by simp)
      (fun handle => (.connected, handle)) True (fun _ => rfl)
      fun _ _ _ _ => iff_of_true ⟨ended, rfl, by simp, by simp [Operation.writes]⟩ trivial
    rw [perform, Quiet, step]
    simp
  | sendText text | sendBinary bytes =>
    exact opening_remains ended (by simp) (sendIo_connections) (sendIo_onOpen (by simp) rfl _ _)
  | sendBinaryBase64 payload =>
    refine opening_remains ended (by simp) (fun handle => ?_) fun io phase held eof => ?_
    · rw [onIo]
      cases handle.state.io with
      | none => rfl
      | some io =>
        cases base64.decode payload with
        | error err => rfl
        | ok bytes => exact sendIo_connections handle
    · rw [onIo, held]
      cases base64.decode payload with
      | error err =>
        exact iff_of_true (remains_failed ended rfl (by simp))
          (by simp [Except.isOk, Except.toBool])
      | ok bytes =>
        have step := @sendIo_onOpen handle (.sendBinaryBase64 payload) (by simp) rfl
          "failed to send websocket binary frame" bytes.length io phase held eof
        simpa [Except.isOk, Except.toBool] using step
  | close code reason =>
    rw [perform]
    have step := @opening_remains handle ended (.close code reason) (by simp) (fun handle =>
      if inRange : 0 ≤ code ∧ code < 65536 then
        handle.closeIo ⟨⟨⟨code.toNat, by omega⟩⟩, reason⟩
      else
        (.failed (.hostError s!"websocket close code must be in the u16 range, got {code}"),
          handle)) True
    rw [step]
    · simp [Quiet]
    · intro handle
      split
      · exact closeIo_connections _
      · rfl
    intro io phase held eof
    split
    · exact @closeIo_onOpen handle (.close code reason) (by simp) rfl _ io phase held eof
    · exact iff_of_true (remains_failed ended rfl (by simp)) trivial

end

/-! ## Every program -/

theorem monotone_iff_of_noted {base64 : Base64} {handle : Handle} (noted : Noted handle)
    {operations : List Operation} :
    Monotone base64 handle operations ↔ QuietAll base64 handle operations := by
  induction operations generalizing handle with
  | nil => exact Iff.rfl
  | cons operation operations ih =>
    refine and_congr ⟨fun remains ended => ?_, fun quiet ended => ?_⟩ (ih (perform_noted noted _))
    · exact (perform_remains noted ended).mp (remains ended)
    · exact (perform_remains noted ended).mpr (quiet ended)

/-- Whatever a handle connects to and whatever a program does with it, once it is closed or has
failed it remains so exactly if it is then not read, and not connected, written or closed where
that opens a connection. -/
theorem monotone_iff (base64 : Base64) (number : Int) (responded : Bool)
    (prepared : Except VmError Prepared) (connects : List (Except String Connected))
    (operations : List Operation) :
    Monotone base64 (.new number responded prepared connects) operations ↔
      QuietAll base64 (.new number responded prepared connects) operations := by
  refine monotone_iff_of_noted (fun phase => ?_)
  cases phase

/-- Base64 is not used. -/
def untouchedBase64 : Base64 := ⟨fun _ => "", fun _ => .error "unsupported"⟩

/-- A peer that ends the first connection and greets on the second. -/
def endsAndGreets : Handle :=
  .new 2 false (.ok ⟨false, .ok (), .ok ()⟩)
    [.ok ⟨[], .ended, [], none⟩, .ok ⟨[.text "hi"], .ended, [], none⟩]

/-- The first read meets the end, and the handle is closed; the second opens another connection and
returns what comes on it. -/
theorem read_reconnects :
    (endsAndGreets.perform untouchedBase64 (.read .text)).2.state.phase = .closed ∧
    ((endsAndGreets.perform untouchedBase64 (.read .text)).2.perform untouchedBase64
      (.read .text)).2.state.phase = .opened ∧
    ((endsAndGreets.perform untouchedBase64 (.read .text)).2.perform untouchedBase64
      (.read .text)).2.connections = 2 ∧
    ¬ Monotone untouchedBase64 endsAndGreets [.read .text, .read .text] := by
  have closed : (endsAndGreets.perform untouchedBase64 (.read .text)).2.state.eof = true := by
    decide +kernel
  have again : ((endsAndGreets.perform untouchedBase64 (.read .text)).2.perform untouchedBase64
      (.read .text)).2.state.eof = false := by decide +kernel
  refine ⟨by decide +kernel, by decide +kernel, by decide +kernel, ?_⟩
  rintro ⟨-, remains, -⟩
  cases again.symm.trans (remains closed).ended

end PdEdge.WebSocket

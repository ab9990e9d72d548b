import PdEdge.Output.Resolution

/-!
# Fidelity of a streamed response

The calls that stream a response move it through three phases: nothing was begun, bytes are
taken, or the stream is finished. The phase holds the bytes that were written and whether the
response will use them; each call on the output node is the step of the phase. What the client
gets at the end is read off the phase. A finish before anything was begun leaves no trace, and a
stream into which nothing was written is not used unless it was started.
-/

namespace PdEdge.Output

open State HttpResponseOutputNode List

/-- The operations on the stream of a response. -/
inductive StreamOp where
  | start
  | write (bytes : List UInt8)
  /-- An implicit write, which is buffered. -/
  | append (bytes : List UInt8)
  | finish
  deriving DecidableEq

namespace StreamOp

/-- The call of each operation. -/
def call : StreamOp → ProgramCall
  | start => .startStream
  | write bytes => .writeStream bytes
  | append bytes => .appendBody bytes
  | finish => .finishStream

/-- The bytes that an operation writes. -/
def bytes? : StreamOp → Option (List UInt8)
  | write bytes => some bytes
  | append bytes => some bytes
  | start => none
  | finish => none

/-- The bytes to be added. -/
def added (op : StreamOp) : List UInt8 := op.bytes?.getD []

/-- The operation begins a response: it starts one, or writes to one. -/
def opens : StreamOp → Bool
  | start => true
  | write bytes => !bytes.isEmpty
  | append bytes => !bytes.isEmpty
  | finish => false

end StreamOp

/-- Some operations in turn: which were accepted, and the context behind them. -/
def operate (context : ProxyVmContext) : List StreamOp → List (StreamOp × Bool) × ProxyVmContext
  | [] => ([], context)
  | op :: ops =>
    let called := op.call.run context
    let rest := operate called.2 ops
    ((op, called.1.isOk) :: rest.1, rest.2)

/-- The bytes of the writes that were accepted. -/
def acceptedBytes (trace : List (StreamOp × Bool)) : List UInt8 :=
  trace.flatMap fun entry => if entry.2 then entry.1.added else []

/-- What was sent on the channel, followed by what is still in the buffer. -/
def streamed (context : ProxyVmContext) : List UInt8 :=
  (context.responseOutput.bodyStream.map DownstreamResponseBodyStream.written).getD []

/-! ## Phases -/

/-- How far a streamed response is, the bytes written to it, and whether it will be used. -/
inductive Phase where
  | fresh
  | streaming (written : List UInt8) (used : Bool)
  | finished (written : List UInt8) (used : Bool)
  deriving DecidableEq

namespace Phase

/-- An operation in a phase. -/
def step : Phase → StreamOp → Phase
  | fresh, .finish => fresh
  | fresh, op => streaming op.added op.opens
  | streaming written used, .finish => finished written used
  | streaming written used, op => streaming (written ++ op.added) (used || op.opens)
  | finished written used, _ => finished written used

/-- The operation is accepted. -/
def accepts : Phase → StreamOp → Bool
  | finished _ _, op => op = .finish
  | _, _ => true

def written : Phase → List UInt8
  | fresh => []
  | streaming written _ => written
  | finished written _ => written

def used : Phase → Bool
  | fresh => false
  | streaming _ used => used
  | finished _ used => used

/-- The phase of an output node. -/
def of (node : HttpResponseOutputNode) : Phase :=
  match node.bodyStream with
  | none => fresh
  | some stream =>
    if stream.finished then finished stream.written stream.commits
    else streaming stream.written stream.commits

theorem fresh_step {op : StreamOp} (goesOn : op ≠ .finish) :
    fresh.step op = streaming op.added op.opens := by
  cases op <;> first | rfl | exact absurd rfl goesOn

theorem streaming_step {op : StreamOp} (goesOn : op ≠ .finish) {written : List UInt8}
    {used : Bool} : (streaming written used).step op =
      streaming (written ++ op.added) (used || op.opens) := by
  cases op <;> first | rfl | exact absurd rfl goesOn

end Phase

/-- A node without another body, in order, with a phase and a status. -/
structure Streams (phase : Phase) (status : Option Nat) (node : HttpResponseOutputNode) : Prop where
  sound : node.Sound
  body : node.body = none
  exchange : node.bodySourceExchange = none
  phase : Phase.of node = phase
  status : node.status = status

section

open DownstreamResponseBodyStream

variable {phase : Phase} {status : Option Nat} {node : HttpResponseOutputNode}

/-- What an operation other than finishing does to a stream. -/
structure Performs (op : StreamOp)
    (operation : DownstreamResponseBodyStream → Except VmError Bool × DownstreamResponseBodyStream) :
    Prop where
  opened : ∀ stream, stream.Sound → stream.heard = true → stream.finished = false →
    Accepts stream op.added (operation stream) ∧
      (operation stream).2.commits = (stream.commits || op.opens)
  closed : ∀ stream, stream.finished = true → operation stream = (.error alreadyFinished, stream)

theorem performs_start : Performs .start DownstreamResponseBodyStream.start where
  opened stream sound heard opened := by
    obtain ⟨accepts, committed⟩ := stream.start_spec sound opened
    exact ⟨accepts, by simp [commits, committed, StreamOp.opens]⟩
  closed stream finished := start_finished finished

theorem performs_write (op : StreamOp) {mode : DownstreamResponseStreamWriteMode}
    (writes : op.opens = !op.added.isEmpty) :
    Performs op fun stream => stream.writeBytes op.added mode where
  opened stream sound heard opened := by
    rw [writes]
    exact stream.writeBytes_spec sound opened heard op.added mode
  closed stream finished := writeBytes_finished finished op.added mode

variable {operation : DownstreamResponseBodyStream → Except VmError Bool × DownstreamResponseBodyStream}

/-- What is in order of a stream stays so. -/
theorem Performs.keeps {op : StreamOp} (performs : Performs op operation)
    (stream : DownstreamResponseBodyStream)
    (order : stream.Sound ∧ stream.heard = true ∧ stream.receiver = true) :
    (operation stream).2.Sound ∧ (operation stream).2.heard = true ∧
      (operation stream).2.receiver = true := by
  cases finished : stream.finished with
  | true => rw [performs.closed stream finished]; exact order
  | false =>
    have accepts := (performs.opened stream order.1 order.2.1 finished).1
    exact ⟨accepts.sound, accepts.heard.trans order.2.1, accepts.receiver.trans order.2.2⟩

attribute [local simp] onStream Except.toBool Except.isOk

/-- A phase goes on as the stream does. -/
theorem Streams.performed (streams : Streams phase status node) {op : StreamOp}
    (goesOn : op ≠ .finish) (performs : Performs op operation) :
    Streams (phase.step op) status (node.onStream operation).2 ∧
      (node.onStream operation).1.isOk = phase.accepts op := by
  have sound := streams.sound.onStream streams.body streams.exchange performs.keeps
  have phased := streams.phase
  rw [Phase.of] at phased
  cases held : node.bodyStream with
  | none =>
    subst phased
    obtain ⟨accepts, used⟩ := performs.opened .new sound_new rfl rfl
    obtain ⟨now, ok⟩ := accepts.accepted
    refine ⟨⟨sound, rfl, rfl, ?_, streams.status⟩, ?_⟩
    · simp only [Phase.of, onStream, held, Option.getD_none,
        accepts.finished, accepts.written, used, Phase.fresh_step goesOn]
      rfl
    · simp [held, ok, Phase.accepts]
  | some stream =>
    rw [held] at phased
    dsimp only at phased
    have order := streams.sound.stream stream held
    cases finished : stream.finished with
    | true =>
      rw [if_pos finished] at phased
      subst phased
      have refused := performs.closed stream finished
      refine ⟨⟨sound, rfl, rfl, ?_, streams.status⟩, ?_⟩
      · simp [Phase.of, held, refused, finished, Phase.step]
      · simp [held, refused, Phase.accepts, goesOn]
    | false =>
      rw [if_neg (by simp [finished])] at phased
      subst phased
      obtain ⟨accepts, used⟩ := performs.opened stream order.1 order.2.1 finished
      obtain ⟨now, ok⟩ := accepts.accepted
      refine ⟨⟨sound, rfl, rfl, ?_, streams.status⟩, ?_⟩
      · simp only [Phase.of, onStream, held, Option.getD_some,
          accepts.finished, accepts.written, used, Phase.streaming_step goesOn, finished]
        rfl
      · simp [held, ok, Phase.accepts]

/-- Finishing ends the phase. -/
theorem Streams.finished (streams : Streams phase status node) :
    Streams (phase.step .finish) status node.finishStream.2 ∧
      node.finishStream.1.isOk = phase.accepts .finish := by
  have sound := streams.sound.finishStream
  have phased := streams.phase
  rw [Phase.of] at phased
  rw [HttpResponseOutputNode.finishStream] at sound ⊢
  cases held : node.bodyStream with
  | none =>
    rw [held] at phased
    subst phased
    exact ⟨⟨streams.sound, streams.body, streams.exchange, by simp [Phase.of, held, Phase.step],
      streams.status⟩, rfl⟩
  | some stream =>
    rw [held] at phased sound
    dsimp only [HttpResponseOutputNode.returned] at phased sound ⊢
    obtain ⟨order, heard, -⟩ := streams.sound.stream stream held
    obtain ⟨⟨now, ok⟩, after, -, ended, -, whole, committed⟩ := stream.finish_spec order heard
    have written : stream.finish.2.written = stream.written := by
      simp [DownstreamResponseBodyStream.written, after.flushed ended, whole]
    have used : stream.finish.2.commits = stream.commits := by
      simp [commits, after.flushed ended, committed]
    have stepped : phase.step .finish = .finished stream.written stream.commits := by
      subst phased
      split <;> rfl
    have accepted : phase.accepts .finish = true := by cases phase <;> rfl
    refine ⟨⟨sound, streams.body, streams.exchange, ?_, streams.status⟩, ?_⟩
    · simp [Phase.of, ended, written, used, stepped]
    · simp [ok, accepted, Except.map]

/-- The operation on the output node. -/
def StreamOp.on (op : StreamOp) (node : HttpResponseOutputNode) : HttpResponseOutputNode.Called :=
  match op with
  | .start => node.startStream
  | .write bytes => node.writeStreamBytes bytes .explicitImmediate
  | .append bytes => node.writeStreamBytes bytes .implicitBuffered
  | .finish => node.finishStream

theorem StreamOp.call_run (op : StreamOp) {context : ProxyVmContext} :
    op.call.run context = context.onOutput op.on := by
  cases op <;> rfl

theorem Streams.synced (streams : Streams phase status node) :
    Streams phase status node.syncStreamHeaders :=
  ⟨streams.sound.synced, streams.body, streams.exchange, streams.phase, streams.status⟩

theorem Streams.typed (streams : Streams phase status node) (bytes : List UInt8) :
    Streams phase status (node.defaultContentType bytes) := by
  have sound := streams.sound.defaultContentType bytes
  rw [defaultContentType] at sound ⊢
  split
  · exact ⟨streams.sound.withHeaders _, streams.body, streams.exchange, streams.phase,
      streams.status⟩
  · exact streams

theorem isOk_returned (called : Except VmError Bool × HttpResponseOutputNode) :
    (returned called).1.isOk = called.1.isOk := by
  obtain ⟨result, node⟩ := called
  cases result <;> rfl

/-- Every operation steps the phase, and is accepted as the phase says. -/
theorem Streams.step (streams : Streams phase status node) (op : StreamOp) :
    Streams (phase.step op) status (op.on node).2 ∧ (op.on node).1.isOk = phase.accepts op := by
  have free : ¬ (node.body.isSome || node.bodySourceExchange.isSome) = true := by
    simp [streams.body, streams.exchange]
  have writes (op : StreamOp) (goesOn : op ≠ .finish) (mode : DownstreamResponseStreamWriteMode)
      (opens : op.opens = !op.added.isEmpty) :
      Streams (phase.step op) status (node.writeStreamBytes op.added mode).2 ∧
        (node.writeStreamBytes op.added mode).1.isOk = phase.accepts op := by
    rw [writeStreamBytes, if_neg free, isOk_returned]
    exact (streams.synced.typed op.added).performed goesOn (performs_write op opens)
  cases op with
  | start =>
    rw [StreamOp.on, startStream, if_neg free, isOk_returned]
    exact streams.synced.performed (by decide) performs_start
  | write bytes => exact writes (.write bytes) (by simp) .explicitImmediate rfl
  | append bytes => exact writes (.append bytes) (by simp) .implicitBuffered rfl
  | finish => exact streams.finished

end

/-! ## Whole runs -/

/-- The operations as the phase accepts them. -/
def Phase.trace : Phase → List StreamOp → List (StreamOp × Bool)
  | _, [] => []
  | phase, op :: ops => (op, phase.accepts op) :: (phase.step op).trace ops

/-- The phase behind some operations. -/
def Phase.run (phase : Phase) (ops : List StreamOp) : Phase := ops.foldl Phase.step phase

variable {context : ProxyVmContext} {status : Option Nat}

/-- A run of operations is the run of its phase. -/
theorem operate_spec {phase : Phase} (streams : Streams phase status context.responseOutput)
    {ops : List StreamOp} :
    (operate context ops).1 = phase.trace ops ∧
      ∃ node, (operate context ops).2 = { context with responseOutput := node } ∧
        Streams (phase.run ops) status node := by
  induction ops generalizing context phase with
  | nil => exact ⟨rfl, context.responseOutput, rfl, streams⟩
  | cons op ops ih =>
    obtain ⟨stepped, accepted⟩ := streams.step op
    have called : op.call.run context = ((op.on context.responseOutput).1,
        { context with responseOutput := (op.on context.responseOutput).2 }) := op.call_run
    rw [operate, called]
    have next : Streams (phase.step op) status
      { context with responseOutput := (op.on context.responseOutput).2 }.responseOutput := stepped
    obtain ⟨traced, node, behind, later⟩ := ih next
    exact ⟨by rw [Phase.trace, ← traced, ← accepted], node, behind, later⟩

theorem streamed_of_phase {phase : Phase} (streams : Streams phase status context.responseOutput) :
    streamed context = phase.written := by
  rw [streamed, ← streams.phase, Phase.of]
  cases held : context.responseOutput.bodyStream with
  | none => rfl
  | some stream =>
    dsimp only
    split <;> rfl

/-- The operations that take effect: those up to the first finish of a stream that was begun. -/
def effective (ops : List StreamOp) : List StreamOp :=
  (ops.dropWhile (· = .finish)).takeWhile (· ≠ .finish)

/-- No write is accepted behind a finish. -/
def ClosedByFinish (trace : List (StreamOp × Bool)) : Prop :=
  trace.Pairwise fun earlier later =>
    earlier.1 = .finish → later.1.bytes?.isSome → later.2 = false

/-- All writes were refused. -/
def RefusesWrites (trace : List (StreamOp × Bool)) : Prop :=
  ∀ entry ∈ trace, entry.1.bytes?.isSome → entry.2 = false

theorem RefusesWrites.closed {trace : List (StreamOp × Bool)} (refuses : RefusesWrites trace) :
    ClosedByFinish trace :=
  pairwise_of_forall_mem_list fun _ _ later member _ written => refuses later member written

namespace Phase

/-- What is written is what was accepted. -/
theorem written_run (phase : Phase) (ops : List StreamOp) :
    (phase.run ops).written = phase.written ++ acceptedBytes (phase.trace ops) := by
  induction ops generalizing phase with
  | nil => simp [run, trace, acceptedBytes]
  | cons op ops ih =>
    have stepped : (phase.step op).written =
        phase.written ++ if phase.accepts op then op.added else [] := by
      cases phase <;> cases op <;>
        simp [step, written, accepts, StreamOp.added, StreamOp.bytes?]
    rw [run, foldl_cons, ← run, ih, stepped, trace, acceptedBytes, acceptedBytes,
      flatMap_cons, append_assoc]

variable (written : List UInt8) (used : Bool)

theorem finished_refuses {ops : List StreamOp} :
    RefusesWrites ((finished written used).trace ops) := by
  induction ops with
  | nil => simp [RefusesWrites, trace]
  | cons op ops ih =>
    rw [trace, RefusesWrites, forall_mem_cons]
    refine ⟨fun writes => ?_, ih⟩
    cases op <;> simp_all [StreamOp.bytes?, accepts]

variable (ops : List StreamOp)

theorem streaming_refuses_iff :
    RefusesWrites ((streaming written used).trace ops) ↔
      ∀ op ∈ ops.takeWhile (· ≠ .finish), op.bytes? = none := by
  induction ops generalizing written used with
  | nil => simp [RefusesWrites, trace]
  | cons op ops ih =>
    rw [trace, RefusesWrites, forall_mem_cons]
    by_cases ends : op = .finish
    · subst ends
      exact iff_of_true ⟨by simp [StreamOp.bytes?], finished_refuses written used⟩ (by simp)
    · rw [streaming_step ends, takeWhile_cons_of_pos (by simpa using ends), forall_mem_cons]
      refine and_congr ?_ (ih _ _)
      simp [accepts]

theorem streaming_closed : ClosedByFinish ((streaming written used).trace ops) := by
  induction ops generalizing written used with
  | nil => exact List.Pairwise.nil
  | cons op ops ih =>
    rw [trace, ClosedByFinish, pairwise_cons]
    by_cases ends : op = .finish
    · subst ends
      exact ⟨fun entry member _ => finished_refuses written used entry member,
        (finished_refuses written used).closed⟩
    · rw [streaming_step ends]
      exact ⟨fun _ _ same => absurd same ends, ih _ _⟩

theorem effective_of_goesOn {op : StreamOp} (goesOn : op ≠ .finish) (ops : List StreamOp) :
    effective (op :: ops) = op :: ops.takeWhile (· ≠ .finish) := by
  rw [effective, dropWhile_cons_of_neg (by simpa using goesOn),
    takeWhile_cons_of_pos (by simpa using goesOn)]

variable (ops : List StreamOp)

theorem fresh_refuses_iff :
    RefusesWrites (fresh.trace ops) ↔ ∀ op ∈ effective ops, op.bytes? = none := by
  induction ops with
  | nil => simp [RefusesWrites, trace, effective]
  | cons op ops ih =>
    by_cases ends : op = .finish
    · subst ends
      have same : effective (.finish :: ops) = effective ops := rfl
      rw [same, ← ih, trace, RefusesWrites, forall_mem_cons]
      exact and_iff_right (by simp [StreamOp.bytes?])
    · rw [trace, fresh_step ends, effective_of_goesOn ends, RefusesWrites, forall_mem_cons,
        forall_mem_cons]
      exact and_congr (by simp [accepts]) (streaming_refuses_iff _ _ ops)

/-- A write behind a finish is accepted exactly if the finish came before the stream. -/
theorem fresh_closed_iff :
    ClosedByFinish (fresh.trace ops) ↔
      (ops.head? = some .finish → ∀ op ∈ effective ops, op.bytes? = none) := by
  cases ops with
  | nil => exact iff_of_true List.Pairwise.nil (by simp)
  | cons op ops =>
    rw [trace, ClosedByFinish, pairwise_cons]
    by_cases ends : op = .finish
    · subst ends
      have refuses : RefusesWrites (fresh.trace ops) ↔
          ∀ op ∈ effective (.finish :: ops), op.bytes? = none := fresh_refuses_iff ops
      rw [← refuses]
      exact ⟨fun closed _ entry member => closed.1 entry member rfl,
        fun all => ⟨fun entry member _ => all rfl entry member, (all rfl).closed⟩⟩
    rw [fresh_step ends]
    refine iff_of_true ⟨fun _ _ same => absurd same ends, streaming_closed _ _ ops⟩ fun first => ?_
    exact absurd (Option.some.inj first) ends

theorem streaming_used :
    ((streaming written used).run ops).used =
      (used || (ops.takeWhile (· ≠ .finish)).any StreamOp.opens) := by
  induction ops generalizing written used with
  | nil => simp [run, Phase.used]
  | cons op ops ih =>
    by_cases ends : op = .finish
    · subst ends
      have stays (ops : List StreamOp) :
          (finished written used).run ops = finished written used := by
        induction ops with
        | nil => rfl
        | cons op ops ih => exact ih
      have stepped : (streaming written used).run (.finish :: ops) = finished written used :=
        stays ops
      rw [stepped]
      simp [Phase.used]
    · rw [run, foldl_cons, streaming_step ends, ← run, ih,
        takeWhile_cons_of_pos (by simpa using ends), any_cons, Bool.or_assoc]

/-- The response will be used if an operation that takes effect begins it. -/
theorem fresh_used : (fresh.run ops).used = (effective ops).any StreamOp.opens := by
  induction ops with
  | nil => rfl
  | cons op ops ih =>
    by_cases ends : op = .finish
    · subst ends
      exact ih
    · rw [run, foldl_cons, fresh_step ends, ← run, streaming_used, effective_of_goesOn ends,
        any_cons]

end Phase

/-! ## The response -/

section

variable (libraries : ResolutionLibraries) (requestHeaders : HeaderMap)
  (answers : Int → ForwardResult) (method : Method)

/-- The client gets a response of the program with this status and these bytes. -/
def CarriesLocally (status : Option Nat) (bytes : List UInt8) (seen : Seen) : Prop :=
  seen.source = .program ∧ seen.status = outputStatus status ∧ seen.body = bytes

/-- Both ways to resolve the response give the streamed one exactly if it is used. -/
theorem carriesLocally_iff {context : ProxyVmContext} {phase : Phase} {status : Option Nat}
    (sound : context.Sound) (unplanned : context.postResponsePlan = none)
    (streams : Streams phase status context.responseOutput) :
    CarriesLocally status phase.written
        (resolveHttpGraphResponse libraries requestHeaders answers context).seen ∧
      CarriesLocally status phase.written
        ((resolveHttp1DownstreamResponse libraries requestHeaders answers context).seen method) ↔
    phase.used = true := by
  have phased := streams.phase
  rw [Phase.of] at phased
  cases held : context.responseOutput.bodyStream with
  | none =>
    rw [held] at phased
    subst phased
    refine iff_of_false (fun both => ?_) (by simp [Phase.used])
    have graph := both.1.1
    rw [resolveHttpGraphResponse, resolveHttpGraphResponseInner] at graph
    cases stored : nativeFastPath context with
    | some outcome =>
      rw [stored] at graph
      cases outcome <;> cases graph
    | none =>
      rw [stored, openStream, held, unplanned, streams.body] at graph
      exact resolveForwarded_source libraries answers graph
  | some stream =>
    rw [held] at phased
    have shape : phase.written = stream.written ∧ phase.used = stream.commits := by
      subst phased
      dsimp only
      split <;> exact ⟨rfl, rfl⟩
    obtain ⟨after, whole, -, resolved⟩ := resolveHttpGraphResponse_stream libraries requestHeaders
      answers sound unplanned held
    rw [resolveHttp1_stream libraries requestHeaders answers sound (by simp [held]),
      Http1Resolution.seen, and_self, resolved, shape.1, shape.2]
    cases stream.commits with
    | true =>
      refine iff_of_true ⟨rfl, ?_, whole⟩ rfl
      rw [← streams.status]
      rfl
    | false =>
      refine iff_of_false (fun carries => ?_) Bool.false_ne_true
      exact resolveForwarded_source libraries answers carries.1

/-- The operations have streamed a response: at any time the channel and the buffer hold what was
accepted, nothing is accepted behind a finish, and the client gets just that from the program. -/
structure StreamCarried (context : ProxyVmContext) (ops : List StreamOp) : Prop where
  whole : ∀ count, streamed (operate context (ops.take count)).2 =
    acceptedBytes (operate context (ops.take count)).1
  closed : ClosedByFinish (operate context ops).1
  graph : CarriesLocally context.responseOutput.status (acceptedBytes (operate context ops).1)
    (resolveHttpGraphResponse libraries requestHeaders answers (operate context ops).2).seen
  http1 : CarriesLocally context.responseOutput.status (acceptedBytes (operate context ops).1)
    ((resolveHttp1DownstreamResponse libraries requestHeaders answers
      (operate context ops).2).seen method)

/-- The operations of a program stream its response exactly if one that takes effect starts it or
writes a byte, and a finish that comes first is not followed by a write that takes effect. -/
theorem stream_carried_iff (context : ProxyVmContext) (sound : context.Sound)
    (unplanned : context.postResponsePlan = none)
    (unchosen : context.responseOutput.body = none ∧ context.responseOutput.bodyStream = none ∧
      context.responseOutput.bodySourceExchange = none) (ops : List StreamOp) :
    StreamCarried libraries requestHeaders answers method context ops ↔
      (effective ops).any StreamOp.opens = true ∧
        (ops.head? = some .finish → ∀ op ∈ effective ops, op.bytes? = none) := by
  have fresh : Streams .fresh context.responseOutput.status context.responseOutput :=
    ⟨sound.output, unchosen.1, unchosen.2.2, by rw [Phase.of, unchosen.2.1], rfl⟩
  have whole (count : Nat) : streamed (operate context (ops.take count)).2 =
      acceptedBytes (operate context (ops.take count)).1 := by
    obtain ⟨traced, node, behind, streams⟩ := operate_spec fresh
    rw [traced, behind, streamed_of_phase streams, Phase.written_run]
    rfl
  obtain ⟨traced, node, behind, streams⟩ := operate_spec fresh
  have after : ({ context with responseOutput := node } : ProxyVmContext).Sound :=
    ⟨streams.sound, sound.active, sound.pooled⟩
  have carries := carriesLocally_iff libraries requestHeaders answers method after unplanned streams
  rw [Phase.written_run, Phase.fresh_used] at carries
  rw [← carries, ← Phase.fresh_closed_iff, ← traced, ← behind]
  exact ⟨fun carried => ⟨⟨carried.graph, carried.http1⟩, carried.closed⟩,
    fun parts => ⟨whole, parts.2, parts.1.1, parts.1.2⟩⟩

end

/-- A default exchange without a target. -/
def untargeted : Route := ⟨false, false, false, .auto, false, true, false, false, false⟩

/-- Errors by their text, and keys as they are. -/
def plainLibraries : ResolutionLibraries :=
  ⟨fun | .hostError message => message.toList, fun key => key⟩

/-- No upstream answers. -/
def unanswered : Int → ForwardResult := fun _ => .error .missingTarget

/-- A response that is started and then written to implicitly. -/
theorem stream_carried_sample :
    StreamCarried plainLibraries [] unanswered .get (.new untargeted)
      [.start, .append [97, 98], .write [], .finish, .write [99]] :=
  (stream_carried_iff plainLibraries [] unanswered .get (.new untargeted)
    (ProxyVmContext.Sound.new untargeted) rfl ⟨rfl, rfl, rfl⟩ _).mpr ⟨by decide, by decide⟩

/-- A program that writes an empty body is answered with a response that is not its own, and a
write behind a finish of nothing is accepted. -/
theorem empty_stream_not_served :
    (resolveHttpGraphResponse plainLibraries [] unanswered
      (operate (.new untargeted) [.write [], .finish]).2).response.status.code = 404 ∧
    ¬ StreamCarried plainLibraries [] unanswered .get (.new untargeted) [.write [], .finish] ∧
    ¬ StreamCarried plainLibraries [] unanswered .get (.new untargeted) [.finish, .write [97]] := by
  refine ⟨by decide, fun carried => ?_, fun carried => ?_⟩
  · exact absurd carried.graph.1 (by decide)
  · have refused := (pairwise_cons.mp carried.closed).1 (.write [97], true)
    exact absurd (refused (by decide) rfl rfl) (by decide)

end PdEdge.Output

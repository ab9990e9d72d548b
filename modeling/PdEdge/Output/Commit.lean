import PdEdge.Output.Fidelity
import PdEdge.State.HeaderCalls

/-!
# A program that fails behind its committed response

A program and the response to its request are two tasks that share the context. Once the stream
of the response is committed, the response task may resolve it at any time, while the program
still writes; it also waits for the end of the program, and takes whichever it sees first. The
end of the program finishes the stream, whether the program has failed or not, and no error is
ever put on the channel.
-/

namespace PdEdge.Output

open State HttpResponseOutputNode StreamOp HeaderMap ProxyVmContext List
open DownstreamResponseBodyStream

/-- `VmExecutionError`, with what its errors say. -/
inductive VmExecutionError where
  | hostRegistration (message : List Char)
  | vm (message : List Char)

/-- `data_plane_vm_execution_error_response`. -/
def executionErrorResponse : VmExecutionError → GraphResponse
  | .hostRegistration message => internalServerError ("host registration error: ".toList ++ message)
  | .vm message => internalServerError ("vm execution error: ".toList ++ message)

/-- The calls of a program, and how it ends. -/
structure ProgramRun where
  route : Route
  calls : List ProgramCall
  result : Except VmExecutionError Unit

/-- The order of the two tasks: the response task resolves a committed stream when the program
has made some of its steps, or it sees the end of the program first. -/
inductive Schedule where
  | committed (steps : Nat)
  | executed

/-- How the body of a response ends for the client. -/
inductive Ending where
  | complete
  | failed
  /-- More is awaited. -/
  | unfinished
  deriving DecidableEq

/-- A response with all of its body that the client ever gets. -/
structure Delivered where
  status : StatusCode
  headers : HeaderMap
  body : List UInt8
  ending : Ending
  source : ResponseSource

namespace ProgramRun

variable (run : ProgramRun)

/-- `run_prepared_data_plane_http_request_context`: the calls, and the finish behind them. -/
def steps : List ProgramCall := run.calls ++ [.finishStream]

/-- The context when the program has made some of its steps. -/
def contextAt (count : Nat) : ProxyVmContext := runCalls (.new run.route) (run.steps.take count)

/-- The context at the end of the program. -/
def final : ProxyVmContext := run.contextAt run.steps.length

end ProgramRun

/-- The body of a stream is read from the channel until its sender is gone; only chunks are ever
sent on it. -/
def deliver (last : ProxyVmContext) (resolved : Resolved) : Delivered :=
  match resolved.response.body, last.responseOutput.bodyStream with
  | .channel _ _, some stream =>
    ⟨resolved.response.status, resolved.response.headers, stream.sent.flatten,
      if stream.sender then .unfinished else .complete, resolved.source⟩
  | body, _ =>
    ⟨resolved.response.status, resolved.response.headers, body.content, .complete, resolved.source⟩

section

variable (libraries : ResolutionLibraries) (requestHeaders : HeaderMap)
  (answers : Int → ForwardResult)

/-- `handle_data_plane_http_request_context`: what the client gets under a schedule, if the
schedule is possible. A program that never streams has only the second one. The receiver that a
resolution takes is not looked at by the program. -/
def handleRequest (run : ProgramRun) : Schedule → Option Delivered
  | .committed count =>
    if (run.contextAt count).responseOutput.streamCommitted then
      some (deliver run.final (resolveCommittedHttpGraphResponse libraries requestHeaders answers
        (run.contextAt count)))
    else none
  | .executed =>
    match run.result with
    | .error err => some (deliver run.final ⟨executionErrorResponse err, .nobody⟩)
    | .ok () =>
      some (deliver run.final (resolveHttpGraphResponse libraries requestHeaders answers run.final))

/-- The stream is committed by this step. -/
def ProgramRun.CommitsAt (run : ProgramRun) (count : Nat) : Prop :=
  (run.contextAt count).responseOutput.streamCommitted = true ∧
    ∀ earlier < count, (run.contextAt earlier).responseOutput.streamCommitted = false

/-- The program has ended with an error before it has finished the stream. -/
def ProgramRun.FailsStreaming (run : ProgramRun) : Prop :=
  (∃ err, run.result = .error err) ∧
    ∀ stream ∈ (run.contextAt run.calls.length).responseOutput.bodyStream, stream.finished = false

/-- The committed response reaches the client, and a failure is seen. -/
structure Shows (run : ProgramRun) (count : Nat) (delivered : Delivered) : Prop where
  source : delivered.source = .program
  status : delivered.status = outputStatus (run.contextAt count).responseOutput.status
  headers : ∀ name, delivered.headers.getAll name =
    (run.contextAt count).responseOutput.headers.getAll name
  body : delivered.body <+: streamed run.final
  failure : run.FailsStreaming → delivered.ending = .failed

end

/-! ## Behind the commit -/

/-- The operation on the stream that a call is. -/
def ProgramCall.streamOp? : ProgramCall → Option StreamOp
  | .startStream => some .start
  | .writeStream chunk => some (.write chunk)
  | .appendBody bytes => some (.append bytes)
  | .finishStream => some .finish
  | _ => none

/-- The headers behind a write. -/
def writtenHeaders (bytes : List UInt8) (headers : HeaderMap) : HeaderMap :=
  if !bytes.isEmpty && !(headers.remove .contentLength).containsKey .contentType then
    (headers.remove .contentLength).insert .contentType .textPlain
  else headers.remove .contentLength

/-- What an operation does to the headers of a committed response. -/
def StreamOp.lateHeaders (op : StreamOp) (headers : HeaderMap) : HeaderMap :=
  match op with
  | .finish => headers
  | .start => headers.remove .contentLength
  | .write bytes => writtenHeaders bytes headers
  | .append bytes => writtenHeaders bytes headers

section

variable {context : ProxyVmContext}

attribute [local simp] ensureDownstreamResponseHeadMutable ProgramCall.streamOp?

theorem committed_stream {node : HttpResponseOutputNode} (committed : node.streamCommitted = true) :
    ∃ stream, node.bodyStream = some stream ∧ stream.committed = true := by
  simpa [streamCommitted, Option.any_eq_true] using committed

theorem checked_committed {α : Type} {check : Except VmError α}
    {called : α → Except VmError Unit × ProxyVmContext}
    (same : ∀ value, (called value).2.responseOutput = context.responseOutput) :
    (ProgramCall.checked context check called).2.responseOutput = context.responseOutput := by
  cases check with
  | error err => rfl
  | ok value => exact same value

/-- With a stream, the response of no other exchange is applied. -/
theorem applyExchange_committed (present : context.responseOutput.bodyStream.isSome = true)
    {unavailable : String} {answer : ForwardResult} {exchange : Int} :
    ∃ err after, context.applyExchange unavailable answer exchange = (.error err, after) ∧
      after.responseOutput = context.responseOutput := by
  have kept := context.start_keeps answer exchange
  rw [applyExchange]
  generalize context.startOutboundExchangeResponse answer exchange = started at kept
  obtain ⟨result, after⟩ := started
  have same : after.responseOutput = context.responseOutput := kept
  cases result with
  | error err => exact ⟨_, after, rfl, same⟩
  | ok snapshot => simp [onOutput, same, present]

/-- Behind the commit only the operations on the stream change the output. -/
theorem run_committed
    (committed : context.responseOutput.streamCommitted = true) {call : ProgramCall} :
    (call.run context).2.responseOutput =
      (call.streamOp?.elim context.responseOutput fun op => (op.on context.responseOutput).2) := by
  obtain ⟨stream, held, -⟩ := committed_stream committed
  have present : context.responseOutput.bodyStream.isSome = true := by rw [held]; rfl
  have inserted (headers : HeaderMap) :
      (context.insertDownstreamResponseHeaders headers).2.responseOutput =
        context.responseOutput := by
    simp [insertDownstreamResponseHeaders, committed]
  have edited (edit : HeaderMap → HeaderMap) :
      (context.onOutput (·.editHeaders edit)).2.responseOutput = context.responseOutput := by
    simp [onOutput, editHeaders, committed]
  cases call with
  | setStatus status =>
    refine checked_committed fun code => ?_
    simp [setDownstreamResponseStatus, committed]
  | setHeader name value => exact checked_committed fun entry => inserted [entry]
  | setHeaders headers => exact checked_committed inserted
  | addHeader name value => exact checked_committed fun entry => edited _
  | clearHeader name => exact checked_committed fun name => edited _
  | setBody body => simp [ProgramCall.run, onOutput, setBody, present]
  | startStream | writeStream chunk | finishStream | appendBody bytes | configureDefault route =>
    rfl
  | applyExchange exchange answer =>
    obtain ⟨err, after, applied, same⟩ := applyExchange_committed present
    exact (congrArg (·.2.responseOutput) applied).trans same
  | applyExchangeWithHeaders exchange headers answer =>
    refine checked_committed fun parsed => ?_
    obtain ⟨err, after, applied, same⟩ := applyExchange_committed present
    rw [applied]
    exact same
  | getBody answer read =>
    simp [ProgramCall.run, materializeDownstreamResponseBodySource, hasLocalBody, present]
  | startExchange exchange answer => exact context.start_keeps answer exchange
  | readExchangeBody exchange answer left =>
    have kept := (context.noteExchangeResponseBodyRead exchange).start_keeps answer exchange
    rw [ProgramCall.run, readExchangeBody]
    generalize (context.noteExchangeResponseBodyRead exchange).startOutboundExchangeResponse answer
      exchange = started at kept
    obtain ⟨result, after⟩ := started
    cases result <;> exact kept
  | forwardDefault outcome answer =>
    rw [ProgramCall.run, ProxyVmContext.scheduleDefaultUpstreamHttpForward]
    split
    · rfl
    · split
      · rfl
      · exact context.start_keeps answer defaultUpstreamExchangeHandle
  | schedulePlan plan =>
    rw [ProgramCall.run, scheduleDownstreamPostResponsePlan]
    split <;> rfl

attribute [local simp] streamCommitted

/-- A committed stream stays committed. -/
theorem on_committed {node : HttpResponseOutputNode} (sound : node.Sound)
    (committed : node.streamCommitted = true) (op : StreamOp) :
    (op.on node).2.streamCommitted = true ∧ (op.on node).2.status = node.status ∧
      (op.on node).2.headers = op.lateHeaders node.headers := by
  obtain ⟨stream, held, committed⟩ := committed_stream committed
  obtain ⟨order, heard, -⟩ := sound.stream stream held
  obtain ⟨free, loose⟩ := sound.streams (by simp [held])
  have performed {op : StreamOp} {operation : DownstreamResponseBodyStream →
      Except VmError Bool × DownstreamResponseBodyStream} (performs : Performs op operation) :
      (operation stream).2.committed = true := by
    cases finished : stream.finished with
    | true => rw [performs.closed stream finished]; exact committed
    | false => exact (performs.opened stream order heard finished).1.committed committed
  have written (bytes : List UInt8) (mode : DownstreamResponseStreamWriteMode)
      (later : (stream.writeBytes bytes mode).2.committed = true) :
      (node.writeStreamBytes bytes mode).2.streamCommitted = true ∧
        (node.writeStreamBytes bytes mode).2.status = node.status ∧
        (node.writeStreamBytes bytes mode).2.headers = writtenHeaders bytes node.headers := by
    by_cases typed : (!bytes.isEmpty &&
        !(node.headers.remove .contentLength).containsKey .contentType) = true <;>
      simp [writeStreamBytes, free, loose, onStream, syncStreamHeaders, defaultContentType,
        writtenHeaders, held, typed, later]
  cases op with
  | start =>
    have later := performed performs_start
    simp [on, startStream, free, loose, onStream, syncStreamHeaders, lateHeaders, held, later]
  | write bytes =>
    exact written bytes .explicitImmediate (performed (performs_write (.write bytes) rfl))
  | append bytes =>
    exact written bytes .implicitBuffered (performed (performs_write (.append bytes) rfl))
  | finish =>
    have later : stream.finish.2.committed = true := by
      rw [(stream.finish_spec order heard).2.2.2.2.2.2]
      simp [commits, committed]
    simp [on, finishStream, held, lateHeaders, later]

/-- What a call does to the headers of a committed response. -/
def ProgramCall.lateHeaders (call : ProgramCall) (headers : HeaderMap) : HeaderMap :=
  call.streamOp?.elim headers fun op => op.lateHeaders headers

/-- Behind the commit, the status stays and the headers only follow the operations. -/
theorem runCalls_committed (sound : context.Sound)
    (committed : context.responseOutput.streamCommitted = true) {calls : List ProgramCall} :
    (runCalls context calls).responseOutput.streamCommitted = true ∧
      (runCalls context calls).responseOutput.status = context.responseOutput.status ∧
      (runCalls context calls).responseOutput.headers =
        calls.foldl (fun headers call => call.lateHeaders headers)
          context.responseOutput.headers := by
  induction calls generalizing context with
  | nil => exact ⟨committed, rfl, rfl⟩
  | cons call calls ih =>
    have stepped : (call.run context).2.responseOutput.streamCommitted = true ∧
        (call.run context).2.responseOutput.status = context.responseOutput.status ∧
        (call.run context).2.responseOutput.headers =
          call.lateHeaders context.responseOutput.headers := by
      rw [run_committed committed, ProgramCall.lateHeaders]
      cases call.streamOp? with
      | none => exact ⟨committed, rfl, rfl⟩
      | some op => exact on_committed sound.output committed op
    obtain ⟨later, status, headers⟩ := ih (sound.run call).sound stepped.1
    refine ⟨later, status.trans stepped.2.1, ?_⟩
    rw [runCalls, headers, stepped.2.2, foldl_cons]

end

/-! ## Headers that do not move -/

/-- The call begins or writes to the stream. -/
def ProgramCall.streams (call : ProgramCall) : Bool := call.streamOp?.any (· ≠ .finish)

/-- The call writes bytes to the stream. -/
def ProgramCall.writesBytes (call : ProgramCall) : Bool :=
  call.streamOp?.any fun op => !op.added.isEmpty

/-- Calls that leave the headers of a committed response as they are. -/
def Unmoved (headers : HeaderMap) (calls : List ProgramCall) : Prop :=
  (headers.containsKey .contentLength → ∀ call ∈ calls, call.streams = false) ∧
    (headers.containsKey .contentType = false → ∀ call ∈ calls, call.writesBytes = false)

attribute [local simp] containsKey_remove bytes? added

/-- What a call does to the two headers that it may change. -/
theorem containsKey_lateHeaders {call : ProgramCall} {headers : HeaderMap} :
    (call.lateHeaders headers).containsKey .contentLength =
        (headers.containsKey .contentLength && !call.streams) ∧
      (call.lateHeaders headers).containsKey .contentType =
        (headers.containsKey .contentType || call.writesBytes) := by
  have apart : (HeaderName.contentType = .contentLength) = False := by decide +kernel
  have apart' : (HeaderName.contentLength = .contentType) = False := by decide +kernel
  have written (bytes : List UInt8) :
      (writtenHeaders bytes headers).containsKey .contentLength = false ∧
        (writtenHeaders bytes headers).containsKey .contentType =
          (headers.containsKey .contentType || !bytes.isEmpty) := by
    rw [writtenHeaders]
    cases bytes with
    | nil => simp [apart]
    | cons byte bytes =>
      cases typed : headers.containsKey .contentType <;>
        simp [containsKey_insert, apart, apart', typed]
  rw [ProgramCall.lateHeaders, ProgramCall.streams, ProgramCall.writesBytes]
  cases call.streamOp? with
  | none => simp
  | some op =>
    cases op with
    | finish => simp [lateHeaders]
    | start => simp [lateHeaders, apart]
    | write bytes | append bytes => simpa [lateHeaders] using written bytes

/-- A call that is among the unmoving ones moves nothing. -/
theorem lateHeaders_unmoved {headers : HeaderMap} {call : ProgramCall}
    (length : headers.containsKey .contentLength → call.streams = false)
    (type : headers.containsKey .contentType = false → call.writesBytes = false) :
    call.lateHeaders headers = headers := by
  rw [ProgramCall.streams] at length
  rw [ProgramCall.writesBytes] at type
  rw [ProgramCall.lateHeaders]
  cases found : call.streamOp? with
  | none => rfl
  | some op =>
    rw [found] at length type
    have unframed (goesOn : op ≠ .finish) : headers.containsKey .contentLength = false := by
      cases framed : headers.containsKey .contentLength with
      | false => rfl
      | true => simp [goesOn] at length; exact absurd framed (by simp [length])
    have written (bytes : List UInt8) (absent : headers.containsKey .contentLength = false)
        (typed : headers.containsKey .contentType = false → bytes.isEmpty = true) :
        writtenHeaders bytes headers = headers := by
      rw [writtenHeaders, remove_absent absent, if_neg]
      intro both
      simp only [Bool.and_eq_true, Bool.not_eq_true'] at both
      exact Bool.false_ne_true (both.1.symm.trans (typed both.2))
    cases op with
    | finish => rfl
    | start => exact remove_absent (unframed (by simp))
    | write bytes | append bytes =>
      exact written bytes (unframed (by simp)) fun absent => by simpa using type absent

variable {calls : List ProgramCall}

theorem foldl_unmoved {headers : HeaderMap} (unmoved : Unmoved headers calls) :
    calls.foldl (fun headers call => call.lateHeaders headers) headers = headers := by
  induction calls with
  | nil => rfl
  | cons call calls ih =>
    obtain ⟨length, type⟩ := unmoved
    rw [foldl_cons, lateHeaders_unmoved (fun framed => length framed call mem_cons_self)
      fun untyped => type untyped call mem_cons_self]
    exact ih ⟨fun framed call member => length framed call (mem_cons_of_mem _ member),
      fun untyped call member => type untyped call (mem_cons_of_mem _ member)⟩

theorem containsKey_foldl {calls : List ProgramCall} (headers : HeaderMap) :
    (calls.foldl (fun headers call => call.lateHeaders headers) headers).containsKey
        .contentLength = (headers.containsKey .contentLength && !calls.any ProgramCall.streams) ∧
      (calls.foldl (fun headers call => call.lateHeaders headers) headers).containsKey
        .contentType = (headers.containsKey .contentType || calls.any ProgramCall.writesBytes) := by
  induction calls generalizing headers with
  | nil => simp
  | cons call calls ih =>
    obtain ⟨length, type⟩ := containsKey_lateHeaders
    rw [foldl_cons, (ih _).1, (ih _).2, length, type]
    simp [Bool.and_assoc, Bool.or_assoc]

/-- Calls that leave both headers there, or away, move nothing. -/
theorem unmoved_of_same {headers : HeaderMap}
    (same : ∀ name, (calls.foldl (fun headers call => call.lateHeaders headers)
      headers).containsKey name = headers.containsKey name) : Unmoved headers calls := by
  obtain ⟨length, type⟩ := containsKey_foldl headers
  rw [same] at length type
  constructor
  · intro framed call member
    rw [framed, Bool.true_and, eq_comm, Bool.not_eq_true', any_eq_false] at length
    simpa using length call member
  · intro untyped call member
    rw [untyped, Bool.false_or, eq_comm, any_eq_false] at type
    simpa using type call member

/-! ## Schedules -/

theorem runCalls_append (context : ProxyVmContext) (calls more : List ProgramCall) :
    runCalls context (calls ++ more) = runCalls (runCalls context calls) more := by
  induction calls generalizing context with
  | nil => rfl
  | cons call calls ih => exact ih (call.run context).2

section

variable (libraries : ResolutionLibraries) (requestHeaders : HeaderMap)
  (answers : Int → ForwardResult) (run : ProgramRun)

namespace ProgramRun

theorem sound_contextAt (count : Nat) : (run.contextAt count).Sound :=
  ((ProxyVmContext.Sound.new run.route).runCalls _).sound

theorem contextAt_later {count later : Nat} (order : count ≤ later) :
    run.contextAt later = runCalls (run.contextAt count) ((run.steps.take later).drop count) := by
  rw [contextAt, contextAt, ← runCalls_append]
  congr 1
  have front : (run.steps.take later).take count = run.steps.take count := by
    rw [take_take, Nat.min_eq_left order]
  rw [← front, take_append_drop]

theorem contextAt_end {count : Nat} : ∃ calls,
  run.final = runCalls (run.contextAt count) calls := by
  refine ⟨run.steps.drop count, ?_⟩
  rw [final, contextAt, contextAt, ← runCalls_append, take_length, take_append_drop]

variable {run}

/-- Behind the commit the stream is there, and what is left of the program moves the headers. -/
theorem CommitsAt.later {count : Nat} (commits : run.CommitsAt count) (later : Nat)
    (committed : (run.contextAt later).responseOutput.streamCommitted = true) :
    (run.contextAt later).responseOutput.status = (run.contextAt count).responseOutput.status ∧
      (run.contextAt later).responseOutput.headers =
        ((run.steps.take later).drop count).foldl (fun headers call => call.lateHeaders headers)
          (run.contextAt count).responseOutput.headers := by
  have order : count ≤ later := by
    by_contra early
    rw [commits.2 later (by omega)] at committed
    cases committed
  obtain ⟨-, status, headers⟩ := runCalls_committed (run.sound_contextAt count) commits.1
  rw [run.contextAt_later order]
  exact ⟨status, headers⟩

/-- What is left of the program moves no header. -/
theorem CommitsAt.headers_later {count later : Nat} (commits : run.CommitsAt count)
    (unmoved : Unmoved (run.contextAt count).responseOutput.headers (run.steps.drop count))
    (committed : (run.contextAt later).responseOutput.streamCommitted = true) :
    (run.contextAt later).responseOutput.headers =
      (run.contextAt count).responseOutput.headers := by
  rw [(commits.later later committed).2, foldl_unmoved]
  rw [drop_take]
  exact ⟨fun framed call member => unmoved.1 framed call (mem_of_mem_take member),
    fun untyped call member => unmoved.2 untyped call (mem_of_mem_take member)⟩

end ProgramRun

variable {context : ProxyVmContext}

/-- A committed response as it is resolved in the middle of the program. -/
theorem resolveCommitted_stream (sound : context.Sound)
    (committed : context.responseOutput.streamCommitted = true)
    (unplanned : context.postResponsePlan = none) :
    ∃ stream, resolveCommittedHttpGraphResponse libraries requestHeaders answers context =
      ⟨responseFromOutputStream stream context.responseOutput.headers
        context.responseOutput.status, .program⟩ := by
  obtain ⟨stream, held, committed⟩ := committed_stream committed
  obtain ⟨-, -, receiver⟩ := sound.output.stream stream held
  have free := (sound.output.streams (by simp [held])).1
  refine ⟨{ stream with receiver := false }, ?_⟩
  simp [resolveCommittedHttpGraphResponse, resolveHttpGraphResponseInner, nativeFastPath,
    hasLocalBody, openStream, held, committed, takeReceiver, receiver, unplanned, free]

/-- The stream of a context that is in order can be opened. -/
theorem openStream_ok {node : HttpResponseOutputNode} (sound : node.Sound) (finish : Bool) :
    ∃ stream, openStream finish node = .ok stream := by
  cases held : node.bodyStream with
  | none => exact ⟨none, by rw [openStream, held]⟩
  | some stream =>
    obtain ⟨order, heard, receiver⟩ := sound.stream stream held
    cases finish with
    | true =>
      obtain ⟨after, -, -, opened⟩ := openStream_finish held order heard receiver
      exact ⟨_, opened⟩
    | false =>
      cases committed : stream.committed <;>
        simp [openStream, held, committed, takeReceiver, receiver]

theorem deliver_source (last : ProxyVmContext) (resolved : Resolved) :
    (deliver last resolved).source = resolved.source := by
  rw [deliver]
  split <;> rfl

/-- A plan hides a committed response. -/
theorem unplanned_of_source (sound : context.Sound) {finish : Bool}
    (source : (deliver context (resolveHttpGraphResponseInner libraries requestHeaders answers
      context finish)).source = .program) : context.postResponsePlan = none := by
  cases found : context.postResponsePlan with
  | none => rfl
  | some plan =>
    obtain ⟨stream, opened⟩ := openStream_ok sound.output finish
    simp only [deliver_source, resolveHttpGraphResponseInner, nativeFastPath, found, opened,
      Option.isNone_some, Bool.false_and, Bool.false_eq_true, ↓reduceIte] at source
    cases plan <;> cases source

section

variable (committed : run.final.responseOutput.streamCommitted = true)
include committed

/-- The end of the program has finished the stream, and all that was written is sent. -/
theorem final_stream :
    ∃ stream : DownstreamResponseBodyStream,
      run.final.responseOutput.bodyStream = some stream ∧ stream.sender = false ∧
      stream.sent.flatten = streamed run.final := by
  have ended : run.final = runCalls (run.contextAt run.calls.length) [.finishStream] := by
    rw [ProgramRun.final, ProgramRun.contextAt, ProgramRun.contextAt, take_length,
      ProgramRun.steps, take_left, runCalls_append]
  have sound := run.sound_contextAt run.calls.length
  have finished : run.final.responseOutput =
      (run.contextAt run.calls.length).responseOutput.finishStream.2 := by rw [ended]; rfl
  rw [finished, streamCommitted] at committed
  cases held : (run.contextAt run.calls.length).responseOutput.bodyStream with
  | none => simp [finishStream, held] at committed
  | some stream =>
    obtain ⟨order, heard, -⟩ := sound.output.stream stream held
    obtain ⟨-, after, -, closed, -, -, -⟩ := stream.finish_spec order heard
    have found : run.final.responseOutput.bodyStream = some stream.finish.2 := by
      rw [finished, finishStream, held]
      rfl
    refine ⟨stream.finish.2, found, by simp [after.sends, closed], ?_⟩
    rw [streamed, found]
    simp [written, after.flushed closed]

/-- The client gets all that was written of a stream that is resolved, as a complete body. -/
theorem deliver_stream (stream : DownstreamResponseBodyStream) (headers : HeaderMap)
    (status : Option Nat) :
    deliver run.final ⟨responseFromOutputStream stream headers status, .program⟩ =
      ⟨outputStatus status, mergeHeaders [] headers, streamed run.final, .complete, .program⟩ := by
  obtain ⟨last, found, ended, whole⟩ := final_stream run committed
  simp [deliver, responseFromOutputStream, found, ended, whole]

end

/-- The schedules under which a committed response can be resolved. -/
theorem handle_committed {count later : Nat} (commits : run.CommitsAt count)
    (unplanned : run.final.postResponsePlan = none)
    (committed : (run.contextAt later).responseOutput.streamCommitted = true) :
    handleRequest libraries requestHeaders answers run (.committed later) =
      some ⟨outputStatus (run.contextAt count).responseOutput.status,
        mergeHeaders [] (run.contextAt later).responseOutput.headers,
        streamed run.final, .complete, .program⟩ := by
  obtain ⟨calls, ended⟩ := run.contextAt_end
  have free : (run.contextAt later).postResponsePlan = none := by
    cases planned : (run.contextAt later).postResponsePlan with
    | none => rfl
    | some plan =>
      have present : (run.contextAt later).postResponsePlan.isSome = true := by simp [planned]
      have stays := ((run.sound_contextAt later).runCalls calls).plan present
      rw [← ended, unplanned] at stays
      cases stays
  have last : run.final.responseOutput.streamCommitted = true := by
    rw [ended]
    exact (runCalls_committed (run.sound_contextAt later) committed).1
  obtain ⟨stream, resolved⟩ := resolveCommitted_stream libraries requestHeaders answers
    (run.sound_contextAt later) committed free
  rw [handleRequest, if_pos committed, resolved, deliver_stream run last,
    (commits.later later committed).1]

/-- A stream that was committed is committed at the end. -/
theorem final_committed {count : Nat} (commits : run.CommitsAt count) :
    run.final.responseOutput.streamCommitted = true := by
  obtain ⟨calls, ended⟩ := run.contextAt_end
  rw [ended]
  exact (runCalls_committed (run.sound_contextAt count) commits.1).1

/-- If the headers at the end are there as they were at the commit, none was moved. -/
theorem unmoved_of_final {count : Nat} (commits : run.CommitsAt count)
    (same : ∀ name, run.final.responseOutput.headers.containsKey name =
      (run.contextAt count).responseOutput.headers.containsKey name) :
    Unmoved (run.contextAt count).responseOutput.headers (run.steps.drop count) := by
  have moved := (commits.later run.steps.length (final_committed run commits)).2
  rw [take_length] at moved
  exact unmoved_of_same (moved ▸ same)

/-- A response that is resolved at the end of a program without an error. -/
theorem handle_executed {count : Nat} (commits : run.CommitsAt count)
    (unplanned : run.final.postResponsePlan = none) (ok : run.result = .ok ()) :
    handleRequest libraries requestHeaders answers run .executed =
      some ⟨outputStatus (run.contextAt count).responseOutput.status,
        mergeHeaders [] run.final.responseOutput.headers,
        streamed run.final, .complete, .program⟩ := by
  have committed := final_committed run commits
  obtain ⟨stream, held, begun⟩ := committed_stream committed
  obtain ⟨after, -, -, resolved⟩ := resolveHttpGraphResponse_stream libraries requestHeaders answers
    (run.sound_contextAt run.steps.length) unplanned held
  have used : stream.commits = true := by
    simp [DownstreamResponseBodyStream.commits, begun]
  rw [if_pos used] at resolved
  have status := (commits.later run.steps.length committed).1
  rw [handleRequest, ok]
  rw [ProgramRun.final, resolved, ← ProgramRun.final, deliver_stream run committed, ← status]
  rfl

/-- Under every schedule the client gets the committed response, and sees a failure behind it,
exactly if the program does not fail once the stream is committed, plans no tunnel, repeats no
header, and moves none by what it writes behind the commit. -/
theorem commit_shown_iff :
    (∀ schedule delivered,
      handleRequest libraries requestHeaders answers run schedule = some delivered →
      ∀ count, run.CommitsAt count → Shows run count delivered) ↔
    ∀ count, run.CommitsAt count → run.result = .ok () ∧ run.final.postResponsePlan = none ∧
      Single (run.contextAt count).responseOutput.headers ∧
      Unmoved (run.contextAt count).responseOutput.headers (run.steps.drop count) := by
  constructor
  · intro shown count commits
    have ok : run.result = .ok () := by
      cases result : run.result with
      | ok done => rfl
      | error err =>
        have handled : handleRequest libraries requestHeaders answers run .executed =
            some (deliver run.final ⟨executionErrorResponse err, .nobody⟩) := by
          rw [handleRequest, result]
        have source := (shown _ _ handled count commits).source
        rw [deliver_source] at source
        cases source
    have unplanned : run.final.postResponsePlan = none := by
      have handled : handleRequest libraries requestHeaders answers run .executed =
          some (deliver run.final
            (resolveHttpGraphResponse libraries requestHeaders answers run.final)) := by
        rw [handleRequest, ok]
      exact unplanned_of_source libraries requestHeaders answers
        (run.sound_contextAt run.steps.length) (shown _ _ handled count commits).source
    refine ⟨ok, unplanned, fun name => ?_, unmoved_of_final run commits fun name => ?_⟩
    · have handled := handle_committed libraries requestHeaders answers run commits unplanned
        commits.1
      exact (getAll_merge_nil_iff _).mp ((shown _ _ handled count commits).headers name)
    have handled := handle_executed libraries requestHeaders answers run commits unplanned ok
    have same := (shown _ _ handled count commits).headers name
    rw [← containsKey_merge_nil, Bool.eq_iff_iff, containsKey_iff, containsKey_iff, ← same]
  · intro good schedule delivered handled count commits
    obtain ⟨ok, unplanned, single, unmoved⟩ := good count commits
    have shows {later : Nat}
        (committed : (run.contextAt later).responseOutput.streamCommitted = true) :
        Shows run count ⟨outputStatus (run.contextAt count).responseOutput.status,
          mergeHeaders [] (run.contextAt later).responseOutput.headers,
          streamed run.final, .complete, .program⟩ := by
      refine ⟨rfl, rfl, fun name => ?_, prefix_rfl, fun fails => ?_⟩
      · rw [commits.headers_later unmoved committed]
        exact (getAll_merge_nil_iff _).mpr (single name)
      · obtain ⟨⟨err, failed⟩, -⟩ := fails
        cases ok.symm.trans failed
    cases schedule with
    | committed later =>
      by_cases committed : (run.contextAt later).responseOutput.streamCommitted = true
      · rw [handle_committed libraries requestHeaders answers run commits unplanned
          committed] at handled
        cases handled
        exact shows committed
      · rw [handleRequest, if_neg committed] at handled
        cases handled
    | executed =>
      rw [handle_executed libraries requestHeaders answers run commits unplanned ok] at handled
      cases handled
      exact shows (final_committed run commits)

/-- The head of a committed response stays as it is, and is the one that is sent. -/
structure KeepsHead (run : ProgramRun) (count later : Nat) : Prop where
  status : (run.contextAt later).responseOutput.status = (run.contextAt count).responseOutput.status
  headers : (run.contextAt later).responseOutput.headers =
    (run.contextAt count).responseOutput.headers
  sent : ∃ delivered,
    handleRequest libraries requestHeaders answers run (.committed later) = some delivered ∧
    delivered.source = .program ∧
    delivered.status = outputStatus (run.contextAt count).responseOutput.status ∧
    ∀ name, delivered.headers.getAll name = (run.contextAt count).responseOutput.headers.getAll name

/-- Whenever a committed response is resolved, its head is the one of the commit, exactly if the
program plans no tunnel, repeats no header, and moves none by what it writes behind the commit. -/
theorem committed_head_kept_iff :
    (∀ count later, run.CommitsAt count → count ≤ later →
      KeepsHead libraries requestHeaders answers run count later) ↔
    ∀ count, run.CommitsAt count → run.final.postResponsePlan = none ∧
      Single (run.contextAt count).responseOutput.headers ∧
      Unmoved (run.contextAt count).responseOutput.headers (run.steps.drop count) := by
  constructor
  · intro kept count commits
    have ended : run.contextAt (count + run.steps.length) = run.final := by
      rw [ProgramRun.final, ProgramRun.contextAt, ProgramRun.contextAt, take_length,
        take_of_length_le (Nat.le_add_left _ _)]
    have last := kept count _ commits (Nat.le_add_right count run.steps.length)
    have unplanned : run.final.postResponsePlan = none := by
      obtain ⟨delivered, handled, source, -⟩ := last.sent
      rw [handleRequest, ended, if_pos (final_committed run commits)] at handled
      cases handled
      exact unplanned_of_source libraries requestHeaders answers
        (run.sound_contextAt run.steps.length) source
    refine ⟨unplanned, fun name => ?_, unmoved_of_final run commits fun name => ?_⟩
    · obtain ⟨delivered, handled, -, -, headers⟩ := (kept count count commits le_rfl).sent
      rw [handle_committed libraries requestHeaders answers run commits unplanned
        commits.1] at handled
      cases handled
      exact (getAll_merge_nil_iff _).mp (headers name)
    · rw [← ended, last.headers]
  · intro good count later commits order
    obtain ⟨unplanned, single, unmoved⟩ := good count commits
    have committed : (run.contextAt later).responseOutput.streamCommitted = true := by
      rw [run.contextAt_later order]
      exact (runCalls_committed (run.sound_contextAt count) commits.1).1
    have headers := commits.headers_later unmoved committed
    refine ⟨(commits.later later committed).1, headers, _,
      handle_committed libraries requestHeaders answers run commits unplanned committed, rfl, rfl,
      fun name => ?_⟩
    rw [headers]
    exact (getAll_merge_nil_iff _).mpr (single name)

end

/-- A program that writes two bytes and fails. -/
def failingRun : ProgramRun := ⟨untargeted, [.writeStream [97, 98]], .error (.vm "trap".toList)⟩

/-- A client gets the two bytes of the failing program as a complete body if the response is
resolved before the program ends, and another response if it is resolved after that. -/
theorem failed_stream_looks_complete :
    failingRun.CommitsAt 1 ∧ failingRun.FailsStreaming ∧
    (∃ delivered, handleRequest plainLibraries [] unanswered failingRun (.committed 1) =
      some delivered ∧ delivered.body = [97, 98] ∧ delivered.ending = .complete ∧
      ¬ Shows failingRun 1 delivered) ∧
    ∃ delivered, handleRequest plainLibraries [] unanswered failingRun .executed =
      some delivered ∧ delivered.status.code = 500 ∧ ¬ Shows failingRun 1 delivered := by
  have fails : failingRun.FailsStreaming := by
    refine ⟨⟨_, rfl⟩, fun stream held => ?_⟩
    cases held
    rfl
  refine ⟨⟨by decide, by decide⟩, fails, ⟨_, rfl, by decide, by decide, fun shows => ?_⟩,
    ⟨_, rfl, by decide, fun shows => ?_⟩⟩
  · exact absurd (shows.failure fails) (by decide)
  · exact absurd shows.source (by decide)

/-- A program that begins a stream and then writes to it. -/
def startedRun : ProgramRun := ⟨untargeted, [.startStream, .writeStream [97, 98]], .ok ()⟩

/-- The first bytes behind the commit add a content type to the head. -/
theorem late_write_moves_head :
    startedRun.CommitsAt 1 ∧ (startedRun.contextAt 1).responseOutput.headers = [] ∧
    (startedRun.contextAt 2).responseOutput.headers.containsKey .contentType = true ∧
    ¬ KeepsHead plainLibraries [] unanswered startedRun 1 2 := by
  have before : (startedRun.contextAt 1).responseOutput.headers = [] := by decide +kernel
  have after : (startedRun.contextAt 2).responseOutput.headers.containsKey .contentType = true := by
    decide +kernel
  refine ⟨⟨by decide, by decide⟩, before, after, fun keeps => ?_⟩
  rw [keeps.headers, before] at after
  cases after

end PdEdge.Output

import PdEdge.Proxy.Endpoints

/-!
# Pipes

`proxy::pipe` copies one endpoint to another until the source ends and then closes the write side
of the destination. Each pass of the loop moves one piece. With the response output as the
destination, the bytes are the body of the response as soon as there is one.
-/

namespace PdEdge.Proxy

open Iteration Output Wire ProxyIo List ProxyVmContext

/-- `decode_chunk_size`. -/
def decodeChunkSize (maxBytes : Int) : Except VmError ChunkSize :=
  if positive : 0 < maxBytes then .ok ⟨maxBytes.toNat, by omega⟩
  else .error (.hostError s!"proxy chunk size must be positive, got {maxBytes}")

/-! ## The loop -/

/-- One pass of the loop of `drive_pipe_direction`. -/
def pipeTurn (source destination : Int) (size : ChunkSize) (io : ProxyIo) :
    Turn ProxyIo (Acted Unit) :=
  match io.readStep source size.1 with
  | (.failed err, io) => .leave (.failed err, io)
  | (.dropped, io) => .leave (.dropped, io)
  | (.ready (.data chunk), io) =>
    if chunk.isEmpty then .again io
    else
      match io.writeBytes destination chunk with
      | (.ready (), io) => .again io
      | other => .leave other
  | (.ready .eof, io) => .leave (io.closeWrite destination)
  -- There is no other task that could close the write side.
  | (.ready .waitingForWriteClose, io) => .leave (.dropped, io)
  | (.ready .blocked, io) => .again io

variable {io after start now : ProxyIo} {handle source destination : Int} {bytes : List UInt8}
variable {node : HttpResponseOutputNode}

theorem readStep_waits (waits : io.waits handle = true) (maxBytes : Nat) :
    io.readStep handle maxBytes = (.ready .waitingForWriteClose, io) := by
  rw [ProxyIo.waits] at waits
  split at waits
  · rename_i exchange observed closed held
    rw [ProxyIo.readStep, ProxyIo.proxyStreamState, held]
    dsimp only
    rw [if_pos waits]
  · cases waits

/-- The pieces of a handle that was not read are the same behind a write. -/
theorem WriteBy.pieces {acted : Acted Unit} (writes : WriteBy io handle bytes acted)
    (ready : acted.1.isReady) (other : Int) : acted.2.pieces other = io.pieces other := by
  rw [ProxyIo.pieces, ProxyIo.pieces, writes.endpoints other]
  congr 2
  funext endpoint
  exact writes.supply ready endpoint

/-- What a pass of the loop has done: it has read of the source, and what it goes on with was
written. -/
inductive Turned (source destination : Int) (io : ProxyIo) : Turn ProxyIo (Acted Unit) → Prop
  | waits (waits : io.waits source = true) : Turned source destination io (.leave (.dropped, io))
  | fails {acted : Acted ProxyReadStep} (reads : ReadBy io source acted) {err : VmError}
    (failed : acted.1 = .failed err) :
    Turned source destination io (.leave (.failed err, acted.2))
  | drops {acted : Acted ProxyReadStep} (reads : ReadBy io source acted)
    (dropped : acted.1 = .dropped) : Turned source destination io (.leave (.dropped, acted.2))
  | ends {acted : Acted ProxyReadStep} (reads : ReadBy io source acted)
    (eof : acted.1 = .ready .eof) :
    Turned source destination io (.leave (acted.2.closeWrite destination))
  | skips {acted : Acted ProxyReadStep} (reads : ReadBy io source acted)
    (empty : acted.1 = .ready (.data [])) : Turned source destination io (.again acted.2)
  | moves {acted : Acted ProxyReadStep} (reads : ReadBy io source acted) {chunk : List UInt8}
    (data : acted.1 = .ready (.data chunk)) (some' : chunk ≠ []) {after : ProxyIo}
    (wrote : acted.2.writeBytes destination chunk = (.ready (), after)) :
    Turned source destination io (.again after)
  | stops {acted : Acted ProxyReadStep} (reads : ReadBy io source acted) {chunk : List UInt8}
    (data : acted.1 = .ready (.data chunk)) (some' : chunk ≠ [])
    (refused : (acted.2.writeBytes destination chunk).1.isReady = false) :
    Turned source destination io (.leave (acted.2.writeBytes destination chunk))

theorem pipeTurn_turned (source destination : Int) (size : ChunkSize) (io : ProxyIo) :
    Turned source destination io (pipeTurn source destination size io) := by
  rw [pipeTurn]
  cases waits : io.waits source with
  | true =>
    rw [readStep_waits waits]
    exact .waits waits
  | false =>
    have does := readStep_reads io size waits
    generalize io.readStep source size.1 = acted at does
    obtain ⟨result, next⟩ := acted
    rcases result with (chunk | - | - | -) | err | -
    · dsimp only
      split
      · rename_i empty
        obtain rfl : chunk = [] := by simpa using empty
        exact .skips does rfl
      rename_i nonempty
      have some' : chunk ≠ [] := by simpa using nonempty
      have stops := @Turned.stops _ destination _ _ does _ rfl some'
      rcases wrote : next.writeBytes destination chunk with ⟨(value | err | -), after⟩
      · exact .moves does rfl some' wrote
      all_goals
        rw [wrote] at stops
        exact stops rfl
    · exact .ends does rfl
    · exact absurd does.reads Reads.not_waiting
    · exact absurd does.reads Reads.not_blocked
    · exact .fails does rfl
    · exact .drops does rfl

/-- `drive_pipe_direction`: every pass that goes on has taken a piece of the source. -/
def drivePipeDirection (source destination : Int) (size : ChunkSize) :
    Loop ProxyIo (Acted Unit) where
  turn := pipeTurn source destination size
  measure io := weight (io.pieces source)
  lowers io next turned := by
    have does := pipeTurn_turned source destination size io
    rw [turned] at does
    cases does with
    | skips reads empty =>
      rename_i acted
      obtain ⟨result, after⟩ := acted
      subst empty
      exact reads.reads.lowers
    | moves reads data some' wrote =>
      rename_i acted chunk
      obtain ⟨result, after⟩ := acted
      subst data
      have writes := writeBytes_does after destination some'
      rw [wrote] at writes
      rw [writes.pieces rfl]
      exact reads.reads.lowers

/-! ## What is moved -/

/-- The response is the stream that a write has opened. -/
def Opened (status : Option Nat) (node : HttpResponseOutputNode) : Prop :=
  ∃ phase, Output.Streams phase status node ∧ phase.used = true

/-- A write of some bytes opens the stream of the response. -/
theorem opened_of_write (sound : node.Sound) (some' : bytes ≠ [])
    (ok : (node.writeStreamBytes bytes .implicitBuffered).1.isOk = true) :
    Opened node.status (node.writeStreamBytes bytes .implicitBuffered).2 := by
  by_cases chosen : (node.body.isSome || node.bodySourceExchange.isSome) = true
  · rw [HttpResponseOutputNode.writeStreamBytes, if_pos chosen] at ok
    cases ok
  obtain ⟨free, loose⟩ := unchosen chosen
  have streams : Output.Streams (Phase.of node) node.status node := ⟨sound, free, loose, rfl, rfl⟩
  obtain ⟨after, accepted⟩ := streams.step (.append bytes)
  refine ⟨_, after, ?_⟩
  have accepts := accepted.symm.trans ok
  have opens : StreamOp.opens (.append bytes) = true := by simp [StreamOp.opens, some']
  generalize Phase.of node = phase at accepts
  cases phase with
  | fresh => exact opens
  | streaming written used => simp [Phase.step, Phase.used, opens]
  | finished written used => simp [Phase.accepts] at accepts

/-- Behind a write to the response its stream is open. -/
theorem writeBytes_opened (some' : bytes ≠ [])
    (response : io.endpoint? handle = some .httpDownstream)
    (wrote : io.writeBytes handle bytes = (.ready (), after)) :
    Opened io.output.status after.output := by
  rw [writeBytes, if_neg (by simpa using some'), prepareProxyStreamWrite] at wrote
  rw [endpoint?] at response
  cases held : io.stream? handle with
  | none => simp [held] at wrote
  | some stream =>
    obtain ⟨endpoint, observed, closed⟩ := stream
    obtain rfl : endpoint = .httpDownstream := by simpa [held] using response
    cases closed with
    | true => simp [held] at wrote
    | false =>
      have opened := opened_of_write io.sound some'
      simp only [held, Bool.false_eq_true, ↓reduceIte, writeEndpoint,
        appendResponseOutput, setStream] at wrote
      split at wrote
      · rename_i ok
        cases wrote
        exact opened (by simp [ok, Except.isOk, Except.toBool])
      · cases wrote

/-- What the passes of the loop have done so far; some bytes were read and are not written yet. -/
structure Moved (start : ProxyIo) (source destination : Int) (held : List UInt8) (now : ProxyIo) :
    Prop where
  endpoints : ∀ handle, now.endpoint? handle = start.endpoint? handle
  closed : ∀ handle, now.closed handle = start.closed handle
  shutdowns : ∀ target, now.shutdowns target = start.shutdowns target
  running : now.waits source = false
  answered : held ≠ [] → ∀ exchange, start.endpoint? source = some (.httpExchange exchange) →
    now.responseAvailable exchange
  holes : none ∈ now.pieces source ↔ none ∈ start.pieces source
  willing : ∀ target, (∀ exchange, target = .httpExchange exchange →
    start.endpoint? source ≠ some target) → start.Willing target → now.Willing target
  moved : ∃ taken,
    bytesOf (start.pieces source) = taken ++ (held ++ bytesOf (now.pieces source)) ∧
    (∀ target ∈ start.endpoint? destination, now.received target = start.received target ++ taken) ∧
    (start.endpoint? destination = some .httpDownstream →
      (taken = [] → now.output = start.output) ∧
      (taken ≠ [] → Opened start.output.status now.output))

theorem Opened.status {status : Option Nat} (opened : Opened status node) :
    node.status = status := by
  obtain ⟨phase, streams, -⟩ := opened
  exact streams.status

/-- A read brings what is then held. -/
theorem Moved.read {step : ProxyReadStep} (moved : Moved start source destination [] now)
    (reads : ReadBy now source (.ready step, after))
    (brings : bytesOf (now.pieces source) = bytes ++ bytesOf (after.pieces source))
    (holes : none ∈ after.pieces source ↔ none ∈ now.pieces source) :
    Moved start source destination bytes after := by
  obtain ⟨taken, split, got, response⟩ := moved.moved
  have same := reads.same
  refine ⟨fun handle => (same.endpoint? handle).trans (moved.endpoints handle),
    fun handle => (same.closed handle).trans (moved.closed handle),
    fun target => (same.shutdowns target).trans (moved.shutdowns target),
    waits_of_answered fun exchange named => ?_, fun _ exchange named => ?_,
    holes.trans moved.holes, fun target apart willing => ?_, taken, ?_, fun target member => ?_,
    fun named => ?_⟩
  · exact reads.answered rfl exchange ((same.endpoint? source).symm.trans named)
  · exact reads.answered rfl exchange ((moved.endpoints source).trans named)
  · refine reads.willing rfl target (fun exchange named => ?_) (moved.willing target apart willing)
    rw [moved.endpoints source]
    exact apart exchange named
  · rw [split, List.nil_append, brings]
  · exact (same.received target).trans (got target member)
  · rw [show after.output = now.output from same.output]
    exact response named

/-- A write passes on what is held. -/
theorem Moved.write (moved : Moved start source destination bytes now) (some' : bytes ≠ [])
    (wrote : now.writeBytes destination bytes = (.ready (), after)) :
    Moved start source destination [] after := by
  obtain ⟨taken, split, got, response⟩ := moved.moved
  have writes := writeBytes_does now destination some'
  have opened := fun named => writeBytes_opened some' named wrote
  rw [wrote] at writes
  refine ⟨fun handle => (writes.endpoints handle).trans (moved.endpoints handle),
    fun handle => (writes.closed handle).trans (moved.closed handle),
    fun target => (writes.shutdowns target).trans (moved.shutdowns target),
    waits_of_answered fun exchange named => ?_, fun none => absurd rfl none, ?_,
    fun target apart willing => writes.willing rfl target (moved.willing target apart willing),
    taken ++ bytes, ?_, fun target member => ?_, fun named => ?_⟩
  · rw [writes.responses]
    refine moved.answered some' exchange ?_
    rw [← moved.endpoints source]
    exact (writes.endpoints source).symm.trans named
  · rw [writes.pieces rfl]
    exact moved.holes
  · rw [split, writes.pieces rfl, append_assoc, List.nil_append]
  · obtain ⟨part, -, more, all⟩ := writes.received target (by rw [moved.endpoints]; exact member)
    rw [more, all rfl, ← append_assoc, ← got target member]
  · refine ⟨fun none => absurd (append_eq_nil_iff.mp none).2 some', fun _ => ?_⟩
    have there := opened ((moved.endpoints destination).trans named)
    have status : now.output.status = start.output.status := by
      by_cases none : taken = []
      · rw [(response named).1 none]
      · exact ((response named).2 none).status
    rw [status] at there
    exact there

/-- A read and the write of what it brought move that much. -/
theorem Moved.next (moved : Moved start source destination [] now)
    (turned : Turned source destination now (.again after)) :
    Moved start source destination [] after := by
  cases turned with
  | skips reads empty =>
    rename_i acted
    obtain ⟨result, after⟩ := acted
    subst empty
    exact moved.read reads reads.reads.bytes reads.reads.holes
  | moves reads data some' wrote =>
    rename_i acted chunk
    obtain ⟨result, middle⟩ := acted
    subst data
    exact (moved.read reads reads.reads.bytes reads.reads.holes).write some' wrote

/-- What the loop has done when it leaves. -/
structure PipedBy (start : ProxyIo) (source destination : Int) (acted : Acted Unit) : Prop where
  /-- The destination got what was read, in order; if the loop returns well, all of it. -/
  received : ∀ target ∈ start.endpoint? destination, ∃ got, got <+: bytesOf (start.pieces source) ∧
      acted.2.received target = start.received target ++ got ∧
      (acted.1.isReady → got = bytesOf (start.pieces source))
  ended : acted.1.isReady → acted.2.pieces source = [] ∧ none ∉ start.pieces source
  /-- The write side is closed only behind the end of the source. -/
  late : ∀ target ∈ start.endpoint? destination,
    acted.2.closed destination ≠ start.closed destination ∨
      acted.2.shutdowns target ≠ start.shutdowns target →
    acted.2.received target = start.received target ++ bytesOf (start.pieces source) ∧
      none ∉ start.pieces source
  once : acted.1.isReady → acted.2.closed destination = true ∧
    ∀ target ∈ start.endpoint? destination,
      acted.2.shutdowns target = start.shutdowns target + closings target
  returns : none ∉ start.pieces source → start.closed destination = false →
    ∀ target ∈ start.endpoint? destination, (∀ exchange, target = .httpExchange exchange →
      start.endpoint? source ≠ some target) → start.Willing target → acted.1.isReady
  /-- A source that gives nothing needs nothing of the response. -/
  hollow : none ∉ start.pieces source → bytesOf (start.pieces source) = [] →
    start.endpoint? destination = some .httpDownstream → acted.1.isReady
  response : acted.1.isReady → start.endpoint? destination = some .httpDownstream →
    (bytesOf (start.pieces source) = [] → acted.2.output = start.output) ∧
    (bytesOf (start.pieces source) ≠ [] → Opened start.output.status acted.2.output)

/-- A read that does not return well leaves the write side as it is. -/
theorem Moved.broken {result : Awaited VmError Unit}
    (moved : Moved start source destination [] now) (same : WriteSame now after)
    (hole : none ∈ now.pieces source) (unready : result.isReady = false) :
    PipedBy start source destination (result, after) := by
  obtain ⟨taken, split, got, -⟩ := moved.moved
  have holed := moved.holes.mp hole
  refine ⟨fun target member => ⟨taken, ⟨_, split.symm⟩, ?_, by simp [unready]⟩, by simp [unready],
    fun target member changed => ?_, by simp [unready], fun drains => absurd holed drains,
    fun drains => absurd holed drains, by simp [unready]⟩
  · exact (same.received target).trans (got target member)
  · rcases changed with closed | shut
    · exact absurd ((same.closed destination).trans (moved.closed destination)) closed
    · exact absurd ((same.shutdowns target).trans (moved.shutdowns target)) shut

theorem closeWrite_output (io : ProxyIo) (handle : Int) :
    (io.closeWrite handle).2.output = io.output := by
  have transported (io : ProxyIo) (carrier : Carrier) (number : Int) (verb : String)
      (operation : Transport → Awaited String Unit × Transport) :
      (io.onTransport carrier number verb operation).2.output = io.output := by
    have does := onTransport_does io carrier number verb operation
    generalize io.onTransport carrier number verb operation = acted at does
    cases does <;> rfl
  rw [closeWrite, markProxyStreamWriteClosed]
  cases io.stream? handle with
  | none => rfl
  | some stream =>
    obtain ⟨endpoint, observed, closed⟩ := stream
    cases endpoint with
    | dynamic carrier number => exact transported _ _ _ _ _
    | webSocketBinary connection =>
      simp only [closeEndpoint, onWebSocket]
      split <;> rfl
    | _ => rfl

/-- The write side of the response is closed by its mark alone. -/
theorem closeWrite_response (named : io.endpoint? handle = some .httpDownstream) :
    (io.closeWrite handle).1.isReady = true := by
  rw [endpoint?] at named
  rw [closeWrite, markProxyStreamWriteClosed]
  cases held : io.stream? handle with
  | none => simp [held] at named
  | some stream =>
    obtain ⟨endpoint, observed, closed⟩ := stream
    obtain rfl : endpoint = .httpDownstream := by simpa [held] using named
    rfl

/-- Behind the end of the source the write side is closed. -/
theorem Moved.closes (moved : Moved start source destination [] now)
    (nothing : now.pieces source = []) :
    PipedBy start source destination (now.closeWrite destination) := by
  obtain ⟨taken, split, got, response⟩ := moved.moved
  have closes := closeWrite_does now destination
  have output := closeWrite_output now destination
  have all : bytesOf (start.pieces source) = taken := by
    rw [split, nothing]
    simp [bytesOf]
  have drains : none ∉ start.pieces source := by
    rw [← moved.holes, nothing]
    exact not_mem_nil
  have named (target : ProxyByteStreamEndpoint) (member : target ∈ start.endpoint? destination) :
      target ∈ now.endpoint? destination := by
    rw [moved.endpoints]
    exact member
  have received (target : ProxyByteStreamEndpoint)
      (member : target ∈ start.endpoint? destination) :
      (now.closeWrite destination).2.received target =
        start.received target ++ bytesOf (start.pieces source) := by
    rw [closes.received target (named target member), all, got target member]
  refine ⟨fun target member => ⟨_, prefix_rfl, received target member, fun _ => rfl⟩,
    fun ready => ?_, fun target member _ => ⟨received target member, drains⟩,
    fun ready => ⟨?_, fun target member => ?_⟩, fun _ _ target member apart willing => ?_,
    fun _ _ response => closeWrite_response (named _ response),
    fun _ named => ⟨fun none => ?_, fun nonempty => ?_⟩⟩
  · rw [pieces, closes.endpoints source, funext (closes.supply ready)]
    exact ⟨nothing, drains⟩
  · rw [closes.closed, closes.known ready]
    simp
  · rw [closes.shut ready target (named target member), moved.shutdowns]
  · exact closes.accepted target (named target member) (moved.willing target apart willing)
  · exact output.trans ((response named).1 (all.symm.trans none))
  · rw [output]
    exact (response named).2 (all ▸ nonempty)

/-- A write that does not return well has passed on some of what is held. -/
theorem Moved.refused (moved : Moved start source destination bytes now) (some' : bytes ≠ [])
    (refused : (now.writeBytes destination bytes).1.isReady = false) :
    PipedBy start source destination (now.writeBytes destination bytes) := by
  obtain ⟨taken, split, got, -⟩ := moved.moved
  have writes := writeBytes_does now destination some'
  have named (target : ProxyByteStreamEndpoint) (member : target ∈ start.endpoint? destination) :
      target ∈ now.endpoint? destination := by
    rw [moved.endpoints]
    exact member
  refine ⟨fun target member => ?_, by simp [refused], fun target member changed => ?_,
    by simp [refused], fun _ opened target member apart willing => ?_, fun _ none => ?_,
    by simp [refused]⟩
  · obtain ⟨part, within, got', -⟩ := writes.received target (named target member)
    refine ⟨taken ++ part, ?_, ?_, by simp [refused]⟩
    · rw [split]
      exact (prefix_append_right_inj taken).mpr (within.trans (prefix_append _ _))
    · rw [got', ← append_assoc, ← got target member]
  · rcases changed with closed | shut
    · exact absurd ((writes.closed destination).trans (moved.closed destination)) closed
    · exact absurd ((writes.shutdowns target).trans (moved.shutdowns target)) shut
  · have ready := writes.accepted ((moved.closed destination).trans opened) target
      (named target member) (moved.willing target apart willing)
    rw [refused] at ready
    cases ready
  · rw [split] at none
    exact absurd (append_eq_nil_iff.mp (append_eq_nil_iff.mp none).2).1 some'

/-- How the loop leaves. -/
theorem Moved.leaves {acted : Acted Unit} (moved : Moved start source destination [] now)
    (turned : Turned source destination now (.leave acted)) :
    PipedBy start source destination acted := by
  -- The pieces at a read that did not return well.
  have hole {result : Awaited VmError ProxyReadStep} {after : List Piece}
      (taken : Reads (now.pieces source) result after) (unready : result.isReady = false) :
      none ∈ now.pieces source := by
    generalize now.pieces source = pieces at taken
    cases taken <;> first | exact mem_cons_self | cases unready
  cases turned with
  | waits waits => simp [moved.running] at waits
  | fails reads failed => exact moved.broken reads.same (hole reads.reads (by rw [failed]; rfl)) rfl
  | drops reads dropped =>
    exact moved.broken reads.same (hole reads.reads (by rw [dropped]; rfl)) rfl
  | ends reads eof =>
    rename_i step
    obtain ⟨result, after⟩ := step
    subst eof
    have nothing : now.pieces source = [] ∧ after.pieces source = [] := by
      have read := reads.reads
      generalize now.pieces source = pieces, after.pieces source = rest at read
      cases read
      exact ⟨rfl, rfl⟩
    exact (moved.read reads (by rw [nothing.1, nothing.2]; rfl) (by rw [nothing.1, nothing.2])).closes
      nothing.2
  | stops reads data some' refused =>
    rename_i step chunk
    obtain ⟨result, middle⟩ := step
    subst data
    exact (moved.read reads reads.reads.bytes reads.reads.holes).refused some' refused

/-- `drive_pipe`. -/
def drivePipe (io : ProxyIo) (source destination : Int) (size : ChunkSize) : Acted String :=
  match io.proxyStreamState source with
  | .error err => (.failed err, io)
  | .ok _ =>
    if io.waits source then
      (.failed (.hostError s!"proxy byte-stream handle {source} cannot be piped yet because its read side is waiting for its write side to close; use proxy::forward or finish writing before piping from it"),
        io)
    else ProxyIo.Acted.map ((drivePipeDirection source destination size).run io) fun _ => "eof"

/-- `proxy_pipe`. -/
def proxyPipe (io : ProxyIo) (source destination maxBytes : Int) : Acted String :=
  match decodeChunkSize maxBytes with
  | .error err => (.failed err, io)
  | .ok size => drivePipe io source destination size

/-- The loop ends, and has moved what it says. -/
theorem drivePipeDirection_pipes {io : ProxyIo} {size : ChunkSize}
    (running : io.waits source = false) :
    PipedBy io source destination ((drivePipeDirection source destination size).run io) := by
  refine (drivePipeDirection source destination size).run_invariant (Moved io source destination [])
    (PipedBy io source destination) (fun now next moved turned => ?_)
    (fun now value moved turned => ?_) io ?_
  · have does := pipeTurn_turned source destination size now
    rw [show pipeTurn source destination size now = .again next from turned] at does
    exact moved.next does
  · have does := pipeTurn_turned source destination size now
    rw [show pipeTurn source destination size now = .leave value from turned] at does
    exact moved.leaves does
  · exact ⟨fun _ => rfl, fun _ => rfl, fun _ => rfl, running, fun none => absurd rfl none, Iff.rfl,
      fun _ _ willing => willing, [], rfl, fun _ _ => (append_nil _).symm,
      fun _ => ⟨fun _ => rfl, fun no => absurd rfl no⟩⟩

/-! ## Behind a pipe -/

/-- The operations on proxy streams. -/
inductive ProxyOp where
  | read (handle : Int) (size : ChunkSize)
  | write (handle : Int) (bytes : List UInt8)
  | close (handle : Int)
  /-- A handle that was not in use. -/
  | allocate (handle : Int) (endpoint : ProxyByteStreamEndpoint)

/-- What an operation leaves behind. -/
def ProxyOp.act (io : ProxyIo) : ProxyOp → ProxyIo
  | read handle size => (io.readStep handle size.1).2
  | write handle bytes => (io.writeBytes handle bytes).2
  | close handle => (io.closeWrite handle).2
  | allocate handle endpoint =>
    if (io.stream? handle).isSome then io else io.setStream handle (.new endpoint)

/-- A write side that is closed stays so. -/
theorem closed_act (closed : io.closed handle = true) (op : ProxyOp) :
    (op.act io).closed handle = true := by
  cases op with
  | read other size =>
    rw [ProxyOp.act]
    cases waits : io.waits other with
    | true =>
      rw [readStep_waits waits]
      exact closed
    | false => exact ((readStep_reads io size waits).same.closed handle).trans closed
  | write other bytes =>
    rw [ProxyOp.act]
    by_cases some' : bytes = []
    · simpa [writeBytes, some'] using closed
    · exact ((writeBytes_does io other some').closed handle).trans closed
  | close other =>
    rw [ProxyOp.act, (closeWrite_does io other).closed, closed]
    rfl
  | allocate other endpoint =>
    rw [ProxyOp.act]
    split
    · exact closed
    rw [closed_setStream]
    split
    · rename_i here
      rw [ProxyIo.closed, here] at closed
      cases held : io.stream? other <;> simp_all
    · exact closed

theorem closed_acts (closed : io.closed handle = true) (ops : List ProxyOp) :
    (ops.foldl ProxyOp.act io).closed handle = true := by
  induction ops generalizing io with
  | nil => exact closed
  | cons op ops ih => exact ih (closed_act closed op)

/-! ## The response -/

/-- The response is the program's and has the bytes that its stream holds. -/
def Answers (node : HttpResponseOutputNode) : Bool :=
  node.bodyStream.any DownstreamResponseBodyStream.commits ||
    node.body.any fun body => body.data.isEmpty

section

variable (libraries : ResolutionLibraries) (requestHeaders : HeaderMap)
  (answers : Int → ForwardResult) (method : Method)

/-- The client gets a response of the program with this status and these bytes, whichever way it
is resolved. -/
def Carried (status : Option Nat) (bytes : List UInt8) (context : ProxyVmContext) : Prop :=
  CarriesLocally status bytes
      (resolveHttpGraphResponse libraries requestHeaders answers context).seen ∧
    CarriesLocally status bytes
      ((resolveHttp1DownstreamResponse libraries requestHeaders answers context).seen method)

/-- An output node is the response with what its stream holds. -/
theorem carried_iff {context : ProxyVmContext} (sound : context.Sound)
    (unplanned : context.postResponsePlan = none) :
    Carried libraries requestHeaders answers method context.responseOutput.status
        (heldBytes context.responseOutput) context ↔
      Answers context.responseOutput = true := by
  cases held : context.responseOutput.body with
  | some body =>
    obtain ⟨unstreamed, loose⟩ := alone_of_body sound held
    have graph := resolveHttpGraphResponse_body libraries requestHeaders answers sound unplanned
      held
    have fast := resolveHttp1_body libraries requestHeaders answers sound unplanned held
    have empty : heldBytes context.responseOutput = [] := by simp [heldBytes, unstreamed]
    have means : Answers context.responseOutput = true ↔ body.data = [] := by
      simp [Answers, unstreamed, held]
    rw [means, Carried, graph, fast, empty]
    refine ⟨fun carried => carried.1.2.2, fun nothing => ⟨⟨rfl, rfl, nothing⟩, rfl, ?_, nothing⟩⟩
    exact localStatus context.responseOutput.status
  | none =>
    cases chosen : context.responseOutput.bodySourceExchange with
    | some exchange =>
      have unstreamed : context.responseOutput.bodyStream = none := by
        by_contra streamed
        have free := (sound.output.streams (Option.isSome_iff_ne_none.mpr streamed)).2
        rw [chosen] at free
        cases free
      refine iff_of_false (fun carried => ?_) (by simp [Answers, unstreamed, held])
      have graph := carried.1.1
      rw [resolveHttpGraphResponse, resolveHttpGraphResponseInner] at graph
      cases stored : nativeFastPath context with
      | some outcome =>
        rw [stored] at graph
        cases outcome <;> cases graph
      | none =>
        rw [stored, openStream, unstreamed, unplanned, held] at graph
        exact resolveForwarded_source libraries answers graph
    | none =>
      have streams : Output.Streams (Phase.of context.responseOutput)
          context.responseOutput.status context.responseOutput :=
        ⟨sound.output, held, chosen, rfl, rfl⟩
      have used : (Phase.of context.responseOutput).used = Answers context.responseOutput := by
        rw [Phase.of, Answers, held]
        cases context.responseOutput.bodyStream with
        | none => rfl
        | some stream =>
          dsimp only
          split <;> simp [Phase.used]
      rw [Carried, heldBytes_of streams,
        carriesLocally_iff libraries requestHeaders answers method sound unplanned streams, used]

end

/-- Every context that the output node can be in gets this response. -/
def Served (status : Option Nat) (bytes : List UInt8) (node : HttpResponseOutputNode) : Prop :=
  ∀ (libraries : ResolutionLibraries) (requestHeaders : HeaderMap)
    (answers : Int → ForwardResult) (method : Method) (context : ProxyVmContext),
    context.Sound → context.postResponsePlan = none → context.responseOutput = node →
    Carried libraries requestHeaders answers method status bytes context

theorem served_iff (sound : node.Sound) :
    Served node.status (heldBytes node) node ↔ Answers node = true := by
  constructor
  · intro served
    have context : ({ new untargeted with responseOutput := node } :
        ProxyVmContext).Sound := ⟨sound, by simp [new], by simp [new]⟩
    exact (carried_iff plainLibraries [] unanswered .get context rfl).mp
      (served plainLibraries [] unanswered .get _ context rfl rfl)
  · rintro answers libraries requestHeaders given method context ordered unplanned rfl
    exact (carried_iff libraries requestHeaders given method ordered unplanned).mpr answers

/-! ## Pipes -/

/-- What a pipe is to do. -/
structure Piped (io : ProxyIo) (source destination maxBytes : Int) : Prop where
  /-- The destination gets bytes of the source in order, each at most once. -/
  ordered : ∀ target ∈ io.endpoint? destination, ∃ got, got <+: bytesOf (io.pieces source) ∧
      (proxyPipe io source destination maxBytes).2.received target = io.received target ++ got
  /-- A pipe that returns well has moved all of them. -/
  whole : (proxyPipe io source destination maxBytes).1.isReady →
    (proxyPipe io source destination maxBytes).2.pieces source = [] ∧
    ∀ target ∈ io.endpoint? destination,
      (proxyPipe io source destination maxBytes).2.received target =
        io.received target ++ bytesOf (io.pieces source)
  /-- It does if neither side fails. -/
  returns : 0 < maxBytes → none ∉ io.pieces source → io.waits source = false →
    io.closed destination = false → ∀ target ∈ io.endpoint? destination,
    (∀ exchange, target = .httpExchange exchange → io.endpoint? source ≠ some target) →
    io.Willing target → (proxyPipe io source destination maxBytes).1.isReady
  /-- The write side is closed once, and only behind the end of the source. -/
  once : (proxyPipe io source destination maxBytes).1.isReady →
    (proxyPipe io source destination maxBytes).2.closed destination = true ∧
    ∀ target ∈ io.endpoint? destination,
      (proxyPipe io source destination maxBytes).2.shutdowns target =
        io.shutdowns target + closings target
  late : ∀ target ∈ io.endpoint? destination,
    (proxyPipe io source destination maxBytes).2.closed destination ≠ io.closed destination ∨
      (proxyPipe io source destination maxBytes).2.shutdowns target ≠ io.shutdowns target →
    (proxyPipe io source destination maxBytes).2.received target =
        io.received target ++ bytesOf (io.pieces source) ∧ none ∉ io.pieces source
  /-- From then on nothing is accepted. -/
  refuses : (proxyPipe io source destination maxBytes).1.isReady →
    ∀ (ops : List ProxyOp) (bytes : List UInt8), bytes ≠ [] → ∃ err,
      ((ops.foldl ProxyOp.act (proxyPipe io source destination maxBytes).2).writeBytes
        destination bytes).1 = .failed err ∧
      ∀ target, ((ops.foldl ProxyOp.act (proxyPipe io source destination maxBytes).2).writeBytes
        destination bytes).2.received target =
          (ops.foldl ProxyOp.act (proxyPipe io source destination maxBytes).2).received target
  /-- The response has what was moved to it. -/
  response : (proxyPipe io source destination maxBytes).1.isReady →
    io.endpoint? destination = some .httpDownstream →
    Served io.output.status (io.received .httpDownstream ++ bytesOf (io.pieces source))
      (proxyPipe io source destination maxBytes).2.output

/-- A pipe that does not start leaves everything as it is; one that starts does what its loop
does. -/
theorem proxyPipe_cases (io : ProxyIo) (source destination maxBytes : Int) :
    (∃ err, proxyPipe io source destination maxBytes = (.failed err, io) ∧
      (0 < maxBytes → none ∉ io.pieces source → io.waits source = true)) ∨
    ∃ run, PipedBy io source destination run ∧
      (proxyPipe io source destination maxBytes).1.isReady = run.1.isReady ∧
      (proxyPipe io source destination maxBytes).2 = run.2 ∧ 0 < maxBytes ∧
      io.waits source = false := by
  rw [proxyPipe, decodeChunkSize]
  by_cases positive : 0 < maxBytes
  · rw [dif_pos positive]
    dsimp only
    rw [drivePipe, proxyStreamState]
    cases held : io.stream? source with
    | none =>
      refine .inl ⟨_, rfl, fun _ drains => absurd ?_ drains⟩
      simp [pieces, endpoint?, held]
    | some stream =>
      cases waits : io.waits source with
      | true => exact .inl ⟨_, rfl, fun _ _ => rfl⟩
      | false =>
        refine .inr ⟨_, drivePipeDirection_pipes waits, ?_, rfl, positive, rfl⟩
        simp only [Bool.false_eq_true, ↓reduceIte, ProxyIo.Acted.map]
        cases ((drivePipeDirection source destination _).run io).1 <;> rfl
  · rw [dif_neg positive]
    exact .inl ⟨_, rfl, fun more => absurd more positive⟩

/-- With a loop that has ended, the response is the one it should be unless nothing was moved to
a response that was not there before. -/
theorem PipedBy.served_iff {run : Acted Unit} (pipes : PipedBy io source destination run)
    (ready : run.1.isReady) (named : io.endpoint? destination = some .httpDownstream) :
    Served io.output.status (io.received .httpDownstream ++ bytesOf (io.pieces source))
      run.2.output ↔ (bytesOf (io.pieces source) ≠ [] ∨ Answers io.output = true) := by
  obtain ⟨same, opened⟩ := pipes.response ready named
  obtain ⟨got, -, received, all⟩ := pipes.received .httpDownstream named
  rw [all ready] at received
  have held : heldBytes run.2.output =
      io.received .httpDownstream ++ bytesOf (io.pieces source) := received
  rw [← held]
  by_cases nothing : bytesOf (io.pieces source) = []
  · rw [same nothing, Proxy.served_iff io.sound]
    simp [nothing]
  have status := (opened nothing).status
  obtain ⟨phase, streams, used⟩ := opened nothing
  rw [← status, Proxy.served_iff run.2.sound]
  refine iff_of_true ?_ (.inl nothing)
  have phased := streams.phase
  rw [Phase.of] at phased
  rw [Answers]
  cases there : run.2.output.bodyStream with
  | none =>
    rw [there] at phased
    subst phased
    cases used
  | some stream =>
    rw [there] at phased
    have commits : stream.commits = true := by
      rw [← used, ← phased]
      dsimp only
      split <;> rfl
    simp [commits]

attribute [local simp] Awaited.isReady

/-- For every pair of endpoints, every chunk size and everything that the two sides do: a pipe
does what it is to do exactly if it does not have an empty source and a response that is not
there yet. -/
theorem piped_iff (io : ProxyIo) (source destination maxBytes : Int) :
    Piped io source destination maxBytes ↔
      (0 < maxBytes → io.waits source = false → none ∉ io.pieces source →
        io.endpoint? destination = some .httpDownstream →
        bytesOf (io.pieces source) ≠ [] ∨ Answers io.output = true) := by
  rcases proxyPipe_cases io source destination maxBytes with
    ⟨err, acted, idle⟩ | ⟨run, pipes, ready, after, positive, running⟩
  · refine iff_of_true ?_ fun positive running drains => ?_
    · constructor <;> simp only [acted]
      · exact fun target _ => ⟨[], nil_prefix, (append_nil _).symm⟩
      · simp
      · intro positive drains running
        rw [idle positive drains] at running
        cases running
      · simp
      · exact fun target _ changed => by simp at changed
      all_goals simp
    · rw [idle positive drains] at running
      cases running
  · have served := @pipes.served_iff
    constructor
    · intro piped _ _ drains named
      by_cases nothing : bytesOf (io.pieces source) = []
      · have returned := pipes.hollow drains nothing named
        rw [← served returned named, ← after]
        exact piped.response (ready.trans returned) named
      · exact .inl nothing
    intro condition
    constructor <;> simp only [after, ready]
    · intro target member
      obtain ⟨got, within, received, -⟩ := pipes.received target member
      exact ⟨got, within, received⟩
    · refine fun returned => ⟨(pipes.ended returned).1, fun target member => ?_⟩
      obtain ⟨got, -, received, all⟩ := pipes.received target member
      rw [received, all returned]
    · exact fun _ drains _ opened => pipes.returns drains opened
    · exact pipes.once
    · exact pipes.late
    · intro returned ops bytes some'
      exact (writeBytes_does _ destination some').refused (closed_acts (pipes.once returned).1 ops)
    · intro returned named
      exact (served returned named).mpr (condition positive running (pipes.ended returned).2 named)

/-- A request without a body, and nothing else. -/
def bodiless : ProxyIo where
  streams _ := none
  request := []
  output := .default
  sound := .default
  exchanges _ := none
  transports _ _ := none
  websockets _ := ⟨[], ⟨[], 0, []⟩⟩

/-- The context in which the response is resolved. -/
def resolvedFrom (io : ProxyIo) : ProxyVmContext :=
  { ProxyVmContext.new untargeted with responseOutput := io.output }

/-- The empty body of a request is piped to the response: the pipe returns well, and the client
is told that nothing was found. -/
theorem empty_pipe_not_served :
    (proxyPipe bodiless (-1) (-1) 16).1.isReady = true ∧
    (resolveHttpGraphResponse plainLibraries [] unanswered
      (resolvedFrom (proxyPipe bodiless (-1) (-1) 16).2)).response.status.code = 404 ∧
    ¬ Piped bodiless (-1) (-1) 16 := by
  have returned : (proxyPipe bodiless (-1) (-1) 16).1.isReady = true := by decide +kernel
  have unanswered' : (resolveHttpGraphResponse plainLibraries [] unanswered
      (resolvedFrom (proxyPipe bodiless (-1) (-1) 16).2)).source = .nobody := by decide +kernel
  refine ⟨returned, by decide +kernel, fun piped => ?_⟩
  have sound : (resolvedFrom (proxyPipe bodiless (-1) (-1) 16).2).Sound :=
    ⟨(proxyPipe bodiless (-1) (-1) 16).2.sound, by simp [resolvedFrom, new],
      by simp [resolvedFrom, new]⟩
  have served := piped.response returned rfl plainLibraries [] unanswered .get _ sound rfl rfl
  cases unanswered'.symm.trans served.1.1

end PdEdge.Proxy

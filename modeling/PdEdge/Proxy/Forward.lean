import PdEdge.Proxy.Endpoints

/-!
# Forwarding a request body to an exchange

`proxy::forward` between the downstream HTTP stream and an exchange joins two loops: one copies
the request body to the exchange, the other reads the response of the exchange, which starts its
request. Each poll of a loop runs it to its next await. The second loop waits for the first only
once that has written something, so the request is started with the whole body exactly if the
first loop was polled to some progress before the second.
-/

namespace PdEdge.Proxy

open Streams Wire ProxyIo

/-- Where a loop of `drive_pipe_direction` is suspended. -/
inductive Task where
  /-- Before a read, or in one. -/
  | running
  /-- In `wait_for_proxy_stream_write_close`. -/
  | waiting
  /-- The request of the exchange is on its way. -/
  | starting
  | finished

/-- Both loops of `drive_forward` and what they act on. An event of the request body that is
`dropped` is a poll that finds nothing yet. -/
structure Forward where
  io : ProxyIo
  up : Task
  down : Task
  /-- The body with which the request of the exchange was started. -/
  sent : Option (List UInt8)
  /-- The upstream has answered. -/
  answered : Bool
  /-- One of the loops has failed, and both are dropped. -/
  failed : Bool

/-- Before the first poll. -/
def Forward.new (io : ProxyIo) : Forward := ⟨io, .running, .running, none, false, false⟩

/-- What can happen next. -/
inductive ForwardEvent where
  | pollUp
  | pollDown
  | answer

namespace Forward

variable (downstream upstream exchange : Int) (size : ChunkSize) (state : Forward)

/-- Poll the loop from the request body to the exchange. -/
def pollUp : Forward :=
  match state.up with
  | .running =>
    match state.io.readStep downstream size.1 with
    | (.dropped, io) => { state with io }
    | (.failed _, io) => { state with io, failed := true }
    | (.ready (.data chunk), io) =>
      -- The chunk is appended without an await, and the loop yields.
      match io.writeBytes upstream chunk with
      | (.ready (), io) => { state with io }
      | (_, io) => { state with io, failed := true }
    | (.ready .eof, io) =>
      match io.closeWrite upstream with
      | (.ready (), io) => { state with io, up := .finished }
      | (_, io) => { state with io, failed := true }
    | (.ready _, io) => { state with io }
  | _ => state

/-- What a read of the response leads to; one that is not over is resumed where it is. -/
def passOn : Acted ProxyReadStep → Forward
  | (.dropped, io) => { state with io }
  | (.failed _, io) => { state with io, failed := true }
  | (.ready (.data chunk), io) =>
    match io.writeBytes downstream chunk with
    | (.ready (), io) => { state with io, down := .running }
    | (_, io) => { state with io, failed := true }
  | (.ready .eof, io) =>
    match io.closeWrite downstream with
    | (.ready (), io) => { state with io, down := .finished }
    | (_, io) => { state with io, failed := true }
  | (.ready _, io) => { state with io, down := .running }

/-- The read step of the exchange: it waits for the write side, starts the request with the body
as it is, fails if the request cannot be prepared, or reads the response. -/
def readDown : Forward :=
  if state.io.waits upstream then { state with down := .waiting }
  else
    match state.io.exchanges exchange with
    | none => { state with failed := true }
    | some request =>
      if request.response.isSome then
        state.passOn downstream (state.io.readExchange exchange size.1)
      else
        match preparedOutboundExchangeRequest exchange request with
        | .error _ => { state with failed := true }
        | .ok () => { state with down := .starting, sent := some (request.bodyOverride.getD []) }

/-- Poll the loop from the exchange to the response. -/
def pollDown : Forward :=
  match state.down with
  | .running => state.readDown downstream upstream exchange size
  | .waiting =>
    if state.io.closed upstream then state.readDown downstream upstream exchange size else state
  | .starting =>
    if state.answered then state.passOn downstream (state.io.readExchange exchange size.1)
    else state
  | .finished => state

/-- One event; nothing happens once a loop has failed. -/
def step : ForwardEvent → Forward
  | .pollUp => if state.failed then state else state.pollUp downstream upstream size
  | .pollDown => if state.failed then state else state.pollDown downstream upstream exchange size
  | .answer => { state with answered := true }

/-- Any interleaving. -/
def run (events : List ForwardEvent) : Forward :=
  events.foldl (step downstream upstream exchange size) state

end Forward

/-! ## What is to hold -/

/-- No read of the request body fails. -/
def Complete (socket : Socket VmError) : Prop := ∀ err, ReadEvent.error err ∉ socket

/-- A request that is started is started with all of the body behind what was set for it. -/
def SentWhole (io : ProxyIo) (exchange : Int) (state : Forward) : Prop :=
  ∀ sent ∈ state.sent,
    Complete io.request ∧ sent = io.received (.httpExchange exchange) ++ carried io.request

/-- The exchange is there, its request can be prepared, and it has no response yet. -/
def ProxyIo.startable (io : ProxyIo) (exchange : Int) : Bool :=
  (io.exchanges exchange).any fun request => request.response.isNone && request.preparable

/-- How many polls find nothing before something of the body has arrived. -/
def pendings (socket : Socket VmError) : Nat := (socket.takeWhile ReadEvent.isDropped).length

/-- The loop that copies the body is polled to some progress before the other is polled at all. -/
def Led : Nat → List ForwardEvent → Bool
  | _, [] => true
  | pendings, .pollUp :: rest => pendings == 0 || Led (pendings - 1) rest
  | _, .pollDown :: _ => false
  | pendings, .answer :: rest => Led pendings rest

/-- Something was written to the handle, and its write side is open. -/
def ProxyIo.writing (io : ProxyIo) (handle : Int) : Bool :=
  (io.stream? handle).any fun stream => stream.writeObserved && !stream.writeClosed

/-! ## What the operations do -/

section

variable {downstream upstream exchange : Int} {io : ProxyIo}

/-- The handles stand for the request and the exchange. -/
structure Between (downstream upstream exchange : Int) (io : ProxyIo) : Prop where
  request : io.endpoint? downstream = some .httpDownstream
  named : io.endpoint? upstream = some (.httpExchange exchange)

theorem Between.of_endpoints (between : Between downstream upstream exchange io) {after : ProxyIo}
    (same : ∀ handle, after.endpoint? handle = io.endpoint? handle) :
    Between downstream upstream exchange after :=
  ⟨(same _).trans between.request, (same _).trans between.named⟩

theorem stream?_of_endpoint? {handle : Int} {endpoint : ProxyByteStreamEndpoint}
    (named : io.endpoint? handle = some endpoint) :
    ∃ observed closed, io.stream? handle = some ⟨endpoint, observed, closed⟩ := by
  obtain ⟨⟨_, observed, closed⟩, held, rfl⟩ := Option.map_eq_some_iff.mp named
  exact ⟨observed, closed, held⟩

theorem complete_cons_data {segment : Segment} {rest : Socket VmError} :
    Complete (.data segment :: rest) ↔ Complete rest := by
  simp [Complete]

theorem complete_cons_dropped (rest : Socket VmError) :
    Complete (.dropped :: rest) ↔ Complete rest := by
  simp [Complete]

/-- What a read that finds bytes takes of the body. -/
theorem SocketRead.took {socket rest : Socket VmError} {byte : UInt8} {chunk : List UInt8}
    (read : SocketRead socket (.ready (byte :: chunk), rest)) :
    carried socket = byte :: chunk ++ carried rest ∧ (Complete rest ↔ Complete socket) ∧
      pendings socket = 0 := by
  generalize ready : (Awaited.ready (byte :: chunk), rest) = acted at read
  cases read with
  | eof | failed | dropped => cases ready
  | whole segment later =>
    obtain ⟨all, rfl⟩ := Prod.mk.inj ready
    rw [carried, ← Awaited.ready.inj all]
    exact ⟨rfl, complete_cons_data.symm, rfl⟩
  | part some' split later =>
    obtain ⟨front, rfl⟩ := Prod.mk.inj ready
    rw [carried, carried, ← split, ← Awaited.ready.inj front, List.append_assoc]
    exact ⟨rfl, complete_cons_data.trans complete_cons_data.symm, rfl⟩

section

variable (between : Between downstream upstream exchange io)
include between

theorem readStep_request {size : ChunkSize} :
    ∃ result rest, SocketRead io.request (result, rest) ∧
      io.readStep downstream size.1 = (stepped result, { io with request := rest }) := by
  obtain ⟨observed, closed, held⟩ := stream?_of_endpoint? between.request
  refine ⟨(awaitSocket io.request size.1).1, (awaitSocket io.request size.1).2,
    awaitSocket_does io.request size, ?_⟩
  rw [readStep, proxyStreamState, held]
  dsimp only [ProxyIo.Acted.map]
  generalize (awaitSocket io.request size.1).1 = awaited
  cases awaited <;> rfl

/-- A write to the response leaves the exchanges. -/
theorem writeBytes_exchanges (chunk : List UInt8) :
    (io.writeBytes downstream chunk).2.exchanges = io.exchanges := by
  obtain ⟨observed, closed, held⟩ := stream?_of_endpoint? between.request
  rw [writeBytes, prepareProxyStreamWrite, held]
  split
  · rfl
  cases closed
  · simp only [Bool.false_eq_true, ↓reduceIte, writeEndpoint, appendResponseOutput]
    split <;> rfl
  · rfl

end

/-- Closing a side of the forward leaves the exchanges. -/
theorem closeWrite_exchanges {handle : Int} {endpoint : ProxyByteStreamEndpoint}
    (named : io.endpoint? handle = some endpoint)
    (quiet : ∀ io : ProxyIo, io.closeEndpoint endpoint = (.ready (), io)) :
    io.closeWrite handle = (.ready (), (io.closeWrite handle).2) ∧
      (io.closeWrite handle).2.exchanges = io.exchanges := by
  obtain ⟨observed, closed, held⟩ := stream?_of_endpoint? named
  rw [closeWrite, markProxyStreamWriteClosed, held]
  dsimp only
  rw [quiet]
  exact ⟨rfl, rfl⟩

theorem startable_of_exchanges {after : ProxyIo} (same : after.exchanges = io.exchanges) :
    after.startable exchange = io.startable exchange := by
  rw [startable, same, startable]

/-- What a write to the exchange does. -/
inductive Appended (upstream exchange : Int) (io : ProxyIo) (chunk : List UInt8) :
    Acted Unit → Prop
  | refused (err : VmError) (after : ProxyIo)
    (kept : after.startable exchange = io.startable exchange) :
    Appended upstream exchange io chunk (.failed err, after)
  | appended {after : ProxyIo} (kept : after.startable exchange = io.startable exchange)
    (writing : after.writing upstream = true)
    (body : after.received (.httpExchange exchange) = io.received (.httpExchange exchange) ++ chunk)
    (request : after.request = io.request) : Appended upstream exchange io chunk (.ready (), after)

attribute [local simp] setExchange

theorem writeBytes_appended (between : Between downstream upstream exchange io)
    {chunk : List UInt8} (some' : chunk ≠ []) :
    Appended upstream exchange io chunk (io.writeBytes upstream chunk) := by
  obtain ⟨observed, closed, held⟩ := stream?_of_endpoint? between.named
  rw [writeBytes, if_neg (by simpa using some'), prepareProxyStreamWrite, held]
  cases closed with
  | true => exact .refused _ _ rfl
  | false =>
    simp only [Bool.false_eq_true, ↓reduceIte, writeEndpoint, appendExchangeBody]
    rw [show (io.setStream upstream ⟨.httpExchange exchange, true, false⟩).exchanges =
      io.exchanges from rfl]
    rcases found : io.exchanges exchange with - | ⟨websocket, target, body, response, answer⟩
    · exact .refused _ _ rfl
    cases response with
    | some socket => exact .refused _ _ rfl
    | none =>
      refine .appended ?_ ?_ ?_ rfl
      · simp [startable, found, Exchange.preparable]
      · rw [writing, show ∀ (io : ProxyIo) (next : Exchange),
          (io.setExchange exchange next).stream? upstream = io.stream? upstream
          from fun _ _ => rfl, stream?_setStream, if_pos rfl]
        rfl
      · simp [received, found]

/-- Behind an operation on the response that returns, or on one that was there, it is there. -/
theorem onResponse_startable {α : Type}
    (operation : Socket VmError → Awaited VmError α × Socket VmError)
    (begun : (io.onResponse exchange operation).1.isReady ∨ io.startable exchange = false) :
    (io.onResponse exchange operation).2.startable exchange = false := by
  have does := onResponse_does io exchange operation
  generalize io.onResponse exchange operation = acted at does begun
  rcases does with ⟨err, absent⟩ | absent | ⟨held, reply⟩
  · simpa [Awaited.isReady] using begun
  · simpa [Awaited.isReady] using begun
  · simp [startable]

theorem readExchange_startable (size : ChunkSize)
    (begun : (io.readExchange exchange size.1).1.isReady ∨ io.startable exchange = false) :
    (io.readExchange exchange size.1).2.startable exchange = false := by
  have first := @onResponse_startable exchange io _ (awaitSocket · size.1)
  rw [readExchange] at begun ⊢
  generalize io.onResponse exchange (awaitSocket · size.1) = acted at first begun
  obtain ⟨(chunk | err | -), after⟩ := acted
  · have there := first (.inl rfl)
    dsimp only at begun ⊢
    split
    · exact onResponse_startable _ (.inr there)
    · exact there
  all_goals exact first (begun.imp id id)

end

/-! ## The phases of a forward -/

open Forward

section

variable {downstream upstream exchange : Int} {size : ChunkSize}

/-- The second loop has not begun to read. -/
def Unread (task : Task) : Prop := task = .running ∨ task = .waiting

/-- Nothing that can still happen starts the request, or starts it again. -/
structure Over (downstream upstream exchange : Int) (sent : Option (List UInt8))
    (state : Forward) : Prop where
  between : Between downstream upstream exchange state.io
  same : state.sent = sent
  ended : state.failed = true ∨ ¬ Unread state.down ∨ state.io.startable exchange = false

variable {sent : Option (List UInt8)} {state next : Forward}

/-- A read of the response keeps what was sent, and the request is not started again. -/
theorem passOn_over (between : Between downstream upstream exchange state.io)
    (kept : ¬ Unread state.down ∨ state.io.startable exchange = false) :
    Over downstream upstream exchange state.sent
      (state.passOn downstream (state.io.readExchange exchange size.1)) := by
  have there : Between downstream upstream exchange (state.io.readExchange exchange size.1).2 :=
    between.of_endpoints (readOf_exchange state.io size).same.endpoint?
  have behind := @readExchange_startable exchange state.io size
  generalize state.io.readExchange exchange size.1 = acted at there behind
  obtain ⟨(step | err | -), io⟩ := acted
  · have unstartable : io.startable exchange = false := behind (.inl rfl)
    rcases step with chunk | - | - | -
    · have last := (startable_of_exchanges (writeBytes_exchanges there chunk)).trans unstartable
      have named : ∀ handle, (io.writeBytes downstream chunk).2.endpoint? handle =
          io.endpoint? handle := by
        by_cases empty : chunk = []
        · subst empty
          exact fun _ => rfl
        · exact (writeBytes_does io downstream empty).endpoints
      rw [passOn]
      generalize io.writeBytes downstream chunk = wrote at named last
      obtain ⟨(value | err | -), after⟩ := wrote
      · exact ⟨there.of_endpoints named, rfl, .inr (.inr last)⟩
      all_goals exact ⟨there.of_endpoints named, rfl, .inl rfl⟩
    · rw [passOn, (closeWrite_exchanges there.request fun _ => rfl).1]
      exact ⟨there.of_endpoints (closeWrite_does io downstream).endpoints, rfl,
        .inr (.inl (by simp [Unread]))⟩
    all_goals exact ⟨there, rfl, .inr (.inr unstartable)⟩
  · exact ⟨there, rfl, .inl rfl⟩
  · exact ⟨there, rfl, .inr (kept.imp id fun begun => behind (.inr begun))⟩

/-- Everything a poll of the second loop can do that does something. -/
inductive ReadDown (downstream upstream exchange : Int) (state : Forward) : Forward → Prop
  | waits (unread : Unread state.down) (waits : state.io.waits upstream = true) :
    ReadDown downstream upstream exchange state { state with down := .waiting }
  | starts (unread : Unread state.down) (runs : state.io.waits upstream = false)
    (unstarted : state.io.startable exchange = true) :
    ReadDown downstream upstream exchange state
      { state with down := .starting, sent := some (state.io.received (.httpExchange exchange)) }
  | goes {next : Forward} (begun : ¬ Unread state.down ∨ state.io.startable exchange = false)
    (after : Over downstream upstream exchange state.sent next) :
    ReadDown downstream upstream exchange state next

section

variable (between : Between downstream upstream exchange state.io)
include between

theorem readDown_does (unread : Unread state.down) :
    ReadDown downstream upstream exchange state
      (state.readDown downstream upstream exchange size) := by
  have fails (absent : state.io.startable exchange = false) :
      ReadDown downstream upstream exchange state { state with failed := true } :=
    .goes (.inr absent) ⟨between, rfl, .inl rfl⟩
  rw [readDown]
  split
  · rename_i waits
    exact .waits unread waits
  rename_i runs
  rcases found : state.io.exchanges exchange with - | request
  · exact fails (by simp [startable, found])
  cases response : request.response with
  | some socket =>
    have begun : state.io.startable exchange = false := by simp [startable, found, response]
    dsimp only
    rw [if_pos (by simp [response])]
    exact .goes (.inr begun) (passOn_over between (.inr begun))
  | none =>
    dsimp only
    rw [if_neg (by simp [response])]
    rcases prepared_cases exchange request with ⟨can, ok⟩ | ⟨cannot, err, failed⟩
    · have starts := @ReadDown.starts downstream upstream exchange state unread
        (by simpa using runs) (by simp [startable, found, response, can])
      rw [show state.io.received (.httpExchange exchange) = request.bodyOverride.getD [] by
        simp [received, found]] at starts
      rw [ok]
      exact starts
    · rw [failed]
      exact fails (by simp [startable, found, cannot])

theorem pollDown_does : state.pollDown downstream upstream exchange size = state ∨
    ReadDown downstream upstream exchange state
      (state.pollDown downstream upstream exchange size) := by
  rw [pollDown]
  cases down : state.down with
  | running => exact .inr (readDown_does between (.inl down))
  | waiting =>
    dsimp only
    split
    · exact .inr (readDown_does between (.inr down))
    · exact .inl rfl
  | starting =>
    have read : ¬ Unread state.down := by simp [Unread, down]
    dsimp only
    split
    · exact .inr (.goes (.inl read) (passOn_over between (.inl read)))
    · exact .inl rfl
  | finished => exact .inl rfl

end

/-- Everything a poll of the first loop can do. -/
inductive PolledUp (upstream exchange : Int) (state : Forward) : Forward → Prop
  | rests (idle : state.up ≠ .running) : PolledUp upstream exchange state state
  | pending {rest : Socket VmError} (runs : state.up = .running)
    (nothing : state.io.request = .dropped :: rest) :
    PolledUp upstream exchange state { state with io := { state.io with request := rest } }
  | fails {io : ProxyIo} (endpoints : ∀ handle, io.endpoint? handle = state.io.endpoint? handle)
    (now : pendings state.io.request = 0) :
    PolledUp upstream exchange state { state with io, failed := true }
  | copies {io : ProxyIo} (runs : state.up = .running)
    (endpoints : ∀ handle, io.endpoint? handle = state.io.endpoint? handle)
    (kept : io.startable exchange = state.io.startable exchange)
    (writing : io.writing upstream = true)
    (body : io.received (.httpExchange exchange) ++ carried io.request =
      state.io.received (.httpExchange exchange) ++ carried state.io.request)
    (rest : Complete io.request ↔ Complete state.io.request)
    (now : pendings state.io.request = 0) : PolledUp upstream exchange state { state with io }
  | ends {io : ProxyIo} (runs : state.up = .running)
    (endpoints : ∀ handle, io.endpoint? handle = state.io.endpoint? handle)
    (same : io.exchanges = state.io.exchanges) (empty : state.io.request = []) :
    PolledUp upstream exchange state { state with io, up := .finished }

theorem pollUp_does (between : Between downstream upstream exchange state.io) :
    PolledUp upstream exchange state (state.pollUp downstream upstream size) := by
  obtain ⟨io, up, down, sent, answered, failed⟩ := state
  rw [pollUp]
  cases up with
  | running =>
    obtain ⟨result, rest, read, reads⟩ := readStep_request between
    rw [reads]
    have there : Between downstream upstream exchange { io with request := rest } :=
      between.of_endpoints fun _ => rfl
    obtain ((- | ⟨byte, chunk⟩) | err | -) := result
    · obtain ⟨empty, rfl⟩ := read.empty
      obtain ⟨closes, same⟩ := closeWrite_exchanges there.named fun _ => rfl
      have named := (closeWrite_does { io with request := [] } upstream).endpoints
      rw [show stepped (.ready []) = .ready .eof from rfl]
      dsimp only
      rw [closes]
      exact .ends rfl named same empty
    · obtain ⟨bytes, errors, now⟩ := read.took
      have some' : byte :: chunk ≠ [] := List.cons_ne_nil byte chunk
      have wrote := writeBytes_appended there some'
      have named := (writeBytes_does { io with request := rest } upstream some').endpoints
      rw [stepped, stepOf_of_ne some']
      dsimp only
      generalize { io with request := rest }.writeBytes upstream (byte :: chunk) = acted
        at wrote named
      cases wrote with
      | refused err after kept => exact .fails named now
      | appended kept writing body request =>
        refine .copies rfl named kept writing ?_ (request ▸ errors) now
        rw [body, request, List.append_assoc, ← bytes]
        rfl
    · replace read : SocketRead io.request (.failed err, rest) := read
      have now : pendings io.request = 0 := by
        generalize io.request = request at read ⊢
        cases read
        rfl
      exact .fails (fun _ => rfl) now
    · replace read : SocketRead io.request (.dropped, rest) := read
      have nothing : io.request = .dropped :: rest := by
        generalize io.request = request at read ⊢
        cases read
        rfl
      exact .pending rfl nothing
  | waiting | starting | finished => exact .rests (by simp)

theorem PolledUp.over' (over' : Over downstream upstream exchange sent state)
    (does : PolledUp upstream exchange state next) :
    Over downstream upstream exchange sent next := by
  obtain ⟨between, same, ended⟩ := over'
  cases does with
  | rests idle => exact ⟨between, same, ended⟩
  | pending runs nothing => exact ⟨between.of_endpoints fun _ => rfl, same, ended⟩
  | fails endpoints now => exact ⟨between.of_endpoints endpoints, same, .inl rfl⟩
  | copies runs endpoints kept writing body rest now =>
    exact ⟨between.of_endpoints endpoints, same, ended.imp id (.imp id kept.trans)⟩
  | ends runs endpoints exchanges empty =>
    exact ⟨between.of_endpoints endpoints, same,
      ended.imp id (.imp id (startable_of_exchanges exchanges).trans)⟩

theorem ReadDown.over' (over' : Over downstream upstream exchange sent state)
    (live : state.failed = false) (does : ReadDown downstream upstream exchange state next) :
    Over downstream upstream exchange sent next := by
  obtain ⟨between, same, ended⟩ := over'
  cases does with
  | waits unread waits =>
    rcases ended with failed | read | begun
    · simp [live] at failed
    · exact absurd unread read
    · exact ⟨between, same, .inr (.inr begun)⟩
  | starts unread runs unstarted => simp [live, unread, unstarted] at ended
  | goes begun after => exact same ▸ after

theorem Over.step (event : ForwardEvent) (over' : Over downstream upstream exchange sent state) :
    Over downstream upstream exchange sent
      (state.step downstream upstream exchange size event) := by
  cases event with
  | pollUp =>
    rw [Forward.step]
    split
    · exact over'
    · exact (pollUp_does over'.between).over' over'
  | pollDown =>
    rw [Forward.step]
    split
    · exact over'
    rename_i live
    rcases @pollDown_does _ _ _ size _ over'.between with rests | does
    · rw [rests]
      exact over'
    · exact does.over' over' (by simpa using live)
  | answer => exact ⟨over'.between, over'.same, over'.ended⟩

theorem Over.run (events : List ForwardEvent)
    (over' : Over downstream upstream exchange sent state) :
    (state.run downstream upstream exchange size events).sent = sent := by
  induction events generalizing state with
  | nil => exact over'.same
  | cons event rest ih => exact ih (over'.step event)

/-- An exchange that is written to is waited for. -/
theorem waits_of_writing {io : ProxyIo} (between : Between downstream upstream exchange io)
    (unstarted : io.startable exchange = true) :
    io.waits upstream = io.writing upstream := by
  obtain ⟨observed, closed, held⟩ := stream?_of_endpoint? between.named
  obtain ⟨request, found, unanswered⟩ := (Option.any_eq_true _ _).mp unstarted
  have available : io.responseAvailable exchange = false := by
    simpa [ProxyIo.responseAvailable, found] using (Bool.and_eq_true_iff.mp unanswered).1
  simp [ProxyIo.waits, ProxyIo.writing, held, available]

/-- The body is being copied, so that the other loop waits, or it was copied. -/
def Copies (upstream exchange : Int) (whole : List UInt8) (complete : Prop) (state : Forward) :
    Prop :=
  state.up = .running ∧ state.io.writing upstream = true ∧
      state.io.received (.httpExchange exchange) ++ carried state.io.request = whole ∧
      (Complete state.io.request → complete) ∨
    state.up = .finished ∧ state.io.received (.httpExchange exchange) = whole ∧ complete

/-- Where a forward can be, if its request is to be started with some body. -/
inductive ForwardPhase (downstream upstream exchange : Int) (whole : List UInt8) (complete : Prop)
    (state : Forward) : Prop
  | copies (between : Between downstream upstream exchange state.io) (unread : Unread state.down)
    (unsent : state.sent = none) (unstarted : state.io.startable exchange = true)
    (body : Copies upstream exchange whole complete state)
  | settled {sent : Option (List UInt8)} (over' : Over downstream upstream exchange sent state)
    (sent : ∀ body ∈ sent, complete ∧ body = whole)

variable {whole : List UInt8} {complete : Prop}

/-- A poll of the first loop that makes the other wait. -/
theorem PolledUp.phase (does : PolledUp upstream exchange state next)
    (between : Between downstream upstream exchange state.io) (runs : state.up = .running)
    (unread : Unread state.down) (unsent : state.sent = none)
    (body : state.io.received (.httpExchange exchange) ++ carried state.io.request = whole)
    (rest : Complete state.io.request → complete)
    (begun : state.io.writing upstream = true ∨ pendings state.io.request = 0) :
    ForwardPhase downstream upstream exchange whole complete next := by
  cases unstarted : state.io.startable exchange with
  | false => exact .settled (does.over' ⟨between, unsent, .inr (.inr unstarted)⟩) (by simp)
  | true =>
    cases does with
    | rests idle => exact absurd runs idle
    | pending _ nothing =>
      rw [nothing] at body rest begun
      have writing := begun.resolve_right (by simp [pendings, ReadEvent.isDropped])
      exact .copies (between.of_endpoints fun _ => rfl) unread unsent unstarted (.inl
        ⟨runs, writing, body, fun fine => rest ((complete_cons_dropped _).mpr fine)⟩)
    | fails endpoints now =>
      exact .settled ⟨between.of_endpoints endpoints, unsent, .inl rfl⟩ (by simp)
    | copies _ endpoints kept written moved errors now =>
      exact .copies (between.of_endpoints endpoints) unread unsent (kept.trans unstarted) (.inl
        ⟨runs, written, moved.trans body, fun fine => rest (errors.mp fine)⟩)
    | ends _ endpoints same empty =>
      rw [empty] at body rest
      refine .copies (between.of_endpoints endpoints) unread unsent
        ((startable_of_exchanges same).trans unstarted) (.inr ⟨rfl, ?_, rest (by simp [Complete])⟩)
      rw [received, same]
      simpa [carried, received] using body

theorem ForwardPhase.pollUp
    (phase : ForwardPhase downstream upstream exchange whole complete state) :
    ForwardPhase downstream upstream exchange whole complete
      (state.pollUp downstream upstream size) := by
  cases phase with
  | copies between unread unsent unstarted body =>
    have copied := body
    rcases body with ⟨runs, writing, body, rest⟩ | ⟨idle, -⟩
    · exact (pollUp_does between).phase between runs unread unsent body rest (.inl writing)
    · rw [Forward.pollUp, idle]
      exact .copies between unread unsent unstarted copied
  | settled over' sent => exact .settled ((pollUp_does over'.between).over' over') sent

theorem ForwardPhase.pollDown (live : state.failed = false)
    (phase : ForwardPhase downstream upstream exchange whole complete state) :
    ForwardPhase downstream upstream exchange whole complete
      (state.pollDown downstream upstream exchange size) := by
  cases phase with
  | copies between unread unsent unstarted body =>
    rcases @pollDown_does _ _ _ size _ between with rests | does
    · rw [rests]
      exact .copies between unread unsent unstarted body
    generalize state.pollDown downstream upstream exchange size = next at does
    cases does with
    | waits _ _ => exact .copies between (.inr rfl) unsent unstarted body
    | starts _ runs _ =>
      -- The request is started, with what the first loop has copied.
      rcases body with ⟨-, writing, -⟩ | ⟨-, whole, all⟩
      · simp [waits_of_writing between unstarted, writing] at runs
      · exact .settled ⟨between, rfl, .inr (.inl (by simp [Unread]))⟩ (by simp [whole, all])
    | goes begun _ => simp [unread, unstarted] at begun
  | settled over' sent =>
    rcases @pollDown_does _ _ _ size _ over'.between with rests | does
    · rw [rests]
      exact .settled over' sent
    · exact .settled (does.over' over' live) sent

theorem ForwardPhase.step (event : ForwardEvent)
    (phase : ForwardPhase downstream upstream exchange whole complete state) :
    ForwardPhase downstream upstream exchange whole complete
      (state.step downstream upstream exchange size event) := by
  cases event with
  | pollUp =>
    rw [Forward.step]
    split
    · exact phase
    · exact phase.pollUp
  | pollDown =>
    rw [Forward.step]
    split
    · exact phase
    · rename_i live
      exact phase.pollDown (by simpa using live)
  | answer =>
    cases phase with
    | copies between unread unsent unstarted body =>
      exact .copies between unread unsent unstarted body
    | settled over' sent => exact .settled ⟨over'.between, over'.same, over'.ended⟩ sent

/-- A request that is started in such a phase is started with the body of the phase. -/
theorem ForwardPhase.sent_run (events : List ForwardEvent)
    (phase : ForwardPhase downstream upstream exchange whole complete state) :
    ∀ body ∈ (state.run downstream upstream exchange size events).sent,
      complete ∧ body = whole := by
  induction events generalizing state with
  | nil =>
    cases phase with
    | copies between unread unsent unstarted body => simp [Forward.run, unsent]
    | settled over' sent => exact over'.same ▸ sent
  | cons event rest ih => exact ih (phase.step event)

/-! ## The first poll decides -/

/-- Before anything but the answer has happened. -/
def Forward.untouched (io : ProxyIo) (answered : Bool) : Forward :=
  ⟨io, .running, .running, none, answered, false⟩

/-- When the request is started with the whole body. -/
def Whole (upstream exchange : Int) (io : ProxyIo) (events : List ForwardEvent) : Prop :=
  Complete io.request ∧ carried io.request = [] ∨ io.writing upstream = true ∨
    io.startable exchange = false ∨ Led (pendings io.request) events = true

/-- A first poll of the second loop starts the request, unless the exchange is being written. -/
theorem sentWhole_pollDown {io : ProxyIo} {answered : Bool}
    (between : Between downstream upstream exchange io) {rest : List ForwardEvent} :
    SentWhole io exchange ((untouched io answered).run downstream upstream exchange size
        (.pollDown :: rest)) ↔
      Complete io.request ∧ carried io.request = [] ∨ io.writing upstream = true ∨
        io.startable exchange = false := by
  cases unstarted : io.startable exchange with
  | false =>
    have same := @Over.run downstream upstream exchange size _ (untouched io answered)
      (.pollDown :: rest) ⟨between, rfl, .inr (.inr unstarted)⟩
    rw [SentWhole, same]
    simp [untouched]
  | true =>
    cases writing : io.writing upstream with
    | true =>
      have phase : ForwardPhase downstream upstream exchange _ (Complete io.request)
          (untouched io answered) :=
        .copies between (.inl rfl) rfl unstarted (.inl ⟨rfl, writing, rfl, id⟩)
      exact iff_of_true (phase.sent_run _) (by simp)
    | false =>
      have does := @readDown_does _ _ _ size (untouched io answered) between (.inl rfl)
      have runs := (waits_of_writing between unstarted).trans writing
      rw [show (untouched io answered).run downstream upstream exchange size (.pollDown :: rest) =
        ((untouched io answered).readDown downstream upstream exchange size).run
          downstream upstream exchange size rest from rfl]
      generalize (untouched io answered).readDown downstream upstream exchange size = next at does
      cases does with
      | waits _ waits => exact absurd (waits.symm.trans runs) (by simp)
      | starts _ _ _ =>
        -- The request goes out with what was set for it before the forward.
        have same := @Over.run downstream upstream exchange size _
          ⟨io, .running, .starting, some (io.received (.httpExchange exchange)), answered, false⟩
          rest ⟨between, rfl, .inr (.inl (by simp [Unread]))⟩
        dsimp only [untouched]
        rw [SentWhole, same]
        simp
      | goes begun _ => simp [untouched, Unread, unstarted] at begun

/-- What a poll that finds nothing leaves. -/
theorem whole_dropped {io : ProxyIo} {later : Socket VmError}
    (nothing : io.request = .dropped :: later) (rest : List ForwardEvent) :
    Whole upstream exchange io (.pollUp :: rest) ↔
      Whole upstream exchange { io with request := later } rest := by
  have count : pendings (.dropped :: later) = pendings later + 1 := rfl
  have same : carried (.dropped :: later) = carried later := rfl
  rw [Whole, Whole, nothing, complete_cons_dropped, same, count, Led]
  rfl

theorem run_untouched_iff (answered : Bool) {io : ProxyIo}
    (between : Between downstream upstream exchange io) {events : List ForwardEvent} :
    SentWhole io exchange ((untouched io answered).run downstream upstream exchange size events) ↔
      Whole upstream exchange io events := by
  induction events generalizing io answered with
  | nil => simp [run, untouched, SentWhole, Whole, Led]
  | cons event rest ih =>
    cases event with
    | answer => exact ih true between
    | pollDown =>
      rw [Whole, Led, sentWhole_pollDown between]
      simp
    | pollUp =>
      by_cases now : pendings io.request = 0
      · have phase := (@pollUp_does _ _ _ size (untouched io answered) between).phase between rfl
          (.inl rfl) rfl rfl id (.inr now)
        rw [Whole, Led, now]
        exact iff_of_true (phase.sent_run rest) (by simp)
      have does := @pollUp_does downstream upstream exchange size (untouched io answered) between
      rw [show (untouched io answered).run downstream upstream exchange size (.pollUp :: rest) =
        ((untouched io answered).pollUp downstream upstream size).run
          downstream upstream exchange size rest from rfl]
      generalize (untouched io answered).pollUp downstream upstream size = next at does
      cases does with
      | rests idle => exact absurd rfl idle
      | fails _ found | copies _ _ _ _ _ _ found => exact absurd found now
      | ends _ _ _ empty => exact absurd (congrArg pendings empty) now
      | @pending later _ nothing =>
        rw [show (untouched io answered).io.request = io.request from rfl] at nothing
        have there := @ih answered { io with request := later } (between.of_endpoints fun _ => rfl)
        rw [whole_dropped nothing, ← there, SentWhole, nothing, complete_cons_dropped]
        rfl

end

/-- The request of the exchange is started with the whole body, at every point of every
interleaving, exactly if there is no body, the exchange was being written before the forward, it
cannot be started, or the loop that copies the body has found something of it before the other is
polled. -/
theorem forward_sends_whole_iff {downstream upstream exchange : Int} (size : ChunkSize)
    {io : ProxyIo} (request : io.endpoint? downstream = some .httpDownstream)
    (named : io.endpoint? upstream = some (.httpExchange exchange))
    (events : List ForwardEvent) :
    SentWhole io exchange ((Forward.new io).run downstream upstream exchange size events) ↔
      Whole upstream exchange io events :=
  run_untouched_iff false ⟨request, named⟩

theorem letter_there : [(120 : UInt8)] ≠ [] := by decide

/-- A request whose body comes after a poll that finds nothing, and a new exchange. -/
def lateBody : ProxyIo where
  streams handle := if handle = 1 then some (.new (.httpExchange 5)) else none
  request := [.dropped, .data ⟨[120], letter_there⟩]
  output := .default
  sound := .default
  exchanges handle := if handle = 5 then some ⟨false, true, none, none, .dropped⟩ else none
  transports _ _ := none
  websockets _ := ⟨[], ⟨[], 0, []⟩⟩

/-- The body is there when the copying loop is first polled again, before the other loop. -/
theorem forward_sends_whole_iff_lateBody :
    SentWhole lateBody 5 ((Forward.new lateBody).run (-1) 1 5 ⟨16, by decide⟩
      [.pollUp, .pollUp, .pollDown, .pollUp, .pollDown]) :=
  (forward_sends_whole_iff ⟨16, by decide⟩ rfl rfl _).mpr (.inr (.inr (.inr (by decide +kernel))))

/-- The copying loop is polled first, but nothing of the body has arrived: the other loop starts
the request without it. -/
theorem late_body_not_sent :
    ((Forward.new lateBody).run (-1) 1 5 ⟨16, by decide⟩ [.pollUp, .pollDown, .pollUp]).sent =
      some [] ∧
    carried lateBody.request = [120] ∧
    ¬ SentWhole lateBody 5
      ((Forward.new lateBody).run (-1) 1 5 ⟨16, by decide⟩ [.pollUp, .pollDown, .pollUp]) := by
  have started : ((new lateBody).run (-1) 1 5 ⟨16, by decide⟩
      [.pollUp, .pollDown, .pollUp]).sent = some [] := by decide +kernel
  refine ⟨started, rfl, fun whole => ?_⟩
  cases (whole [] started).2

end PdEdge.Proxy

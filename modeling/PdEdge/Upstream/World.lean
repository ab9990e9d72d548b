import PdEdge.Upstream.Exchange

/-!
# Exchanges over a shared pool

Calls of `forward_serialized_via_sender_pool` and the reading of their response bodies, in
any interleaving over one pool. Every exchange keeps a trace of what was sent, of what the
upstream did from then on, and of what was handed out.

As long as every answer is one final response, or the beginning of one, the connections in
the pool hold no unread byte, and so what is handed out for an exchange is part of its own
answer. A single byte behind a response breaks this: a connection is released without a look
at its buffer.
-/

namespace PdEdge.Upstream

open Heads Wire

/-- What the client takes from its libraries: `httparse` and the text of a `VmError`. -/
structure Libraries where
  responses : HeadParser HttparseResponse
  display : VmError → String

/-- The exchange of a request whose response head was parsed. -/
structure Trace where
  request : SerializedOutboundHttp1Request
  sent : List UInt8
  /-- The bytes unread on the connection before the request. -/
  stale : List UInt8
  /-- What the upstream did from the request on, to the next request. -/
  answer : Socket IoError
  head : ParsedResponseHead
  /-- The body bytes handed out. -/
  delivered : List UInt8
  /-- The connection was given back to the pool. -/
  returned : Bool

/-- Where a call stands. -/
inductive Phase (κ : Type) where
  | acquiring (retried : Bool)
  | acquired (retried : Bool) (connection : PlainHttp1PooledConnection)
  | responded (trace : Trace) (body : Option (PlainHttp1ResponseBody κ))
  | failed (err : VmError)
  | dropped

/-- A call of `forward_serialized_via_sender_pool` and the response it returned. -/
structure Task (κ : Type) where
  key : κ
  capacity : Nat
  /-- The scheme and the authority, as errors show them. -/
  origin : String
  phase : Phase κ

/-- What can happen to a call: it gets a connection, it exchanges the request that
`make_request` builds for a response head, its body is read, it is dropped. -/
inductive Event where
  | acquire (connect : Awaited VmError (Socket IoError))
  | exchange (request : Except VmError SerializedOutboundHttp1Request)
    (outcomes : List (Awaited IoError Unit)) (answer : Socket IoError)
  | pull
  | close

section

variable {κ : Type} [DecidableEq κ]

/-- The error of an exchange that is not tried again. -/
def forwardError (libraries : Libraries) (origin : String) (err : VmError) : VmError :=
  let shown := libraries.display err
  .hostError s!"outbound request to {origin} failed while evaluating host call: {shown}"

/-- The bytes a pull hands out. -/
def pulledBytes : Pulled → List UInt8
  | .ready (some data) => data
  | _ => []

/-- A lease that may put its connection back has let go of it. -/
def gaveBack (before after : PlainHttp1SenderLease κ) : Bool :=
  before.mayReuse && !before.dirty && before.connection.isSome && after.connection.isNone

/-- The trace after a pull. -/
def Trace.afterPull (trace : Trace) (before after : PlainHttp1SenderLease κ)
    (pulled : Pulled) : Trace :=
  { trace with
    delivered := trace.delivered ++ pulledBytes pulled
    returned := trace.returned || gaveBack before after }

namespace Task

/-- A request on an acquired connection; the first failure is tried again where the request
can be built again. -/
def exchange (libraries : Libraries) (task : Task κ) (pool : PlainHttp1SenderPool κ)
    (retried : Bool) (connection : PlainHttp1PooledConnection)
    (request : SerializedOutboundHttp1Request) (outcomes : List (Awaited IoError Unit))
    (answer : Socket IoError) : PlainHttp1SenderPool κ × Phase κ :=
  match sendSerializedRequestAndParseResponse libraries.responses connection request outcomes
      answer with
  | (.ready head, sent, after) =>
    let (pool, body) := handOver pool task.key task.capacity after head
    (pool, .responded ⟨request, sent, connection.ahead, answer, head, [],
      head.bodyKind.isNone && head.keepAlive⟩ body)
  | (.failed err, _) =>
    if !retried && request.body.isRetryable then (pool, .acquiring true)
    else (pool, .failed (forwardError libraries task.origin err))
  | (.dropped, _) => (pool, .dropped)

/-- What an event does; an event that does not fit the phase does nothing. -/
def step (libraries : Libraries) (task : Task κ) (pool : PlainHttp1SenderPool κ)
    (event : Event) : PlainHttp1SenderPool κ × Phase κ :=
  match event, task.phase with
  | .acquire connect, .acquiring retried =>
    match acquirePlainHttp1Connection pool task.key connect with
    | (.ready connection, pool) => (pool, .acquired retried connection)
    | (.failed err, pool) => (pool, .failed err)
    | (.dropped, pool) => (pool, .dropped)
  | .exchange (.ok request) outcomes answer, .acquired retried connection =>
    task.exchange libraries pool retried connection request outcomes answer
  | .exchange (.error err) _ _, .acquired _ _ => (pool, .failed err)
  | .pull, .responded trace (some body) =>
    let (pulled, pool, after) := body.pullNext pool
    (pool, .responded (trace.afterPull body.lease after.lease pulled) (some after))
  | .close, .responded trace _ => (pool, .responded trace none)
  | .close, .acquiring _ => (pool, .dropped)
  | .close, .acquired _ _ => (pool, .dropped)
  | _, phase => (pool, phase)

end Task

/-- The shared pool and the calls that use it. -/
structure World (κ : Type) where
  pool : PlainHttp1SenderPool κ
  tasks : List (Task κ)

/-- A new call, or an event of one. -/
inductive Action (κ : Type) where
  | call (key : κ) (capacity : Nat) (origin : String)
  | act (index : Nat) (event : Event)

namespace World

def step (libraries : Libraries) (world : World κ) : Action κ → World κ
  | .call key capacity origin =>
    { world with tasks := world.tasks ++ [⟨key, capacity, origin, .acquiring false⟩] }
  | .act index event =>
    match world.tasks[index]? with
    | none => world
    | some task =>
      let (pool, phase) := task.step libraries world.pool event
      ⟨pool, world.tasks.set index { task with phase := phase }⟩

/-- The world after some actions, from an empty pool. -/
def run (libraries : Libraries) (actions : List (Action κ)) : World κ :=
  actions.foldl (step libraries) ⟨.empty, []⟩

end World

end

/-! ## What is in step -/

/-- The upstream sends nothing before a request, and one final response or the beginning of
one behind it. -/
def Event.Clean (libraries : Libraries) : Event → Prop
  | .acquire (.ready early) => carried early = []
  | .exchange (.ok request) _ answer =>
    OneResponse libraries.responses request.method (carried answer)
  | _ => True

def Action.Clean {κ : Type} (libraries : Libraries) : Action κ → Prop
  | .call _ _ _ => True
  | .act _ event => event.Clean libraries

/-- Head and body of an exchange are its own, and the connection was given back only behind
a whole request and a whole response, to be kept alive. -/
structure Trace.InStep (libraries : Libraries) (trace : Trace) : Prop where
  /-- Nothing was left from before the request. -/
  fresh : trace.stale = []
  /-- The request was written completely. -/
  written : trace.request.Complete trace.sent
  /-- The head is the one of the answer. -/
  parsed : ∃ response consumed,
    libraries.responses.parse (carried trace.answer) = .complete response consumed ∧
    acceptHead trace.request.method response = .ok trace.head
  /-- The body comes from the answer, behind its head. -/
  own : trace.delivered.Sublist (libraries.responses.behind (carried trace.answer))
  /-- The answer was one whole response when the connection was given back. -/
  settled : trace.returned → trace.head.keepAlive ∧
    Completes libraries.responses trace.request.method (carried trace.answer) []

/-- The trace of a call that has one. -/
def Phase.trace? {κ : Type} : Phase κ → Option Trace
  | .responded trace _ => some trace
  | _ => none

/-- The connection of the exchange was given back in this step. -/
def Returns {κ : Type} (before after : Phase κ) : Prop :=
  ∃ trace, after.trace? = some trace ∧ trace.returned ∧
    ∀ old, before.trace? = some old → old.returned = false

end PdEdge.Upstream

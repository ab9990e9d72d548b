import PdEdge.Upstream.World

/-!
# The pool and its exchanges stay in step

One lemma for each event says what it does to the pool and to the call it happens to; runs
follow by induction over their actions.
-/

namespace PdEdge.Upstream

open Heads Text Wire PlainHttp1ResponseBody List

section

variable {κ : Type} [DecidableEq κ]

/-- No pooled connection has an unread byte. -/
def PlainHttp1SenderPool.Spent (pool : PlainHttp1SenderPool κ) : Prop :=
  ∀ key, ∀ connection ∈ pool.connections key, connection.ahead = []

/-- What an event does to the pool. -/
inductive PoolStep (returns : Prop) (before : PlainHttp1SenderPool κ) :
    PlainHttp1SenderPool κ → Prop
  | same : PoolStep returns before before
  | taken {key : κ} : PoolStep returns before (before.take key).2
  | put {key : κ} {capacity : Nat} {connection : PlainHttp1PooledConnection}
    (spent : connection.ahead = []) (returned : returns) :
    PoolStep returns before (before.put key capacity connection).2

/-- A key keeps its connections, loses the last or gains one that was given back. -/
def Grows (returns : Prop) (before after : PlainHttp1SenderPool κ) : Prop :=
  ∀ key, after.connections key <+: before.connections key ∨
    ∃ connection, after.connections key = before.connections key ++ [connection] ∧
      connection.ahead = [] ∧ returns

variable {returns : Prop} {before after : PlainHttp1SenderPool κ}

theorem PoolStep.grows (step : PoolStep returns before after) : Grows returns before after := by
  intro key
  cases step with
  | same => exact Or.inl (prefix_refl _)
  | @taken taken =>
    refine Or.inl ?_
    rw [PlainHttp1SenderPool.connections_take]
    split
    · rename_i same
      exact same ▸ dropLast_prefix _
    · exact prefix_refl _
  | @put target capacity connection spent returned =>
    rw [PlainHttp1SenderPool.connections_put]
    split
    · rename_i kept
      exact Or.inr ⟨connection, by rw [kept.1], spent, returned⟩
    · exact Or.inl (prefix_refl _)

theorem Grows.spent (grows : Grows returns before after) (idle : before.Spent) : after.Spent := by
  intro key connection member
  rcases grows key with shorter | ⟨added, whole, spent, -⟩
  · exact idle key connection (shorter.subset member)
  rw [whole, mem_append, mem_singleton] at member
  rcases member with old | rfl
  · exact idle key connection old
  · exact spent

theorem PoolStep.mono {other : Prop} (implies : returns → other)
    (step : PoolStep returns before after) : PoolStep other before after := by
  cases step with
  | same => exact .same
  | taken => exact .taken
  | put spent returned => exact .put spent (implies returned)

/-- From a pool without unread bytes, and with an upstream that waits for a request, comes a
connection without unread bytes. -/
theorem acquire_spent {pool final : PlainHttp1SenderPool κ} {key : κ}
    {connect : Awaited VmError (Socket IoError)}
    {result : Awaited VmError PlainHttp1PooledConnection}
    (early : ∀ socket, connect = .ready socket → carried socket = []) (idle : pool.Spent)
    (acquired : acquirePlainHttp1Connection pool key connect = (result, final)) :
    PoolStep returns pool final ∧
      ∀ connection, result = .ready connection → connection.ahead = [] := by
  have first := pool.take_fst key
  have step : PoolStep returns pool (pool.take key).2 := .taken
  unfold acquirePlainHttp1Connection at acquired
  generalize pool.take key = taken at first step acquired
  obtain ⟨pooled, rest⟩ := taken
  cases pooled with
  | some connection =>
    cases acquired
    refine ⟨step, ?_⟩
    rintro other ⟨⟩
    exact idle key connection (mem_of_getLast? first.symm)
  | none =>
    cases connect with
    | ready socket =>
      cases acquired
      refine ⟨step, ?_⟩
      rintro other ⟨⟩
      exact early socket rfl
    | failed err | dropped =>
      cases acquired
      exact ⟨step, fun other absurd => by cases absurd⟩

end

/-! ## Reading a body -/

section

variable {κ : Type}

/-- A body that is being read: what was handed out and what is ahead are the answer. -/
structure Reading (libraries : Libraries) (trace : Trace) (lease : PlainHttp1SenderLease κ)
    (reader : Reader IoError) (kind : PlainHttp1BodyKind) : Prop where
  held : trace.returned = false
  reusable : lease.mayReuse && !lease.dirty → trace.head.keepAlive ∧ kind ≠ .closeDelimited
  place : ∃ used, libraries.responses.behind (carried trace.answer) = used ++ reader.ahead ∧
    trace.delivered.Sublist used
  owed : Owed libraries.responses trace.request.method (carried trace.answer) reader.ahead kind

/-- A body is over, or it is being read. -/
inductive BodyInStep (libraries : Libraries) (trace : Trace) : PlainHttp1ResponseBody κ → Prop
  | past {lease : PlainHttp1SenderLease κ} {trailers : Option HeaderMap} :
    BodyInStep libraries trace ⟨lease, .done, trailers⟩
  | reading {lease : PlainHttp1SenderLease κ} {reader : Reader IoError}
    {kind : PlainHttp1BodyKind} {trailers : Option HeaderMap}
    (state : Reading libraries trace lease reader kind) :
    BodyInStep libraries trace (holding lease reader kind trailers)

variable {libraries : Libraries} {trace : Trace} {lease before after : PlainHttp1SenderLease κ}
variable {reader : Reader IoError} {kind : PlainHttp1BodyKind} {pulled : Pulled}

/-- A pull that gives nothing back keeps a trace in step if it hands out of the answer. -/
theorem Trace.InStep.kept (inStep : trace.InStep libraries) (back : gaveBack before after = false)
    (own : (trace.delivered ++ pulledBytes pulled).Sublist
      (libraries.responses.behind (carried trace.answer))) :
    (trace.afterPull before after pulled).InStep libraries where
  fresh := inStep.fresh
  written := inStep.written
  parsed := inStep.parsed
  own := own
  settled returned := by
    simp only [Trace.afterPull, back, Bool.or_false] at returned
    exact inStep.settled returned

/-- A pull that hands out nothing and gives nothing back. -/
theorem Trace.InStep.idle (inStep : trace.InStep libraries)
    (back : gaveBack before after = false) (none : pulledBytes pulled = []) :
    (trace.afterPull before after pulled).InStep libraries := by
  refine inStep.kept back ?_
  rw [none, append_nil]
  exact inStep.own

variable {next : Reader IoError} {trailers : Option HeaderMap}

/-- Bytes used further on, and handed out or not. -/
theorem Reading.further {used data : List UInt8} (state : Reading libraries trace lease reader kind)
    (split : reader.ahead = used ++ next.ahead) (part : data.Sublist used) :
    ∃ used, libraries.responses.behind (carried trace.answer) = used ++ next.ahead ∧
      (trace.delivered ++ data).Sublist used := by
  obtain ⟨front, answer, delivered⟩ := state.place
  refine ⟨front ++ used, ?_, delivered.append part⟩
  rw [answer, split, append_assoc]

variable [DecidableEq κ]

/-- After a pull the trace and the body are in step, and a connection put in the pool was
given back by the trace. -/
structure PullInStep (libraries : Libraries) (pool pooled : PlainHttp1SenderPool κ)
    (body : PlainHttp1ResponseBody κ) (trace : Trace) : Prop where
  own : trace.InStep libraries
  reading : BodyInStep libraries trace body
  pooling : PoolStep trace.returned pool pooled

/-- A released connection is put in the pool only without unread bytes, behind a whole
response that lets the connection be kept. -/
theorem Trace.InStep.release (inStep : trace.InStep libraries) (pool : PlainHttp1SenderPool κ)
    (held : trace.returned = false) (own : (trace.delivered ++ pulledBytes pulled).Sublist
      (libraries.responses.behind (carried trace.answer)))
    (reusable : lease.mayReuse && !lease.dirty → next.ahead = [] ∧ trace.head.keepAlive ∧
      Completes libraries.responses trace.request.method (carried trace.answer) []) :
    PullInStep libraries pool (released pool lease next trailers).1
      (released pool lease next trailers).2
      (trace.afterPull { lease with connection := some reader }
        (released pool lease next trailers).2.lease pulled) := by
  have back : (trace.afterPull { lease with connection := some reader }
      (released pool lease next trailers).2.lease pulled).returned =
        (lease.mayReuse && !lease.dirty) := by
    simp [Trace.afterPull, held, gaveBack, released, PlainHttp1SenderLease.release]
  refine ⟨⟨inStep.fresh, inStep.written, inStep.parsed, own, fun returned => ?_⟩, .past, ?_⟩
  · rw [back] at returned
    exact (reusable returned).2
  rw [back]
  by_cases reuse : lease.mayReuse && !lease.dirty
  · have pooled : (released pool lease next trailers).1 =
        (pool.put lease.poolKey lease.capacity next).2 := if_pos reuse
    rw [pooled]
    exact .put (reusable reuse).1 reuse
  · have pooled : (released pool lease next trailers).1 = pool := if_neg reuse
    rw [pooled]
    exact .same

/-- A pull keeps everything in step. -/
theorem Reading.pull (inStep : trace.InStep libraries)
    (state : Reading libraries trace lease reader kind) {pool : PlainHttp1SenderPool κ}
    {pooled : PlainHttp1SenderPool κ} {body : PlainHttp1ResponseBody κ}
    (ran : (holding lease reader kind trailers).pullNext pool = (pulled, pooled, body)) :
    PullInStep libraries pool pooled body
      (trace.afterPull { lease with connection := some reader } body.lease pulled) := by
  have pull := pullNext_pulls pool lease reader kind trailers
  rw [ran] at pull
  cases pull with
  | @intro used middle next trailers' _ path split later takes =>
    have front := Reader.ahead_of_split split later
    have owed := state.owed.along path front
    cases takes with
    | idle past =>
      subst past
      cases owed with
      | body remains completes => cases remains
    | @deliver data final last nonempty step split' later' =>
      have back : gaveBack { lease with connection := some reader }
          (holding lease final last trailers').lease = false := by simp [gaveBack, holding]
      have behind := Reader.ahead_of_split split' later'
      have whole : reader.ahead = used ++ data ++ final.ahead := by rw [front, behind, append_assoc]
      obtain ⟨all, answer, part⟩ := state.further whole (sublist_append_right used data)
      refine ⟨inStep.kept back ?_, .reading ⟨?_, ?_, ⟨all, answer, part⟩, ?_⟩, .same⟩
      · rw [answer]
        exact part.trans (sublist_append_left _ _)
      · simp [Trace.afterPull, state.held, back]
      · intro reuse
        refine ⟨(state.reusable reuse).1, fun close => ?_⟩
        have start := (path_closeDelimited (.one step)).mp close
        exact (state.reusable reuse).2 ((path_closeDelimited path).mp start)
      · exact owed.along (.one step) behind
    | @finished ending chunk final ends split' later' =>
      have behind := Reader.ahead_of_split split' later'
      obtain ⟨spent, whole⟩ := owed.ended ends behind
      have part : (pulledBytes (.ready chunk)).Sublist ending := by
        cases ends with
        | zero | fixed => exact List.Sublist.refl _
        | chunked => exact nil_sublist _
      have all : reader.ahead = used ++ ending ++ final.ahead := by rw [front, behind, append_assoc]
      obtain ⟨all, answer, delivered⟩ :=
        state.further all (part.trans (sublist_append_right used ending))
      refine inStep.release pool state.held ?_ fun reuse =>
        ⟨spent, (state.reusable reuse).1, whole⟩
      rw [answer]
      exact delivered.trans (sublist_append_left _ _)
    | closed close nothing last =>
      -- a body that ends with the connection does not leave one to give back
      refine inStep.release pool state.held ?_ fun reuse =>
        absurd ((path_closeDelimited path).mp close) (state.reusable reuse).2
      rw [show pulledBytes (.ready none) = [] from rfl, append_nil]
      exact inStep.own
    | @refused lease' err holds bad =>
      have back : gaveBack { lease with connection := some reader } lease' = false := by
        obtain ⟨connection, some⟩ := Option.isSome_iff_exists.mp holds
        simp [gaveBack, some]
      exact ⟨inStep.idle back rfl, .past, .same⟩
    | failed short last | dropped short last =>
      exact ⟨inStep.idle (by simp [gaveBack, holding]) rfl, .past, .same⟩

end

/-! ## Calls and runs -/

section

variable {κ : Type} [DecidableEq κ] {libraries : Libraries}

/-- The connection a call holds has no byte from before its request. -/
def Phase.InStep (libraries : Libraries) : Phase κ → Prop
  | .acquired _ connection => connection.ahead = []
  | .responded trace body =>
    trace.InStep libraries ∧ ∀ active ∈ body, BodyInStep libraries trace active
  | _ => True

/-- What an event leaves: a call in step, and a pool in which a new connection was given back
by that call. -/
structure EventInStep (libraries : Libraries) (pool : PlainHttp1SenderPool κ) (before : Phase κ)
    (result : PlainHttp1SenderPool κ × Phase κ) : Prop where
  phase : result.2.InStep libraries
  pooling : PoolStep (Returns before result.2) pool result.1

variable {pool : PlainHttp1SenderPool κ}

/-- A head is handed over with the body it begins. -/
theorem exchange_inStep {task : Task κ} {retried : Bool} {connection : PlainHttp1PooledConnection}
    {request : SerializedOutboundHttp1Request} {outcomes : List (Awaited IoError Unit)}
    {answer : Socket IoError}
    (one : OneResponse libraries.responses request.method (carried answer))
    (spent : connection.ahead = []) :
    EventInStep libraries pool (.acquired retried connection)
      (task.exchange libraries pool retried connection request outcomes answer) := by
  unfold Task.exchange
  split
  · rename_i head sent after ran
    obtain ⟨written, response, consumed, parsed, accepted, left⟩ := sendAndParse_ready spent ran
    have begins := one.begins parsed accepted
    unfold handOver
    cases chosen : head.bodyKind with
    | none =>
      rw [chosen] at begins
      cases begins with
      | empty nothing whole =>
        refine ⟨⟨⟨spent, written, ⟨response, consumed, parsed, accepted⟩, nil_sublist _, ?_⟩,
          fun active member => by cases member⟩, ?_⟩
        · intro returned
          exact ⟨by simpa using returned, whole⟩
        by_cases keep : head.keepAlive
        · simp only [keep, if_true]
          refine .put (left.trans nothing) ⟨_, rfl, ?_, fun old absurd => by cases absurd⟩
          simp
        · simp only [keep, Bool.false_eq_true, if_false]
          exact .same
    | some kind =>
      rw [chosen] at begins
      cases begins with
      | body owed =>
        refine ⟨⟨⟨spent, written, ⟨response, consumed, parsed, accepted⟩, nil_sublist _,
          fun returned => by simp at returned⟩, ?_⟩, .same⟩
        rintro active ⟨⟩
        rw [← left] at owed
        show BodyInStep libraries _
          (holding (.new task.key task.capacity (head.mayReuse kind) after) after kind none)
        refine .reading ⟨by simp, fun reuse => ?_, ⟨[], left.symm, nil_sublist _⟩, owed⟩
        simpa [PlainHttp1SenderLease.new, ParsedResponseHead.mayReuse] using reuse
  · split
    all_goals exact ⟨trivial, .same⟩
  · exact ⟨trivial, .same⟩

/-- What a pull does to a call that reads a body. -/
theorem pull_inStep {pooled : PlainHttp1SenderPool κ} {trace : Trace} {pulled : Pulled}
    {body after : PlainHttp1ResponseBody κ} (inStep : trace.InStep libraries)
    (active : BodyInStep libraries trace body)
    (ran : body.pullNext pool = (pulled, pooled, after)) :
    EventInStep libraries pool (.responded trace (some body))
      (pooled, .responded (trace.afterPull body.lease after.lease pulled) (some after)) := by
  cases active with
  | @past lease trailers =>
    cases ran
    have back : gaveBack lease lease = false := by
      cases held : lease.connection <;> simp [gaveBack, held]
    refine ⟨⟨inStep.idle back rfl, ?_⟩, .same⟩
    rintro same ⟨⟩
    exact .past
  | reading state =>
    obtain ⟨own, reading, pooling⟩ := state.pull inStep ran
    refine ⟨⟨own, ?_⟩, pooling.mono fun returned => ⟨_, rfl, returned, ?_⟩⟩
    · rintro same ⟨⟩
      exact reading
    · rintro old ⟨⟩
      exact state.held

/-- An event of a clean upstream keeps a call in step. -/
theorem Task.step_inStep {task : Task κ} {event : Event} (clean : event.Clean libraries)
    (idle : pool.Spent) (inStep : task.phase.InStep libraries) :
    EventInStep libraries pool task.phase (task.step libraries pool event) := by
  unfold Task.step
  split
  · rename_i connect retried phase
    have early : ∀ socket, connect = .ready socket → carried socket = [] := by
      rintro socket rfl
      exact clean
    split
    · rename_i connection final acquired
      obtain ⟨step, spent⟩ := acquire_spent early idle acquired
      exact ⟨spent connection rfl, step⟩
    all_goals
      rename_i acquired
      exact ⟨trivial, (acquire_spent early idle acquired).1⟩
  · rename_i request outcomes answer retried connection phase
    rw [phase] at inStep ⊢
    exact exchange_inStep clean inStep
  · exact ⟨trivial, .same⟩
  · rename_i trace body phase
    rw [phase] at inStep ⊢
    exact pull_inStep inStep.1 (inStep.2 body rfl) rfl
  · rename_i trace body phase
    rw [phase] at inStep
    exact ⟨⟨inStep.1, fun active member => by cases member⟩, .same⟩
  · exact ⟨trivial, .same⟩
  · exact ⟨trivial, .same⟩
  · exact ⟨inStep, .same⟩

namespace World

/-- The pool holds no unread byte and every call is in step. -/
structure InStep (libraries : Libraries) (world : World κ) : Prop where
  idle : world.pool.Spent
  calls : ∀ task ∈ world.tasks, task.phase.InStep libraries

/-- A connection that was put in the pool was given back by a call. -/
def PutBack (before after : World κ) : Prop :=
  Grows (∃ (index : Nat) (old new : Task κ), before.tasks[index]? = some old ∧
    after.tasks[index]? = some new ∧ Returns old.phase new.phase) before.pool after.pool

variable {world : World κ}

theorem step_absent {index : Nat} (absent : world.tasks[index]? = none) (event : Event) :
    world.step libraries (.act index event) = world := by
  simp only [step, absent]

theorem step_act {index : Nat} {task : Task κ} (found : world.tasks[index]? = some task)
    (event : Event) :
    world.step libraries (.act index event) =
      ⟨(task.step libraries world.pool event).1, world.tasks.set index
        { task with phase := (task.step libraries world.pool event).2 }⟩ := by
  simp only [step, found]

theorem step_inStep {action : Action κ} (clean : action.Clean libraries)
    (inStep : world.InStep libraries) :
    (world.step libraries action).InStep libraries ∧
      world.PutBack (world.step libraries action) := by
  cases action with
  | call key capacity origin =>
    refine ⟨⟨inStep.idle, fun task member => ?_⟩, PoolStep.same.grows⟩
    rcases mem_append.mp member with old | new
    · exact inStep.calls task old
    · rw [mem_singleton.mp new]
      trivial
  | act index event =>
    cases found : world.tasks[index]? with
    | none =>
      rw [step_absent found]
      exact ⟨inStep, PoolStep.same.grows⟩
    | some task =>
      have member := mem_of_getElem? found
      have result := Task.step_inStep clean inStep.idle (inStep.calls task member)
      rw [step_act found]
      refine ⟨⟨result.pooling.grows.spent inStep.idle, fun other listed => ?_⟩, ?_⟩
      · rcases mem_or_eq_of_mem_set listed with old | rfl
        · exact inStep.calls other old
        · exact result.phase
      · refine (result.pooling.mono fun returns => ?_).grows
        refine ⟨index, task, { task with phase := _ }, found, ?_, returns⟩
        exact List.getElem?_set_self (List.getElem?_eq_some_iff.mp found).1

theorem run_append (actions : List (Action κ)) (action : Action κ) :
    run libraries (actions ++ [action]) = (run libraries actions).step libraries action := by
  simp [run]

/-- Every run with a clean upstream is in step. -/
theorem run_inStep {actions : List (Action κ)}
    (clean : ∀ action ∈ actions, action.Clean libraries) :
    (run libraries actions).InStep libraries := by
  induction actions using reverseRecOn with
  | nil =>
    refine ⟨fun key connection member => ?_, fun task member => ?_⟩
    all_goals cases member
  | append_singleton actions action ih =>
    rw [run_append]
    have before := ih fun other member => clean other (mem_append_left _ member)
    exact (step_inStep (clean action (by simp)) before).1

end World

/-- The pool holds no unread byte, every exchange has its own head and body, and in each
step a connection is put in the pool only where an exchange gives one back. -/
structure Synchronised (libraries : Libraries) (actions : List (Action κ)) : Prop where
  idle : (World.run libraries actions).pool.Spent
  own : ∀ task ∈ (World.run libraries actions).tasks, ∀ trace,
    task.phase.trace? = some trace → trace.InStep libraries
  putBack : ∀ before action after, actions = before ++ action :: after →
    (World.run libraries before).PutBack (World.run libraries (before ++ [action]))

/-- Every run in which the upstream sends nothing before a request, and one final response
with clear framing or the beginning of one behind it, is synchronised. -/
theorem synchronised_of_clean {actions : List (Action κ)}
    (clean : ∀ action ∈ actions, action.Clean libraries) : Synchronised libraries actions where
  idle := (World.run_inStep clean).idle
  own task member trace traced := by
    have inStep := (World.run_inStep clean).calls task member
    cases phase : task.phase with
    | responded traced' body =>
      rw [phase] at inStep traced
      cases traced
      exact inStep.1
    | acquiring | acquired | failed | dropped =>
      rw [phase] at traced
      cases traced
  putBack before action after split := by
    have cleanBefore : ∀ other ∈ before, other.Clean libraries := by
      intro other member
      exact clean other (split ▸ mem_append_left _ member)
    have front := World.run_inStep cleanBefore
    rw [World.run_append]
    exact (World.step_inStep (clean action (by simp [split])) front).2

end

/-- A request without a body. -/
def sampleRequest : SerializedOutboundHttp1Request :=
  ⟨ascii "GET / HTTP/1.1\r\nhost: a\r\n\r\n", ⟨ascii "GET"⟩, .empty, false⟩

/-- A response of two bytes in two reads; its connection serves a second exchange. -/
theorem synchronised_sample :
    let head := ascii "HTTP/1.1 200 OK\r\nContent-Length: 2\r\n\r\n"
    let libraries : Libraries := ⟨.literal head (by decide)
      ⟨some 1, some 200, [⟨ascii "Content-Length", ascii "2"⟩]⟩, fun _ => ""⟩
    let actions : List (Action Unit) := [.call () 8 "http://a", .act 0 (.acquire (.ready [])),
      .act 0 (.exchange (.ok sampleRequest) []
        [.data ⟨head ++ ascii "a", by decide⟩, .data ⟨ascii "b", by decide⟩]),
      .act 0 .pull, .act 0 .pull,
      .call () 8 "http://a", .act 1 (.acquire .dropped),
      .act 1 (.exchange (.ok sampleRequest) [] [.data ⟨head ++ ascii "cd", by decide⟩]),
      .act 1 .pull]
    Synchronised libraries actions ∧
      ((World.run libraries actions).tasks.filterMap (·.phase.trace?)).map
        (fun trace => (trace.delivered, trace.returned)) =
          [(ascii "ab", true), (ascii "cd", true)] := by
  intro head libraries actions
  have clear : ClearFraming [ascii "2"] [] := by
    refine Or.inr ⟨by decide +kernel, Or.inr ⟨by decide +kernel, 2, by decide, ?_⟩⟩
    decide +kernel
  have one (body : List UInt8) (two : body.length = 2) :
      OneResponse libraries.responses sampleRequest.method (head ++ body) := by
    intro response consumed parsed
    have found : libraries.responses.parse (head ++ body) = _ :=
      HeadParser.literal_parse (by decide) _
    cases found.symm.trans parsed
    refine ⟨.fixed 2, ⟨200, rfl, by decide, by decide +kernel, Or.inr clear⟩, Or.inr ⟨[], ?_⟩⟩
    rw [HeadParser.behind_complete found, append_nil, drop_left]
    exact two
  have clean : ∀ action ∈ actions, action.Clean libraries := by
    simp only [actions, forall_mem_cons, Action.Clean, Event.Clean, carried]
    exact ⟨trivial, trivial, one (ascii "ab") rfl, trivial, trivial, trivial, trivial,
      one (ascii "cd") rfl, trivial, forall_mem_nil _⟩
  exact ⟨synchronised_of_clean clean, by decide +kernel⟩

/-- A second response behind the first stays in the buffer of a connection that goes back to
the pool, and the next exchange on it takes this for its answer. -/
theorem pipelined_response_misdelivered : ¬ ∀ (libraries : Libraries)
    (actions : List (Action Unit)), Synchronised libraries actions := by
  intro all
  let head := ascii "HTTP/1.1 204 No Content\r\n\r\n"
  let libraries : Libraries := ⟨.literal head (by decide) ⟨some 1, some 204, []⟩, fun _ => ""⟩
  let actions : List (Action Unit) := [.call () 8 "http://a", .act 0 (.acquire (.ready [])),
    .act 0 (.exchange (.ok sampleRequest) [] [.data ⟨head ++ head, by decide⟩]),
    .call () 8 "http://a", .act 1 (.acquire .dropped),
    .act 1 (.exchange (.ok sampleRequest) [] [])]
  have stale : ((World.run libraries actions).tasks.filterMap (·.phase.trace?)).map
      (fun trace => (trace.stale, trace.head.status)) = [([], 204), (head, 204)] := by
    decide +kernel
  have second : (head, 204) ∈ ((World.run libraries actions).tasks.filterMap (·.phase.trace?)).map
        (fun trace => (trace.stale, trace.head.status)) := by
    rw [stale]
    simp
  obtain ⟨trace, member, same⟩ := mem_map.mp second
  obtain ⟨task, listed, traced⟩ := mem_filterMap.mp member
  have fresh := ((all libraries actions).own task listed trace traced).fresh
  rw [Prod.mk.injEq, fresh] at same
  exact absurd same.1 (by decide)

end PdEdge.Upstream

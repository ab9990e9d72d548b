import PdEdge.Proxy.Endpoints

/-!
# Forwarding between two transports

`proxy::forward` between two TCP or TLS streams joins a copying loop for each direction. A loop
locks a stream for each of its operations and keeps the lock while the operation waits; so a read
that waits for the peer keeps the other direction from writing to that peer. A direction is named
by the stream it reads.
-/

namespace PdEdge.Proxy

open Streams Wire ProxyIo Sink

/-- The two streams of a forward, and the directions that read them. -/
inductive Side where
  | left
  | right
  deriving DecidableEq

/-- The other stream, and the other direction. -/
def Side.other : Side → Side
  | left => right
  | right => left

/-- Where a direction is; the awaits of `lock`, `read`, `write_all`, `flush`, `shutdown` and
`yield_now` are those at which it can be left. -/
inductive CopyTask where
  /-- Before it locks the source, and in `yield_now`. -/
  | idle
  | queuedRead
  | reading
  /-- With a chunk, before it locks the destination. -/
  | got (chunk : List UInt8)
  | queuedWrite (chunk : List UInt8)
  | writing (rest : List UInt8)
  /-- The source has ended. -/
  | ended
  | queuedClose
  | closing
  | finished
  deriving DecidableEq

/-- The stream whose lock a direction is queued for. -/
def CopyTask.queuedFor (direction : Side) : CopyTask → Option Side
  | queuedRead => some direction
  | queuedWrite _ => some direction.other
  | queuedClose => some direction.other
  | _ => none

/-- The stream whose lock a direction keeps while it waits for the peer. -/
def CopyTask.keeps (direction : Side) : CopyTask → Option Side
  | reading => some direction
  | writing _ => some direction.other
  | closing => some direction.other
  | _ => none

/-- The stream that a direction is at. -/
def CopyTask.place (direction : Side) : CopyTask → Side
  | idle | queuedRead | reading | finished => direction
  | _ => direction.other

/-- The chunk that a direction holds. -/
def CopyTask.chunk? : CopyTask → Option (List UInt8)
  | got chunk => some chunk
  | queuedWrite chunk => some chunk
  | writing rest => some rest
  | _ => none

/-- Both directions of `drive_forward` and the streams they share. -/
structure Relay where
  transports : Side → Transport
  /-- `write_closed` of the handles. -/
  writeClosed : Side → Bool
  /-- The direction that has the lock of a stream, or that it was passed to. -/
  holder : Side → Option Side
  tasks : Side → CopyTask
  /-- One of the directions has failed, and both are dropped. -/
  failed : Bool

namespace Relay

/-- Before the first poll. -/
def new (transports : Side → Transport) (writeClosed : Side → Bool) : Relay :=
  ⟨transports, writeClosed, fun _ => none, fun _ => .idle, false⟩

variable (relay : Relay) (direction : Side)

/-- Replace the stream of one side. -/
def setTransport (side : Side) (transport : Transport) : Relay :=
  { relay with transports := Function.update relay.transports side transport }

/-- Go on elsewhere. -/
def setTask (task : CopyTask) : Relay :=
  { relay with tasks := Function.update relay.tasks direction task }

/-- Take the lock of a stream. -/
def take (side : Side) : Relay :=
  { relay with holder := Function.update relay.holder side (some direction) }

/-- The lock is free, or was passed to the direction. -/
def grants (side : Side) : Bool :=
  match relay.holder side with
  | none => true
  | some holder => decide (holder = direction)

/-- Let the lock of a stream go; it is passed to the other direction if that is queued for it. -/
def release (side : Side) : Relay :=
  let next := direction.other
  let holder := if (relay.tasks next).queuedFor next = some side then some next else none
  { relay with holder := Function.update relay.holder side holder }

/-- An error of a direction. -/
def fail : Relay := { relay with failed := true }

/-- With the lock of the source: read. -/
def read (size : ChunkSize) : Relay :=
  let transport := relay.transports direction
  if transport.active then
    let awaited := ProxyIo.awaitSocket transport.socket size.1
    let after := relay.setTransport direction { transport with socket := awaited.2 }
    match awaited.1 with
    | .ready chunk =>
      (after.release direction direction).setTask direction
        (if chunk.isEmpty then .ended else .got chunk)
    | .failed _ => after.fail
    | .dropped => after.setTask direction .reading
  else relay.fail

/-- With the lock of the destination: an operation on its write side. -/
def operate (operation : Sink → Awaited String Unit × Sink) (done : CopyTask)
    (waiting : Sink → CopyTask) : Relay :=
  let transport := relay.transports direction.other
  if transport.active then
    let performed := operation transport.sink
    let after := relay.setTransport direction.other { transport with sink := performed.2 }
    match performed.1 with
    | .ready () => (after.release direction direction.other).setTask direction done
    | .failed _ => after.fail
    | .dropped => after.setTask direction (waiting performed.2)
  else relay.fail

/-- Write and flush; a write that has to wait goes on with the bytes that are left. -/
def write (bytes : List UInt8) : Relay :=
  let before := (relay.transports direction.other).sink.sent.length
  relay.operate direction (·.perform bytes) .idle fun sink =>
    .writing (bytes.drop (sink.sent.length - before))

/-- Shut the write side down. -/
def close (operation : Sink → Awaited String Unit × Sink) : Relay :=
  relay.operate direction operation .finished fun _ => .closing

/-- Lock a stream and go on, or queue for it. -/
def locked (side : Side) (queued : CopyTask) (next : Relay → Relay) : Relay :=
  if relay.grants direction side then next (relay.take direction side)
  else relay.setTask direction queued

/-- One direction goes on to its next await. -/
def advance (size : ChunkSize) : Relay :=
  match relay.tasks direction with
  | .idle => relay.locked direction direction .queuedRead (·.read direction size)
  | .queuedRead => relay.locked direction direction .queuedRead (·.read direction size)
  | .reading => relay.read direction size
  | .got chunk =>
    if relay.writeClosed direction.other then relay.fail
    else relay.locked direction direction.other (.queuedWrite chunk) (·.write direction chunk)
  | .queuedWrite chunk =>
    relay.locked direction direction.other (.queuedWrite chunk) (·.write direction chunk)
  | .writing rest => relay.write direction rest
  | .ended =>
    { relay with writeClosed := Function.update relay.writeClosed direction.other true }.locked
      direction direction.other .queuedClose (·.close direction Sink.shutdown)
  | .queuedClose =>
    relay.locked direction direction.other .queuedClose (·.close direction Sink.shutdown)
  | .closing => relay.close direction (·.perform [])
  | .finished => relay

/-- Nothing happens once a direction has failed. -/
def step (size : ChunkSize) : Relay := if relay.failed then relay else relay.advance direction size

/-- Any interleaving. -/
def run (size : ChunkSize) (steps : List Side) : Relay :=
  steps.foldl (fun relay direction => relay.step direction size) relay

/-! ## What is to hold -/

/-- The next operation on the write side does not have to wait. -/
def Writable (transport : Transport) : Prop :=
  ∀ count rest, transport.sink.events ≠ .dropped count :: rest

/-- A direction with a chunk for a stream that can be written to writes it if it goes on, unless
that fails. -/
def Independent (size : ChunkSize) : Prop :=
  relay.failed = false → ∀ direction chunk, (relay.tasks direction).chunk? = some chunk →
    Writable (relay.transports direction.other) →
      (relay.step direction size).failed = true ∨
        ((relay.step direction size).tasks direction).chunk? = none

/-- The lock of the destination is with the other direction, which waits for a read of that stream
or is next to read it. -/
structure Kept : Prop where
  locked : relay.holder direction.other = some direction.other
  reads : relay.tasks direction.other = .reading ∨ relay.tasks direction.other = .queuedRead

/-- No direction with a chunk for a stream that can be written to is kept from locking it; one that
finds the write side closed fails without the lock. -/
def Unkept : Prop :=
  relay.failed = false → ∀ direction chunk, (relay.tasks direction).chunk? = some chunk →
    Writable (relay.transports direction.other) →
      (∀ chunk, relay.tasks direction = .got chunk → relay.writeClosed direction.other = false) →
      ¬ relay.Kept direction

end Relay

/-- No operation on the stream has to wait for the peer. -/
def Prompt (transport : Transport) : Prop :=
  .dropped ∉ transport.socket ∧ ∀ count, .dropped count ∉ transport.sink.events

/-- There is nothing to be read. -/
def Silent (transport : Transport) : Prop := ∀ segment, .data segment ∉ transport.socket

/-! ## Directions that are never kept waiting -/

@[simp]
theorem Side.other_ne (side : Side) : side.other ≠ side := by cases side <;> decide

section

variable {direction side : Side} {task : CopyTask}

/-- A direction that is queued for a lock does not keep one. -/
theorem CopyTask.keeps_of_queued (queued : task.queuedFor direction = some side) :
    task.keeps direction = none := by
  cases task with
  | queuedRead | queuedWrite chunk | queuedClose => rfl
  | _ => cases queued

/-- A direction that keeps a lock is not queued for one. -/
theorem CopyTask.queuedFor_of_keeps (keeps : task.keeps direction = some side) :
    task.queuedFor direction = none := by
  cases task with
  | reading | writing rest | closing => rfl
  | _ => cases keeps

end

/-- There are two sides. -/
theorem Side.eq_other {side direction : Side} (apart : side ≠ direction) :
    side = direction.other := by
  cases side <;> cases direction <;> first | rfl | exact absurd rfl apart

section

variable {ε : Type} {socket : Socket ε} (size : ChunkSize)

/-- A read of a socket that never makes it wait. -/
theorem awaitSocket_prompt (prompt : .dropped ∉ socket) :
    (awaitSocket socket size.1).1 ≠ .dropped ∧ .dropped ∉ (awaitSocket socket size.1).2 := by
  have does := awaitSocket_does socket size
  generalize awaitSocket socket size.1 = acted at does
  cases does with
  | eof => simp
  | dropped => exact absurd List.mem_cons_self prompt
  | whole | part | failed => simpa using prompt

/-- A read of a socket without any bytes. -/
theorem awaitSocket_silent (silent : ∀ segment, .data segment ∉ socket) :
    (∀ chunk, (awaitSocket socket size.1).1 = .ready chunk → chunk = []) ∧
      ∀ segment, .data segment ∉ (awaitSocket socket size.1).2 := by
  have does := awaitSocket_does socket size
  generalize awaitSocket socket size.1 = acted at does
  cases does with
  | whole segment | part => exact absurd List.mem_cons_self (silent _)
  | eof => simp
  | failed | dropped => simpa using silent

end

/-- An operation on a write side that never makes it wait. -/
theorem perform_prompt {sink : Sink} (prompt : ∀ count, .dropped count ∉ sink.events)
    {bytes : List UInt8} : (sink.perform bytes).1 ≠ .dropped ∧
      ∀ count, .dropped count ∉ (sink.perform bytes).2.events := by
  obtain ⟨sent, shutdowns, events⟩ := sink
  rcases events with - | ⟨(- | ⟨count, err⟩ | count), rest⟩
  · simp [perform]
  · simpa [perform] using prompt
  · simpa [perform] using prompt
  · exact absurd List.mem_cons_self (prompt count)

namespace Relay

variable {relay after : Relay} {direction side : Side} {size : ChunkSize} {task : CopyTask}

/-! ## Who has a lock -/

/-- A direction has the lock that it keeps, and a lock is with the direction that keeps it or is
queued for it. -/
structure Locks (relay : Relay) : Prop where
  kept : ∀ direction side, (relay.tasks direction).keeps direction = some side →
    relay.holder side = some direction
  held : ∀ direction side, relay.holder side = some direction →
    (relay.tasks direction).keeps direction = some side ∨
      (relay.tasks direction).queuedFor direction = some side

/-- A direction has no lock but that of the stream it is at. -/
theorem Locks.only (locks : Locks relay) (held : relay.holder side = some direction) :
    side = (relay.tasks direction).place direction := by
  have found := locks.held direction side held
  cases task : relay.tasks direction <;>
    simp_all [CopyTask.keeps, CopyTask.queuedFor, CopyTask.place]

/-- A direction has the lock of the stream it reads only for a read. -/
theorem Locks.reads (locks : Locks relay) (held : relay.holder side = some side) :
    relay.tasks side = .reading ∨ relay.tasks side = .queuedRead := by
  have found := locks.held side side held
  cases task : relay.tasks side <;> simp_all [CopyTask.keeps, CopyTask.queuedFor]

/-- A lock is granted where the other direction does not have it. -/
theorem grants_iff :
    relay.grants direction side = true ↔ relay.holder side ≠ some direction.other := by
  rw [grants]
  cases relay.holder side with
  | none => simp
  | some holder => cases holder <;> cases direction <;> decide

/-- A direction that has a lock takes nothing. -/
theorem take_of_held (held : relay.holder side = some direction) :
    relay.take direction side = relay := by
  rw [take, ← held, Function.update_eq_self]

/-! ## What a step does -/

/-- A direction that was granted the lock of the stream it is at uses that stream. -/
structure Uses (relay : Relay) (direction side : Side) (task : CopyTask) (transport : Transport)
    (after : Relay) : Prop where
  place : (relay.tasks direction).place direction = side
  granted : relay.grants direction side = true
  transports : after.transports = Function.update relay.transports side transport
  tasks : after.tasks = Function.update relay.tasks direction task
  /-- Where there is nothing to be read, nothing comes to be written. -/
  silent : Silent (relay.transports side) → Silent transport
  quiet : Silent (relay.transports direction) → (relay.tasks direction).chunk? = none →
    task.chunk? = none

/-- Everything a step can do. -/
inductive Goes (relay : Relay) (direction : Side) (after : Relay) : Prop
  | fails (failed : after.failed = true)
  | rests (same : after = relay)
  /-- It queues for the lock of the stream it is at. -/
  | queues {side : Side} {task : CopyTask} (place : (relay.tasks direction).place direction = side)
    (refused : relay.grants direction side = false) (queued : task.queuedFor direction = some side)
    (chunk : task.chunk? = (relay.tasks direction).chunk?)
    (transports : after.transports = relay.transports) (holder : after.holder = relay.holder)
    (tasks : after.tasks = Function.update relay.tasks direction task)
  /-- It waits for the peer, and keeps the lock. -/
  | waits {side : Side} {task : CopyTask} {transport : Transport}
    (uses : Uses relay direction side task transport after)
    (slow : ¬ Prompt (relay.transports side)) (keeps : task.keeps direction = some side)
    (holder : after.holder = (relay.take direction side).holder)
  /-- It lets the lock go. -/
  | leaves {side : Side} {task : CopyTask} {transport : Transport}
    (uses : Uses relay direction side task transport after)
    (prompt : Prompt (relay.transports side) → Prompt transport)
    (free : task.keeps direction = none) (unqueued : task.queuedFor direction = none)
    (holder : after.holder = (relay.release direction side).holder)

/-- A read of the source. -/
theorem read_goes (size : ChunkSize) (place : (relay.tasks direction).place direction = direction)
    (granted : relay.grants direction direction = true) :
    Goes relay direction ((relay.take direction direction).read direction size) := by
  have prompt := @awaitSocket_prompt _ (relay.transports direction).socket size
  have silent := @awaitSocket_silent _ (relay.transports direction).socket size
  rw [Relay.read]
  split
  · simp only [take]
    generalize awaitSocket (relay.transports direction).socket size.1 = awaited at prompt silent ⊢
    obtain ⟨(chunk | err | -), socket⟩ := awaited
    · refine .leaves ⟨place, granted, rfl, rfl, fun quiet => (silent quiet).2, ?_⟩
        (fun fine => ⟨(prompt fine.1).2, fine.2⟩) ?_ ?_ (Function.update_idem ..)
      · intro quiet _
        simp [(silent quiet).1 chunk rfl, CopyTask.chunk?]
      · split <;> rfl
      · split <;> rfl
    · exact .fails rfl
    · exact .waits ⟨place, granted, rfl, rfl, fun quiet => (silent quiet).2, fun _ _ => rfl⟩
        (fun fine => (prompt fine.1).1 rfl) rfl rfl
  · exact .fails rfl

/-- An operation on the write side of the destination. -/
theorem operate_goes {closed : Side → Bool} {operation : Sink → Awaited String Unit × Sink}
    {done : CopyTask} {waiting : Sink → CopyTask}
    (performs : ∀ sink : Sink, (∀ count, .dropped count ∉ sink.events) →
      (operation sink).1 ≠ .dropped ∧ ∀ count, .dropped count ∉ (operation sink).2.events)
    (place : (relay.tasks direction).place direction = direction.other)
    (granted : relay.grants direction direction.other = true)
    (ends : done = .idle ∨ done = .finished)
    (keeps : ∀ sink, (waiting sink).keeps direction = some direction.other)
    (quiet : ∀ sink, (relay.tasks direction).chunk? = none → (waiting sink).chunk? = none) :
    Goes relay direction (({ relay with writeClosed := closed }.take direction
      direction.other).operate direction operation done waiting) := by
  have prompt := performs (relay.transports direction.other).sink
  rw [operate]
  split
  · simp only [take]
    generalize operation (relay.transports direction.other).sink = performed at prompt ⊢
    obtain ⟨(value | err | -), sink⟩ := performed
    · refine .leaves ⟨place, granted, rfl, rfl, id, ?_⟩
        (fun fine => ⟨fine.1, (prompt fine.2).2⟩) ?_ ?_ (Function.update_idem ..)
      all_goals
        rcases ends with rfl | rfl <;>
          simp [CopyTask.chunk?, CopyTask.keeps, CopyTask.queuedFor]
    · exact .fails rfl
    · exact .waits ⟨place, granted, rfl, rfl, id, fun _ empty => quiet _ empty⟩
        (fun fine => (prompt fine.2).1 rfl) (keeps _) rfl
  · exact .fails rfl

/-- A write of a chunk that the direction holds. -/
theorem write_goes (bytes : List UInt8) (held : (relay.tasks direction).chunk? ≠ none)
    (place : (relay.tasks direction).place direction = direction.other)
    (granted : relay.grants direction direction.other = true) :
    Goes relay direction ((relay.take direction direction.other).write direction bytes) := by
  rw [write]
  refine @operate_goes relay direction relay.writeClosed (·.perform bytes) _ _
    (fun _ fine => perform_prompt fine) place granted (.inl rfl) ?_ ?_
  · exact fun _ => rfl
  · exact fun _ empty => absurd empty held

/-- A shutdown of the write side, and what is left of one. -/
theorem close_goes (closed : Side → Bool) {operation : Sink → Awaited String Unit × Sink}
    (performs : operation = shutdown ∨ operation = (·.perform []))
    (place : (relay.tasks direction).place direction = direction.other)
    (granted : relay.grants direction direction.other = true) :
    Goes relay direction
      (({ relay with writeClosed := closed }.take direction direction.other).close direction
        operation) := by
  refine operate_goes ?_ place granted (.inr rfl) (fun _ => rfl) fun _ _ => rfl
  intro sink fine
  rcases performs with rfl | rfl
  · exact @perform_prompt { sink with shutdowns := sink.shutdowns + 1 } fine []
  · exact perform_prompt fine

/-- A direction locks the stream it is at and goes on, or queues for it. -/
theorem locked_goes (closed : Side → Bool) {queued : CopyTask} {next : Relay → Relay}
    (place : (relay.tasks direction).place direction = side)
    (queues : queued.queuedFor direction = some side)
    (chunk : queued.chunk? = (relay.tasks direction).chunk?)
    (does : relay.grants direction side = true →
      Goes relay direction (next ({ relay with writeClosed := closed }.take direction side))) :
    Goes relay direction
      ({ relay with writeClosed := closed }.locked direction side queued next) := by
  rw [locked]
  split
  · rename_i granted
    exact does granted
  · rename_i refused
    exact .queues place (Bool.eq_false_iff.mpr refused) queues chunk rfl rfl rfl

theorem advance_goes (locks : Locks relay) (direction : Side) (size : ChunkSize) :
    Goes relay direction (relay.advance direction size) := by
  have kept := locks.kept direction
  have place (side : Side) (found : CopyTask) (task : relay.tasks direction = found)
      (there : found.place direction = side) : (relay.tasks direction).place direction = side :=
    task ▸ there
  rw [Relay.advance]
  cases task : relay.tasks direction with
  | idle | queuedRead =>
    have place := place _ _ task rfl
    exact locked_goes relay.writeClosed place rfl (task ▸ rfl) fun granted =>
      read_goes size place granted
  | reading =>
    have held := kept direction (task ▸ rfl)
    have read := read_goes size (place _ _ task rfl) (by simp [grants, held])
    rw [take_of_held held] at read
    exact read
  | got chunk =>
    have place := place _ _ task rfl
    dsimp only
    split
    · exact .fails rfl
    · exact locked_goes relay.writeClosed place rfl (task ▸ rfl) fun granted =>
        write_goes chunk (by simp [task, CopyTask.chunk?]) place granted
  | queuedWrite chunk =>
    have place := place _ _ task rfl
    exact locked_goes relay.writeClosed place rfl (task ▸ rfl) fun granted =>
      write_goes chunk (by simp [task, CopyTask.chunk?]) place granted
  | writing rest =>
    have held := kept direction.other (task ▸ rfl)
    have written := write_goes rest (by simp [task, CopyTask.chunk?]) (place _ _ task rfl)
      (by simp [grants, held])
    rw [take_of_held held] at written
    exact written
  | ended =>
    have place := place _ _ task rfl
    exact locked_goes _ place rfl (task ▸ rfl) fun granted => close_goes _ (.inl rfl) place granted
  | queuedClose =>
    have place := place _ _ task rfl
    exact locked_goes relay.writeClosed place rfl (task ▸ rfl) fun granted =>
      close_goes relay.writeClosed (.inl rfl) place granted
  | closing =>
    have held := kept direction.other (task ▸ rfl)
    have closed := close_goes relay.writeClosed (.inr rfl) (place _ _ task rfl)
      (by simp [grants, held])
    rw [take_of_held held] at closed
    exact closed
  | finished => exact .rests rfl

/-! ## What the steps keep -/

section

variable (locks : Locks relay)
include locks

/-- A direction that is granted a lock keeps it, or lets it go. -/
theorem Locks.moves {next : Option Side} {transport : Transport}
    (uses : Uses relay direction side task transport after)
    (holder : after.holder = Function.update relay.holder side next)
    (keeps : ∀ other, task.keeps direction = some other → other = side ∧ next = some direction)
    (passed : ∀ who, next = some who → who = direction ∧ task.keeps direction = some side ∨
      who ≠ direction ∧ (relay.tasks who).queuedFor who = some side) : Locks after := by
  have granted := grants_iff.mp uses.granted
  constructor
  · intro who other kept
    rw [uses.tasks] at kept
    by_cases own : who = direction
    · subst own
      rw [Function.update_self] at kept
      obtain ⟨rfl, rfl⟩ := keeps other kept
      rw [holder, Function.update_self]
    · rw [Function.update_of_ne own] at kept
      have held := locks.kept who other kept
      have apart : other ≠ side := by
        rintro rfl
        exact granted (Side.eq_other own ▸ held)
      rw [holder, Function.update_of_ne apart]
      exact held
  · intro who other held
    rw [holder] at held
    rw [uses.tasks]
    by_cases here : other = side
    · subst here
      rw [Function.update_self] at held
      rcases passed who held with ⟨rfl, own⟩ | ⟨own, queued⟩
      · rw [Function.update_self]
        exact .inl own
      · rw [Function.update_of_ne own]
        exact .inr queued
    · rw [Function.update_of_ne here] at held
      have own : who ≠ direction := by
        rintro rfl
        exact here ((locks.only held).trans uses.place)
      rw [Function.update_of_ne own]
      exact locks.held who other held

/-- A direction queues for a lock. -/
theorem Locks.queues (place : (relay.tasks direction).place direction = side)
    (refused : relay.grants direction side = false) (free : task.keeps direction = none)
    (holder : after.holder = relay.holder)
    (tasks : after.tasks = Function.update relay.tasks direction task) : Locks after := by
  constructor
  · intro who other kept
    rw [tasks] at kept
    rw [holder]
    by_cases own : who = direction
    · subst own
      rw [Function.update_self, free] at kept
      cases kept
    · rw [Function.update_of_ne own] at kept
      exact locks.kept who other kept
  · intro who other held
    rw [holder] at held
    have own : who ≠ direction := by
      rintro rfl
      rw [(locks.only held).trans place] at held
      simp [grants, held] at refused
    rw [tasks, Function.update_of_ne own]
    exact locks.held who other held

theorem Locks.goes (goes : Goes relay direction after) : after.failed = true ∨ Locks after := by
  cases goes with
  | fails failed => exact .inl failed
  | rests same => exact .inr (same ▸ locks)
  | queues place refused queued chunk transports holder tasks =>
    exact .inr (locks.queues place refused (CopyTask.keeps_of_queued queued) holder tasks)
  | waits uses slow keeps holder =>
    refine .inr (locks.moves uses holder ?_ ?_)
    · intro other kept
      exact ⟨Option.some.inj (kept.symm.trans keeps), rfl⟩
    · rintro who ⟨⟩
      exact .inl ⟨rfl, keeps⟩
  | leaves uses prompt free unqueued holder =>
    refine .inr (locks.moves uses holder ?_ ?_)
    · intro other kept
      cases free.symm.trans kept
    · intro who passed
      split at passed
      · rename_i queued
        cases passed
        exact .inr ⟨Side.other_ne direction, queued⟩
      · cases passed

end

/-- No operation on a stream has to wait for the peer, and no direction keeps its lock or is queued
for it. -/
structure Clear (side : Side) (relay : Relay) : Prop where
  prompt : Prompt (relay.transports side)
  free : relay.holder side = none
  apart : ∀ who, (relay.tasks who).keeps who ≠ some side ∧
    (relay.tasks who).queuedFor who ≠ some side

/-- The direction has nothing to write and gets nothing. -/
structure Hushed (direction : Side) (relay : Relay) : Prop where
  silent : Silent (relay.transports direction)
  task : (relay.tasks direction).chunk? = none

/-- The direction that moved is not at the stream. -/
theorem Clear.moved (clear : Clear side relay) (prompt : Prompt (after.transports side))
    (free : after.holder side = none)
    (tasks : after.tasks = Function.update relay.tasks direction task)
    (keeps : task.keeps direction ≠ some side) (queued : task.queuedFor direction ≠ some side) :
    Clear side after := by
  refine ⟨prompt, free, fun who => ?_⟩
  rw [tasks]
  by_cases own : who = direction
  · subst own
    rw [Function.update_self]
    exact ⟨keeps, queued⟩
  · rw [Function.update_of_ne own]
    exact clear.apart who

theorem Clear.goes (clear : Clear side relay) (goes : Goes relay direction after) :
    after.failed = true ∨ Clear side after := by
  obtain ⟨prompt, free, apart⟩ := id clear
  cases goes with
  | fails failed => exact .inl failed
  | rests same => exact .inr (same ▸ clear)
  | @queues there task place refused queued chunk transports holder tasks =>
    have elsewhere : there ≠ side := by
      rintro rfl
      simp [grants, free] at refused
    refine .inr (clear.moved (transports ▸ prompt) (holder ▸ free) tasks ?_ ?_)
    · simp [CopyTask.keeps_of_queued queued]
    · simpa [queued] using elsewhere
  | @waits there task transport uses slow keeps holder =>
    have elsewhere : side ≠ there := by
      rintro rfl
      exact slow prompt
    refine .inr (clear.moved ?_ ?_ uses.tasks ?_ ?_)
    · rwa [uses.transports, Function.update_of_ne elsewhere]
    · rw [holder]
      exact (Function.update_of_ne elsewhere ..).trans free
    · simpa [keeps] using elsewhere.symm
    · simp [CopyTask.queuedFor_of_keeps keeps]
  | @leaves there task transport uses kept loose unqueued holder =>
    refine .inr (clear.moved ?_ ?_ uses.tasks (by simp [loose]) (by simp [unqueued]))
    · rw [uses.transports]
      by_cases here : side = there
      · subst here
        rw [Function.update_self]
        exact kept prompt
      · rwa [Function.update_of_ne here]
    · rw [holder]
      by_cases here : side = there
      · subst here
        simp [release, (apart direction.other).2]
      · exact (Function.update_of_ne here ..).trans free

theorem Hushed.goes (hushed : Hushed side relay) (goes : Goes relay direction after) :
    after.failed = true ∨ Hushed side after := by
  obtain ⟨silent, empty⟩ := id hushed
  have chunk {task : CopyTask} (tasks : after.tasks = Function.update relay.tasks direction task)
      (own : side = direction → task.chunk? = none) : (after.tasks side).chunk? = none := by
    rw [tasks]
    by_cases here : side = direction
    · subst here
      rw [Function.update_self]
      exact own rfl
    · rwa [Function.update_of_ne here]
  have used {there : Side} {task : CopyTask} {transport : Transport}
      (uses : Uses relay direction there task transport after) : Hushed side after := by
    refine ⟨?_, chunk uses.tasks ?_⟩
    · rw [uses.transports]
      by_cases here : side = there
      · subst here
        rw [Function.update_self]
        exact uses.silent silent
      · rwa [Function.update_of_ne here]
    · rintro rfl
      exact uses.quiet silent empty
  cases goes with
  | fails failed => exact .inl failed
  | rests same => exact .inr (same ▸ hushed)
  | queues place refused queued same transports holder tasks =>
    refine .inr ⟨transports ▸ silent, chunk tasks ?_⟩
    rintro rfl
    exact same.trans empty
  | waits uses slow keeps holder => exact .inr (used uses)
  | leaves uses prompt free unqueued holder => exact .inr (used uses)

/-! ## Every interleaving -/

section

variable {holds : Relay → Prop} (keeps : ∀ {relay after direction}, holds relay →
  Goes relay direction after → after.failed = true ∨ holds after)
include keeps

theorem step_keeps (start : relay.failed = true ∨ Locks relay ∧ holds relay) (direction : Side)
    (size : ChunkSize) : (relay.step direction size).failed = true ∨
      Locks (relay.step direction size) ∧ holds (relay.step direction size) := by
  unfold Relay.step
  split
  · exact start
  · rename_i live
    obtain ⟨locks, start⟩ := start.resolve_left live
    have goes := advance_goes locks direction size
    rcases locks.goes goes with failed | locks
    · exact .inl failed
    · exact (keeps start goes).imp id fun kept => ⟨locks, kept⟩

/-- What every step keeps holds after every interleaving, unless a direction has failed. -/
theorem run_keeps (start : relay.failed = true ∨ Locks relay ∧ holds relay) (size : ChunkSize)
    (steps : List Side) : (relay.run size steps).failed = true ∨
      Locks (relay.run size steps) ∧ holds (relay.run size steps) := by
  induction steps generalizing relay with
  | nil => exact start
  | cons direction rest ih => exact ih (step_keeps keeps start direction size)

end

/-- What keeps a direction from being blocked. -/
def Unblocked (direction : Side) (relay : Relay) : Prop :=
  Hushed direction relay ∨ Clear direction.other relay

theorem Unblocked.goes {stepped : Side} (unblocked : Unblocked direction relay)
    (goes : Goes relay stepped after) : after.failed = true ∨ Unblocked direction after := by
  rcases unblocked with hushed | clear
  · exact (hushed.goes goes).imp id .inl
  · exact (clear.goes goes).imp id .inr

attribute [local simp] setTransport setTask release CopyTask.chunk?

/-- A write to a stream that can be written to is over at once. -/
theorem write_proceeds (writable : Writable (relay.transports direction.other))
    (bytes : List UInt8) : (relay.write direction bytes).failed = true ∨
      ((relay.write direction bytes).tasks direction).chunk? = none := by
  have returns : ((relay.transports direction.other).sink.perform bytes).1 ≠ .dropped := by
    rw [perform]
    split
    · simp
    · simp
    · simp
    · rename_i count rest waits
      exact absurd waits (writable count rest)
  rw [write, operate]
  split
  · generalize (relay.transports direction.other).sink.perform bytes = performed at returns
    obtain ⟨(value | err | -), sink⟩ := performed
    · exact .inr (by simp)
    · exact .inl rfl
    · exact absurd rfl returns
  · exact .inl rfl

/-- A direction whose destination is not kept from it writes its chunk. -/
theorem proceeds (locks : Locks relay) (unkept : relay.Unkept) (live : relay.failed = false)
    {chunk : List UInt8} (held : (relay.tasks direction).chunk? = some chunk)
    (writable : Writable (relay.transports direction.other)) :
    (relay.step direction size).failed = true ∨
      ((relay.step direction size).tasks direction).chunk? = none := by
  have writes (chunk : List UInt8) : (relay.write direction chunk).failed = true ∨
      ((relay.write direction chunk).tasks direction).chunk? = none := write_proceeds writable chunk
  -- the lock is free or with this direction
  have granted (found : ∀ chunk, relay.tasks direction = .got chunk →
      relay.writeClosed direction.other = false) :
      relay.grants direction direction.other = true := by
    have free : relay.holder direction.other ≠ some direction.other := by
      intro other
      exact unkept live direction chunk held writable found ⟨other, locks.reads other⟩
    rw [grants]
    cases holds : relay.holder direction.other with
    | none => rfl
    | some holder =>
      have own : holder = direction := by
        by_contra apart
        exact free (by rw [holds, Side.eq_other apart])
      simp [own]
  rw [Relay.step, live, Relay.advance]
  simp only [Bool.false_eq_true, ↓reduceIte]
  cases task : relay.tasks direction with
  | got bytes =>
    dsimp only
    split
    · exact .inl rfl
    · rename_i opened
      rw [Relay.locked, if_pos (granted fun _ _ => Bool.eq_false_iff.mpr opened)]
      exact @write_proceeds (relay.take direction direction.other) direction writable bytes
  | queuedWrite bytes =>
    dsimp only
    rw [Relay.locked, if_pos (granted fun _ got => by cases task.symm.trans got)]
    exact @write_proceeds (relay.take direction direction.other) direction writable bytes
  | writing rest => exact writes rest
  | idle | queuedRead | reading | ended | queuedClose | closing | finished => cases task ▸ held

/-- A direction that is kept from its destination holds on to its chunk. -/
theorem Kept.waits (locks : Locks relay) (kept : relay.Kept direction) (live : relay.failed = false)
    {chunk : List UInt8} (held : (relay.tasks direction).chunk? = some chunk)
    (found : ∀ chunk, relay.tasks direction = .got chunk →
      relay.writeClosed direction.other = false) :
    (relay.step direction size).failed = false ∧
      ((relay.step direction size).tasks direction).chunk? = some chunk := by
  have refused : relay.grants direction direction.other = false := by
    simp [grants, kept.locked]
  rw [Relay.step, live, Relay.advance]
  simp only [Bool.false_eq_true, ↓reduceIte]
  cases task : relay.tasks direction with
  | got bytes =>
    rw [task] at held
    simp only [found bytes task, Bool.false_eq_true, ↓reduceIte, Relay.locked, refused]
    exact ⟨live, by simpa using held⟩
  | queuedWrite bytes =>
    rw [task] at held
    simp only [Bool.false_eq_true, ↓reduceIte, Relay.locked, refused]
    exact ⟨live, by simpa using held⟩
  | writing rest =>
    have own := locks.kept direction direction.other (by rw [task]; rfl)
    rw [kept.locked] at own
    exact absurd (Option.some.inj own) (Side.other_ne direction)
  | idle | queuedRead | reading | ended | queuedClose | closing | finished => cases task ▸ held

/-- A state has the property exactly if no direction is kept from its destination. -/
theorem independent_iff (size : ChunkSize) (locks : relay.failed = true ∨ Locks relay) :
    relay.Independent size ↔ relay.Unkept := by
  constructor
  · intro independent live direction chunk held writable found kept
    have locks := locks.resolve_left (by simp [live])
    obtain ⟨lives, waits⟩ := @Kept.waits relay direction size locks kept live chunk held found
    rcases independent live direction chunk held writable with failed | written
    · cases lives.symm.trans failed
    · cases waits.symm.trans written
  · intro unkept live direction chunk held writable
    exact proceeds (locks.resolve_left (by simp [live])) unkept live held writable

theorem Unblocked.unkept (unblocked : ∀ direction, relay.failed = true ∨
    Locks relay ∧ Unblocked direction relay) : relay.Unkept := by
  intro live direction chunk held writable found kept
  rcases unblocked direction with failed | ⟨-, hushed | clear⟩
  · cases live.symm.trans failed
  · cases hushed.task.symm.trans held
  · cases clear.free.symm.trans kept.locked

end Relay

/-- A direction is not kept from writing: nothing comes to be written, or no operation on the
stream that it is written to has to wait for the peer. -/
def Unhindered (source destination : Transport) : Prop := Silent source ∨ Prompt destination

/-- In every state of every interleaving, a chunk for a stream that can be written to is written
exactly if the lock of that stream is not with the other direction, which reads it or is next to.
It never is where no direction can meet the other one in a read or a write that waits. -/
theorem forward_independent (size : ChunkSize) (transports : Side → Transport)
    (writeClosed : Side → Bool) (steps : List Side) :
    (((Relay.new transports writeClosed).run size steps).Independent size ↔
      ((Relay.new transports writeClosed).run size steps).Unkept) ∧
    ((∀ direction, Unhindered (transports direction) (transports direction.other)) →
      ((Relay.new transports writeClosed).run size steps).Independent size) := by
  have locks : Relay.Locks (Relay.new transports writeClosed) :=
    ⟨by simp [Relay.new, CopyTask.keeps], by simp [Relay.new]⟩
  have kept := Relay.run_keeps (fun _ _ => .inr trivial) (.inr ⟨locks, trivial⟩) size steps
  have unkept := Relay.independent_iff size (kept.imp_right And.left)
  refine ⟨unkept, fun unhindered => unkept.mpr (Relay.Unblocked.unkept fun direction => ?_)⟩
  have start : Relay.Unblocked direction (Relay.new transports writeClosed) := by
    rcases unhindered direction with silent | prompt
    · exact .inl ⟨silent, rfl⟩
    · exact .inr ⟨prompt, rfl, fun _ => ⟨nofun, nofun⟩⟩
  exact Relay.run_keeps Relay.Unblocked.goes (.inr ⟨locks, start⟩) size steps

/-- A stream whose peer takes everything. -/
def takesAll (socket : Socket String) : Transport := ⟨socket, ⟨[], 0, []⟩, true⟩

theorem greeting_there : [(50 : UInt8)] ≠ [] := by decide

/-- The server on the right speaks first; the client on the left waits to hear it. -/
def serverFirst : Side → Transport
  | .left => takesAll [.dropped]
  | .right => takesAll [.data ⟨[50], greeting_there⟩]

/-- Both peers have already said all they say. -/
def bothSpoke : Side → Transport := fun _ => takesAll [.data ⟨[50], greeting_there⟩]

/-- Each direction has read what its peer said, and writes it when it goes on. -/
theorem forward_independent_bothSpoke :
    ((Relay.new bothSpoke fun _ => false).run ⟨16, by decide⟩ [.left, .right]).Independent
      ⟨16, by decide⟩ :=
  (forward_independent _ _ _ _).2 fun _ => .inr (by simp [Prompt, bothSpoke, takesAll])

/-- Each direction has gone on once: the client has said nothing yet, the server has. -/
def greeted : Relay :=
  (Relay.new serverFirst fun _ => false).run ⟨16, by decide⟩ [.left, .right]

/-- The greeting of the server is not passed on: the read of the client, which has to wait, keeps
the stream locked. -/
theorem greeting_blocked :
    (greeted.tasks .right).chunk? = some [50] ∧ (greeted.tasks .left) = .reading ∧
    ((greeted.step .right ⟨16, by decide⟩).tasks .right).chunk? = some [50] ∧
    (((greeted.step .right ⟨16, by decide⟩).transports .left).sink.sent = []) ∧
    ¬ greeted.Independent ⟨16, by decide⟩ := by
  have held : (greeted.tasks .right).chunk? = some [50] := by decide +kernel
  have kept : ((greeted.step .right ⟨16, by decide⟩).tasks .right).chunk? = some [50] := by
    decide +kernel
  have live : (greeted.step .right ⟨16, by decide⟩).failed = false := by decide +kernel
  refine ⟨held, by decide +kernel, kept, by decide +kernel, fun independent => ?_⟩
  have writable : Relay.Writable (greeted.transports Side.right.other) := by
    have events : (greeted.transports Side.right.other).sink.events = [] := by decide +kernel
    simp [Relay.Writable, events]
  rcases independent (by decide +kernel) .right [50] held writable with failed | written
  · cases live.symm.trans failed
  · cases kept.symm.trans written

end PdEdge.Proxy

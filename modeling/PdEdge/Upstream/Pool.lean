import PdEdge.Http1.Basic

/-!
# The pool of upstream connections

Idle connections by the key of their target, and the lease that holds a connection while a
response body is read from it. A connection is its reader: the socket and the bytes read
ahead.
-/

namespace PdEdge.Upstream

open Wire

/-- `PlainHttp1PooledConnection`, by what is read from it. -/
abbrev PlainHttp1PooledConnection := Reader IoError

/-- `PlainHttp1SenderPool`; the map has an empty list for the keys it does not hold. -/
structure PlainHttp1SenderPool (κ : Type) where
  hotKey : Option κ
  hotConnections : List PlainHttp1PooledConnection
  otherConnections : κ → List PlainHttp1PooledConnection
  /-- The first connection put in makes its key the hot one. -/
  idle : hotKey = none → hotConnections = [] ∧ ∀ key, otherConnections key = []

namespace PlainHttp1SenderPool

variable {κ : Type} [DecidableEq κ]

/-- The pool as `Default` makes it. -/
def empty : PlainHttp1SenderPool κ := ⟨none, [], fun _ => [], fun _ => ⟨rfl, fun _ => rfl⟩⟩

/-- The idle connections of a key. -/
def connections (pool : PlainHttp1SenderPool κ) (key : κ) : List PlainHttp1PooledConnection :=
  if pool.hotKey = some key then pool.hotConnections else pool.otherConnections key

/-- Without the last connection of a key that is not hot. -/
def popOther (pool : PlainHttp1SenderPool κ) (key : κ) : PlainHttp1SenderPool κ where
  hotKey := pool.hotKey
  hotConnections := pool.hotConnections
  otherConnections := Function.update pool.otherConnections key (pool.otherConnections key).dropLast
  idle cold := by
    obtain ⟨hot, others⟩ := pool.idle cold
    refine ⟨hot, fun other => ?_⟩
    by_cases same : other = key
    · subst same
      simp [others]
    · simp [same, others]

/-- `take`. -/
def take (pool : PlainHttp1SenderPool κ) (key : κ) :
    Option PlainHttp1PooledConnection × PlainHttp1SenderPool κ :=
  if hot : pool.hotKey = some key then
    (pool.hotConnections.getLast?, { pool with
        hotConnections := pool.hotConnections.dropLast
        idle := fun cold => by simp [hot] at cold })
  else ((pool.otherConnections key).getLast?, pool.popOther key)

/-- `put`; false when the pool is full and the connection is closed instead. -/
def put (pool : PlainHttp1SenderPool κ) (key : κ) (capacity : Nat)
    (connection : PlainHttp1PooledConnection) : Bool × PlainHttp1SenderPool κ :=
  let capacity := max capacity 1
  if hot : pool.hotKey = some key then
    if pool.hotConnections.length < capacity then
      (true, { pool with
        hotConnections := pool.hotConnections ++ [connection]
        idle := fun cold => by simp [hot] at cold })
    else (false, pool)
  else if cold : pool.hotKey = none then
    (true, { pool with
      hotKey := some key, hotConnections := pool.hotConnections ++ [connection]
      idle := fun absurd => by simp at absurd })
  else if (pool.otherConnections key).length < capacity then
    (true, { pool with
      otherConnections :=
        Function.update pool.otherConnections key (pool.otherConnections key ++ [connection])
      idle := fun none => (cold none).elim })
  else (false, pool)

section

variable (pool : PlainHttp1SenderPool κ) (key other : κ)

/-- The connection taken is the last of its key. -/
theorem take_fst : (pool.take key).1 = (pool.connections key).getLast? := by
  unfold take connections
  split <;> rfl

attribute [local simp] connections

theorem connections_take : (pool.take key).2.connections other =
    if other = key then (pool.connections key).dropLast else pool.connections other := by
  unfold take
  by_cases hot : pool.hotKey = some key
  · by_cases same : other = key
    · simp [hot, same]
    · simp [hot, same, Ne.symm same]
  rw [dif_neg hot]
  by_cases same : other = key
  · subst same
    simp [popOther, hot]
  · simp [popOther, same]

/-- A connection is put behind those of its key, or is not kept. -/
theorem connections_put (capacity : Nat) (connection : PlainHttp1PooledConnection) :
    (pool.put key capacity connection).2.connections other =
      if other = key ∧ (pool.put key capacity connection).1 then
        pool.connections key ++ [connection]
      else pool.connections other := by
  unfold put
  by_cases hot : pool.hotKey = some key
  · by_cases room : pool.hotConnections.length < max capacity 1
    · by_cases same : other = key
      · simp [hot, room, same]
      · simp [hot, room, same, Ne.symm same]
    · simp [hot, room]
  by_cases cold : pool.hotKey = none
  · obtain ⟨empty, others⟩ := pool.idle cold
    by_cases same : other = key
    · simp [cold, same, empty, others]
    · simp [cold, same, Ne.symm same]
  by_cases room : (pool.otherConnections key).length < max capacity 1
  · by_cases same : other = key
    · subst same
      simp [hot, cold, room]
    · simp [hot, cold, room, same]
  · simp [hot, cold, room]

end

end PlainHttp1SenderPool

/-- `PlainHttp1SenderLease`; the pool it releases to is passed along. -/
structure PlainHttp1SenderLease (κ : Type) where
  poolKey : κ
  capacity : Nat
  mayReuse : Bool
  dirty : Bool
  connection : Option PlainHttp1PooledConnection

namespace PlainHttp1SenderLease

variable {κ : Type} [DecidableEq κ]

/-- `PlainHttp1SenderLease::new`. -/
def new (poolKey : κ) (capacity : Nat) (mayReuse : Bool)
    (connection : PlainHttp1PooledConnection) : PlainHttp1SenderLease κ :=
  ⟨poolKey, capacity, mayReuse, false, some connection⟩

/-- `mark_dirty`. -/
def markDirty (lease : PlainHttp1SenderLease κ) : PlainHttp1SenderLease κ :=
  { lease with dirty := true, mayReuse := false }

/-- `release`: the connection leaves the lease, to the pool if it may be used again. -/
def release (lease : PlainHttp1SenderLease κ) (pool : PlainHttp1SenderPool κ) :
    PlainHttp1SenderPool κ × PlainHttp1SenderLease κ :=
  match lease.connection with
  | none => (pool, lease)
  | some connection =>
    (if lease.mayReuse && !lease.dirty then
      (pool.put lease.poolKey lease.capacity connection).2
    else pool, { lease with connection := none })

end PlainHttp1SenderLease

end PdEdge.Upstream

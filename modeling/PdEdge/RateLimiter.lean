import Mathlib.Algebra.Order.Ring.Nat
import PdEdge.Lib.FixedWindow

/-!
# The rate limiter

Buckets by key, in shards that are chosen by a hash of the key. The calls for a key go through its
bucket as through a fixed window of its own, so the bounds of fixed windows are those of the
limiter, and what is called for other keys makes no difference.
-/

namespace PdEdge.RateLimiter

/-- `RateLimitBucket`, with its `Instant` in nanoseconds. -/
structure RateLimitBucket where
  windowStart : Nat
  count : UInt64

/-- `RATE_LIMITER_SHARDS`. -/
def rateLimiterShards : Nat := 64

/-- `shard_index_for`, with what the hasher makes of the key. -/
def shardIndexFor (hash : String → UInt64) (key : String) (shardCount : Nat) : Nat :=
  (hash key).toNat % max shardCount 1

theorem shardIndexFor_lt {hash : String → UInt64} (key : String) :
    shardIndexFor hash key rateLimiterShards < rateLimiterShards :=
  Nat.mod_lt _ (by decide)

/-- The shard of a key. -/
def shardOf (hash : String → UInt64) (key : String) : Fin rateLimiterShards :=
  ⟨shardIndexFor hash key rateLimiterShards, shardIndexFor_lt key⟩

/-- `RateLimiterStore`; a shard gives the bucket of each key in it. -/
structure RateLimiterStore where
  shards : Vector (String → Option RateLimitBucket) rateLimiterShards

/-- A call of `allow` and its `Instant::now`. -/
structure Call where
  time : Nat
  key : String
  limit : UInt64
  windowSeconds : UInt64

/-- `Duration::from_secs`. -/
def fromSecs (seconds : UInt64) : Nat := 1000000000 * seconds.toNat

/-- The bucket of a call: a new one if there is none, with a new window if the last is over.
`duration_since` does not go below zero. -/
def renewed (found : Option RateLimitBucket) (window now : Nat) : RateLimitBucket :=
  let bucket := found.getD ⟨now, 0⟩
  if window ≤ now - bucket.windowStart then ⟨now, 0⟩ else bucket

namespace RateLimiterStore

/-- `new`. -/
def new : RateLimiterStore := ⟨Vector.replicate rateLimiterShards fun _ => none⟩

variable (hash : String → UInt64) (store : RateLimiterStore)

/-- The bucket of a key. -/
def bucket (key : String) : Option RateLimitBucket := store.shards[shardOf hash key] key

/-- The bucket of a key is changed in its shard. -/
def put (key : String) (bucket : RateLimitBucket) : RateLimiterStore :=
  ⟨store.shards.set (shardOf hash key)
    (Function.update store.shards[shardOf hash key] key (some bucket)) (shardOf hash key).isLt⟩

/-- The call finds no bucket, or one whose window is over. -/
def startsWindow (call : Call) : Bool :=
  (store.bucket hash call.key).all fun bucket =>
    fromSecs call.windowSeconds ≤ call.time - bucket.windowStart

/-- `allow`. -/
def allow (call : Call) : Bool × RateLimiterStore :=
  if call.limit = 0 ∨ call.windowSeconds = 0 then (false, store)
  else
    let bucket := renewed (store.bucket hash call.key) (fromSecs call.windowSeconds) call.time
    if bucket.count < call.limit then
      (true, store.put hash call.key { bucket with count := bucket.count + 1 })
    else (false, store.put hash call.key bucket)

end RateLimiterStore

/-- What became of a call. -/
structure Record where
  call : Call
  allowed : Bool
  /-- The window of the key started with the call. -/
  starts : Bool

/-- One call after another. -/
def RateLimiterStore.run (hash : String → UInt64) (store : RateLimiterStore) :
    List Call → List Record
  | [] => []
  | call :: calls =>
    ⟨call, (store.allow hash call).1, store.startsWindow hash call⟩ ::
      run hash (store.allow hash call).2 calls

/-! ## Each key has a window of its own -/

open FixedWindow (Window Entry)
open List
open RateLimitBucket
open Record

/-- The bucket as a window. -/
def RateLimitBucket.window (bucket : RateLimitBucket) : Window Nat :=
  ⟨bucket.windowStart, bucket.count.toNat⟩

/-- The code's test for the end of a window is that of a fixed window. -/
theorem over_eq_starts {width : Nat} (positive : 0 < width) {bucket : Option RateLimitBucket}
    {now : Nat} :
    (bucket.all fun bucket => width ≤ now - bucket.windowStart) =
      FixedWindow.starts width (bucket.map window) now := by
  cases bucket with
  | none => rfl
  | some bucket =>
    simp only [Option.all_some, Option.map_some, FixedWindow.starts, window, decide_eq_decide]
    omega

theorem renewed_window {width : Nat} (positive : 0 < width) (bucket : Option RateLimitBucket)
    (now : Nat) :
    (renewed bucket width now).window = FixedWindow.current width (bucket.map window) now := by
  rw [FixedWindow.current, ← over_eq_starts positive, renewed]
  cases bucket with
  | none => simp [window]
  | some bucket =>
    simp only [Option.getD_some, Option.all_some, decide_eq_true_eq, Option.map_some]
    split <;> rfl

/-- Counting does not wrap around. -/
theorem counted_window {bucket : RateLimitBucket} {limit : UInt64} (room : bucket.count < limit) :
    window { bucket with count := bucket.count + 1 } = bucket.window.counted limit.toNat := by
  have below : bucket.window.count < limit.toNat := UInt64.lt_iff_toNat_lt.mp room
  have top := limit.toNat_lt
  have added : (bucket.count + 1).toNat = bucket.count.toNat + 1 := by
    apply Nat.mod_eq_of_lt
    change bucket.window.count + 1 < 2 ^ 64
    omega
  rw [Window.counted, if_pos below]
  simp only [window, added]

/-- The record as what became of an arrival. -/
def Record.entry (record : Record) : Entry Nat :=
  ⟨record.call.time, record.allowed, record.starts⟩

/-- The record is of a call for the key. -/
def Record.isFor (key : String) (record : Record) : Bool := record.call.key = key

/-- The call is for the key. -/
def Call.isFor (key : String) (call : Call) : Bool := call.key = key

/-- The call is made with the limit and the window, and neither is zero. -/
structure Call.Uses (limit windowSeconds : UInt64) (call : Call) : Prop where
  limited : 0 < call.limit
  timed : 0 < call.windowSeconds
  limit_eq : call.limit = limit
  windowSeconds_eq : call.windowSeconds = windowSeconds

namespace RateLimiterStore

variable {hash : String → UInt64} {store : RateLimiterStore} {call : Call} {key : String}

@[simp] theorem bucket_new (key : String) : new.bucket hash key = none := by simp [new, bucket]

/-- A bucket is changed for its key alone, also in its shard. -/
theorem bucket_put (key other : String) (changed : RateLimitBucket) :
    (store.put hash key changed).bucket hash other =
      if other = key then some changed else store.bucket hash other := by
  simp only [put, bucket, Fin.getElem_fin, Vector.getElem_set]
  by_cases same : other = key
  · subst same
    simp
  split
  · next shared =>
    rw [Function.update_of_ne same]
    exact congrFun (getElem_congr_idx shared) other
  · rfl

/-- The buckets as windows. -/
def window (hash : String → UInt64) (store : RateLimiterStore) (key : String) :
    Option (Window Nat) :=
  (store.bucket hash key).map RateLimitBucket.window

theorem fromSecs_pos {seconds : UInt64} (positive : 0 < seconds) : 0 < fromSecs seconds := by
  have seconds_pos : 0 < seconds.toNat := UInt64.lt_iff_toNat_lt.mp positive
  unfold fromSecs
  omega

theorem startsWindow_eq (positive : 0 < call.windowSeconds) :
    store.startsWindow hash call =
      FixedWindow.starts (fromSecs call.windowSeconds) (store.window hash call.key) call.time :=
  over_eq_starts (fromSecs_pos positive)

/-- A call leaves the windows of the other keys alone. -/
theorem allow_other {other : String} (distinct : other ≠ call.key) :
    (store.allow hash call).2.window hash other = store.window hash other := by
  unfold allow
  split
  · rfl
  · dsimp only
    split <;> simp only [window, bucket_put, if_neg distinct]

/-- A call takes the window of its key a step further. -/
theorem allow_own (limited : 0 < call.limit) (timed : 0 < call.windowSeconds) :
    (store.allow hash call).1 = (FixedWindow.entry call.limit.toNat (fromSecs call.windowSeconds)
        (store.window hash call.key) call.time).admitted ∧
      (store.allow hash call).2.window hash call.key =
        some (FixedWindow.after call.limit.toNat (fromSecs call.windowSeconds)
          (store.window hash call.key) call.time) := by
  have falls := renewed_window (fromSecs_pos timed) (store.bucket hash call.key) call.time
  have used : ¬(call.limit = 0 ∨ call.windowSeconds = 0) := by
    rintro (zero | zero)
    · exact absurd limited (by simp [zero])
    · exact absurd timed (by simp [zero])
  unfold allow FixedWindow.entry FixedWindow.after
  rw [if_neg used, window, ← falls]
  by_cases room : (renewed (store.bucket hash call.key) (fromSecs call.windowSeconds)
      call.time).count < call.limit
  · rw [if_pos room]
    have below : (RateLimitBucket.window (renewed (store.bucket hash call.key)
        (fromSecs call.windowSeconds) call.time)).count < call.limit.toNat :=
      UInt64.lt_iff_toNat_lt.mp room
    refine ⟨(decide_eq_true below).symm, ?_⟩
    rw [window, bucket_put, if_pos rfl, Option.map_some, counted_window room]
  rw [if_neg room]
  have full : ¬(RateLimitBucket.window (renewed (store.bucket hash call.key)
      (fromSecs call.windowSeconds) call.time)).count < call.limit.toNat :=
    fun below => room (UInt64.lt_iff_toNat_lt.mpr below)
  refine ⟨(decide_eq_false full).symm, ?_⟩
  rw [window, bucket_put, if_pos rfl, Option.map_some, Window.counted, if_neg full]

/-- The records of a key are the log of a fixed window at the times of its calls. -/
theorem run_entries {limit windowSeconds : UInt64} {calls : List Call}
    (uses : ∀ call ∈ calls, call.key = key → call.Uses limit windowSeconds) :
    ((store.run hash calls).filter (isFor key)).map entry =
      FixedWindow.log limit.toNat (fromSecs windowSeconds) (store.window hash key)
        ((calls.filter (Call.isFor key)).map Call.time) := by
  induction calls generalizing store with
  | nil => rfl
  | cons call calls ih =>
    have rest := @ih (store.allow hash call).2
      (fun later there => uses later (mem_cons_of_mem _ there))
    by_cases own : call.key = key
    · obtain ⟨limited, timed, rfl, rfl⟩ := uses call mem_cons_self own
      subst own
      obtain ⟨allowed, window⟩ := @allow_own hash store call limited timed
      rw [window] at rest
      rw [run, filter_cons_of_pos (by simp [isFor]),
        filter_cons_of_pos (by simp [Call.isFor]), map_cons, map_cons,
        FixedWindow.log, rest]
      congr 1
      simp only [entry, allowed, startsWindow_eq timed, FixedWindow.entry]
    · rw [allow_other (Ne.symm own)] at rest
      rw [run, filter_cons_of_neg (by simp [isFor, own]),
        filter_cons_of_neg (by simp [Call.isFor, own]), rest]

end RateLimiterStore

/-! ## The bounds -/

/-- What is promised of a run of calls from a new store. -/
structure Limits (hash : String → UInt64) (limit windowSeconds : String → UInt64)
    (calls : List Call) : Prop where
  /-- In any interval of the length of its window, a key is allowed twice its limit at most, -/
  interval : ∀ key start, (RateLimiterStore.new.run hash calls).countP (fun record =>
      record.isFor key && record.allowed &&
        decide (start ≤ record.call.time ∧
          record.call.time < start + fromSecs (windowSeconds key))) ≤
    2 * (limit key).toNat
  /-- and its limit at most from the start of one of its windows to the next. -/
  perWindow : ∀ before first between rest,
    RateLimiterStore.new.run hash calls = before ++ first :: (between ++ rest) →
    first.starts = true →
    (∀ record ∈ between, record.isFor first.call.key = true → record.starts = false) →
    (first :: between).countP (fun record => record.isFor first.call.key && record.allowed) ≤
      (limit first.call.key).toNat
  /-- Before a call that is denied, as many as the limit were allowed less than a window ago. -/
  denied : ∀ before refused rest, RateLimiterStore.new.run hash calls = before ++ refused :: rest →
    refused.allowed = false →
    (limit refused.call.key).toNat ≤ before.countP (fun record =>
      record.isFor refused.call.key && record.allowed &&
        decide (refused.call.time < record.call.time + fromSecs (windowSeconds refused.call.key)))
  /-- The answers for a key are the same whatever is called for other keys. -/
  independent : ∀ key others, others.filter (Call.isFor key) = calls.filter (Call.isFor key) →
    ((RateLimiterStore.new.run hash others).filter (Record.isFor key)).map Record.allowed =
      ((RateLimiterStore.new.run hash calls).filter (Record.isFor key)).map Record.allowed

section

variable {hash : String → UInt64} {limit windowSeconds : String → UInt64} {calls : List Call}

/-- What holds of the records of a key, counted over all records. -/
theorem countP_isFor (key : String) (holds : Entry Nat → Bool) (records : List Record) :
    records.countP (fun record => record.isFor key && holds record.entry) =
      ((records.filter (isFor key)).map entry).countP holds := by
  rw [countP_map, countP_filter]
  apply countP_congr
  simp [and_comm]

theorem times_ordered (ordered : calls.Pairwise fun first second => first.time ≤ second.time)
    (key : String) : ((calls.filter (Call.isFor key)).map Call.time).Pairwise (· ≤ ·) :=
  pairwise_map.mpr (ordered.filter _)

/-- The records of a key in a run from a new store. -/
theorem entries_eq (hash : String → UInt64) {key : String}
    (uses : ∀ call ∈ calls, call.key = key → call.Uses (limit key) (windowSeconds key)) :
    ((RateLimiterStore.new.run hash calls).filter (isFor key)).map entry =
      FixedWindow.log (limit key).toNat (fromSecs (windowSeconds key)) none
        ((calls.filter (Call.isFor key)).map Call.time) := by
  rw [RateLimiterStore.run_entries uses]
  simp [RateLimiterStore.window]

/-- Every call has its record. -/
theorem run_calls (store : RateLimiterStore) :
    (store.run hash calls).map call = calls := by
  induction calls generalizing store with
  | nil => rfl
  | cons call calls ih => simp only [RateLimiterStore.run, map_cons, ih]

theorem Call.Uses.limit_pos {call : Call} {limit windowSeconds : UInt64}
    (uses : call.Uses limit windowSeconds) : 0 < limit.toNat := by
  rw [← uses.limit_eq]
  exact UInt64.lt_iff_toNat_lt.mp uses.limited

/-- The answers to the calls for a key, in a run from a new store. -/
theorem answers_eq {hash : String → UInt64} {key : String}
    (uses : ∀ call ∈ calls, call.key = key → call.Uses (limit key) (windowSeconds key)) :
    ((RateLimiterStore.new.run hash calls).filter (isFor key)).map allowed =
      (FixedWindow.log (limit key).toNat (fromSecs (windowSeconds key)) none
        ((calls.filter (Call.isFor key)).map Call.time)).map Entry.admitted := by
  rw [← entries_eq hash uses, map_map]
  rfl

/-- Calls that come in the order of their times, each key with one limit and one window that are
not zero, are limited as promised. -/
theorem allow_limits (hash : String → UInt64) (limit windowSeconds : String → UInt64)
    (calls : List Call)
    (ordered : calls.Pairwise fun first second => first.time ≤ second.time)
    (uses : ∀ call ∈ calls, call.Uses (limit call.key) (windowSeconds call.key)) :
    Limits hash limit windowSeconds calls := by
  have own (key : String) :
      ∀ call ∈ calls, call.key = key → call.Uses (limit key) (windowSeconds key) :=
    fun call there same => same ▸ uses call there
  constructor
  case interval =>
    intro key start
    have most := @FixedWindow.admittedIn_le _ _ _ (limit key).toNat (fromSecs (windowSeconds key))
      none _ _ start (times_ordered ordered key) (by simp)
    rw [← entries_eq hash (own key), ← countP_isFor] at most
    refine le_of_eq_of_le (countP_congr ?_) most
    intro record _
    simp only [Entry.admittedIn, entry, Bool.and_eq_true, and_assoc]
    exact and_congr_right fun _ => and_congr_right fun _ =>
      decide_eq_true_iff.trans decide_eq_true_iff.symm
  case perWindow =>
    intro before first between rest split started quiet
    have log := entries_eq hash (own first.call.key)
    rw [split, filter_append, filter_cons_of_pos (by simp [isFor]),
      filter_append, map_append, map_cons, map_append] at log
    have most := FixedWindow.admitted_since_start log.symm started (by
      refine forall_mem_map.mpr fun record there => ?_
      obtain ⟨member, same⟩ := mem_filter.mp there
      exact quiet record member same)
    rw [← map_cons, ← filter_cons_of_pos (by simp [isFor]), ← countP_isFor] at most
    exact most
  case denied =>
    intro before refused rest split denied
    have log := entries_eq hash (own refused.call.key)
    rw [split, filter_append, filter_cons_of_pos (by simp [isFor]), map_append, map_cons] at log
    have called : refused.call ∈ calls := by
      have all := @run_calls hash calls .new
      rw [split] at all
      rw [← all]
      simp
    have least := FixedWindow.limit_le_of_refused (times_ordered ordered _)
      (uses _ called).limit_pos log.symm denied
    rw [← countP_isFor] at least
    refine le_of_le_of_eq least (countP_congr ?_)
    intro record _
    simp only [entry, Bool.and_eq_true, and_assoc]
    exact and_congr_right fun _ => and_congr_right fun _ =>
      decide_eq_true_iff.trans decide_eq_true_iff.symm
  case independent =>
    intro key others same
    have used : ∀ call ∈ others, call.key = key → call.Uses (limit key) (windowSeconds key) := by
      intro call there mine
      have member : call ∈ calls.filter (Call.isFor key) := by
        rw [← same]
        exact mem_filter.mpr ⟨there, by simp [Call.isFor, mine]⟩
      exact own key call (mem_filter.mp member).1 mine
    rw [answers_eq used, answers_eq (own key), same]

/-- The first of two keys is called twice in its first window and once in its second. -/
def fourCalls : List Call :=
  [⟨0, "a", 1, 1⟩, ⟨5, "b", 2, 1⟩, ⟨7, "a", 1, 1⟩, ⟨1000000000, "a", 1, 1⟩]

/-- The limits of the keys. -/
def sampleLimit (key : String) : UInt64 := if key = "a" then 1 else 2

/-- The second call of a window that allows one is denied, and the calls are limited. -/
theorem fourCalls_limited :
    (RateLimiterStore.new.run (fun _ => 0) fourCalls).map Record.allowed =
        [true, true, false, true] ∧
      fourCalls.Pairwise (fun first second => first.time ≤ second.time) ∧
      (∀ call ∈ fourCalls, call.Uses (sampleLimit call.key) 1) ∧
      Limits (fun _ => 0) sampleLimit (fun _ => 1) fourCalls := by
  have answers : (RateLimiterStore.new.run (fun _ => 0) fourCalls).map Record.allowed =
      [true, true, false, true] := by decide +kernel
  have ordered : fourCalls.Pairwise (fun first second => first.time ≤ second.time) := by decide
  have uses : ∀ call ∈ fourCalls, call.Uses (sampleLimit call.key) 1 := by
    intro call there
    simp only [fourCalls, mem_cons, not_mem_nil, or_false] at there
    rcases there with rfl | rfl | rfl | rfl
    all_goals exact ⟨by decide, by decide, by decide, rfl⟩
  exact ⟨answers, ordered, uses,
    allow_limits (fun _ => 0) sampleLimit (fun _ => 1) fourCalls ordered uses⟩

end

end PdEdge.RateLimiter

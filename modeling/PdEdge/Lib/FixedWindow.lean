import Mathlib.Algebra.Order.Monoid.Defs
import Mathlib.Data.List.Induction

/-!
# Fixed windows

A counter that admits at most `limit` arrivals in a window. The first arrival starts a window, and
so does each that comes when the last window is over; a window lasts for `width`, whether anything
arrives or not. How much is admitted in any stretch of time of that width, and what it means not to
be admitted.
-/

namespace FixedWindow

open List

variable {τ : Type}

/-- When the window started, and how many were admitted since. -/
structure Window (τ : Type) where
  start : τ
  count : Nat

/-- What became of an arrival. -/
structure Entry (τ : Type) where
  time : τ
  admitted : Bool
  /-- It started a window. -/
  starts : Bool

/-- An arrival is counted, if it is admitted. -/
def Window.counted (limit : Nat) (window : Window τ) : Window τ :=
  if window.count < limit then { window with count := window.count + 1 } else window

variable (window : Window τ) {limit : Nat}

@[simp] theorem Window.counted_start : (window.counted limit).start = window.start := by
  unfold Window.counted
  split <;> rfl

/-- What is admitted is counted. -/
theorem Window.counted_count :
    (window.counted limit).count = window.count + (if window.count < limit then 1 else 0) := by
  unfold Window.counted
  split <;> rfl

theorem Window.counted_le (within : window.count ≤ limit) :
    (window.counted limit).count ≤ limit := by
  rw [counted_count]
  split <;> omega

variable [LinearOrder τ] [AddCommMonoid τ] (limit : Nat) (width : τ)

/-- An arrival starts a window. -/
def starts (window : Option (Window τ)) (now : τ) : Bool :=
  window.all fun window => window.start + width ≤ now

/-- The window that an arrival falls into. -/
def current (window : Option (Window τ)) (now : τ) : Window τ :=
  if starts width window now then ⟨now, 0⟩ else window.getD ⟨now, 0⟩

/-- The window behind an arrival. -/
def after (window : Option (Window τ)) (now : τ) : Window τ :=
  (current width window now).counted limit

/-- What becomes of an arrival. -/
def entry (window : Option (Window τ)) (now : τ) : Entry τ :=
  ⟨now, (current width window now).count < limit, starts width window now⟩

/-- What becomes of one arrival after another. -/
def log (window : Option (Window τ)) : List τ → List (Entry τ)
  | [] => []
  | now :: times => entry limit width window now :: log (some (after limit width window now)) times

/-- The window behind one arrival after another. -/
def final (window : Option (Window τ)) (times : List τ) : Option (Window τ) :=
  times.foldl (fun window now => some (after limit width window now)) window

variable {limit width} {window : Option (Window τ)} {now : τ} {times : List τ}

/-! ## Logs -/

@[simp] theorem log_length : (log limit width window times).length = times.length := by
  induction times generalizing window with
  | nil => rfl
  | cons now times ih => simp only [log, length_cons, ih]

@[simp] theorem log_times : (log limit width window times).map Entry.time = times := by
  induction times generalizing window with
  | nil => rfl
  | cons now times ih => simp only [log, map_cons, ih, entry]

theorem log_append (first second : List τ) :
    log limit width window (first ++ second) = log limit width window first ++
        log limit width (final limit width window first) second := by
  induction first generalizing window with
  | nil => rfl
  | cons now first ih => simp only [cons_append, log, ih, final, foldl_cons]

variable {before rest : List (Entry τ)} {held : Window τ}

/-- A part of a log is the log of a part. -/
theorem log_split (split : log limit width window times = before ++ rest) :
    ∃ first second, times = first ++ second ∧ before = log limit width window first ∧
      rest = log limit width (final limit width window first) second := by
  refine ⟨times.take before.length, times.drop before.length, (take_append_drop _ _).symm, ?_⟩
  rw [← take_append_drop before.length times, log_append] at split
  have size : (log limit width window (times.take before.length)).length = before.length := by
    have lengths := congrArg length split
    simp only [length_append, log_length, length_take, length_drop] at lengths ⊢
    omega
  obtain ⟨here, there⟩ := append_inj split size
  exact ⟨here.symm, there.symm⟩

/-! ## One arrival -/

theorem current_of_starts (here : starts width window now = true) :
    current width window now = ⟨now, 0⟩ := if_pos here

theorem starts_some_eq_false : starts width (some held) now = false ↔ now < held.start + width := by
  simp [starts]

theorem current_of_not_starts (here : starts width (some held) now = false) :
    current width (some held) now = held := by
  simp [current, here]

/-- An arrival that starts no window falls into one that is not over. -/
theorem exists_of_not_starts (here : starts width window now = false) :
    ∃ held, window = some held ∧ now < held.start + width ∧ current width window now = held := by
  cases window with
  | none => cases here
  | some held => exact ⟨held, rfl, starts_some_eq_false.mp here, current_of_not_starts here⟩

/-- The window never counts more than the limit. -/
theorem after_le (within : ∀ held ∈ window, held.count ≤ limit) :
    (after limit width window now).count ≤ limit := by
  apply Window.counted_le
  cases here : starts width window now with
  | true => simp [current_of_starts here]
  | false =>
    obtain ⟨held, there, _, falls⟩ := exists_of_not_starts here
    rw [falls]
    exact within held there

/-! ## Bounds -/

/-- Until the next window starts, the rest of the limit is admitted at most. -/
theorem admitted_until_start (split : log limit width (some held) times = before ++ rest)
    (quiet : ∀ entry ∈ before, entry.starts = false) (within : held.count ≤ limit) :
    held.count + before.countP Entry.admitted ≤ limit := by
  induction before generalizing held times with
  | nil => simpa using within
  | cons first before ih =>
    cases times with
    | nil => cases split
    | cons now times =>
      obtain ⟨same, split⟩ := cons.inj split
      have here : starts width (some held) now = false := by
        rw [← quiet first mem_cons_self, ← same]
        rfl
      have falls := current_of_not_starts here
      have rest := ih split (fun entry there => quiet entry (mem_cons_of_mem _ there))
        (by rw [after, falls]; exact held.counted_le within)
      rw [after, falls, held.counted_count] at rest
      rw [countP_cons, ← same]
      simp only [entry, falls, decide_eq_true_eq]
      omega

/-- From an arrival that starts a window to the next that does, at most the limit is admitted. -/
theorem admitted_since_start {between : List (Entry τ)} {first : Entry τ}
    (split : log limit width window times = before ++ first :: (between ++ rest))
    (started : first.starts = true) (quiet : ∀ entry ∈ between, entry.starts = false) :
    (first :: between).countP Entry.admitted ≤ limit := by
  obtain ⟨earlier, later, _, _, behind⟩ := log_split split
  cases later with
  | nil => cases behind
  | cons now later =>
    obtain ⟨rfl, since⟩ := cons.inj behind
    have falls := current_of_starts started
    have counted : (after limit width (final limit width window earlier) now).count ≤ limit := by
      rw [after, falls]
      exact Window.counted_le _ (Nat.zero_le limit)
    have most := admitted_until_start since.symm quiet counted
    rw [after, falls, Window.counted_count] at most
    rw [countP_cons]
    simp only [entry, falls, decide_eq_true_eq]
    dsimp only at most
    omega

/-- Until a window is over, the rest of the limit is admitted at most. -/
theorem admitted_before_end (ordered : times.Pairwise (· ≤ ·)) (within : held.count ≤ limit) :
    held.count + (log limit width (some held) times).countP
      (fun entry => entry.admitted && decide (entry.time < held.start + width)) ≤ limit := by
  induction times generalizing held with
  | nil => simpa [log] using within
  | cons now times ih =>
    rw [pairwise_cons] at ordered
    by_cases early : now < held.start + width
    · have falls := current_of_not_starts (starts_some_eq_false.mpr early)
      have rest := ih ordered.2 (held.counted_le within)
      rw [held.counted_count, held.counted_start] at rest
      simp only [log, countP_cons, entry, after, falls, early, decide_true, Bool.and_true,
        decide_eq_true_eq]
      omega
    -- Behind an arrival that is too late, all are.
    · have none : (log limit width (some held) (now :: times)).countP
          (fun entry => entry.admitted && decide (entry.time < held.start + width)) = 0 := by
        rw [countP_eq_zero]
        intro entry there
        have member := @List.mem_map_of_mem _ _ _ _ Entry.time there
        rw [log_times] at member
        have late : held.start + width ≤ entry.time := by
          rcases mem_cons.mp member with same | later
          · exact same ▸ not_lt.mp early
          · exact le_trans (not_lt.mp early) (ordered.1 _ later)
        simp [not_lt.mpr late]
      omega

/-- It was admitted in the stretch of time. -/
def Entry.admittedIn (width start : τ) (entry : Entry τ) : Bool :=
  entry.admitted && decide (start ≤ entry.time ∧ entry.time < start + width)

/-- An arrival adds to what was admitted at most what it adds to the count of its window. -/
theorem countP_log_cons (limit : Nat) (width : τ) (window : Option (Window τ)) (now : τ)
    (times : List τ) (start : τ) :
    (current width window now).count +
        (log limit width window (now :: times)).countP (Entry.admittedIn width start) ≤
      (after limit width window now).count +
        (log limit width (some (after limit width window now)) times).countP
          (Entry.admittedIn width start) := by
  rw [log, countP_cons, after, Window.counted_count]
  by_cases room : (current width window now).count < limit
  · split <;> omega
  have refused : Entry.admittedIn width start (entry limit width window now) = false := by
    simp [Entry.admittedIn, entry, room]
  rw [if_neg room, refused]
  simp

section

variable [IsOrderedAddMonoid τ] {start : τ}

/-- A stretch that begins before the window holds at most the rest of its limit. -/
theorem admittedIn_of_before {held : Window τ} (ordered : times.Pairwise (· ≤ ·))
    (within : held.count ≤ limit) (before : start ≤ held.start) :
    held.count + (log limit width (some held) times).countP (Entry.admittedIn width start) ≤
      limit := by
  have most : held.count + (log limit width (some held) times).countP
      (fun entry => entry.admitted && decide (entry.time < held.start + width)) ≤ limit :=
    admitted_before_end ordered within
  have fewer : (log limit width (some held) times).countP (Entry.admittedIn width start) ≤
      (log limit width (some held) times).countP
        (fun entry => entry.admitted && decide (entry.time < held.start + width)) := by
    apply countP_mono_left
    intro entry _ inside
    simp only [Entry.admittedIn, Bool.and_eq_true, decide_eq_true_eq] at inside ⊢
    exact ⟨inside.1, lt_of_lt_of_le inside.2.2 (add_le_add_left before width)⟩
  omega

/-- A stretch in which a window starts with the first arrival holds at most the limit. -/
theorem admittedIn_of_starts (ordered : (now :: times).Pairwise (· ≤ ·))
    (here : starts width window now = true) (inside : start ≤ now) :
    (log limit width window (now :: times)).countP (Entry.admittedIn width start) ≤ limit := by
  rw [pairwise_cons] at ordered
  have falls := current_of_starts here
  have counts := countP_log_cons limit width window now times start
  have started : (after limit width window now).start = now := by
    rw [after, falls, Window.counted_start]
  have counted : (after limit width window now).count ≤ limit := by
    rw [after, falls]
    exact Window.counted_le _ (Nat.zero_le limit)
  have rest := @admittedIn_of_before _ _ _ limit width _ _ start _ ordered.2 counted
    (inside.trans_eq started.symm)
  omega

/-- What a window has counted and what is admitted in a stretch behind it. -/
theorem admittedIn_of_held {held : Window τ} (ordered : times.Pairwise (· ≤ ·))
    (later : ∀ time ∈ times, start ≤ time) (within : held.count ≤ limit) :
    held.count + (log limit width (some held) times).countP (Entry.admittedIn width start) ≤
      2 * limit := by
  induction times generalizing held with
  | nil =>
    simp only [log, countP_nil]
    omega
  | cons now times ih =>
    cases here : starts width (some held) now with
    | true =>
      have most : (log limit width (some held) (now :: times)).countP
          (Entry.admittedIn width start) ≤ limit :=
        admittedIn_of_starts ordered here (later now mem_cons_self)
      omega
    | false =>
      have falls := current_of_not_starts here
      have counts := countP_log_cons limit width (some held) now times start
      have counted : (after limit width (some held) now).count ≤ limit := by
        rw [after, falls]
        exact held.counted_le within
      have rest := ih (pairwise_cons.mp ordered).2
        (fun time there => later time (mem_cons_of_mem _ there)) counted
      rw [falls] at counts
      omega

/-- In any stretch of the width of a window, at most twice the limit is admitted. -/
theorem admittedIn_le (ordered : times.Pairwise (· ≤ ·))
    (within : ∀ held ∈ window, held.count ≤ limit) :
    (log limit width window times).countP (Entry.admittedIn width start) ≤ 2 * limit := by
  induction times generalizing window with
  | nil => simp [log]
  | cons now times ih =>
    by_cases inside : start ≤ now
    · cases here : starts width window now with
      | true => exact (admittedIn_of_starts ordered here inside).trans (by omega)
      | false =>
        obtain ⟨held, rfl, _, _⟩ := exists_of_not_starts here
        have later : ∀ time ∈ now :: times, start ≤ time := forall_mem_cons.mpr
          ⟨inside, fun _ later => le_trans inside ((pairwise_cons.mp ordered).1 _ later)⟩
        exact (Nat.le_add_left _ _).trans (admittedIn_of_held ordered later (within held rfl))
    -- The first arrival comes before the stretch begins.
    · have outside : Entry.admittedIn width start (entry limit width window now) = false := by
        simp [Entry.admittedIn, entry, inside]
      rw [log, countP_cons_of_neg (by simp [outside])]
      apply ih (pairwise_cons.mp ordered).2
      intro held there
      cases there
      exact after_le within

end

/-! ## What it means not to be admitted -/

/-- The window counts arrivals that were admitted since it started, and it started with one. -/
theorem final_counts (ordered : times.Pairwise (· ≤ ·))
    (there : final limit width none times = some held) :
    held.start ∈ times ∧ held.count ≤ (log limit width none times).countP
      (fun entry => entry.admitted && decide (held.start ≤ entry.time)) := by
  induction times using reverseRecOn generalizing held with
  | nil => cases there
  | append_singleton times now ih =>
    rw [pairwise_append] at ordered
    have last : after limit width (final limit width none times) now = held := by
      simpa [final] using there
    rw [log_append, countP_append]
    cases here : starts width (final limit width none times) now with
    | true =>
      have falls := current_of_starts here
      rw [after, falls] at last
      subst last
      simp [Window.counted_count, log, entry, falls]
    | false =>
      obtain ⟨before, same, _, falls⟩ := exists_of_not_starts here
      obtain ⟨member, counts⟩ := ih ordered.1 same
      have sooner : before.start ≤ now := ordered.2.2 _ member now mem_cons_self
      rw [after, falls] at last
      subst last
      refine ⟨by simp [member], ?_⟩
      rw [Window.counted_count, Window.counted_start]
      simp only [log, entry, falls, countP_singleton, sooner, decide_true, Bool.and_true,
        decide_eq_true_eq]
      omega

/-- Who is not admitted comes less than the width behind as many as the limit that were. -/
theorem limit_le_of_refused [IsOrderedAddMonoid τ] {refused : Entry τ}
    (ordered : times.Pairwise (· ≤ ·)) (positive : 0 < limit)
    (split : log limit width none times = before ++ refused :: rest)
    (denied : refused.admitted = false) :
    limit ≤ before.countP
      (fun entry => entry.admitted && decide (refused.time < entry.time + width)) := by
  obtain ⟨first, second, rfl, rfl, behind⟩ := log_split split
  cases second with
  | nil => cases behind
  | cons now second =>
    obtain ⟨rfl, _⟩ := cons.inj behind
    have full : limit ≤ (current width (final limit width none first) now).count := by
      simpa [entry] using denied
    cases here : starts width (final limit width none first) now with
    | true =>
      rw [current_of_starts here] at full
      exact absurd full (Nat.not_le_of_gt positive)
    | false =>
      obtain ⟨held, there, unexpired, falls⟩ := exists_of_not_starts here
      rw [falls] at full
      refine full.trans ((final_counts (pairwise_append.mp ordered).1 there).2.trans ?_)
      apply countP_mono_left
      intro entry _ since
      simp only [Bool.and_eq_true, decide_eq_true_eq] at since ⊢
      exact ⟨since.1, lt_of_lt_of_le unexpired (add_le_add_left since.2 width)⟩

end FixedWindow

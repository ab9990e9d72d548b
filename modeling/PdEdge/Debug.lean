import PdEdge.Lib.Runs
import Mathlib.Data.List.Nodup
import Mathlib.Data.List.Perm.Basic
import Mathlib.Data.List.Range

/-!
# Debug sessions

The control plane starts and stops a debug session, of which there is one at a time. Its debug
commands go to the session that is there. A recording session records the requests that match it,
up to a number, and the client of the control plane drains and reports the recordings. A request
holds on to the session that it found, also when that is stopped meanwhile.
-/

namespace PdEdge.Debug

open Runs List

/-! ## The store -/

section

variable {σ : Type} (store : Option σ)

/-- `start_debug_session`, with the session that the request asks for if its checks succeed. -/
def startDebugSession (requested : Option σ) : Bool × Option σ :=
  match store, requested with
  | none, some session => (true, some session)
  | _, _ => (false, store)

/-- `stop_debug_session`. -/
def stopDebugSession : Bool × Option σ := (store.isSome, none)

end

/-! ## Commands -/

/-- `DebugSessionState`. A remote debugger is attached while a request runs under it. -/
inductive DebugSessionState where
  | remote (attached : Bool)
  | tcp
  | recording
  deriving DecidableEq

/-- `DebugSession`, with the commands that its debugger was given. -/
structure DebugSession where
  sessionId : String
  state : DebugSessionState
  executed : List String

/-- What the control plane and the requests do with the session. -/
inductive StoreEvent where
  /-- A start command, with what comes of the checks of the request. -/
  | start (sessionId : String) (checked : Option DebugSessionState)
  | stop
  /-- A debug command, with its text unless it is invalid, and with whether the debugger answers
  in time. -/
  | debug (sessionId : String) (text : Option String) (answered : Bool)
  | attach
  /-- The request has ended, or its debugger has detached, which removes the session. -/
  | detach (removes : Bool)

section

variable (store : Option DebugSession)

/-- `run_debug_command`: whether it succeeds, and the session behind it. -/
def runDebugCommand (text : Option String) (answered : Bool) : Bool × Option DebugSession :=
  match store, text with
  | some ⟨sessionId, .remote true, executed⟩, some text =>
    (answered, some ⟨sessionId, .remote true, executed ++ [text]⟩)
  | _, _ => (false, store)

/-- `run_vm_with_optional_debugger` for a session with a debugger, up to the run of the program
or behind it, where the debugger may have detached. -/
def runVmWithOptionalDebugger (detached : Option Bool) : Option DebugSession :=
  match store, detached with
  | some ⟨sessionId, .remote _, executed⟩, none => some ⟨sessionId, .remote true, executed⟩
  | some ⟨sessionId, .remote true, executed⟩, some removes =>
    if removes then none else some ⟨sessionId, .remote false, executed⟩
  | _, _ => store

/-- `execute_command`, and the runs of requests: the session behind an event, and whether a command
is reported as successful. The id that a debug command carries goes into its report only. -/
def execute : StoreEvent → Bool × Option DebugSession
  | .start sessionId checked => startDebugSession store (checked.map (⟨sessionId, ·, []⟩))
  | .stop => (true, (stopDebugSession store).2)
  | .debug _ text answered => runDebugCommand store text answered
  | .attach => (true, runVmWithOptionalDebugger store none)
  | .detach removes => (true, runVmWithOptionalDebugger store (some removes))

/-- A debug command for a session that is not there fails and changes nothing. -/
def Addressed : StoreEvent → Prop
  | .debug sessionId text answered => store.map (·.sessionId) ≠ some sessionId →
    execute store (.debug sessionId text answered) = (false, store)
  | _ => True

/-- A valid debug command comes to an attached session only if that has the id of the command. -/
def Meant : StoreEvent → Prop
  | .debug sessionId text _ => ∀ session ∈ store, session.state = .remote true → text.isSome →
    session.sessionId = sessionId
  | _ => True

end

/-- A debug command reaches only its session exactly when it is meant for an attached one. -/
theorem addressed_iff (store : Option DebugSession) (event : StoreEvent) :
    Addressed store event ↔ Meant store event := by
  cases event with
  | debug sessionId text answered =>
    rcases store with - | ⟨other, state, executed⟩
    · simp [Addressed, Meant, execute, runDebugCommand]
    · by_cases attached : state = .remote true
      · cases text with
        | none => simp [Addressed, Meant, execute, runDebugCommand]
        | some text => simp [Addressed, Meant, execute, runDebugCommand, attached]
      · refine iff_of_true (fun _ => ?_) (by simp [Meant, attached])
        cases state <;> cases text <;> simp_all [execute, runDebugCommand]
  | _ => exact Iff.rfl

/-- Along every run debug commands reach only their session exactly when each valid one that finds
an attached session carries the id of that session. -/
theorem commands_addressed_iff (events : List StoreEvent) :
    AllClear (fun store event => (execute store event).2) Addressed none events ↔
      AllClear (fun store event => (execute store event).2) Meant none events :=
  ⟨.imp fun event => (addressed_iff _ event).mp, .imp fun event => (addressed_iff _ event).mpr⟩

/-- A command for one session is executed by another. -/
theorem foreign_command_executed :
    ¬ ∀ events, AllClear (fun store event => (execute store event).2) Addressed none events := by
  intro addressed
  obtain ⟨-, -, foreign, -⟩ :=
    addressed [.start "a" (some (.remote false)), .attach, .debug "b" (some "step") true]
  exact absurd (foreign (by decide)) (by simp [execute, runDebugCommand, startDebugSession,
    runVmWithOptionalDebugger])

/-! ## Reports of recordings -/

/-- The recordings, by their numbers, where they are. A session is known by its number among the
starts that were asked for; of one that does not record, the outbox stays empty. -/
structure Recordings where
  starts : Nat
  /-- The session in the store, with its outbox. -/
  session : Option (Nat × List Nat)
  /-- The sessions that the running slices hold on to. -/
  slices : List Nat
  /-- What is in the outboxes of sessions that were stopped, where nobody drains it. -/
  orphaned : List Nat
  /-- What the client has drained and not yet reported. -/
  drained : List Nat
  accepted : List Nat
  captured : Nat

/-- What happens to the recordings. A poll that fails, or whose answer cannot be decoded, changes
nothing. -/
inductive ReportEvent where
  | pollFailed
  | start
  | stop
  /-- A slice of a request that matches begins, while the session is not complete. -/
  | begin
  /-- A slice has ended and registers its recording with its session, if that can be encoded. -/
  | register (held : Nat) (encoded : Bool)
  /-- `drain_recording_artifacts`, which comes behind the reports of what was drained before. -/
  | drain
  /-- `report_result_to_control_plane`, which the control plane accepts or not. -/
  | report (accepted : Bool)

/-- `drain_recording_artifacts`: what is taken, and the session without it. -/
def drainRecordingArtifacts (store : Option (Nat × List Nat)) :
    List Nat × Option (Nat × List Nat) :=
  match store with
  | none => ([], none)
  | some (session, outbox) => (outbox, some (session, []))

namespace Recordings

variable (recordings : Recordings)

/-- What is in the outbox of the session in the store. -/
def outbox : List Nat := (drainRecordingArtifacts recordings.session).1

/-- `run_vm_with_optional_debugger` for a session that records: up to the run of the program it
takes hold of the session in the store, and behind it the recording goes to the outbox of the
session that was held. -/
def runVmWithOptionalDebugger : Option (Nat × Bool) → Recordings
  | none => { recordings with
      slices := (recordings.session.map Prod.fst).toList ++ recordings.slices }
  | some (held, encoded) =>
    if held ∉ recordings.slices then recordings
    else if !encoded then { recordings with slices := recordings.slices.erase held }
    else if recordings.session.map Prod.fst = some held then
      { recordings with
        session := some (held, recordings.outbox ++ [recordings.captured])
        slices := recordings.slices.erase held
        captured := recordings.captured + 1 }
    else
      { recordings with
        slices := recordings.slices.erase held
        orphaned := recordings.orphaned ++ [recordings.captured]
        captured := recordings.captured + 1 }

/-- `report_result_to_control_plane`: a report that is not accepted is only logged. -/
def reportResult (accepted : Bool) : Recordings :=
  { recordings with
    drained := recordings.drained.tail
    accepted := recordings.accepted ++ if accepted then recordings.drained.head?.toList else [] }

def step : ReportEvent → Recordings
  | .pollFailed => recordings
  | .start => { recordings with
      starts := recordings.starts + 1
      session := (startDebugSession recordings.session (some (recordings.starts, []))).2 }
  | .stop => { recordings with
      session := (stopDebugSession recordings.session).2
      orphaned := recordings.orphaned ++ recordings.outbox }
  | .begin => recordings.runVmWithOptionalDebugger none
  | .register held encoded => recordings.runVmWithOptionalDebugger (some (held, encoded))
  | .drain =>
    if recordings.drained = [] then
      let (artifacts, session) := drainRecordingArtifacts recordings.session
      { recordings with session, drained := artifacts }
    else recordings
  | .report accepted => recordings.reportResult accepted

/-- The recordings that are still to be accepted. -/
def pending : List Nat := recordings.outbox ++ recordings.drained

/-- No recording is lost, and none is accepted twice. -/
def Kept : Prop :=
  (∀ number < recordings.captured,
    number ∈ recordings.pending ∨ number ∈ recordings.accepted) ∧ recordings.accepted.Nodup

/-- No recording is there when the session is stopped, none is registered with a session that was
stopped, and every report is accepted. -/
def Clear : ReportEvent → Prop
  | .stop => recordings.outbox = []
  | .register held encoded => held ∈ recordings.slices → encoded →
    recordings.session.map Prod.fst = some held
  | .report accepted => recordings.drained ≠ [] → accepted
  | _ => True

/-- All places where a recording can be. -/
def places : List Nat := recordings.pending ++ recordings.orphaned ++ recordings.accepted

/-- A recording is in one place. -/
def Single : Prop :=
  recordings.places.Nodup ∧ ∀ number ∈ recordings.places, number < recordings.captured

variable {recordings}

/-- A step moves recordings between their places and may lose some, or it brings a new one. -/
inductive Moves (recordings after : Recordings) : Prop
  | moved (lost : List Nat) (same : (lost ++ after.places).Perm recordings.places)
    (captured : after.captured = recordings.captured)
  | added (same : after.places.Perm (recordings.captured :: recordings.places))
    (captured : after.captured = recordings.captured + 1)

/-- A recording is registered in the outbox of the session in the store or in an orphaned one. -/
theorem runVm_moves (point : Option (Nat × Bool)) :
    Moves recordings (recordings.runVmWithOptionalDebugger point) := by
  cases point with
  | none => exact .moved [] (.refl _) rfl
  | some ended =>
    obtain ⟨held, encoded⟩ := ended
    simp only [runVmWithOptionalDebugger]
    split
    · exact .moved [] (.refl _) rfl
    split
    · exact .moved [] (.refl _) rfl
    split
    · refine .added ?_ rfl
      change ((recordings.outbox ++ [recordings.captured]) ++ recordings.drained ++
        recordings.orphaned ++ recordings.accepted).Perm _
      simp only [append_assoc, singleton_append, places, pending]
      exact perm_middle
    · refine .added ?_ rfl
      change (recordings.pending ++ (recordings.orphaned ++ [recordings.captured]) ++
        recordings.accepted).Perm _
      rw [← append_assoc, append_assoc, singleton_append, places]
      exact perm_middle

/-- A report takes the first recording that was drained; only if it is accepted is that kept. -/
theorem reportResult_moves (accepted : Bool) :
    Moves recordings (recordings.reportResult accepted) := by
  cases some' : recordings.drained with
  | nil =>
    refine .moved [] (.of_eq ?_) rfl
    cases accepted <;> simp [reportResult, places, pending, outbox, some']
  | cons number drained =>
    have before : recordings.places.Perm
        (number :: (recordings.outbox ++ drained ++ recordings.orphaned ++ recordings.accepted)) := by
      simp only [places, pending, some', append_assoc, cons_append]
      exact perm_middle
    cases accepted with
    | true =>
      refine .moved [] (.trans ?_ before.symm) rfl
      change (recordings.outbox ++ recordings.drained.tail ++ recordings.orphaned ++
        (recordings.accepted ++ recordings.drained.head?.toList)).Perm _
      rw [some', ← append_assoc]
      exact perm_append_comm
    | false =>
      refine .moved [number] (.trans (.of_eq ?_) before.symm) rfl
      change number :: (recordings.outbox ++ recordings.drained.tail ++ recordings.orphaned ++
        (recordings.accepted ++ [])) = _
      rw [some', append_nil]
      rfl

/-- A session that is started has nothing to drain. -/
theorem outbox_start : (recordings.step .start).outbox = recordings.outbox := by
  unfold outbox step
  cases recordings.session <;> rfl

/-- What one step does to the places. -/
theorem step_moves (event : ReportEvent) : Moves recordings (recordings.step event) := by
  have stays {after : Recordings} (same : after.places = recordings.places)
      (captured : after.captured = recordings.captured) : Moves recordings after :=
    .moved [] (.of_eq same) captured
  cases event with
  | pollFailed => exact stays rfl rfl
  | start =>
    refine stays ?_ rfl
    rw [places, pending, outbox_start]
    rfl
  | stop =>
    refine .moved [] ?_ rfl
    change (recordings.drained ++ (recordings.orphaned ++ recordings.outbox) ++
      recordings.accepted).Perm _
    rw [← append_assoc, places, pending, append_assoc recordings.outbox]
    exact perm_append_comm.append_right _
  | begin => exact runVm_moves none
  | register held encoded => exact runVm_moves (some (held, encoded))
  | drain =>
    simp only [step]
    split
    · rename_i none
      refine stays ?_ rfl
      simp only [places, pending, none, append_nil, outbox]
      cases recordings.session <;> rfl
    · exact stays rfl rfl
  | report accepted => exact reportResult_moves accepted

/-- Every step leaves each recording in one place. -/
theorem Single.step (single : recordings.Single) (event : ReportEvent) :
    (recordings.step event).Single := by
  obtain ⟨nodup, small⟩ := single
  cases step_moves event with
  | moved lost same captured =>
    refine ⟨(nodup_append.mp (same.nodup_iff.mpr nodup)).2.1, fun number member => ?_⟩
    rw [captured]
    exact small number (same.subset (mem_append_right _ member))
  | added same captured =>
    refine ⟨same.nodup_iff.mpr (nodup_cons.mpr ⟨fun member => ?_, nodup⟩), fun number member => ?_⟩
    · exact Nat.lt_irrefl _ (small _ member)
    · rw [captured]
      rcases mem_cons.mp (same.subset member) with rfl | member
      · exact Nat.lt_succ_self _
      · exact Nat.lt_succ_of_lt (small number member)

/-- Where each recording is in one place, none is lost exactly when as many are pending or accepted
as were captured. -/
theorem kept_iff (single : recordings.Single) : recordings.Kept ↔
    recordings.outbox.length + recordings.drained.length + recordings.accepted.length =
      recordings.captured := by
  obtain ⟨nodup, small⟩ := single
  have live : (recordings.pending ++ recordings.accepted).Sublist recordings.places :=
    (sublist_append_left _ _).append_right _
  have within : recordings.pending ++ recordings.accepted ⊆ range recordings.captured :=
    fun number member => mem_range.mpr (small number (live.subset member))
  have fits := subperm_of_subset (nodup.sublist live) within
  have lengths : (recordings.pending ++ recordings.accepted).length =
      recordings.outbox.length + recordings.drained.length + recordings.accepted.length := by
    rw [length_append, pending, length_append]
  rw [← lengths]
  constructor
  · rintro ⟨all, -⟩
    have covers : range recordings.captured ⊆ recordings.pending ++ recordings.accepted :=
      fun number member => mem_append.mpr (all number (mem_range.mp member))
    have least := (subperm_of_subset nodup_range covers).length_le
    have most := fits.length_le
    rw [length_range] at least most
    omega
  · intro whole
    have same := fits.perm_of_length_le (by rw [length_range, whole])
    exact ⟨fun number less => mem_append.mp (same.symm.subset (mem_range.mpr less)),
      (nodup_append.mp nodup).2.1⟩

/-- A step keeps all recordings exactly when it is clear. -/
theorem kept_step (single : recordings.Single) (kept : recordings.Kept) (event : ReportEvent) :
    (recordings.step event).Kept ↔ recordings.Clear event := by
  rw [kept_iff (single.step event)]
  rw [kept_iff single] at kept
  cases event with
  | pollFailed | begin => exact iff_of_true kept trivial
  | start =>
    rw [outbox_start]
    exact iff_of_true kept trivial
  | stop =>
    change 0 + recordings.drained.length + recordings.accepted.length = recordings.captured ↔
      recordings.outbox = []
    rw [← length_eq_zero_iff]
    omega
  | register held encoded =>
    simp only [step, runVmWithOptionalDebugger, Clear]
    split
    · rename_i other
      exact iff_of_true kept fun runs => absurd runs other
    split
    · rename_i failed
      exact iff_of_true kept fun _ taken => by simp [taken] at failed
    rename_i runs taken
    have needed : (held ∈ recordings.slices → encoded = true →
        recordings.session.map Prod.fst = some held) ↔
          recordings.session.map Prod.fst = some held := by
      rw [forall_prop_of_true (not_not.mp runs), forall_prop_of_true (by simpa using taken)]
    rw [needed]
    split
    · rename_i current
      refine iff_of_true ?_ current
      change (recordings.outbox ++ [recordings.captured]).length + recordings.drained.length +
        recordings.accepted.length = recordings.captured + 1
      rw [length_append, length_singleton]
      omega
    · rename_i other
      refine iff_of_false ?_ other
      change recordings.outbox.length + recordings.drained.length + recordings.accepted.length ≠
        recordings.captured + 1
      omega
  | drain =>
    refine iff_of_true ?_ trivial
    simp only [step]
    split
    · rename_i none
      rw [none] at kept
      rw [← kept, Nat.add_right_cancel_iff, Nat.add_comm]
      unfold outbox
      cases recordings.session <;> rfl
    · exact kept
  | report accepted =>
    change recordings.outbox.length + recordings.drained.tail.length + (recordings.accepted ++
      if accepted then recordings.drained.head?.toList else []).length = recordings.captured ↔
        (recordings.drained ≠ [] → accepted)
    cases some' : recordings.drained with
    | nil => cases accepted <;> simp_all
    | cons number drained =>
      rw [some', length_cons] at kept
      cases accepted with
      | true =>
        refine iff_of_true ?_ fun _ => rfl
        simp only [tail_cons, ↓reduceIte, head?_cons, Option.toList_some, length_append,
          length_singleton]
        omega
      | false =>
        refine iff_of_false ?_ fun clear => by simpa using clear (cons_ne_nil _ _)
        simp only [tail_cons, Bool.false_eq_true, ↓reduceIte, append_nil]
        omega

/-- Along every run no recording is lost and none is accepted twice exactly when every report is
accepted, no session is stopped that has recordings, and none is registered with a session that was
stopped. -/
theorem recordings_kept_iff (events : List ReportEvent) :
    Always step Kept ⟨0, none, [], [], [], [], 0⟩ events ↔
      AllClear step Clear ⟨0, none, [], [], [], [], 0⟩ events :=
  always_iff (fun _ event single => single.step event)
    (fun _ event single kept => kept_step single kept event)
    ⟨nodup_nil, fun _ member => absurd member not_mem_nil⟩
    ⟨fun _ less => absurd less (Nat.not_lt_zero _), nodup_nil⟩

/-- Whatever is rejected, stopped or fails, no recording is in two places or accepted twice. -/
theorem recordings_single (events : List ReportEvent) :
    Always step Single ⟨0, none, [], [], [], [], 0⟩ events :=
  .of_step (fun _ event single => single.step event)
    ⟨nodup_nil, fun _ member => absurd member not_mem_nil⟩

/-- A report that is not accepted. -/
theorem rejected_recording_lost :
    ¬ ∀ events, Always step Kept ⟨0, none, [], [], [], [], 0⟩ events := by
  intro kept
  have lost := (kept [.start, .begin, .register 0 true, .drain, .report false]).2.2.2.2.2.1 0
    Nat.one_pos
  exact absurd lost (by decide)

end Recordings

/-! ## The quota of a recording session -/

/-- The largest `u32`. -/
def maxCount : Nat := 4294967295

/-- The numbers of recordings that a session can be started with. -/
abbrev RecordCount := { count : Nat // 0 < count ∧ count ≤ maxCount }

/-- `RecordingRuntime`, with the requests that run under a recording debugger, and with the
recordings by their requests and sequence numbers. -/
structure RecordingRuntime where
  targetCount : Nat
  capturedCount : Nat
  nextSequence : Nat
  completed : Bool
  running : List Nat
  recordings : List (Nat × Nat)

/-- A slice of a request that matches looks whether the session is complete, runs, and registers
the recording, whose encoding may fail. -/
inductive SliceEvent where
  | check (request : Nat)
  | register (request : Nat) (encoded : Bool)

namespace RecordingRuntime

/-- The runtime of a session that has just been started. -/
def new (target : RecordCount) : RecordingRuntime := ⟨target, 0, 1, false, [], []⟩

variable (runtime : RecordingRuntime)

/-- `run_vm_with_optional_debugger` for a request that matches, up to the run of the program or
behind it. -/
def runVmWithOptionalDebugger (request : Nat) : Option Bool → RecordingRuntime
  | none =>
    if runtime.completed then runtime
    else { runtime with running := request :: runtime.running }
  | some encoded =>
    if request ∈ runtime.running then
      let captured := min (runtime.capturedCount + 1) maxCount
      { runtime with
        capturedCount := captured
        nextSequence := min (runtime.nextSequence + 1) maxCount
        completed := runtime.completed || decide (runtime.targetCount ≤ captured)
        running := runtime.running.erase request
        recordings := runtime.recordings ++
          if encoded then [(request, runtime.nextSequence)] else [] }
    else runtime

def step : SliceEvent → RecordingRuntime
  | .check request => runtime.runVmWithOptionalDebugger request none
  | .register request encoded => runtime.runVmWithOptionalDebugger request (some encoded)

/-- The requests that have a recording. -/
def recorded : List Nat := runtime.recordings.map Prod.fst

/-- The quota is kept, every request has one recording at most, the recordings are numbered from
one on, and the session is complete when it has all. -/
structure Within : Prop where
  quota : runtime.capturedCount ≤ runtime.targetCount
  once : runtime.recorded.Nodup
  numbered : runtime.recordings.map Prod.snd = range' 1 runtime.recordings.length
  complete : runtime.completed = true ↔ runtime.capturedCount = runtime.targetCount

/-- A recording is registered while one is missing, unless the counters are exhausted; and if it
can be encoded, then for a request without, behind recordings that could all be encoded. -/
def Clear : SliceEvent → Prop
  | .check _ => True
  | .register request encoded => request ∈ runtime.running →
    (runtime.capturedCount < runtime.targetCount ∨ runtime.capturedCount = maxCount) ∧
      (encoded → request ∉ runtime.recorded ∧
        runtime.nextSequence = runtime.recordings.length + 1)

/-- A slice begins only for a request without another, while there are fewer recordings and
running slices than the target, and every recording can be encoded. -/
def Sparing : SliceEvent → Prop
  | .check request => runtime.completed = false →
    runtime.capturedCount + runtime.running.length < runtime.targetCount ∧
      request ∉ runtime.running ++ runtime.recorded
  | .register request encoded => request ∈ runtime.running → encoded

variable {runtime}

/-- Another recording is the first of its request and numbered in turn. -/
theorem listed_iff {recordings : List (Nat × Nat)} {request sequence : Nat}
    (once : (recordings.map Prod.fst).Nodup)
    (numbered : recordings.map Prod.snd = range' 1 recordings.length) :
    ((recordings ++ [(request, sequence)]).map Prod.fst).Nodup ∧
      (recordings ++ [(request, sequence)]).map Prod.snd =
        range' 1 (recordings ++ [(request, sequence)]).length ↔
    request ∉ recordings.map Prod.fst ∧ sequence = recordings.length + 1 := by
  refine and_congr ?_ ?_
  · rw [map_append, map_singleton, ← concat_eq_append, nodup_concat]
    exact and_iff_left once
  · rw [map_append, map_singleton, numbered, length_append, length_singleton, range'_1_concat,
      append_cancel_left_eq, cons.injEq, Nat.add_comm]
    exact and_iff_left rfl

/-- A registration keeps the promise exactly when it is clear. -/
theorem within_step (small : runtime.targetCount ≤ maxCount) (within : runtime.Within)
    (event : SliceEvent) : (runtime.step event).Within ↔ runtime.Clear event := by
  obtain ⟨quota, once, numbered, complete⟩ := within
  cases event with
  | check request =>
    refine iff_of_true ?_ trivial
    simp only [step, runVmWithOptionalDebugger]
    split <;> exact ⟨quota, once, numbered, complete⟩
  | register request encoded =>
    simp only [step, runVmWithOptionalDebugger, Clear]
    split
    case isFalse other =>
      exact iff_of_true ⟨quota, once, numbered, complete⟩ fun runs => absurd runs other
    rename_i runs
    rw [forall_prop_of_true runs]
    -- the count stays within the target, and completes the session when it comes to it
    have counted : min (runtime.capturedCount + 1) maxCount ≤ runtime.targetCount ↔
        runtime.capturedCount < runtime.targetCount ∨ runtime.capturedCount = maxCount := by
      omega
    constructor
    · rintro ⟨quota', once', numbered', -⟩
      refine ⟨counted.mp quota', fun taken => ?_⟩
      rw [taken] at once' numbered'
      exact (listed_iff once numbered).mp ⟨once', numbered'⟩
    · rintro ⟨room, listed⟩
      have complete' : (runtime.completed || decide (runtime.targetCount ≤
          min (runtime.capturedCount + 1) maxCount)) = true ↔
          min (runtime.capturedCount + 1) maxCount = runtime.targetCount := by
        rw [Bool.or_eq_true, complete, decide_eq_true_eq]
        omega
      cases encoded with
      | false =>
        rw [if_neg Bool.false_ne_true, append_nil]
        exact ⟨counted.mpr room, once, numbered, complete'⟩
      | true =>
        obtain ⟨once', numbered'⟩ := (listed_iff once numbered).mpr (listed rfl)
        exact ⟨counted.mpr room, once', numbered', complete'⟩

/-- What holds along slices that are sparing: they all have room and requests of their own. -/
structure Spared (runtime : RecordingRuntime) : Prop where
  small : runtime.targetCount ≤ maxCount
  room : runtime.capturedCount + runtime.running.length ≤ runtime.targetCount
  apart : (runtime.running ++ runtime.recorded).Nodup
  counted : runtime.recordings.length = runtime.capturedCount
  next : runtime.nextSequence = min (runtime.capturedCount + 1) maxCount

/-- A sparing step is clear, and leaves room for the slices that run. -/
theorem Spared.step (spared : runtime.Spared) {event : SliceEvent}
    (sparing : runtime.Sparing event) : (runtime.step event).Spared ∧ runtime.Clear event := by
  obtain ⟨small, room, apart, counted, next⟩ := spared
  cases event with
  | check request =>
    refine ⟨?_, trivial⟩
    simp only [RecordingRuntime.step, runVmWithOptionalDebugger]
    split
    · exact ⟨small, room, apart, counted, next⟩
    · rename_i incomplete
      obtain ⟨free, new⟩ := sparing (by simpa using incomplete)
      exact ⟨small, by simpa [Nat.add_assoc] using Nat.succ_le_of_lt free,
        nodup_cons.mpr ⟨new, apart⟩, counted, next⟩
  | register request encoded =>
    simp only [RecordingRuntime.step, runVmWithOptionalDebugger, Clear]
    split
    case isFalse other =>
      exact ⟨⟨small, room, apart, counted, next⟩, fun runs => absurd runs other⟩
    rename_i runs
    obtain rfl : encoded = true := sparing runs
    have some' : runtime.running.length = (runtime.running.erase request).length + 1 := by
      rw [length_erase_of_mem runs, Nat.sub_add_cancel (length_pos_of_mem runs)]
    have missing : runtime.capturedCount < runtime.targetCount := by omega
    have count : min (runtime.capturedCount + 1) maxCount = runtime.capturedCount + 1 := by omega
    obtain ⟨running, -, disjoint⟩ := nodup_append.mp apart
    refine ⟨⟨small, ?_, ?_, ?_, ?_⟩, fun _ => ⟨Or.inl missing, fun _ => ⟨fun member => ?_, ?_⟩⟩⟩
    · change min (runtime.capturedCount + 1) maxCount + (runtime.running.erase request).length ≤
        runtime.targetCount
      omega
    · -- the request leaves those that run for those that are recorded
      have moved : (runtime.running ++ runtime.recorded).Perm
          (runtime.running.erase request ++ (runtime.recorded ++ [request])) := by
        refine ((perm_cons_erase runs).append_right _).trans ?_
        rw [← append_assoc, cons_append]
        exact (perm_append_singleton _ _).symm
      simpa [recorded] using moved.nodup_iff.mp apart
    · simp [counted, count]
    · change min (runtime.nextSequence + 1) maxCount =
        min (min (runtime.capturedCount + 1) maxCount + 1) maxCount
      omega
    · exact disjoint request runs request member rfl
    · omega

/-- Along every run the quota is kept exactly when each recording is registered while one is
missing, and those that are encoded for requests without and in turn. It is kept where slices only
begin while one is missing, for requests without, and every recording can be encoded. -/
theorem quota_kept_iff (target : RecordCount) (events : List SliceEvent) :
    (Always step Within (new target) events ↔ AllClear step Clear (new target) events) ∧
      (AllClear step Sparing (new target) events → Always step Within (new target) events) := by
  have kept : Always step Within (new target) events ↔ AllClear step Clear (new target) events := by
    refine always_iff (fun runtime event (small : runtime.targetCount ≤ maxCount) => ?_)
      (fun _ event small within => within_step small within event) target.2.2
      ⟨Nat.zero_le _, nodup_nil, rfl, ?_⟩
    · cases event <;> simp only [step, runVmWithOptionalDebugger] <;> split <;> exact small
    · simpa [new] using target.2.1.ne
  have start : (new target).Spared := ⟨target.2.2, Nat.zero_le _, nodup_nil, rfl, rfl⟩
  exact ⟨kept, fun sparing => kept.mpr
    (sparing.imp_of_step (fun _ _ spared sparing => spared.step sparing) start)⟩

/-- A request that runs in two slices. -/
theorem request_recorded_twice : ¬ ∀ target events, Always step Within (new target) events := by
  intro within
  have twice := (within ⟨2, by decide⟩
    [.check 0, .register 0 true, .check 0, .register 0 true]).2.2.2.2.once
  exact absurd twice (by decide)

end RecordingRuntime

end PdEdge.Debug

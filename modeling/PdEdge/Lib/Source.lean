import PdEdge.Lib.Wire

/-!
# Sources of bytes

A source is pulled for one piece after the other until it reports its end, where it stays.
Each piece leaves less to pull, so the pieces come to an end, to a pull that fails or to one
that is dropped.

What a source gives before its first other outcome is `Gives`; the state reached, the bytes
and the outcome are determined by the state it starts in. A source that can be pulled on to
its end after a pull that failed `Masks` the failure.
-/

namespace Sources

open Wire

/-- What a pull that succeeds gives. -/
inductive Pull where
  /-- Bytes, perhaps none. -/
  | chunk (bytes : List UInt8)
  /-- Nothing that counts. -/
  | skip
  /-- The end. -/
  | eof
  deriving DecidableEq

/-- A source of bytes with states `σ` and errors `ε`. -/
structure Source (σ ε : Type) where
  /-- Pull once. -/
  pull : σ → Awaited ε Pull × σ
  /-- What is left to pull. -/
  measure : σ → Nat
  /-- A piece leaves less. -/
  lowers : ∀ state piece, (pull state).1 = .ready piece → piece ≠ .eof →
    measure (pull state).2 < measure state
  /-- Behind the end is the end. -/
  fused : ∀ state, (pull state).1 = .ready .eof →
    pull (pull state).2 = (.ready .eof, (pull state).2)

variable {σ ε : Type} {source : Source σ ε} {state next last final : σ} {data more : List UInt8}

/-- Pulls that succeed lead from a state to another and give these bytes. -/
inductive Gives (source : Source σ ε) : σ → List UInt8 → σ → Prop
  | refl (state : σ) : Gives source state [] state
  | chunk {state next last : σ} {bytes data : List UInt8}
    (pulled : source.pull state = (.ready (.chunk bytes), next))
    (rest : Gives source next data last) : Gives source state (bytes ++ data) last
  | skip {state next last : σ} {data : List UInt8}
    (pulled : source.pull state = (.ready .skip, next)) (rest : Gives source next data last) :
    Gives source state data last

/-- The source gives these bytes and then its end. -/
def Ends (source : Source σ ε) (state : σ) (data : List UInt8) (final : σ) : Prop :=
  ∃ last, Gives source state data last ∧ source.pull last = (.ready .eof, final)

/-- The source gives these bytes and then fails. -/
def Breaks (source : Source σ ε) (state : σ) (data : List UInt8) (err : ε) (final : σ) : Prop :=
  ∃ last, Gives source state data last ∧ source.pull last = (.failed err, final)

/-- The source gives these bytes and is then dropped. -/
def Hangs (source : Source σ ε) (state : σ) (data : List UInt8) (final : σ) : Prop :=
  ∃ last, Gives source state data last ∧ source.pull last = (.dropped, final)

theorem Gives.trans (first : Gives source state data next) (second : Gives source next more last) :
    Gives source state (data ++ more) last := by
  induction first with
  | refl => exact second
  | chunk pulled rest ih =>
    rw [List.append_assoc]
    exact .chunk pulled (ih second)
  | skip pulled rest ih => exact .skip pulled (ih second)

/-- The law of the measure for a pull by its result. -/
theorem Source.lower {piece : Pull} (pulled : source.pull state = (.ready piece, next))
    (other : piece ≠ .eof) : source.measure next < source.measure state := by
  have lower := source.lowers state
  rw [pulled] at lower
  exact lower piece rfl other

theorem Gives.measure_le (gives : Gives source state data next) :
    source.measure next ≤ source.measure state := by
  induction gives with
  | refl => exact Nat.le_refl _
  | chunk pulled rest ih | skip pulled rest ih =>
    have less := Source.lower pulled (by simp)
    omega

/-- Bytes leave less to pull. -/
theorem Gives.measure_lt (gives : Gives source state data next) (nonempty : data ≠ []) :
    source.measure next < source.measure state := by
  cases gives with
  | refl => exact absurd rfl nonempty
  | chunk pulled rest | skip pulled rest =>
    have less := Source.lower pulled (by simp)
    have others := rest.measure_le
    omega

/-- What is pulled lies on the way to where the source gives no more. -/
theorem Gives.split (part : Gives source state data next) (whole : Gives source state more last)
    (stuck : ∀ pull after, source.pull last = (.ready pull, after) → pull = .eof) :
    ∃ rest, more = data ++ rest ∧ Gives source next rest last := by
  induction part generalizing more with
  | refl => exact ⟨more, rfl, whole⟩
  | chunk pulled rest ih =>
    cases whole with
    | refl => cases stuck _ _ pulled
    | chunk pulled' rest' =>
      cases pulled.symm.trans pulled'
      obtain ⟨rest, rfl, behind⟩ := ih rest'
      exact ⟨rest, by rw [List.append_assoc], behind⟩
    | skip pulled' rest' => cases pulled.symm.trans pulled'
  | skip pulled rest ih =>
    cases whole with
    | refl => cases stuck _ _ pulled
    | chunk pulled' rest' => cases pulled.symm.trans pulled'
    | skip pulled' rest' =>
      cases pulled.symm.trans pulled'
      exact ih rest'

/-- Behind a part of what a source gives comes the rest and the end. -/
theorem Ends.after (ends : Ends source state more final) (part : Gives source state data next) :
    ∃ rest, more = data ++ rest ∧ Ends source next rest final := by
  obtain ⟨last, whole, ended⟩ := ends
  obtain ⟨rest, split, behind⟩ := part.split whole fun pull after pulled => by
    cases ended.symm.trans pulled
    rfl
  exact ⟨rest, split, last, behind, ended⟩

variable {err : ε} {final' : σ} {result : Awaited ε Pull}

/-- A source that comes to its end does not fail before it. -/
theorem Ends.not_breaks (ends : Ends source state data final) :
    ¬ Breaks source state more err final' := by
  rintro ⟨last, part, broke⟩
  obtain ⟨rest, -, last', behind, ended⟩ := ends.after part
  cases behind with
  | refl => cases broke.symm.trans ended
  | chunk pulled | skip pulled => cases broke.symm.trans pulled

theorem Ends.not_hangs (ends : Ends source state data final) :
    ¬ Hangs source state more final' := by
  rintro ⟨last, part, hung⟩
  obtain ⟨rest, -, last', behind, ended⟩ := ends.after part
  cases behind with
  | refl => cases hung.symm.trans ended
  | chunk pulled | skip pulled => cases hung.symm.trans pulled

/-- At its end a source gives no more. -/
theorem Gives.of_stuck (gives : Gives source state data next)
    (stuck : source.pull state = (.ready .eof, state)) : data = [] ∧ next = state := by
  cases gives with
  | refl => exact ⟨rfl, rfl⟩
  | chunk pulled | skip pulled => cases stuck.symm.trans pulled

section

variable (ends : Ends source state data final)
include ends

/-- A source stays at its end. -/
theorem Ends.stuck : source.pull final = (.ready .eof, final) := by
  obtain ⟨last, -, ended⟩ := ends
  have fused := source.fused last (congrArg Prod.fst ended)
  rwa [ended] at fused

/-- What a source gives up to its end is determined. -/
theorem Ends.unique (other : Ends source state more final') : data = more ∧ final = final' := by
  obtain ⟨last, gives, ended⟩ := other
  obtain ⟨rest, rfl, last', behind, ended'⟩ := ends.after gives
  cases behind with
  | refl =>
    cases ended.symm.trans ended'
    exact ⟨List.append_nil more, rfl⟩
  | chunk pulled | skip pulled => cases ended.symm.trans pulled

/-- A source that a pull finds at its end. -/
theorem Ends.of_eof (pulled : source.pull state = (.ready .eof, next)) :
    data = [] ∧ final = next := by
  obtain ⟨last, gives, ended⟩ := ends
  cases gives with
  | refl =>
    cases ended.symm.trans pulled
    exact ⟨rfl, rfl⟩
  | chunk given | skip given => cases pulled.symm.trans given

theorem Ends.of_chunk {bytes : List UInt8}
    (pulled : source.pull state = (.ready (.chunk bytes), next)) :
    ∃ rest, data = bytes ++ rest ∧ Ends source next rest final := by
  obtain ⟨last, gives, ended⟩ := ends
  cases gives with
  | refl => cases ended.symm.trans pulled
  | chunk given rest =>
    cases pulled.symm.trans given
    exact ⟨_, rfl, last, rest, ended⟩
  | skip given => cases pulled.symm.trans given

theorem Ends.of_skip (pulled : source.pull state = (.ready .skip, next)) :
    Ends source next data final := by
  obtain ⟨last, gives, ended⟩ := ends
  cases gives with
  | refl => cases ended.symm.trans pulled
  | chunk given => cases pulled.symm.trans given
  | skip given rest =>
    cases pulled.symm.trans given
    exact ⟨last, rest, ended⟩

end

/-! ## Pulling on -/

/-- Pulled on, the source reports its end. -/
inductive Comes (source : Source σ ε) : σ → Prop
  | now {state : σ} (ended : (source.pull state).1 = .ready .eof) : Comes source state
  | later {state : σ} (comes : Comes source (source.pull state).2) : Comes source state

/-- Pulled on, the source fails and then still reports its end. -/
inductive Masks (source : Source σ ε) : σ → Prop
  | now {state : σ} {err : ε} (broke : (source.pull state).1 = .failed err)
    (comes : Comes source (source.pull state).2) : Masks source state
  | later {state : σ} (masks : Masks source (source.pull state).2) : Masks source state

theorem comes_pull (other : (source.pull state).1 ≠ .ready .eof) :
    Comes source state ↔ Comes source (source.pull state).2 := by
  constructor
  · intro comes
    cases comes with
    | now ended => exact absurd ended other
    | later comes => exact comes
  · exact .later

theorem masks_pull (fine : ∀ err, (source.pull state).1 ≠ .failed err) :
    Masks source state ↔ Masks source (source.pull state).2 := by
  constructor
  · intro masks
    cases masks with
    | now broke comes => exact absurd broke (fine _)
    | later masks => exact masks
  · exact .later

theorem masks_failed (broke : (source.pull state).1 = .failed err) :
    Masks source state ↔
      Comes source (source.pull state).2 ∨ Masks source (source.pull state).2 := by
  constructor
  · intro masks
    cases masks with
    | now broke comes => exact Or.inl comes
    | later masks => exact Or.inr masks
  · rintro (comes | masks)
    · exact .now broke comes
    · exact .later masks

/-- A state that every pull leaves as it is comes to no end if it is not there. -/
theorem not_comes_of_stuck (stuck : source.pull state = (result, state))
    (other : result ≠ .ready .eof) : ¬ Comes source state := by
  intro comes
  induction comes with
  | now ended =>
    rw [stuck] at ended
    exact other ended
  | later comes ih =>
    rw [stuck] at ih
    exact ih stuck

theorem not_masks_of_stuck (stuck : source.pull state = (result, state)) :
    ¬ Masks source state := by
  intro masks
  induction masks with
  | @now state err broke comes =>
    rw [stuck] at broke comes
    have other : result ≠ .ready .eof := by
      rw [show result = .failed err from broke]
      simp
    exact not_comes_of_stuck stuck other comes
  | later masks ih =>
    rw [stuck] at ih
    exact ih stuck

/-- At the end nothing fails. -/
theorem not_masks_of_eof (ended : (source.pull state).1 = .ready .eof) :
    ¬ Masks source state := by
  rw [masks_pull (by rw [ended]; simp)]
  exact not_masks_of_stuck (source.fused state ended)

theorem Comes.before (gives : Gives source state data next) (comes : Comes source next) :
    Comes source state := by
  induction gives with
  | refl => exact comes
  | chunk pulled rest ih | skip pulled rest ih =>
    apply Comes.later
    rw [pulled]
    exact ih comes

theorem Masks.before (gives : Gives source state data next) (masks : Masks source next) :
    Masks source state := by
  induction gives with
  | refl => exact masks
  | chunk pulled rest ih | skip pulled rest ih =>
    apply Masks.later
    rw [pulled]
    exact ih masks

theorem Ends.comes (ends : Ends source state data final) : Comes source state := by
  obtain ⟨last, gives, ended⟩ := ends
  exact .before gives (.now (by rw [ended]))

theorem Breaks.comes (breaks : Breaks source state data err final) (comes : Comes source final) :
    Comes source state := by
  obtain ⟨last, gives, broke⟩ := breaks
  refine .before gives (.later ?_)
  rw [broke]
  exact comes

theorem Hangs.comes (hangs : Hangs source state data final) (comes : Comes source final) :
    Comes source state := by
  obtain ⟨last, gives, hung⟩ := hangs
  refine .before gives (.later ?_)
  rw [hung]
  exact comes

theorem Hangs.masks (hangs : Hangs source state data final) (masks : Masks source final) :
    Masks source state := by
  obtain ⟨last, gives, hung⟩ := hangs
  refine .before gives (.later ?_)
  rw [hung]
  exact masks

/-- An end behind a failure masks it. -/
theorem Breaks.masks (breaks : Breaks source state data err final) (comes : Comes source final) :
    Masks source state := by
  obtain ⟨last, gives, broke⟩ := breaks
  refine .before gives (.now (congrArg Prod.fst broke) ?_)
  rw [broke]
  exact comes

/-! ## All that a source holds -/

/-- The bytes up to the end of the source; a pull that is dropped takes nothing away, and none
fails. -/
inductive Entire (source : Source σ ε) : σ → List UInt8 → Prop
  | eof {state : σ} (ended : (source.pull state).1 = .ready .eof) : Entire source state []
  | chunk {state next : σ} {bytes data : List UInt8}
    (pulled : source.pull state = (.ready (.chunk bytes), next)) (rest : Entire source next data) :
    Entire source state (bytes ++ data)
  | skip {state next : σ} {data : List UInt8}
    (pulled : source.pull state = (.ready .skip, next)) (rest : Entire source next data) :
    Entire source state data
  | dropped {state next : σ} {data : List UInt8}
    (pulled : source.pull state = (.dropped, next)) (rest : Entire source next data) :
    Entire source state data

section

variable {bytes : List UInt8} (entire : Entire source state data)
include entire

theorem Entire.of_chunk (pulled : source.pull state = (.ready (.chunk bytes), next)) :
    ∃ rest, Entire source next rest ∧ data = bytes ++ rest := by
  cases entire with
  | eof ended =>
    rw [pulled] at ended
    cases ended
  | chunk given rest =>
    cases pulled.symm.trans given
    exact ⟨_, rest, rfl⟩
  | skip given rest | dropped given rest => cases pulled.symm.trans given

theorem Entire.of_skip (pulled : source.pull state = (.ready .skip, next)) :
    Entire source next data := by
  cases entire with
  | eof ended =>
    rw [pulled] at ended
    cases ended
  | chunk given rest | dropped given rest => cases pulled.symm.trans given
  | skip given rest =>
    cases pulled.symm.trans given
    exact rest

theorem Entire.of_dropped (pulled : source.pull state = (.dropped, next)) :
    Entire source next data := by
  cases entire with
  | eof ended =>
    rw [pulled] at ended
    cases ended
  | chunk given rest | skip given rest => cases pulled.symm.trans given
  | dropped given rest =>
    cases pulled.symm.trans given
    exact rest

theorem Entire.of_eof (ended : (source.pull state).1 = .ready .eof) : data = [] := by
  cases entire with
  | eof _ => rfl
  | chunk given rest | skip given rest | dropped given rest =>
    rw [given] at ended
    cases ended

theorem Entire.not_failed {err : ε} : (source.pull state).1 ≠ .failed err := by
  intro failed
  cases entire with
  | eof ended => cases ended.symm.trans failed
  | chunk given rest | skip given rest | dropped given rest =>
    rw [given] at failed
    cases failed

end

section

variable (entire : Entire source state more)
include entire

/-- What was given belongs in front of what is left. -/
theorem Entire.after (gives : Gives source state data next) :
    ∃ rest, Entire source next rest ∧ more = data ++ rest := by
  induction gives generalizing more with
  | refl => exact ⟨more, entire, rfl⟩
  | chunk pulled given ih =>
    obtain ⟨behind, rest, rfl⟩ := entire.of_chunk pulled
    obtain ⟨left, kept, rfl⟩ := ih rest
    exact ⟨left, kept, (List.append_assoc _ _ _).symm⟩
  | skip pulled given ih => exact ih (entire.of_skip pulled)

/-- Pulled to its end, the source has given all it holds. -/
theorem Entire.ends (ends : Ends source state data final) :
    Entire source final [] ∧ more = data := by
  obtain ⟨last, gives, ended⟩ := ends
  obtain ⟨rest, left, same⟩ := entire.after gives
  have now : (source.pull last).1 = .ready .eof := by rw [ended]
  have stays := source.fused last now
  rw [ended] at stays
  refine ⟨.eof (by rw [stays]), ?_⟩
  rw [same, left.of_eof now, List.append_nil]

theorem Entire.hangs (hangs : Hangs source state data final) :
    ∃ rest, Entire source final rest ∧ more = data ++ rest := by
  obtain ⟨last, gives, hung⟩ := hangs
  obtain ⟨rest, left, same⟩ := entire.after gives
  exact ⟨rest, left.of_dropped hung, same⟩

theorem Entire.not_breaks : ¬ Breaks source state data err final := by
  rintro ⟨last, gives, broke⟩
  obtain ⟨rest, left, -⟩ := entire.after gives
  exact left.not_failed (congrArg Prod.fst broke)

end

theorem Entire.unique (entire : Entire source state data) (other : Entire source state more) :
    data = more := by
  induction entire generalizing more with
  | eof ended => exact (other.of_eof ended).symm
  | chunk pulled rest ih =>
    obtain ⟨behind, left, rfl⟩ := other.of_chunk pulled
    rw [ih left]
  | skip pulled rest ih => exact ih (other.of_skip pulled)
  | dropped pulled rest ih => exact ih (other.of_dropped pulled)

end Sources

import PdEdge.Lib.Wire

/-!
# Computations that keep a journal

An asynchronous computation may return, fail or be dropped; whatever becomes of it, what it
did before stays done. A `Journaled` computation lists what it did. The rules below are about
computations of which at most one entry has a property, and none if they fail: such a
computation can be tried again.
-/

namespace Journal

open Wire

/-- The outcome of a computation and what it did. -/
structure Journaled (ω ε α : Type) where
  result : Awaited ε α
  journal : List ω

variable {ω ε α β : Type}

namespace Journaled

/-- It fails at once. -/
def fail (err : ε) : Journaled ω ε α := ⟨.failed err, []⟩

/-- It does nothing that is written down. -/
def await (result : Awaited ε α) : Journaled ω ε α := ⟨result, []⟩

def ofExcept : Except ε α → Journaled ω ε α
  | .ok value => ⟨.ready value, []⟩
  | .error err => fail err

instance : Monad (Journaled ω ε) where
  pure value := ⟨.ready value, []⟩
  bind first next :=
    match first with
    | ⟨.ready value, journal⟩ => ⟨(next value).result, journal ++ (next value).journal⟩
    | ⟨.failed err, journal⟩ => ⟨.failed err, journal⟩
    | ⟨.dropped, journal⟩ => ⟨.dropped, journal⟩

/-- The error of a failed computation in another form. -/
def mapError {δ : Type} (form : ε → δ) (first : Journaled ω ε α) : Journaled ω δ α :=
  match first with
  | ⟨.ready value, journal⟩ => ⟨.ready value, journal⟩
  | ⟨.failed err, journal⟩ => ⟨.failed (form err), journal⟩
  | ⟨.dropped, journal⟩ => ⟨.dropped, journal⟩

/-- Another computation in the place of one that has failed. -/
def orElse (first second : Journaled ω ε α) : Journaled ω ε α :=
  match first with
  | ⟨.failed _, journal⟩ => ⟨second.result, journal ++ second.journal⟩
  | other => other

end Journaled

/-- Both computations return where one after the other does. -/
theorem bind_ready {first : Journaled ω ε α} {next : α → Journaled ω ε β} {value : β}
    (ready : (first >>= next).result = .ready value) :
    ∃ middle, first.result = .ready middle ∧ (next middle).result = .ready value ∧
      (first >>= next).journal = first.journal ++ (next middle).journal := by
  obtain ⟨result, journal⟩ := first
  cases result with
  | ready middle => exact ⟨middle, rfl, ready, rfl⟩
  | failed err | dropped => cases ready

/-! ## At most one entry -/

section

variable {P : ω → Prop} {journal first second : List ω}

/-- No entry has the property. -/
def NoneOf (P : ω → Prop) (journal : List ω) : Prop := ∀ entry ∈ journal, ¬ P entry

/-- No two entries have the property. -/
def AtMostOne (P : ω → Prop) (journal : List ω) : Prop :=
  journal.Pairwise fun entry other => ¬ (P entry ∧ P other)

theorem NoneOf.append (before : NoneOf P first) (behind : NoneOf P second) :
    NoneOf P (first ++ second) :=
  fun entry member => (List.mem_append.mp member).elim (before entry) (behind entry)

theorem NoneOf.atMostOne (clear : NoneOf P journal) : AtMostOne P journal :=
  List.Pairwise.imp_of_mem (fun member _ _ both => clear _ member both.1)
    (List.pairwise_of_forall fun _ _ => trivial)

theorem AtMostOne.append (before : NoneOf P first) (behind : AtMostOne P second) :
    AtMostOne P (first ++ second) :=
  List.pairwise_append.mpr ⟨before.atMostOne, behind, fun entry member _ _ both =>
    before entry member both.1⟩

theorem AtMostOne.singleton (entry : ω) : AtMostOne P [entry] := List.pairwise_singleton _ _

end

/-! ## Computations that can be tried again -/

/-- At most one entry has the property, and none where the computation fails. -/
structure Journaled.Once (P : ω → Prop) (computation : Journaled ω ε α) : Prop where
  once : AtMostOne P computation.journal
  failed : ∀ err, computation.result = .failed err → NoneOf P computation.journal

namespace Journaled

variable {P : ω → Prop} {first second : Journaled ω ε α} {next : α → Journaled ω ε β}

theorem Once.of_none (clear : NoneOf P first.journal) : first.Once P :=
  ⟨clear.atMostOne, fun _ _ => clear⟩

theorem Once.pure (value : α) : (Pure.pure value : Journaled ω ε α).Once P :=
  .of_none fun _ member => absurd member List.not_mem_nil

theorem Once.fail (err : ε) : (Journaled.fail err : Journaled ω ε α).Once P :=
  .of_none fun _ member => absurd member List.not_mem_nil

/-- What follows a computation returns at once, or follows one that did nothing of the kind. -/
theorem Once.bind (once : first.Once P) (then_ : ∀ value, first.result = .ready value →
      (∃ settled, next value = Pure.pure settled) ∨
        NoneOf P first.journal ∧ (next value).Once P) : (first >>= next).Once P := by
  obtain ⟨result, journal⟩ := first
  cases result with
  | ready value =>
    have journaled : ((⟨.ready value, journal⟩ : Journaled ω ε α) >>= next) =
        ⟨(next value).result, journal ++ (next value).journal⟩ := rfl
    rw [journaled]
    rcases then_ value rfl with ⟨settled, same⟩ | ⟨clear, again⟩
    · rw [same]
      have nothing : journal ++ (Pure.pure settled : Journaled ω ε β).journal = journal :=
        List.append_nil journal
      rw [nothing]
      exact ⟨once.once, fun _ failed => by cases failed⟩
    · exact ⟨.append clear again.once, fun err failed => .append clear (again.failed err failed)⟩
  | failed err => exact ⟨once.once, fun _ _ => once.failed err rfl⟩
  | dropped => exact ⟨once.once, fun _ failed => by cases failed⟩

theorem Once.after (clear : NoneOf P first.journal) (then_ : ∀ value, (next value).Once P) :
    (first >>= next).Once P :=
  (Once.of_none clear).bind fun value _ => Or.inr ⟨clear, then_ value⟩

theorem Once.settle (once : first.Once P)
    (settles : ∀ value, ∃ settled, next value = Pure.pure settled) : (first >>= next).Once P :=
  once.bind fun value _ => Or.inl (settles value)

/-- Behind something that is awaited and does nothing of its own. -/
theorem Once.await {awaited : Awaited ε α} (then_ : ∀ value, (next value).Once P) :
    (Journaled.await awaited >>= next).Once P :=
  .after (fun _ member => absurd member List.not_mem_nil) then_

theorem Once.ofExcept {checked : Except ε α} (then_ : ∀ value, (next value).Once P) :
    (Journaled.ofExcept checked >>= next).Once P := by
  cases checked with
  | ok value => exact .after (fun _ member => absurd member List.not_mem_nil) then_
  | error err => exact .fail err

theorem Once.map {form : α → β} (once : first.Once P) : (form <$> first).Once P :=
  once.settle fun value => ⟨form value, rfl⟩

theorem Once.mapError {δ : Type} {form : ε → δ} (once : first.Once P) :
    (first.mapError form).Once P := by
  obtain ⟨result, journal⟩ := first
  cases result with
  | ready value | dropped => exact ⟨once.once, fun _ failed => by cases failed⟩
  | failed err => exact ⟨once.once, fun _ _ => once.failed err rfl⟩

/-- A second computation in the place of a failed one. -/
theorem Once.orElse (once : first.Once P) (again : second.Once P) :
    (first.orElse second).Once P := by
  obtain ⟨result, journal⟩ := first
  cases result with
  | ready value | dropped => exact once
  | failed err =>
    have clear := once.failed err rfl
    exact ⟨.append clear again.once, fun err failed => .append clear (again.failed err failed)⟩

/-! ## Computations that may decline -/

/-- So of a computation that may return nothing: then it has done nothing of the kind. -/
structure Offers (P : ω → Prop) (computation : Journaled ω ε (Option α)) : Prop
    extends Once P computation where
  declined : computation.result = .ready none → NoneOf P computation.journal

variable {offer : Journaled ω ε (Option α)}

theorem Offers.of_none (clear : NoneOf P offer.journal) : offer.Offers P :=
  ⟨.of_none clear, fun _ => clear⟩

theorem Offers.decline : (Pure.pure none : Journaled ω ε (Option α)).Offers P :=
  .of_none fun _ member => absurd member List.not_mem_nil

theorem Offers.fail (err : ε) : (Journaled.fail err : Journaled ω ε (Option α)).Offers P :=
  .of_none fun _ member => absurd member List.not_mem_nil

theorem Offers.some (once : first.Once P) : (Option.some <$> first).Offers P := by
  refine ⟨once.map, ?_⟩
  intro declined
  obtain ⟨value, -, same, -⟩ := bind_ready declined
  cases same

theorem Offers.after {offer : α → Journaled ω ε (Option β)} (clear : NoneOf P first.journal)
    (then_ : ∀ value, (offer value).Offers P) : (first >>= offer).Offers P := by
  refine ⟨.after clear fun value => (then_ value).toOnce, ?_⟩
  intro declined
  obtain ⟨value, -, rest, journal⟩ := bind_ready declined
  rw [journal]
  exact clear.append ((then_ value).declined rest)

/-- Where the offer is declined, something else is done. -/
theorem Offers.bind {next : Option α → Journaled ω ε β} (offers : offer.Offers P)
    (settles : ∀ value, ∃ settled, next (Option.some value) = Pure.pure settled)
    (otherwise : (next none).Once P) : (offer >>= next).Once P := by
  apply offers.toOnce.bind
  intro value found
  cases value with
  | some value => exact Or.inl (settles value)
  | none => exact Or.inr ⟨offers.declined found, otherwise⟩

end Journaled

end Journal

import PdEdge.Lib.Chunked

/-!
# Decoding a chunked body step by step

A decoder stands at a `Place` of the layout and makes `Moves`: each uses some bytes of the
wire and yields some bytes of the content. `Rest` says what may still follow at a place.
The two are tied both ways. A move in front of a rest is a rest (`Moves.restBefore`), so a
decoder that completes has used a body that its rules accept. And a move made on bytes that
start with a rest leaves a rest (`Moves.restAfter`), even when the two follow different
rules, as long as these agree on sizes.
-/

namespace Chunked

open Wire List

/-- Where a decoder stands in a chunked body. -/
inductive Place where
  | size
  | data (remaining : Nat)
  | dataEnd
  | trailers
  deriving DecidableEq, Repr

namespace Place

/-- Where a decoder stands that has this much of a chunk still to yield. -/
def within (remaining : Nat) : Place := if remaining = 0 then .dataEnd else .data remaining

/-- The bytes of the current chunk still to yield. -/
def pending : Place → Nat
  | .data remaining => remaining
  | _ => 0

/-- The bytes at hand suffice for a move. -/
def enough (place : Place) (bytes : List UInt8) : Bool :=
  match place with
  | .size | .trailers => (findCrlf bytes).isSome
  | .data remaining => remaining = 0 || bytes ≠ []
  | .dataEnd => 2 ≤ bytes.length

@[simp] theorem pending_within (remaining : Nat) : (within remaining).pending = remaining := by
  unfold within
  split
  · rename_i zero
    exact zero.symm
  · rfl

end Place

/-- A move of a decoder: from a place, using bytes and yielding content, to a place. -/
inductive Moves (rules : Rules) : Place → List UInt8 → List UInt8 → Place → Prop
  | last {line : List UInt8} (single : findCrlf line = none) (sized : rules.size line 0) :
    Moves rules .size (line ++ crlf) [] .trailers
  | chunk {line : List UInt8} {size : Nat} (single : findCrlf line = none)
    (sized : rules.size line size) (positive : size ≠ 0) :
    Moves rules .size (line ++ crlf) [] (.data size)
  | data {bytes : List UInt8} {remaining : Nat} (fits : bytes.length ≤ remaining) :
    Moves rules (.data remaining) bytes bytes (Place.within (remaining - bytes.length))
  | dataEnd : Moves rules .dataEnd crlf [] .size
  | trailer {line : List UInt8} (accepted : rules.AcceptsTrailer line) :
    Moves rules .trailers (line ++ crlf) [] .trailers

/-- From a place, these bytes complete the body and these are the content in them. -/
inductive Rest (rules : Rules) : Place → List UInt8 → List UInt8 → Prop
  | size {body : Body} (accepted : rules.Accepts body) :
    Rest rules .size body.encode body.content
  | data {bytes : List UInt8} {remaining : Nat} {body : Body} (full : bytes.length = remaining)
    (accepted : rules.Accepts body) :
    Rest rules (.data remaining) (bytes ++ crlf ++ body.encode) (bytes ++ body.content)
  | dataEnd {body : Body} (accepted : rules.Accepts body) :
    Rest rules .dataEnd (crlf ++ body.encode) body.content
  | trailers {lines : List (List UInt8)} (accepted : ∀ line ∈ lines, rules.AcceptsTrailer line) :
    Rest rules .trailers (encodeTrailers lines) []

/-- The same with the trailer lines among the bytes. -/
inductive RestWith (rules : Rules) :
    Place → List UInt8 → List UInt8 → List (List UInt8) → Prop
  | size {body : Body} (accepted : rules.Accepts body) :
    RestWith rules .size body.encode body.content body.trailers
  | data {bytes : List UInt8} {remaining : Nat} {body : Body} (full : bytes.length = remaining)
    (accepted : rules.Accepts body) :
    RestWith rules (.data remaining) (bytes ++ crlf ++ body.encode) (bytes ++ body.content)
      body.trailers
  | dataEnd {body : Body} (accepted : rules.Accepts body) :
    RestWith rules .dataEnd (crlf ++ body.encode) body.content body.trailers
  | trailers {lines : List (List UInt8)} (accepted : ∀ line ∈ lines, rules.AcceptsTrailer line) :
    RestWith rules .trailers (encodeTrailers lines) [] lines

variable {rules : Rules} {encoded content : List UInt8}

theorem rest_iff {place : Place} :
    Rest rules place encoded content ↔ ∃ lines, RestWith rules place encoded content lines := by
  constructor
  · intro rest
    cases rest with
    | size accepted => exact ⟨_, .size accepted⟩
    | data full accepted => exact ⟨_, .data full accepted⟩
    | dataEnd accepted => exact ⟨_, .dataEnd accepted⟩
    | trailers accepted => exact ⟨_, .trailers accepted⟩
  rintro ⟨lines, rest⟩
  cases rest with
  | size accepted => exact .size accepted
  | data full accepted => exact .data full accepted
  | dataEnd accepted => exact .dataEnd accepted
  | trailers accepted => exact .trailers accepted

/-- A chunk in front of an accepted body gives an accepted body. -/
theorem Rules.Accepts.cons {body : Body} {chunk : Chunk} (front : rules.AcceptsChunk chunk)
    (accepted : rules.Accepts body) :
    rules.Accepts { body with chunks := chunk :: body.chunks } := by
  exact ⟨forall_mem_cons.mpr ⟨front, accepted.chunks⟩, accepted.lastSingle, accepted.lastSized,
    accepted.trailers⟩

/-- At the end of a chunk there is nothing of it left. -/
theorem RestWith.within {bytes : List UInt8} {body : Body} (accepted : rules.Accepts body) :
    RestWith rules (Place.within bytes.length) (bytes ++ crlf ++ body.encode)
      (bytes ++ body.content) body.trailers := by
  unfold Place.within
  split
  · rename_i zero
    rw [eq_nil_of_length_eq_zero zero]
    exact .dataEnd accepted
  · exact .data rfl accepted

/-- What remains within a chunk, and a body after it. -/
theorem Rest.of_within {remaining : Nat}
    (rest : Rest rules (Place.within remaining) encoded content) :
    ∃ bytes body, bytes.length = remaining ∧ rules.Accepts body ∧
      encoded = bytes ++ crlf ++ body.encode ∧ content = bytes ++ body.content := by
  unfold Place.within at rest
  split at rest
  · rename_i zero
    cases rest with
    | dataEnd accepted => exact ⟨[], _, by simp [zero], accepted, by simp, by simp⟩
  · cases rest with
    | data full accepted => exact ⟨_, _, full, accepted, rfl, rfl⟩

/-- What is used of bytes that are owed is at their front. -/
theorem owed_front {used tail unread : List UInt8} (same : encoded ++ tail = used ++ unread)
    (fits : used.length ≤ encoded.length) : ∃ more, encoded = used ++ more ∧ unread = more ++ tail := by
  have front : used <+: encoded :=
    prefix_of_prefix_length_le ⟨unread, same.symm⟩ ⟨tail, rfl⟩ fits
  obtain ⟨more, rfl⟩ := front
  rw [append_assoc] at same
  exact ⟨more, rfl, (append_cancel_left same).symm⟩

attribute [local simp] Body.content

/-- A move in front of a rest is a rest. -/
theorem Moves.restBefore {place next : Place} {used yielded : List UInt8}
    (move : Moves rules place used yielded next) (rest : Rest rules next encoded content) :
    Rest rules place (used ++ encoded) (yielded ++ content) := by
  cases move with
  | last single sized =>
    cases rest with
    | @trailers lines accepted =>
      have whole : rules.Accepts ⟨[], _, lines⟩ := ⟨by simp, single, sized, accepted⟩
      exact Rest.size whole
  | @chunk line size single sized positive =>
    cases rest with
    | @data bytes _ body full accepted =>
      have front : rules.AcceptsChunk ⟨line, bytes⟩ := by
        refine ⟨single, full ▸ sized, ?_⟩
        rintro rfl
        exact positive full.symm
      have whole := Rest.size (accepted.cons front)
      simpa [Body.encode, Chunk.encode] using whole
  | @data _ remaining fits =>
    obtain ⟨more, body, full, accepted, rfl, rfl⟩ := rest.of_within
    have total : (used ++ more).length = remaining := by
      rw [length_append]
      omega
    have whole := Rest.data total accepted
    simpa using whole
  | dataEnd =>
    cases rest with
    | size accepted => exact Rest.dataEnd accepted
  | @trailer line front =>
    cases rest with
    | @trailers lines accepted =>
      have whole := Rest.trailers (forall_mem_cons.mpr ⟨front, accepted⟩)
      simpa [encodeTrailers] using whole

/-- The empty line ends the trailers. -/
theorem Rest.ending (rules : Rules) : Rest rules .trailers crlf [] := by
  have whole : Rest rules .trailers (encodeTrailers []) [] :=
    Rest.trailers fun line member => absurd member not_mem_nil
  exact whole

/-- No place of a body is without bytes to come. -/
theorem Rest.nonempty {place : Place} (rest : Rest rules place encoded content) : encoded ≠ [] := by
  cases rest with
  | size accepted => simp [Body.encode, crlf]
  | data full accepted | dataEnd accepted => simp [crlf]
  | trailers accepted => simp [encodeTrailers, crlf]

section

variable {left right : Rules} {place next : Place}
variable {used yielded encoded content tail unread : List UInt8} {lines : List (List UInt8)}

section

variable (agree : Rules.Agree left right)
include agree

/-- A size line read where a body starts announces what comes first in the body. -/
theorem RestWith.sizeAfter {line : List UInt8} {size : Nat} (single : findCrlf line = none)
    (sized : left.size line size) (rest : RestWith right .size encoded content lines)
    (same : encoded ++ tail = line ++ crlf ++ unread) :
    ∃ encoded' content', RestWith right (if size = 0 then .trailers else .data size)
      encoded' content' lines ∧ encoded = line ++ crlf ++ encoded' ∧ content = content' ∧
      unread = encoded' ++ tail := by
  cases rest with
  | @size body accepted =>
    obtain ⟨noChunk, whole⟩ | ⟨chunk, chunks, front, others, whole⟩ := accepted.split tail
    · rw [whole] at same
      obtain ⟨rfl, behind⟩ := line_unique accepted.lastSingle single same
      have zero := agree _ _ _ sized accepted.lastSized
      rw [if_pos zero]
      refine ⟨_, _, .trailers accepted.trailers, ?_, ?_, behind.symm⟩
      · simp [Body.encode, noChunk]
      · simp [noChunk]
    · rw [whole] at same
      obtain ⟨rfl, behind⟩ := line_unique front.single single same
      have equal := agree _ _ _ sized front.sized
      have positive : size ≠ 0 := by
        intro zero
        exact front.nonempty (eq_nil_of_length_eq_zero (equal.symm.trans zero))
      rw [if_neg positive]
      have data : RestWith right (.data size) (chunk.data ++ crlf ++ body.tail.encode)
          (chunk.data ++ body.tail.content) body.tail.trailers := .data equal.symm others
      refine ⟨_, _, data, ?_, ?_, ?_⟩
      · have encoded : body.encode ++ tail = chunk.line ++ crlf ++
            (chunk.data ++ crlf ++ body.tail.encode) ++ tail := by simpa using whole
        exact append_cancel_right encoded
      · rw [Body.content, chunks]
        rfl
      · rw [← behind]
        simp

/-- The trailer lines left behind a step: only a step among the trailers takes one. -/
inductive Leaves (lines : List (List UInt8)) : Place → List UInt8 → List (List UInt8) → Prop
  | all {place : Place} {used : List UInt8} (before : place ≠ .trailers) :
    Leaves lines place used lines
  | others {line : List UInt8} {others : List (List UInt8)} (split : lines = line :: others) :
    Leaves lines .trailers (line ++ crlf) others

/-- A move made on bytes that start with a rest leaves a rest. -/
theorem Moves.restWithAfter (move : Moves left place used yielded next)
    (rest : RestWith right place encoded content lines) (same : encoded ++ tail = used ++ unread) :
    ∃ encoded' content' lines', RestWith right next encoded' content' lines' ∧
      encoded = used ++ encoded' ∧ content = yielded ++ content' ∧ unread = encoded' ++ tail ∧
      Leaves lines place used lines' := by
  cases move with
  | last single sized =>
    obtain ⟨encoded', content', after, split⟩ := rest.sizeAfter agree single sized same
    exact ⟨encoded', content', lines, after, split.1, split.2.1, split.2.2, .all (by simp)⟩
  | chunk single sized positive =>
    obtain ⟨encoded', content', after, split⟩ := rest.sizeAfter agree single sized same
    rw [if_neg positive] at after
    exact ⟨encoded', content', lines, after, split.1, split.2.1, split.2.2, .all (by simp)⟩
  | @data _ remaining fits =>
    cases rest with
    | @data bytes _ body full accepted =>
      -- what is used is at the front of what the chunk has left
      rw [append_assoc, append_assoc] at same
      obtain ⟨more, rfl, behind⟩ := owed_front same (full ▸ fits)
      have left : remaining - used.length = more.length := by
        rw [← full, length_append]
        omega
      rw [left]
      exact ⟨_, _, _, RestWith.within accepted, by simp, by simp, by simp [← behind],
        .all (by simp)⟩
  | dataEnd =>
    cases rest with
    | dataEnd accepted =>
      rw [append_assoc] at same
      exact ⟨_, _, _, .size accepted, rfl, rfl, (append_cancel_left same).symm, .all (by simp)⟩
  | @trailer line mine =>
    cases rest with
    | trailers accepted =>
      cases lines with
      | nil =>
        have lines : [] ++ crlf ++ tail = line ++ crlf ++ unread := by
          simpa [encodeTrailers] using same
        exact absurd (line_unique rfl mine.single lines).1.symm mine.nonempty
      | cons first lines =>
        have split : first ++ crlf ++ (encodeTrailers lines ++ tail) = line ++ crlf ++ unread := by
          simpa [encodeTrailers] using same
        have single := (accepted first mem_cons_self).single
        obtain ⟨rfl, behind⟩ := line_unique single mine.single split
        refine ⟨_, _, _, .trailers fun other member =>
          accepted other (mem_cons_of_mem _ member), ?_, rfl, behind.symm, .others rfl⟩
        simp [encodeTrailers]

theorem Moves.restAfter (move : Moves left place used yielded next)
    (rest : Rest right place encoded content) (same : encoded ++ tail = used ++ unread) :
    ∃ encoded' content', Rest right next encoded' content' ∧ encoded = used ++ encoded' ∧
      content = yielded ++ content' ∧ unread = encoded' ++ tail := by
  obtain ⟨lines, rest⟩ := rest_iff.mp rest
  obtain ⟨encoded', content', lines', after, split⟩ := move.restWithAfter agree rest same
  exact ⟨encoded', content', rest_iff.mpr ⟨lines', after⟩, split.1, split.2.1, split.2.2.1⟩

end

/-- Where the empty line is read among the trailers, the body ends. -/
theorem RestWith.endAfter (rest : RestWith right .trailers encoded content lines)
    (same : encoded ++ tail = crlf ++ unread) :
    encoded = crlf ∧ content = [] ∧ unread = tail ∧ lines = [] := by
  cases rest with
  | trailers accepted =>
    cases lines with
    | nil => exact ⟨rfl, rfl, by simpa [encodeTrailers] using same.symm, rfl⟩
    | cons first lines =>
      have split : first ++ crlf ++ (encodeTrailers lines ++ tail) = [] ++ crlf ++ unread := by
        simpa [encodeTrailers] using same
      have front := accepted first mem_cons_self
      exact absurd (line_unique front.single rfl split).1 front.nonempty

theorem Rest.endAfter (rest : Rest right .trailers encoded content)
    (same : encoded ++ tail = crlf ++ unread) :
    encoded = crlf ∧ content = [] ∧ unread = tail := by
  obtain ⟨lines, rest⟩ := rest_iff.mp rest
  obtain ⟨last, nothing, behind, -⟩ := rest.endAfter same
  exact ⟨last, nothing, behind⟩

/-- A body starts with a size line whose size is within its content. -/
theorem Rest.sizeLine (rest : Rest right .size encoded content) :
    ∃ line size more, encoded = line ++ crlf ++ more ∧ findCrlf line = none ∧
      right.size line size ∧ size ≤ content.length := by
  cases rest with
  | @size body accepted =>
    obtain ⟨noChunk, whole⟩ | ⟨chunk, chunks, front, others, whole⟩ := accepted.split []
    · refine ⟨_, 0, _, by simpa using whole, accepted.lastSingle, accepted.lastSized, ?_⟩
      exact Nat.zero_le _
    · refine ⟨_, _, _, by simpa using whole, front.single, front.sized, ?_⟩
      simp [chunks]

/-- The line that a body starts with is its size line. -/
theorem Rest.sized {line : List UInt8} (rest : Rest right .size encoded content)
    (single : findCrlf line = none) (same : line ++ crlf ++ unread = encoded ++ tail) :
    ∃ size, right.size line size := by
  obtain ⟨first, size, more, rfl, firstSingle, sized, -⟩ := rest.sizeLine
  rw [append_assoc (first ++ crlf)] at same
  obtain ⟨rfl, -⟩ := line_unique single firstSingle same
  exact ⟨size, sized⟩

/-- The data of a chunk end with a line end. -/
theorem Rest.terminated {front : List UInt8} (rest : Rest right .dataEnd encoded content)
    (two : front.length = 2) (same : front ++ unread = encoded ++ tail) : front = crlf := by
  cases rest with
  | dataEnd accepted =>
    rw [append_assoc] at same
    exact (append_inj same two).1

/-- The trailers start with a line. -/
theorem Rest.trailerLine (rest : Rest right .trailers encoded content) :
    ∃ line more, encoded = line ++ crlf ++ more ∧ findCrlf line = none := by
  cases rest with
  | @trailers lines accepted =>
    cases lines with
    | nil => exact ⟨[], [], rfl, rfl⟩
    | cons first lines =>
      refine ⟨first, encodeTrailers lines, ?_, (accepted first mem_cons_self).single⟩
      simp [encodeTrailers]

/-- Bytes that start with the rest of a body suffice for a move. -/
theorem Rest.enough (rest : Rest right place encoded content) (tail : List UInt8) :
    place.enough (encoded ++ tail) := by
  cases place with
  | size =>
    obtain ⟨line, size, more, rfl, single, -⟩ := rest.sizeLine
    rw [Place.enough, append_assoc, findCrlf_line single]
    rfl
  | data remaining =>
    cases rest with
    | data full accepted => simp [Place.enough, crlf]
  | dataEnd =>
    cases rest with
    | dataEnd accepted => simp [Place.enough, crlf]
  | trailers =>
    obtain ⟨line, more, rfl, single⟩ := rest.trailerLine
    rw [Place.enough, append_assoc, findCrlf_line single]
    rfl

end

/-! ## Paths

A decoder makes steps between states; each uses bytes of the wire and yields content. What
one step keeps, a path of them keeps. -/

section

variable {σ ε : Type} {step : σ → List UInt8 → List UInt8 → σ → Prop}

/-- Steps one after the other. -/
inductive Path (step : σ → List UInt8 → List UInt8 → σ → Prop) :
    σ → List UInt8 → List UInt8 → σ → Prop
  | refl (state : σ) : Path step state [] [] state
  | cons {state next last : σ} {used yielded used' yielded' : List UInt8}
    (first : step state used yielded next) (rest : Path step next used' yielded' last) :
    Path step state (used ++ used') (yielded ++ yielded') last

variable {state next : σ} {used yielded encoded content tail unread : List UInt8}

theorem Path.one (single : step state used yielded next) : Path step state used yielded next := by
  have path := Path.cons single (.refl next)
  rwa [append_nil, append_nil] at path

theorem Path.trans {last : σ} {used' yielded' : List UInt8}
    (path : Path step state used yielded next) (more : Path step next used' yielded' last) :
    Path step state (used ++ used') (yielded ++ yielded') last := by
  induction path with
  | refl => exact more
  | cons first rest ih =>
    rw [append_assoc, append_assoc]
    exact .cons first (ih more)

section

variable (owes : σ → List UInt8 → List UInt8 → Prop)
include owes

/-- Steps that each can be put in front of what is owed can be so together. -/
theorem Path.before (single : ∀ {state next : σ} {used yielded encoded content : List UInt8},
      step state used yielded next → owes next encoded content →
      owes state (used ++ encoded) (yielded ++ content))
    (path : Path step state used yielded next) (owed : owes next encoded content) :
    owes state (used ++ encoded) (yielded ++ content) := by
  induction path with
  | refl => exact owed
  | cons first rest ih =>
    rw [append_assoc, append_assoc]
    exact single first (ih owed)

/-- What bytes owe after a step, for a step made on bytes that start with what is owed. -/
def Consumes (owes : σ → List UInt8 → List UInt8 → Prop)
    (step : σ → List UInt8 → List UInt8 → σ → Prop) : Prop :=
  ∀ {state next : σ} {used yielded encoded content tail unread : List UInt8},
    step state used yielded next → owes state encoded content →
    encoded ++ tail = used ++ unread →
    ∃ encoded' content', owes next encoded' content' ∧ encoded = used ++ encoded' ∧
      content = yielded ++ content' ∧ unread = encoded' ++ tail

/-- Steps that each consume what is owed do so together. -/
theorem Path.after (consumes : Consumes owes step) (path : Path step state used yielded next)
    (owed : owes state encoded content) (same : encoded ++ tail = used ++ unread) :
    ∃ encoded' content', owes next encoded' content' ∧ encoded = used ++ encoded' ∧
      content = yielded ++ content' ∧ unread = encoded' ++ tail := by
  induction path generalizing encoded content with
  | refl => exact ⟨encoded, content, owed, rfl, rfl, same.symm⟩
  | cons first rest ih =>
    rw [append_assoc] at same
    obtain ⟨encoded', content', owed', rfl, rfl, split⟩ := consumes first owed same
    obtain ⟨encoded'', content'', owed'', rfl, rfl, split⟩ := ih owed' split.symm
    exact ⟨encoded'', content'', owed'', by simp, by simp, split⟩

end

/-- What holds of the content still to come holds after what a step yields. -/
theorem Path.keeps (holds : σ → List UInt8 → Prop)
    (single : ∀ {state next : σ} {used yielded content : List UInt8},
      step state used yielded next → holds state (yielded ++ content) → holds next content)
    (path : Path step state used yielded next) (start : holds state (yielded ++ content)) :
    holds next content := by
  induction path with
  | refl => exact start
  | cons first rest ih =>
    rw [append_assoc] at start
    exact ih (single first start)

/-- Steps have been made from one reader to another. -/
structure Reaches (step : σ → List UInt8 → List UInt8 → σ → Prop) (reader : Reader ε) (state : σ)
    (yielded : List UInt8) (after : Reader ε) (next : σ) : Prop where
  steps : ∃ used, Path step state used yielded next ∧ reader.unread = used ++ after.unread
  later : after.later = reader.later

theorem Reaches.refl (reader : Reader ε) (state : σ) : Reaches step reader state [] reader state :=
  ⟨⟨[], .refl state, rfl⟩, rfl⟩

theorem Reaches.along {reader after final : Reader ε} {last : σ} {yielded' : List UInt8}
    (reaches : Reaches step reader state yielded after next)
    (path : Path step next used yielded' last) (split : after.unread = used ++ final.unread)
    (later : final.later = after.later) :
    Reaches step reader state (yielded ++ yielded') final last := by
  obtain ⟨front, steps, frontSplit⟩ := reaches.steps
  refine ⟨⟨front ++ used, steps.trans path, ?_⟩, later.trans reaches.later⟩
  rw [frontSplit, split, append_assoc]

end

end Chunked

import PdEdge.Lib.Wire

/-!
# Chunked bodies

A chunked body is a list of chunks, each a size line and its data, then a size line of
zero and the trailer lines. Which lines announce which size, and which trailer lines are
admitted, is left to `Rules`: the grammar of a standard and the lines a program accepts are
two rules over the same layout. The layout determines the body: under rules that agree on
sizes, two bodies with the same bytes in front are the same body (`Rules.unique`).
-/

namespace Chunked

open Wire List

/-- What a reader makes of the lines of a chunked body. -/
structure Rules where
  /-- The line announces a chunk of this size. -/
  size : List UInt8 → Nat → Prop
  /-- The line is admitted among the trailers. -/
  trailer : List UInt8 → Prop

/-- One chunk: the line that announces it and its data. -/
structure Chunk where
  /-- The size line, without its line end. -/
  line : List UInt8
  /-- The bytes of the chunk. -/
  data : List UInt8

/-- A chunk on the wire. -/
def Chunk.encode (chunk : Chunk) : List UInt8 := chunk.line ++ crlf ++ chunk.data ++ crlf

/-- Trailer lines on the wire, with the empty line that ends them. -/
def encodeTrailers (trailers : List (List UInt8)) : List UInt8 :=
  trailers.flatMap (· ++ crlf) ++ crlf

/-- A chunked body by its lines and data. -/
structure Body where
  /-- The chunks in order. -/
  chunks : List Chunk
  /-- The line that announces size zero. -/
  last : List UInt8
  /-- The trailer lines. -/
  trailers : List (List UInt8)

namespace Body

/-- The body on the wire. -/
def encode (body : Body) : List UInt8 :=
  body.chunks.flatMap Chunk.encode ++ (body.last ++ crlf ++ encodeTrailers body.trailers)

/-- The bytes the body carries. -/
def content (body : Body) : List UInt8 := body.chunks.flatMap Chunk.data

/-- The lines that announce sizes. -/
def sizeLines (body : Body) : List (List UInt8) := body.chunks.map Chunk.line ++ [body.last]

/-- A chunk is no longer than the content it is part of. -/
theorem data_length_le {body : Body} {chunk : Chunk} (member : chunk ∈ body.chunks) :
    chunk.data.length ≤ body.content.length := by
  obtain ⟨before, behind, split⟩ := append_of_mem member
  rw [content, split, flatMap_append, flatMap_cons]
  simp only [length_append]
  omega

/-- A body without its first chunk. -/
def tail (body : Body) : Body := { body with chunks := body.chunks.tail }

end Body

namespace Rules

/-- A chunk whose line announces its data, which is not empty. -/
structure AcceptsChunk (rules : Rules) (chunk : Chunk) : Prop where
  /-- The line has no line end inside. -/
  single : findCrlf chunk.line = none
  /-- The line announces the size of the data. -/
  sized : rules.size chunk.line chunk.data.length
  /-- A chunk of size zero would end the body. -/
  nonempty : chunk.data ≠ []

/-- A trailer line that is admitted and does not end the trailers. -/
structure AcceptsTrailer (rules : Rules) (line : List UInt8) : Prop where
  /-- The line has no line end inside. -/
  single : findCrlf line = none
  /-- The line is admitted. -/
  admitted : rules.trailer line
  /-- An empty line ends the trailers. -/
  nonempty : line ≠ []

/-- A body all of whose lines follow the rules. -/
structure Accepts (rules : Rules) (body : Body) : Prop where
  /-- Every chunk is well formed. -/
  chunks : ∀ chunk ∈ body.chunks, rules.AcceptsChunk chunk
  /-- The last size line has no line end inside. -/
  lastSingle : findCrlf body.last = none
  /-- The last size line announces zero. -/
  lastSized : rules.size body.last 0
  /-- Every trailer is well formed. -/
  trailers : ∀ line ∈ body.trailers, rules.AcceptsTrailer line

/-- Two rules that give a line they both accept the same size. -/
def Agree (left right : Rules) : Prop :=
  ∀ line first second, left.size line first → right.size line second → first = second

variable {left right : Rules} {leftRest rightRest : List UInt8}

/-- Trailer lines are determined by the bytes they are at the front of. -/
theorem trailers_unique {first second : List (List UInt8)}
    (leftLines : ∀ line ∈ first, left.AcceptsTrailer line)
    (rightLines : ∀ line ∈ second, right.AcceptsTrailer line)
    (same : encodeTrailers first ++ leftRest = encodeTrailers second ++ rightRest) :
    first = second ∧ leftRest = rightRest := by
  induction first generalizing second with
  | nil =>
    cases second with
    | nil => exact ⟨rfl, by simpa [encodeTrailers] using same⟩
    | cons line second =>
      have accepted := rightLines line mem_cons_self
      have lines : ([] : List UInt8) ++ crlf ++ leftRest =
          line ++ crlf ++ (encodeTrailers second ++ rightRest) := by
        simpa [encodeTrailers] using same
      exact absurd (line_unique rfl accepted.single lines).1.symm accepted.nonempty
  | cons line first ih =>
    have accepted := leftLines line mem_cons_self
    cases second with
    | nil =>
      have lines : line ++ crlf ++ (encodeTrailers first ++ leftRest) =
          ([] : List UInt8) ++ crlf ++ rightRest := by
        simpa [encodeTrailers] using same
      exact absurd (line_unique accepted.single rfl lines).1 accepted.nonempty
    | cons other second =>
      have lines : line ++ crlf ++ (encodeTrailers first ++ leftRest) =
          other ++ crlf ++ (encodeTrailers second ++ rightRest) := by
        simpa [encodeTrailers] using same
      obtain ⟨rfl, tails⟩ := line_unique accepted.single
        (rightLines other mem_cons_self).single lines
      obtain ⟨rfl, rest⟩ := ih (fun line member => leftLines line (mem_cons_of_mem _ member))
        (fun line member => rightLines line (mem_cons_of_mem _ member)) tails
      exact ⟨rfl, rest⟩

/-- The first size line of an accepted body and what follows it. -/
theorem Accepts.split {rules : Rules} {body : Body} (accepted : rules.Accepts body)
    (rest : List UInt8) :
    (body.chunks = [] ∧ body.encode ++ rest =
      body.last ++ crlf ++ (encodeTrailers body.trailers ++ rest)) ∨
    (∃ chunk, body.chunks = chunk :: body.tail.chunks ∧ rules.AcceptsChunk chunk ∧
      rules.Accepts body.tail ∧ body.encode ++ rest =
        chunk.line ++ crlf ++ (chunk.data ++ crlf ++ (body.tail.encode ++ rest))) := by
  obtain ⟨chunks, last, trailers⟩ := body
  cases chunks with
  | nil => exact Or.inl ⟨rfl, by simp [Body.encode]⟩
  | cons chunk chunks =>
    refine Or.inr ⟨chunk, rfl, accepted.chunks chunk mem_cons_self, ?_, ?_⟩
    · exact ⟨fun other member => accepted.chunks other (mem_cons_of_mem _ member),
        accepted.lastSingle, accepted.lastSized, accepted.trailers⟩
    · simp [Body.encode, Body.tail, Chunk.encode]

/-- A chunked body is determined by the bytes it is at the front of. -/
theorem unique (agree : Agree left right) {first second : Body} (leftBody : left.Accepts first)
    (rightBody : right.Accepts second)
    (same : first.encode ++ leftRest = second.encode ++ rightRest) :
    first = second ∧ leftRest = rightRest := by
  induction counted : first.chunks.length generalizing first second with
  | zero =>
    obtain ⟨noChunk, whole⟩ | ⟨chunk, chunks, -⟩ := leftBody.split leftRest
    · obtain ⟨noOther, otherWhole⟩ | ⟨other, chunks, chunkBody, -, otherWhole⟩ :=
        rightBody.split rightRest
      · rw [whole, otherWhole] at same
        obtain ⟨last, rest⟩ := line_unique leftBody.lastSingle rightBody.lastSingle same
        obtain ⟨trailers, rest⟩ := trailers_unique leftBody.trailers rightBody.trailers rest
        refine ⟨?_, rest⟩
        cases first
        cases second
        simp_all
      · rw [whole, otherWhole] at same
        obtain ⟨last, -⟩ := line_unique leftBody.lastSingle chunkBody.single same
        have size := agree _ _ _ leftBody.lastSized (last ▸ chunkBody.sized)
        exact absurd (eq_nil_of_length_eq_zero size.symm) chunkBody.nonempty
    · rw [chunks] at counted
      simp at counted
  | succ count ih =>
    obtain ⟨noChunk, -⟩ | ⟨chunk, chunks, chunkBody, tailBody, whole⟩ := leftBody.split leftRest
    · rw [noChunk] at counted
      simp at counted
    obtain ⟨noOther, otherWhole⟩ | ⟨other, otherChunks, otherBody, otherTail, otherWhole⟩ :=
      rightBody.split rightRest
    · rw [whole, otherWhole] at same
      obtain ⟨line, -⟩ := line_unique chunkBody.single rightBody.lastSingle same
      have size := agree _ _ _ chunkBody.sized (line ▸ rightBody.lastSized)
      exact absurd (eq_nil_of_length_eq_zero size) chunkBody.nonempty
    rw [whole, otherWhole] at same
    obtain ⟨line, rest⟩ := line_unique chunkBody.single otherBody.single same
    have size := agree _ _ _ chunkBody.sized (line ▸ otherBody.sized)
    rw [append_assoc, append_assoc] at rest
    obtain ⟨data, rest⟩ := append_inj rest size
    have tails := append_cancel_left rest
    obtain ⟨tail, rest⟩ := ih tailBody otherTail tails (by
      rw [chunks] at counted
      simpa using counted)
    have sameChunk : chunk = other := by
      cases chunk
      cases other
      exact Chunk.mk.injEq .. ▸ ⟨line, data⟩
    refine ⟨?_, rest⟩
    obtain ⟨firstChunks, firstLast, firstTrailers⟩ := first
    obtain ⟨secondChunks, secondLast, secondTrailers⟩ := second
    simp only [Body.tail, Body.mk.injEq] at tail chunks otherChunks ⊢
    exact ⟨by rw [chunks, otherChunks, tail.1, sameChunk], tail.2⟩

end Rules

end Chunked

import Mathlib.Data.PNat.Defs
import PdEdge.State.Forwarded

/-!
# Bodies read as text

The `next_chunk` functions decode each chunk on its own, so a character that is split between two
chunks is replaced. A body is read as it is exactly when no chunk ends inside a character.
-/

namespace PdEdge.State

open Text Sources BufferedByteStream List

section

variable {σ : Type} (source : Source σ VmError)

/-- The chunks of `next_chunk` for these sizes, if the last one is at the end of the body. -/
def readChunks : List ℕ+ → BufferedByteStream → σ → Option (List (List UInt8))
  | [], _, _ => none
  | maxBytes :: sizes, stream, state =>
    match readNextChunk source maxBytes stream state with
    | (.ready chunk, after, next) =>
      if chunk = [] then some [] else (readChunks sizes after next).map (chunk :: ·)
    | _ => none

/-- The texts that `next_chunk` returns for these sizes, put together. -/
def chunkTexts (replace : List UInt8 → List Char) (sizes : List ℕ+) (stream : BufferedByteStream)
    (state : σ) : Option (List Char) :=
  (readChunks source sizes stream state).map (·.flatMap (fromUtf8Lossy replace))

variable {source} {sizes : List ℕ+} {chunks : List (List UInt8)}

/-- The chunks are all of the content behind the read position. -/
theorem readChunks_flatten {content : List UInt8} {stream : BufferedByteStream} {state : σ}
    (holds : Holds source content stream state)
    (read : readChunks source sizes stream state = some chunks) :
    chunks.flatten = content.drop stream.readOffset := by
  induction sizes generalizing stream state chunks with
  | nil => cases read
  | cons maxBytes sizes ih =>
    rw [readChunks] at read
    have kept := holds.readNextChunk maxBytes
    rcases outcome : readNextChunk source maxBytes stream state with
      ⟨(chunk | err | -), after, next⟩
    · rw [outcome] at read kept
      obtain ⟨front, -, ended⟩ := holds.chunk maxBytes.2 outcome
      dsimp only at read
      split at read
      · rename_i empty
        cases read
        rw [ended empty]
        rfl
      obtain ⟨rest, later, rfl⟩ := Option.map_eq_some_iff.mp read
      rw [flatten_cons, ih kept later, front]
    all_goals
      rw [outcome] at read
      cases read

/-- The text of a body that is read to its end is read whole exactly when each chunk is whole
characters, whatever the frames and the sizes. -/
theorem text_read_whole_iff {replace : List UInt8 → List Char} (replaces : Replaces replace)
    {text : List Char} {state : σ} (entire : Entire source state (toUtf8 text))
    (read : readChunks source sizes .default state = some chunks) :
    chunkTexts source replace sizes .default state = some text ↔
      ∀ chunk ∈ chunks, (fromUtf8 chunk).isSome := by
  have whole := readChunks_flatten ⟨_, entire, rfl, fun eof => by cases eof⟩ read
  rw [chunkTexts, read, Option.map_some, Option.some.injEq]
  exact flatMap_fromUtf8Lossy_iff replaces whole

end

/-- A body in one frame. -/
def inFrame (bytes : Bytes) : Body := .hyper ⟨[.ready (.data bytes)], none⟩

theorem entire_inFrame (bytes : Bytes) : Entire inboundSource (some (inFrame bytes)) bytes.data := by
  have entire := @Entire.chunk _ _ inboundSource (some (inFrame bytes)) _ bytes.data [] rfl
    (.eof rfl)
  rwa [append_nil] at entire

/-- A replacement character for each byte. -/
def replaceEach (bytes : List UInt8) : List Char := bytes.map fun _ => Char.ofNat 0xFFFD

theorem replaceEach_replaces : Replaces replaceEach := by
  intro first rest _
  rw [replaceEach, length_map, length_cons]
  exact Nat.lt_succ_of_le countP_le_length

/-- Behind an ASCII letter the two bytes of a character are read at once. -/
theorem text_read_whole_sample :
    chunkTexts inboundSource replaceEach [1, 2, 1] .default
      (some (inFrame ⟨toUtf8 ['a', 'é'], by decide⟩)) = some ['a', 'é'] :=
  (text_read_whole_iff replaceEach_replaces (entire_inFrame ⟨toUtf8 ['a', 'é'], by decide⟩)
    (show _ = some [[97], [195, 169]] by decide +kernel)).mpr (by decide +kernel)

/-- The two bytes of one character are read one by one, and each is replaced. -/
theorem split_character_replaced : ¬ ∀ (replace : List UInt8 → List Char) (text result : List Char)
    (body : Body) (sizes : List ℕ+), Replaces replace →
    Entire inboundSource (some body) (toUtf8 text) →
    chunkTexts inboundSource replace sizes .default (some body) = some result →
    result = text := by
  intro all
  have same := all replaceEach ['é'] _ (inFrame ⟨toUtf8 ['é'], by decide⟩) [1, 1, 1]
    replaceEach_replaces (entire_inFrame _)
    (show _ = some [Char.ofNat 0xFFFD, Char.ofNat 0xFFFD] by decide +kernel)
  exact absurd same (by decide)

end PdEdge.State

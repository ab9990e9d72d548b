import PdEdge.Http1.ChunkSize
import PdEdge.Http1.Headers

/-!
# Writing a response body

The loop that the response writers share: data frames go out as chunks or as they are, a
trailers frame is kept for the end, and a chunked body is closed by its last chunk and the
trailers. What a reader of chunked bodies makes of the result is settled by the frames
alone: a frame without bytes is written as the chunk that ends the body.
-/

namespace PdEdge.Downstream

open Text Wire

/-- `Frame<Bytes>`: data, trailers, or a kind that neither accessor takes. -/
inductive Frame where
  | data (bytes : Bytes)
  | trailers (headers : HeaderMap)
  | other

namespace Frame

/-- A data frame without bytes. -/
def Hollow : Frame → Prop
  | .data bytes => bytes.data = []
  | _ => False

/-- The bytes a frame carries. -/
def payload : Frame → List UInt8
  | .data bytes => bytes.data
  | _ => []

end Frame

/-- The line of one header. -/
def headerLine (entry : HeaderName × HeaderValue) : List UInt8 :=
  entry.1.bytes ++ ascii ": " ++ entry.2.bytes

/-- The lines of a header map, each with its end. -/
def headerLines (headers : HeaderMap) : List UInt8 :=
  headers.flatMap fun entry => headerLine entry ++ crlf

/-- What goes out for one data frame. -/
def writeData (useChunked : Bool) (bytes : Bytes) : List UInt8 :=
  if useChunked then appendChunkPrefix bytes.data.length ++ bytes.data ++ crlf else bytes.data

/-- The loop over the frames: what goes out, the trailers to write and whether the connection
may still be kept. -/
def writeFrames (useChunked : Bool) :
    List Frame → HeaderMap → Bool → List UInt8 × HeaderMap × Bool
  | [], trailers, keepAlive => ([], trailers, keepAlive)
  | .data bytes :: frames, trailers, keepAlive =>
    let (written, trailers, keepAlive) := writeFrames useChunked frames trailers keepAlive
    (writeData useChunked bytes ++ written, trailers, keepAlive)
  | .trailers headers :: frames, _, keepAlive => writeFrames useChunked frames headers keepAlive
  | .other :: frames, trailers, _ => writeFrames useChunked frames trailers false

/-- A whole body, with the last chunk and the trailers if it is chunked. -/
def writeBody (useChunked : Bool) (frames : List Frame) (keepAlive : Bool) :
    List UInt8 × Bool :=
  let (written, trailers, keepAlive) := writeFrames useChunked frames [] keepAlive
  (written ++ if useChunked then ascii "0\r\n" ++ headerLines trailers ++ crlf else [], keepAlive)

/-- The frames of a body: data, and at its end perhaps trailers. -/
def bodyFrames (frames : List Bytes) (trailers : Option HeaderMap) : List Frame :=
  frames.map .data ++ (trailers.map Frame.trailers).toList

theorem payload_bodyFrames (frames : List Bytes) (trailers : Option HeaderMap) :
    (bodyFrames frames trailers).flatMap Frame.payload = frames.flatMap Bytes.data := by
  cases trailers <;> simp [bodyFrames, Frame.payload, List.flatMap_map]

theorem hollow_bodyFrames {frames : List Bytes} {trailers : Option HeaderMap} :
    (∀ frame ∈ bodyFrames frames trailers, ¬ frame.Hollow) ↔ ∀ frame ∈ frames, frame.data ≠ [] := by
  have mapped : (∀ frame ∈ frames.map Frame.data, ¬ frame.Hollow) ↔
      ∀ frame ∈ frames, frame.data ≠ [] := by
    simp [Frame.Hollow]
  cases trailers with
  | none => rw [← mapped, bodyFrames, Option.map_none, Option.toList_none, List.append_nil]
  | some headers =>
    rw [← mapped, bodyFrames, List.forall_mem_append]
    exact and_iff_left (by simp [Frame.Hollow])

/-! ## Chunks and lines on the wire -/

/-- A line with no carriage return in it has no line end in it. -/
theorem findCrlf_of_bytes {line : List UInt8} {allowed : UInt8 → Prop}
    (each : ∀ byte ∈ line, allowed byte) (excludes : ¬ allowed 13) : findCrlf line = none :=
  findCrlf_none fun member => excludes (each 13 member)

theorem chunkDigits_single {bytes : Bytes} : findCrlf (chunkDigits bytes.data.length) = none :=
  findCrlf_of_bytes (hexDigits_of_hexValue (hexValue_chunkDigits bytes)).2 (by decide)

/-- The line of a header is a field line of the standard. -/
theorem headerLine_field (entry : HeaderName × HeaderValue) :
    Rfc9112.FieldLine (headerLine entry) := by
  refine ⟨entry.1.bytes, 32 :: entry.2.bytes, ?_, entry.1.token, ?_⟩
  · simp [headerLine, ascii]
  exact List.forall_mem_cons.mpr ⟨by decide +kernel, entry.2.visible⟩

/-- The line of a header has no line end in it and is not empty. -/
theorem headerLine_single {entry : HeaderName × HeaderValue} :
    findCrlf (headerLine entry) = none ∧ headerLine entry ≠ [] := by
  obtain ⟨name, value⟩ := entry
  constructor
  · apply findCrlf_none
    have noName : (13 : UInt8) ∉ name.bytes := fun member =>
      absurd (name.token.2 13 member) (by decide +kernel)
    have noValue : (13 : UInt8) ∉ value.bytes := fun member =>
      absurd (value.visible 13 member) (by decide +kernel)
    simp only [headerLine, List.mem_append]
    tauto
  · have some := name.token.1
    simp [headerLine, some]

/-! ## The chunked body of the frames -/

/-- The chunk of a data frame. -/
def Frame.chunk? : Frame → Option Chunked.Chunk
  | .data bytes => some ⟨chunkDigits bytes.data.length, bytes.data⟩
  | _ => none

/-- The trailers the loop keeps: those of the last trailers frame. -/
def keptTrailers (frames : List Frame) : HeaderMap := (writeFrames true frames [] true).2.1

/-- The chunked body that frames stand for. -/
def frameBody (frames : List Frame) : Chunked.Body where
  chunks := frames.filterMap Frame.chunk?
  last := ascii "0"
  trailers := (keptTrailers frames).map headerLine

variable (frames : List Frame)

attribute [local simp] Frame.chunk?

theorem frameBody_content : (frameBody frames).content = frames.flatMap Frame.payload := by
  simp only [Chunked.Body.content, frameBody]
  induction frames with
  | nil => rfl
  | cons frame frames ih =>
    cases frame with
    | data bytes => simp [Frame.payload, ih]
    | trailers headers | other => exact ih

section

variable (useChunked : Bool) (frames : List Frame) (trailers : HeaderMap) (keepAlive : Bool)

/-- The trailers do not depend on the rest. -/
theorem writeFrames_trailers (other : Bool) (keep : Bool) :
    (writeFrames useChunked frames trailers keepAlive).2.1 =
      (writeFrames other frames trailers keep).2.1 := by
  induction frames generalizing trailers keepAlive keep with
  | nil => rfl
  | cons frame frames ih =>
    cases frame with
    | data bytes => exact ih trailers keepAlive keep
    | trailers headers => exact ih headers keepAlive keep
    | other => exact ih trailers false false

/-- Unless it is chunked, a body goes out as the bytes of its frames. -/
theorem writeFrames_plain :
    (writeFrames false frames trailers keepAlive).1 = frames.flatMap Frame.payload := by
  induction frames generalizing trailers keepAlive with
  | nil => rfl
  | cons frame frames ih =>
    cases frame with
    | data bytes => simp [writeFrames, writeData, Frame.payload, ih]
    | trailers headers => exact ih headers keepAlive
    | other => exact ih trailers false

/-- A chunked body goes out as the chunks of its frames. -/
theorem writeFrames_chunked :
    (writeFrames true frames trailers keepAlive).1 =
      (frames.filterMap Frame.chunk?).flatMap Chunked.Chunk.encode := by
  induction frames generalizing trailers keepAlive with
  | nil => rfl
  | cons frame frames ih =>
    cases frame with
    | data bytes => simp [writeFrames, writeData, appendChunkPrefix, Chunked.Chunk.encode, ih]
    | trailers headers => exact ih headers keepAlive
    | other => exact ih trailers false

/-- A frame of another kind closes the connection. -/
theorem writeFrames_keepAlive (kept : (writeFrames useChunked frames trailers keepAlive).2.2) :
    keepAlive = true := by
  induction frames generalizing trailers keepAlive with
  | nil => exact kept
  | cons frame frames ih =>
    cases frame with
    | data bytes => exact ih trailers keepAlive kept
    | trailers headers => exact ih headers keepAlive kept
    | other => exact absurd (ih trailers false kept) (by decide)

end

theorem writeBody_plain (keepAlive : Bool) :
    (writeBody false frames keepAlive).1 = frames.flatMap Frame.payload := by
  simp [writeBody, writeFrames_plain]

attribute [local simp] Chunked.encodeTrailers

theorem writeBody_chunked (keepAlive : Bool) :
    (writeBody true frames keepAlive).1 = (frameBody frames).encode := by
  have lines : headerLines (keptTrailers frames) ++ crlf =
      Chunked.encodeTrailers ((keptTrailers frames).map headerLine) := by
    simp [headerLines, List.flatMap_map]
  have zero : ascii "0\r\n" = ascii "0" ++ crlf := by decide
  simp only [writeBody, if_pos, writeFrames_chunked, Chunked.Body.encode, frameBody, ← lines]
  rw [writeFrames_trailers true frames [] keepAlive true true, zero, keptTrailers]
  simp only [List.append_assoc]

/-! ## Reading it back -/

/-- Rules that read the lines the writers write, and no size differently from the program's
own decoders. -/
structure ReadsWriter (rules : Chunked.Rules) : Prop where
  sizes : ∀ bytes : Bytes, rules.size (chunkDigits bytes.data.length) bytes.data.length
  last : rules.size (ascii "0") 0
  trailers : ∀ entry, rules.trailer (headerLine entry)
  agree : (decoderRules fun _ => True).Agree rules

/-- A decoder of the program that admits every header as a trailer reads them. -/
theorem readsWriter_decoder {trailer : List UInt8 → Prop}
    (admits : ∀ entry, trailer (headerLine entry)) : ReadsWriter (decoderRules trailer) where
  sizes bytes := by
    have line : Rfc9112.SizeLine (chunkDigits bytes.data.length) bytes.data.length :=
      ⟨chunkDigits bytes.data.length, [], by simp, hexValue_chunkDigits bytes, .nil⟩
    refine chunkSize_of_sizeLine line ?_ bytes.fits
    have digits := (hexDigits_of_hexValue (hexValue_chunkDigits bytes)).2
    rw [fromUtf8_ascii _ fun byte member => (hexDigit_byte (digits byte member)).1]
    rfl
  last := rfl
  trailers := admits
  agree := decoderRules_agree

/-- The standard reads them. -/
theorem readsWriter_standard : ReadsWriter Rfc9112.rules where
  sizes bytes := ⟨chunkDigits bytes.data.length, [], by simp, hexValue_chunkDigits bytes, .nil⟩
  last := ⟨ascii "0", [], rfl, by decide, .nil⟩
  trailers := headerLine_field
  agree := chunkSize_agrees _

section

variable {rules : Chunked.Rules} (reads : ReadsWriter rules) (frames : List Frame)
include reads

/-- Frames that all carry bytes are written as a body. -/
theorem accepts_frameBody (solid : ∀ frame ∈ frames, ¬ frame.Hollow) :
    rules.Accepts (frameBody frames) := by
  refine ⟨?_, rfl, reads.last, ?_⟩
  · intro chunk member
    obtain ⟨frame, listed, made⟩ := List.mem_filterMap.mp member
    cases frame with
    | data bytes =>
      cases made
      exact ⟨chunkDigits_single, reads.sizes bytes, solid _ listed⟩
    | trailers headers | other => cases made
  · refine List.forall_mem_map.mpr fun entry _ => ?_
    obtain ⟨single, nonempty⟩ := headerLine_single
    exact ⟨single, reads.trailers entry, nonempty⟩

/-- The first frame without bytes is written as the end of the body. -/
theorem split_frameBody (hollow : ¬ ∀ frame ∈ frames, ¬ frame.Hollow) :
    ∃ body rest, rules.Accepts body ∧ (frameBody frames).encode = body.encode ++ rest ∧
      rest ≠ [] := by
  have splits : ∃ before bytes behind, frames = before ++ .data bytes :: behind ∧
      bytes.data = [] ∧ ∀ frame ∈ before, ¬ frame.Hollow := by
    induction frames with
    | nil => simp at hollow
    | cons frame frames ih =>
      by_cases first : frame.Hollow
      · cases frame with
        | data bytes => exact ⟨[], bytes, frames, rfl, first, by simp⟩
        | trailers headers | other => cases first
      · obtain ⟨before, bytes, behind, rfl, empty, solid⟩ := ih fun rest =>
          hollow (by simpa [first] using rest)
        exact ⟨frame :: before, bytes, behind, rfl, empty, by simpa [first] using solid⟩
  obtain ⟨before, bytes, behind, split, empty, solid⟩ := splits
  have digits : chunkDigits 0 = ascii "0" := by decide
  have front := accepts_frameBody reads before solid
  refine ⟨⟨before.filterMap Frame.chunk?, ascii "0", []⟩,
    (behind.filterMap Frame.chunk?).flatMap Chunked.Chunk.encode ++
      (ascii "0" ++ crlf ++ Chunked.encodeTrailers ((keptTrailers frames).map headerLine)),
    ⟨front.chunks, front.lastSingle, front.lastSized, by simp⟩, ?_, by simp [crlf]⟩
  simp [frameBody, split, Chunked.Body.encode, empty, digits, Chunked.Chunk.encode, crlf]

/-- What goes out chunked is one whole body exactly when every data frame carries bytes. -/
theorem whole_body_iff :
    (∃ body, rules.Accepts body ∧ (frameBody frames).encode = body.encode) ↔
      ∀ frame ∈ frames, ¬ frame.Hollow := by
  constructor
  · rintro ⟨body, accepted, same⟩
    by_contra hollow
    have decoder : ReadsWriter (decoderRules fun _ => True) := readsWriter_decoder fun _ => trivial
    obtain ⟨other, rest, decoded, split, more⟩ := split_frameBody decoder frames hollow
    have bytes : other.encode ++ rest = body.encode ++ [] := by rw [List.append_nil, ← same, split]
    exact more (Chunked.Rules.unique reads.agree decoded accepted bytes).2
  · exact fun solid => ⟨frameBody frames, accepts_frameBody reads frames solid, rfl⟩

end

end PdEdge.Downstream

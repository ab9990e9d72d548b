import PdEdge.Downstream.BodyWriter
import PdEdge.Upstream.Pull

/-!
# From the chunked writer to the chunked decoder

A body that the downstream writers send chunked, read back by the decoder of the client.
-/

namespace PdEdge

open Wire Downstream
open Upstream (PlainHttp1SenderPool PlainHttp1SenderLease PlainHttp1ResponseBody responseRules)

/-- The decoder takes every header line for a trailer. -/
theorem trailerEntry_headerLine (entry : HeaderName × HeaderValue) :
    ∃ decoded, Upstream.trailerEntry (headerLine entry) = .ok decoded := by
  obtain ⟨name, value⟩ := entry
  have noColon : (58 : UInt8) ∉ name.bytes := fun member =>
    absurd (name.token.2 58 member) (by decide +kernel)
  have line : headerLine (name, value) = name.bytes ++ 58 :: 32 :: value.bytes := by
    simp [headerLine, Text.ascii]
  have separator : (headerLine (name, value)).idxOf 58 = name.bytes.length := by
    rw [line, List.idxOf_append_of_notMem noColon]
    simp
  have visible : ∀ byte ∈ Upstream.trimAsciiStart (32 :: value.bytes),
    Rfc9112.isFieldByte byte := by
    intro byte member
    have inside := (List.dropWhile_sublist _).subset member
    exact List.forall_mem_cons.mpr ⟨by decide +kernel, value.visible⟩ byte inside
  have present : (58 : UInt8) ∈ headerLine (name, value) := by simp [line]
  refine ⟨(name, ⟨_, visible⟩), ?_⟩
  rw [Upstream.trailerEntry, if_neg (not_not.mpr present)]
  simp only [separator]
  have front : (headerLine (name, value)).take name.bytes.length = name.bytes := by
    rw [line, List.take_left]
  have behind : (headerLine (name, value)).drop (name.bytes.length + 1) = 32 :: value.bytes := by
    rw [line, ← List.drop_drop, List.drop_left]
    rfl
  rw [front, behind, HeaderName.fromBytes_bytes]
  simp only [HeaderValue.fromBytes, dif_pos (List.all_eq_true.mpr visible)]

/-- The decoder reads the lines the writers write. -/
theorem readsWriter_response : Downstream.ReadsWriter responseRules :=
  readsWriter_decoder trailerEntry_headerLine

section

variable {κ : Type}

/-- The decoder at the start of a chunked body on a connection that may be used again. -/
def chunkedBody (key : κ) (capacity : Nat) (reader : Reader IoError) : PlainHttp1ResponseBody κ :=
  .new (.new key capacity true reader) (.chunked .needSize)

theorem chunkedBody_eq (key : κ) (capacity : Nat) (reader : Reader IoError) :
    chunkedBody key capacity reader = PlainHttp1ResponseBody.holding
      ⟨key, capacity, true, false, none⟩ reader (.chunked .needSize) none := rfl

variable [DecidableEq κ]

/-- Pulls hand out pieces that make up the content, then find the end of the body, and the
connection goes to the pool with no byte left. -/
def ReadsBack (key : κ) (capacity : Nat) (reader : Reader IoError) (content : List UInt8) :
    Prop :=
  ∃ (pieces : List (List UInt8)) (after : Reader IoError) (pool : PlainHttp1SenderPool κ)
    (body : PlainHttp1ResponseBody κ),
    (chunkedBody key capacity reader).pulls (pieces.length + 1) .empty =
      (pieces.map (fun piece => .ready (some piece)) ++ [.ready none], pool, body) ∧
    pieces.flatten = content ∧ pool.connections key = [after] ∧ after.unread = []

/-- A lease that may be used again puts its connection into the empty pool. -/
theorem connections_released (key : κ) (capacity : Nat) (after : Reader IoError)
    (trailers : Option HeaderMap) :
    (PlainHttp1ResponseBody.released .empty ⟨key, capacity, true, false, none⟩ after
      trailers).1.connections key = [after] := by
  simp [PlainHttp1ResponseBody.released, PlainHttp1SenderLease.release, PlainHttp1SenderPool.put,
    PlainHttp1SenderPool.empty, PlainHttp1SenderPool.connections]

/-- A chunked body that the rules of the decoder accept is read back, in whatever reads it
arrives. -/
theorem readsBack_of_accepts (key : κ) (capacity : Nat) {reader : Reader IoError}
    {body : Chunked.Body} (accepted : responseRules.Accepts body)
    (arrives : reader.unread = body.encode) : ReadsBack key capacity reader body.content := by
  have remains : Upstream.PlainHttp1BodyKind.Remains responseRules (.chunked .needSize)
      body.encode body.content := .chunked (.size accepted)
  have whole : reader.unread = body.encode ++ [] := by rw [arrives, List.append_nil]
  unfold ReadsBack
  rw [chunkedBody_eq]
  obtain ⟨pieces, after, trailers', ran, content, behind⟩ :=
    PlainHttp1ResponseBody.pulls_of_remains (κ := κ) remains whole
  exact ⟨pieces, after, _, _, ran, content, connections_released key capacity after trailers',
    behind⟩

/-- What the chunked branch of a writer sends is read back as the bytes of the frames, in
whatever reads it arrives, exactly when no data frame is without bytes. -/
theorem chunked_roundTrip_iff (key : κ) (capacity : Nat) (reader : Reader IoError)
    (frames : List Bytes) (trailers : Option HeaderMap) (keepAlive : Bool)
    (arrives : reader.unread = (writeBody true (bodyFrames frames trailers) keepAlive).1) :
    ReadsBack key capacity reader (frames.flatMap Bytes.data) ↔
      ∀ frame ∈ frames, frame.data ≠ [] := by
  rw [writeBody_chunked] at arrives
  rw [← hollow_bodyFrames]
  constructor
  · rintro ⟨pieces, after, pool, body, ran, -, pooled, nothing⟩
    rw [chunkedBody_eq] at ran
    obtain ⟨used, final, trailers', same, remains, split⟩ :=
      PlainHttp1ResponseBody.remains_of_pulls ran
    have put := connections_released key capacity final trailers'
    rw [← same, pooled] at put
    cases put
    rw [nothing, List.append_nil, arrives] at split
    apply (whole_body_iff readsWriter_response _).mp
    cases remains with
    | chunked rest =>
      generalize pieces.flatten = content at rest
      cases rest with
      | @size body accepted => exact ⟨body, accepted, split⟩
  · intro solid
    have accepted := accepts_frameBody readsWriter_response _ solid
    have back := readsBack_of_accepts key capacity accepted arrives
    rwa [frameBody_content, payload_bodyFrames] at back

/-- Two frames and a trailer, in two reads. -/
theorem chunked_roundTrip_sample :
    ReadsBack () 1 ⟨[.data ⟨Text.ascii "\nc\r\n0\r\nte: x\r\n\r\n", by decide⟩],
      Text.ascii "2\r\nab\r\n1\r"⟩ (Text.ascii "abc") := by
  let first : Bytes := ⟨Text.ascii "ab", by decide⟩
  let second : Bytes := ⟨Text.ascii "c", by decide⟩
  let trailers : HeaderMap := [(⟨Text.ascii "te", by decide +kernel, by decide +kernel, by decide⟩,
    ⟨Text.ascii "x", by decide +kernel⟩)]
  exact (chunked_roundTrip_iff () 1 _ [first,
    second] (some trailers) true (by decide)).mpr (by decide)

/-- A frame without bytes ends the body for the decoder: what follows it is lost. -/
theorem hollow_frame_ends_body : ¬ ∀ (reader : Reader IoError) (frames : List Bytes),
    reader.unread = (writeBody true (bodyFrames frames none) true).1 →
    ReadsBack () 1 reader (frames.flatMap Bytes.data) := by
  intro roundTrip
  let hollow : Bytes := ⟨[], by decide⟩
  let solid : Bytes := ⟨Text.ascii "ab", by decide⟩
  obtain ⟨pieces, after, pool, body, ran, whole, -⟩ := roundTrip
    ⟨[], Text.ascii "0\r\n\r\n2\r\nab\r\n0\r\n\r\n"⟩ [hollow, solid] (by decide)
  cases pieces with
  | nil => cases whole
  | cons piece pieces =>
    have first := (List.cons.inj (Prod.mk.inj ran).1).1
    cases first

end

end PdEdge

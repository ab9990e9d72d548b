import PdEdge.Downstream.Consumption
import PdEdge.Upstream.Pull

/-!
# What the two chunked decoders accept

Bytes that a decoder has taken for a whole chunked body have the layout of one: every size
is that of the data behind its line, every chunk is followed by a line end, and sizes that
do not fit were refused. Whether they are a body by the standard hangs on the lines alone:
`from_str_radix` takes a plus sign, `trim` drops any white space, and neither extensions
nor, on the downstream side, trailers are looked at.
-/

namespace PdEdge

open Wire
open Downstream (FastHttp1RequestBodyState requestRules)
open Upstream (PlainHttp1SenderPool PlainHttp1SenderLease PlainHttp1ResponseBody responseRules)

/-- The bytes between two readers are a body that a decoder's rules accept, and it is one by
the standard exactly when its lines are. -/
structure TakenFor (rules : Chunked.Rules) (before after : Reader IoError)
    (content : List UInt8) (body : Chunked.Body) : Prop where
  accepted : rules.Accepts body
  used : before.unread = body.encode ++ after.unread
  content : body.content = content
  standard : Rfc9112.ChunkedBody body.encode ↔
    (∀ line ∈ body.sizeLines, Rfc9112.StrictLine line) ∧
    ∀ line ∈ body.trailers, Rfc9112.FieldLine line

/-- Whatever either decoder reports complete has the layout of a chunked body, and follows
the grammar of the standard exactly when its size lines and trailer lines do. -/
theorem chunked_acceptance {κ : Type} [DecidableEq κ] :
    (∀ (reader : Reader IoError) (budget : Nat) (pieces : List (List UInt8))
      (final : FastHttp1RequestBodyState),
      (FastHttp1RequestBodyState.live reader (.chunked .needSize) budget).pulls
          (pieces.length + 1) =
        (pieces.map (fun piece => .ready (some piece)) ++ [.ready none], final) →
      ∃ after left body, final = .live after (.fixed 0) left ∧
        TakenFor requestRules reader after pieces.flatten body) ∧
    ∀ (pool : PlainHttp1SenderPool κ) (lease : PlainHttp1SenderLease κ)
      (reader : Reader IoError) (pieces : List (List UInt8))
      (final : PlainHttp1SenderPool κ × PlainHttp1ResponseBody κ),
      (PlainHttp1ResponseBody.holding lease reader (.chunked .needSize) none).pulls
          (pieces.length + 1) pool =
        (pieces.map (fun piece => .ready (some piece)) ++ [.ready none], final) →
      ∃ after trailers body, final = PlainHttp1ResponseBody.released pool lease after trailers ∧
        TakenFor responseRules reader after pieces.flatten body := by
  constructor
  · intro reader budget pieces final ran
    obtain ⟨used, after, left, same, remains, split⟩ :=
      FastHttp1RequestBodyState.remains_of_pulls ran
    cases remains with
    | chunked rest =>
      generalize contents : pieces.flatten = content at rest
      cases rest with
      | @size body accepted =>
        exact ⟨after, left, body, same, accepted, split, rfl, chunkedBody_iff accepted⟩
  · intro pool lease reader pieces final ran
    obtain ⟨used, after, trailers, same, remains, split⟩ :=
      PlainHttp1ResponseBody.remains_of_pulls ran
    cases remains with
    | chunked rest =>
      generalize contents : pieces.flatten = content at rest
      cases rest with
      | @size body accepted =>
        exact ⟨after, trailers, body, same, accepted, split, rfl, chunkedBody_iff accepted⟩

/-- Both decoders at work on a body with an extension, and one whose size has a sign. -/
theorem chunked_acceptance_sample :
    (∃ after left body, ((FastHttp1RequestBodyState.live ⟨[], Text.ascii "2;x\r\nab\r\n0\r\n\r\nG"⟩
        (.chunked .needSize) 9).pulls 2).2 = .live after (.fixed 0) left ∧
      TakenFor requestRules ⟨[], Text.ascii "2;x\r\nab\r\n0\r\n\r\nG"⟩ after
        (Text.ascii "ab") body) ∧
    ∃ after trailers body, ((PlainHttp1ResponseBody.holding ⟨(), 1, true, false, none⟩
        ⟨[], Text.ascii "+2\r\nab\r\n0\r\n\r\n"⟩ (.chunked .needSize) none).pulls 2 .empty).2 =
        PlainHttp1ResponseBody.released .empty ⟨(), 1, true, false, none⟩ after trailers ∧
      TakenFor responseRules ⟨[], Text.ascii "+2\r\nab\r\n0\r\n\r\n"⟩ after
        (Text.ascii "ab") body := by
  have accepts := chunked_acceptance (κ := Unit)
  exact ⟨accepts.1 _ 9 [Text.ascii "ab"] _ rfl, accepts.2 .empty _ _ [Text.ascii "ab"] _ rfl⟩

/-- The decoders do not disagree: bytes that both report complete, in whatever reads they arrive,
have one content and one end. -/
theorem decoders_agree {κ : Type} [DecidableEq κ] {pool : PlainHttp1SenderPool κ}
    {lease : PlainHttp1SenderLease κ} {reader other : Reader IoError} {budget : Nat}
    {pieces parts : List (List UInt8)} {final : FastHttp1RequestBodyState}
    {last : PlainHttp1SenderPool κ × PlainHttp1ResponseBody κ} (same : reader.unread = other.unread)
    (request : (FastHttp1RequestBodyState.live reader (.chunked .needSize) budget).pulls
      (pieces.length + 1) = (pieces.map (fun piece => .ready (some piece)) ++ [.ready none], final))
    (response : (PlainHttp1ResponseBody.holding lease other (.chunked .needSize) none).pulls
      (parts.length + 1) pool =
        (parts.map (fun piece => .ready (some piece)) ++ [.ready none], last)) :
    pieces.flatten = parts.flatten ∧ ∃ after behind left trailers,
      final = .live after (.fixed 0) left ∧
      last = PlainHttp1ResponseBody.released pool lease behind trailers ∧
      after.unread = behind.unread := by
  obtain ⟨_, after, left, rfl, taken, used⟩ := FastHttp1RequestBodyState.remains_of_pulls request
  obtain ⟨_, behind, trailers, rfl, given, used'⟩ :=
    PlainHttp1ResponseBody.remains_of_pulls response
  generalize pieces.flatten = content at taken ⊢
  generalize parts.flatten = content' at given ⊢
  cases taken with
  | chunked taken =>
    cases taken with
    | size accepted =>
      cases given with
      | chunked given =>
        cases given with
        | size accepted' =>
          -- one body is at the front of the bytes, whichever rules accept it
          obtain ⟨rfl, rest⟩ := Chunked.Rules.unique decoderRules_agree accepted accepted'
            (used.symm.trans (same.trans used'))
          exact ⟨rfl, after, behind, left, trailers, rfl, rfl, rest⟩

/-- The same bytes in one read and in two: each decoder gives the content in its own pieces, and
both leave what is behind the body. -/
theorem decoders_agree_sample :
    let reader : Reader IoError := ⟨[], Text.ascii "2\r\nab\r\n0\r\n\r\nGET"⟩
    let other : Reader IoError :=
      ⟨[.data ⟨Text.ascii "b\r\n0\r\n\r\nGET", by decide⟩], Text.ascii "2\r\na"⟩
    let lease : PlainHttp1SenderLease Unit := ⟨(), 1, true, false, none⟩
    let request := (FastHttp1RequestBodyState.live reader (.chunked .needSize) 9).pulls 2
    let response := (PlainHttp1ResponseBody.holding lease other (.chunked .needSize) none).pulls 3
      .empty
    request.1 = [.ready (some (Text.ascii "ab")), .ready none] ∧
      response.1 = [.ready (some (Text.ascii "a")), .ready (some (Text.ascii "b")), .ready none] ∧
      [Text.ascii "ab"].flatten = [Text.ascii "a", Text.ascii "b"].flatten ∧
      ∃ after behind left trailers, request.2 = .live after (.fixed 0) left ∧
        response.2 = PlainHttp1ResponseBody.released .empty lease behind trailers ∧
        after.unread = behind.unread :=
  ⟨rfl, rfl, @decoders_agree Unit _ .empty ⟨(), 1, true, false, none⟩
    ⟨[], Text.ascii "2\r\nab\r\n0\r\n\r\nGET"⟩
    ⟨[.data ⟨Text.ascii "b\r\n0\r\n\r\nGET", by decide⟩], Text.ascii "2\r\na"⟩ 9
    [Text.ascii "ab"] [Text.ascii "a", Text.ascii "b"] _ _ rfl rfl rfl⟩

/-- A size with a plus sign is taken for a size, so a body that is none by the standard is
reported complete. -/
theorem signed_size_accepted : ¬ ∀ (reader after : Reader IoError) (budget left : Nat)
    (pieces : List (List UInt8)) (used : List UInt8),
    (FastHttp1RequestBodyState.live reader (.chunked .needSize) budget).pulls (pieces.length + 1) =
      (pieces.map (fun piece => .ready (some piece)) ++ [.ready none],
        .live after (.fixed 0) left) →
    reader.unread = used ++ after.unread → Rfc9112.ChunkedBody used := by
  intro strict
  have body := strict ⟨[], Text.ascii "+5\r\nhello\r\n0\r\n\r\n"⟩ ⟨[], []⟩ 9 4
    [Text.ascii "hello"] (Text.ascii "+5\r\nhello\r\n0\r\n\r\n") rfl rfl
  have accepted : requestRules.Accepts
      ⟨[⟨Text.ascii "+5", Text.ascii "hello"⟩], Text.ascii "0", []⟩ := by
    refine ⟨?_, rfl, rfl, by simp⟩
    intro chunk member
    rw [List.mem_singleton.mp member]
    exact ⟨rfl, rfl, by decide⟩
  have lines := ((chunkedBody_iff accepted).mp body).1 (Text.ascii "+5") (by decide)
  exact not_strictLine rfl lines

end PdEdge

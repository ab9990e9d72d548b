import PdEdge.State.Passthrough

/-!
# A body that is cut short

Once a read of a body has failed, a later operation must not tell that the body is complete.
Whether one does depends on the carrier alone. The HTTP/1.1 client and the fast path of the
server forget that a body was cut short, so that every failure of theirs is masked.
-/

namespace PdEdge.State

open Sources Wire Downstream.FastHttp1RequestBodyState List
open Downstream (Frame)
open Upstream (PlainHttp1ResponseBody PlainHttp1SenderPool PlainHttp1SenderLease PlainHttp1BodyKind)
open UpstreamResponseBodySource (upstreamSource)

/-! ## Frames -/

/-- Frames of a request fail and then end. -/
def Incoming.RequestMasks (incoming : Incoming) : Prop :=
  incoming.failing = none ∧ ∃ message, .failed message ∈ incoming.frames

/-- Frames of a response fail in front of their trailers and then end, with trailers or
without. -/
def Incoming.ResponseMasks (incoming : Incoming) : Prop :=
  ∃ before message after, incoming.frames = before ++ .failed message :: after ∧
    (∀ headers, .ready (.trailers headers) ∉ before) ∧
    (incoming.failing = none ∨ ∃ headers, .ready (.trailers headers) ∈ after)

/-- HTTP/3 data fails and then ends. -/
def Http3RequestStream.Masks (requestStream : Http3RequestStream) : Prop :=
  requestStream.failing = none ∧ ∃ message, .failed message ∈ requestStream.data

section

variable {κ : Type} [DecidableEq κ] {pool : PlainHttp1SenderPool κ} {trailers : Option HeaderMap}
variable {frames : List (Awaited String Frame)} {failing : Option String}

theorem comes_request : Comes inboundSource (some (.hyper ⟨frames, failing⟩)) ↔ failing = none := by
  induction frames with
  | nil =>
    cases failing with
    | none => exact iff_of_true (.now rfl) rfl
    | some message => exact iff_of_false (not_comes_of_stuck rfl (by simp)) (by simp)
  | cons frame frames ih =>
    rw [← ih]
    rcases frame with (_ | _ | _) | message | _
    all_goals exact comes_pull (by rintro ⟨⟩)

theorem masks_request (incoming : Incoming) :
    Masks inboundSource (some (.hyper incoming)) ↔ incoming.RequestMasks := by
  obtain ⟨frames, failing⟩ := incoming
  unfold Incoming.RequestMasks
  induction frames with
  | nil =>
    refine iff_of_false ?_ (by simp)
    cases failing with
    | none => exact not_masks_of_eof rfl
    | some message => exact not_masks_of_stuck rfl
  | cons frame frames ih =>
    rcases frame with (_ | _ | _) | message | _
    · exact (masks_pull nofun).trans (ih.trans (by simp))
    · exact (masks_pull nofun).trans (ih.trans (by simp))
    · exact (masks_pull nofun).trans (ih.trans (by simp))
    · refine (masks_failed rfl).trans ((or_congr comes_request ih).trans ?_)
      rw [or_iff_left_of_imp And.left]
      exact (and_iff_left ⟨message, mem_cons_self⟩).symm
    · exact (masks_pull nofun).trans (ih.trans (by simp))

theorem comes_response :
    Comes (upstreamSource κ) (pool, ⟨.hyper ⟨frames, failing⟩, trailers⟩) ↔
      failing = none ∨ ∃ headers, .ready (.trailers headers) ∈ frames := by
  induction frames with
  | nil =>
    cases failing with
    | none => exact iff_of_true (.now rfl) (Or.inl rfl)
    | some message => exact iff_of_false (not_comes_of_stuck rfl (by simp)) (by simp)
  | cons frame frames ih =>
    rcases frame with (_ | headers | _) | message | _
    · exact (comes_pull (by rintro ⟨⟩)).trans (ih.trans (by simp))
    · exact iff_of_true (.now rfl) (Or.inr ⟨headers, mem_cons_self⟩)
    all_goals exact (comes_pull (by rintro ⟨⟩)).trans (ih.trans (by simp))

/-- A frame in front that is neither trailers nor a failure changes nothing. -/
theorem responseMasks_cons {frame : Awaited String Frame}
    (fine : ∀ message, frame ≠ .failed message)
    (other : ∀ headers, frame ≠ .ready (.trailers headers)) :
    Incoming.ResponseMasks ⟨frame :: frames, failing⟩ ↔ Incoming.ResponseMasks ⟨frames,
      failing⟩ := by
  constructor
  · rintro ⟨before, message, after, same, none, ends⟩
    cases before with
    | nil =>
      cases same
      exact absurd rfl (fine message)
    | cons first before =>
      cases same
      exact ⟨before, message, after, rfl,
        fun headers member => none headers (mem_cons_of_mem _ member), ends⟩
  · rintro ⟨before, message, after, same, none, ends⟩
    refine ⟨frame :: before, message, after, congrArg (frame :: ·) same, ?_, ends⟩
    exact fun headers => not_mem_cons_of_ne_of_not_mem (fun first => other headers first.symm)
      (none headers)

theorem masks_response (incoming : Incoming) :
    Masks (upstreamSource κ) (pool, ⟨.hyper incoming, trailers⟩) ↔ incoming.ResponseMasks := by
  obtain ⟨frames, failing⟩ := incoming
  induction frames with
  | nil =>
    refine iff_of_false ?_ (by simp [Incoming.ResponseMasks])
    cases failing with
    | none => exact not_masks_of_eof rfl
    | some message => exact not_masks_of_stuck rfl
  | cons frame frames ih =>
    rcases frame with (bytes | headers | _) | message | _
    · exact (masks_pull nofun).trans (ih.trans (responseMasks_cons (by simp) (by simp)).symm)
    · refine iff_of_false (not_masks_of_eof rfl) ?_
      rintro ⟨before, message, after, same, none, -⟩
      cases before with
      | nil => cases same
      | cons first before =>
        cases same
        exact none headers mem_cons_self
    · exact (masks_pull nofun).trans (ih.trans (responseMasks_cons (by simp) (by simp)).symm)
    · refine (masks_failed rfl).trans ((or_congr (comes_response) ih).trans ?_)
      constructor
      · rintro (ends | ⟨before, message', after, rfl, none, ends⟩)
        · exact ⟨[], message, frames, rfl, by simp, ends⟩
        refine ⟨[], message, _, rfl, by simp, ?_⟩
        refine ends.imp_right ?_
        rintro ⟨headers, member⟩
        exact ⟨headers, mem_append_right _ (mem_cons_of_mem _ member)⟩
      rintro ⟨before, message', after, same, none, ends⟩
      left
      refine ends.imp_right ?_
      rintro ⟨headers, member⟩
      refine ⟨headers, ?_⟩
      have inside : .ready (.trailers headers) ∈ .failed message :: frames := by
        rw [show Awaited.failed message :: frames = _ from same]
        exact mem_append_right _ (mem_cons_of_mem _ member)
      simpa using inside
    · exact (masks_pull nofun).trans (ih.trans (responseMasks_cons (by simp) (by simp)).symm)

theorem comes_http3 {data : List (Awaited String (List UInt8))} {rest : Option HeaderMap} :
    Comes (upstreamSource κ) (pool, ⟨.http3 ⟨data, failing, rest⟩, trailers⟩) ↔ failing = none := by
  induction data with
  | nil =>
    cases failing with
    | none => exact iff_of_true (.now rfl) rfl
    | some message => exact iff_of_false (not_comes_of_stuck rfl (by simp)) (by simp)
  | cons piece data ih =>
    rw [← ih]
    rcases piece with bytes | message | _
    all_goals exact comes_pull (by rintro ⟨⟩)

theorem masks_http3 (requestStream : Http3RequestStream) :
    Masks (upstreamSource κ) (pool, ⟨.http3 requestStream, trailers⟩) ↔ requestStream.Masks := by
  obtain ⟨data, failing, rest⟩ := requestStream
  unfold Http3RequestStream.Masks
  induction data with
  | nil =>
    refine iff_of_false ?_ (by simp)
    cases failing with
    | none => exact not_masks_of_eof rfl
    | some message => exact not_masks_of_stuck rfl
  | cons piece data ih =>
    rcases piece with bytes | message | _
    · exact (masks_pull nofun).trans (ih.trans (by simp))
    · refine (masks_failed rfl).trans ((or_congr comes_http3 ih).trans ?_)
      rw [or_iff_left_of_imp And.left]
      exact (and_iff_left ⟨message, mem_cons_self⟩).symm
    · exact (masks_pull nofun).trans (ih.trans (by simp))

end

/-! ## The HTTP/1.1 client -/

section

open Upstream (responseRules)
open Upstream.PlainHttp1BodyKind (Advances Remains)
open Upstream.PlainHttp1ResponseBody (holding pullNext_pulls)

/-- A body arrives whole: up to an end of its own, or up to the end of the stream. -/
inductive Arrives (unread : List UInt8) (later : Socket IoError) : PlainHttp1BodyKind → Prop
  | past : Arrives unread later .done
  | closed (last : later = []) : Arrives unread later .closeDelimited
  | whole {kind : PlainHttp1BodyKind} {encoded content tail : List UInt8}
    (remains : Remains responseRules kind encoded content) (arrives : unread = encoded ++ tail) :
    Arrives unread later kind

variable {kind next : PlainHttp1BodyKind} {used yielded unread rest : List UInt8}
variable {later : Socket IoError}

theorem arrives_step (step : Advances kind used yielded next) :
    Arrives (used ++ unread) later kind ↔ Arrives unread later next := by
  constructor
  · intro arrives
    cases arrives with
    | past => cases step
    | closed last =>
      cases step with
      | closeDelimited => exact .closed last
    | whole remains arrives =>
      obtain ⟨encoded', content', remains', -, -, arrives'⟩ :=
        remains.along (decoderRules_agree) (.one step) arrives.symm
      exact .whole remains' arrives'
  · intro arrives
    cases arrives with
    | past => cases step
    | closed last =>
      cases step with
      | closeDelimited => exact .closed last
    | @whole _ encoded content tail remains arrives =>
      have before : used ++ unread = used ++ encoded ++ tail := by rw [arrives, append_assoc]
      exact .whole (step.before remains) before

theorem arrives_path (path : Chunked.Path Advances kind used yielded next) :
    Arrives (used ++ unread) later kind ↔ Arrives unread later next := by
  induction path with
  | refl => exact Iff.rfl
  | cons step rest ih =>
    rw [append_assoc, arrives_step step]
    exact ih

variable {κ : Type} [DecidableEq κ] {trailers : Option HeaderMap}

/-- A body of the client that is over ends. -/
theorem pull_over {pool : PlainHttp1SenderPool κ} {lease : PlainHttp1SenderLease κ}
    {recorded : Option HeaderMap} :
    (upstreamSource κ).pull (pool, ⟨.plainHttp1 ⟨lease, .done, recorded⟩, trailers⟩) =
      (.ready .eof, pool, ⟨.exhausted, recorded⟩) := by
  rfl

/-- The client masks the failure of a body that does not arrive whole. -/
theorem masks_plainHttp1 (pool : PlainHttp1SenderPool κ) (lease : PlainHttp1SenderLease κ)
    (reader : Reader IoError) (kind : PlainHttp1BodyKind) (recorded : Option HeaderMap)
    (awaited : ∀ rest, reader.later ≠ .dropped :: rest) :
    Masks (upstreamSource κ) (pool, ⟨.plainHttp1 (holding lease reader kind recorded), trailers⟩) ↔
      ¬ Arrives reader.unread reader.later kind := by
  induction measured : reader.unread.length using Nat.strongRecOn
    generalizing reader kind recorded with
  | ind size ih =>
    have pull := pullNext_pulls pool lease reader kind recorded
    have pulled : (upstreamSource κ).pull
        (pool, ⟨.plainHttp1 (holding lease reader kind recorded), trailers⟩) =
        UpstreamResponseBodySource.pullPlainHttp1 trailers
          ((holding lease reader kind recorded).pullNext pool) := rfl
    generalize (holding lease reader kind recorded).pullNext pool = result at pull pulled
    cases pull with
    | @intro used middle next recorded' result path split later takes =>
      rw [split, arrives_path path, ← later]
      cases takes with
      | idle past =>
        subst past
        refine iff_of_false (not_masks_of_eof (by rw [pulled]; rfl)) (not_not.mpr .past)
      | @deliver data after last nonempty step split' later' =>
        rw [masks_pull (by rw [pulled]; nofun), pulled, split', arrives_step step, ← later']
        apply ih _ _ after last recorded' _ rfl
        · have some := length_pos_of_ne_nil nonempty
          rw [← measured, split, split', length_append, length_append]
          omega
        · rwa [later', later]
      | @finished ending chunk after ends split' later' =>
        have whole : Arrives middle.unread middle.later next := .whole ends.remains split'
        refine iff_of_false ?_ (not_not.mpr whole)
        cases chunk with
        | none => exact not_masks_of_eof (by rw [pulled]; rfl)
        | some data =>
          rw [masks_pull (by rw [pulled]; nofun), pulled]
          exact not_masks_of_eof (congrArg Prod.fst (pull_over))
      | closed close nothing last =>
        subst close
        refine iff_of_false (not_masks_of_eof (by rw [pulled]; rfl)) (not_not.mpr (.closed last))
      | @refused lease' err holds bad framed =>
        refine iff_of_true (.now (by rw [pulled]; rfl) ?_) ?_
        · rw [pulled]
          exact .now (congrArg Prod.fst (pull_over))
        intro arrives
        cases arrives with
        | past => exact framed.1 rfl
        | closed last => exact framed.2 rfl
        | whole remains arrives => exact bad _ _ _ remains arrives
      | failed short last =>
        refine iff_of_true (.now (by rw [pulled]; rfl) ?_) ?_
        · rw [pulled]
          exact .now (congrArg Prod.fst (pull_over))
        intro arrives
        cases arrives with
        | past => exact short rfl
        | closed none =>
          rw [last] at none
          cases none
        | whole remains arrives => exact PlainHttp1ResponseBody.remains_short short remains arrives
      | dropped short last =>
        rw [later] at last
        exact absurd last (awaited _)

end

/-! ## The fast path -/

section

open Downstream (FastHttp1StreamingBodyKind)

/-- The fast path masks the failure of a body that does not arrive whole and within its
budget. -/
theorem masks_leased (reader : Reader IoError) (kind : FastHttp1StreamingBodyKind) (budget : Nat)
    (awaited : ∀ rest, reader.later ≠ .dropped :: rest) :
    Masks inboundSource (some (.leased ⟨some (live reader kind budget), false⟩)) ↔
      ¬ ∃ content rest, Owes reader kind budget content rest := by
  induction measured : reader.unread.length using Nat.strongRecOn
    generalizing reader kind budget with
  | ind size ih =>
    have pull := pullNext_pulls reader kind budget
    generalize pullLoop.trace (live reader kind budget) = trace at pull
    generalize pulled : (live reader kind budget).pullNext = result at pull
    -- a failure ends the stream of the body
    have fails {err : Downstream.FastHttp1ReadError} {next : Downstream.FastHttp1RequestBodyState}
        (broke : result = (.failed err, next)) :
        Masks inboundSource (some (.leased ⟨some (live reader kind budget), false⟩)) := by
      rw [broke] at pulled
      have polled : inboundSource.pull (some (.leased ⟨some (live reader kind budget), false⟩)) =
          pullPolled (.failed err, ⟨some next, true⟩) := by
        rw [← poll_last pulled (by simp)]
        rfl
      refine .now (by rw [polled]; rfl) ?_
      rw [polled]
      exact .now rfl
    cases pull with
    | @intro used middle next left result before path split later calm takes =>
      rw [exists_owes_iff path split]
      cases takes with
      | @deliver data after last calm nonempty step split' later' lower =>
        have polled : inboundSource.pull (some (.leased ⟨some (live reader kind budget), false⟩)) =
            pullPolled (.ready (some data), ⟨some (live after last left), false⟩) := by
          rw [← poll_data pulled]
          rfl
        rw [masks_pull (by rw [polled]; nofun), polled]
        rw [exists_owes_iff (.one step) split']
        apply ih _ _ after last left _ rfl
        · have some := length_pos_of_ne_nil nonempty
          rw [← measured, split, split', length_append, length_append]
          omega
        · rwa [later', later]
      | @finished ending after calm ends split' later' =>
        have polled : inboundSource.pull (some (.leased ⟨some (live reader kind budget), false⟩)) =
            pullPolled (.ready none, ⟨some (live after (.fixed 0) left), true⟩) := by
          rw [← poll_last pulled (by simp)]
          rfl
        refine iff_of_false (not_masks_of_eof (by rw [polled]; rfl)) (not_not.mpr ?_)
        have whole : Owes middle next left [] after.unread := by
          cases ends with
          | fixed => exact ⟨⟨[], .fixed rfl, split'⟩, trivial⟩
          | chunked => exact ⟨⟨_, .chunked (Chunked.Rest.ending _), split'⟩, Nat.zero_le _⟩
        exact ⟨[], after.unread, whole⟩
      | refused calm bad =>
        refine iff_of_true (fails rfl) ?_
        rintro ⟨content, rest, owes⟩
        obtain ⟨encoded, remains, arrives⟩ := owes.remains
        exact bad _ _ _ remains arrives
      | exceeded exceeds =>
        refine iff_of_true (fails rfl) ?_
        rintro ⟨content, rest, owes⟩
        exact owes.within exceeds
      | failed short last =>
        refine iff_of_true (fails rfl) ?_
        rintro ⟨content, rest, owes⟩
        exact short owes.enough
      | dropped short last =>
        rw [later] at last
        exact absurd last (awaited _)

end

/-! ## Whole lives of a body -/

/-- The body of a request that never tells its end after a failure. -/
def InboundRequestBodyState.Honest (body : InboundRequestBodyState) : Prop :=
  ∀ ops, ¬ Masked (reads inboundSource ops body.stream body.source).1

theorem honest_request_iff (body : Body) :
    (InboundRequestBodyState.new body).Honest ↔ ¬ Masks inboundSource (some body) := by
  constructor
  · intro honest masks
    obtain ⟨count, masked⟩ := masked_of_masks masks .default rfl
    exact honest _ masked
  · intro never ops
    exact (reads_sound (Or.inr never)).1

variable {κ : Type} [DecidableEq κ]

/-- What whoever asked for all frames of a body is told. -/
def passReport : Awaited VmError (List PassedFrame) → Report
  | .ready _ => .ended
  | .failed _ => .failed
  | .dropped => .dropped

namespace UpstreamResponseBodyState

/-- The frames of a body that is sent on. -/
def sentOn (stream : BufferedByteStream) (carried : Carried κ) :
    Awaited VmError (List PassedFrame) :=
  ((takeStreamingPassthrough ⟨carried.2, stream⟩).1.drain carried.1).1

/-- What a program is told that reads a body, and then whoever the body is sent on to, if it
is sent on. -/
def reports (body : UpstreamResponseBodyState κ) (pool : PlainHttp1SenderPool κ)
    (ops : List BodyOp) (passes : Bool) : List Report :=
  let ran := BodyOp.runs ops body.stream (pool, body.source)
  if passes then ran.1 ++ [passReport (sentOn ran.2.1 ran.2.2)] else ran.1

/-- The body of a response that never tells its end after a failure. -/
def Honest (body : UpstreamResponseBodyState κ) (pool : PlainHttp1SenderPool κ) : Prop :=
  ∀ ops passes, ¬ Masked (body.reports pool ops passes)

/-- The last report masks a failure among those before it. -/
theorem masked_concat {reports : List Report} {last : Report} (masked : Masked (reports ++ [last])) :
    Masked reports ∨ .failed ∈ reports ∧ last = .ended := by
  induction reports with
  | nil =>
    rw [nil_append, masked_cons] at masked
    rcases masked with ⟨-, ended⟩ | masked
    · cases ended
    · cases masked.ended
  | cons report reports ih =>
    rw [cons_append, masked_cons] at masked
    rw [masked_cons]
    rcases masked with ⟨failed, ended⟩ | masked
    · rcases mem_append.mp ended with inside | outside
      · exact Or.inl (Or.inl ⟨failed, inside⟩)
      · refine Or.inr ⟨?_, (mem_singleton.mp outside).symm⟩
        rw [failed]
        exact mem_cons_self
    · rcases ih masked with masked | ⟨failed, ended⟩
      · exact Or.inl (Or.inr masked)
      · exact Or.inr ⟨mem_cons_of_mem _ failed, ended⟩

theorem honest_of_sound {body : UpstreamResponseBodyState κ} {pool : PlainHttp1SenderPool κ}
    (sound : Sound (upstreamSource κ) body.stream (pool, body.source)) : body.Honest pool := by
  intro ops passes
  obtain ⟨honest, quiet⟩ := reads_sound sound
  rw [← BodyOp.runs_eq] at honest quiet
  unfold reports
  generalize BodyOp.runs ops body.stream (pool, body.source) = ran at honest quiet ⊢
  cases passes with
  | false => exact honest
  | true =>
    intro masked
    rcases masked_concat masked with masked | ⟨failed, ended⟩
    · exact honest masked
    -- frames that end come from a source that ends
    obtain ⟨-, never⟩ := quiet failed
    have drained := StreamingUpstreamResponseBodyState.drainLoop_drained [] ran.2.2.1
      (takeStreamingPassthrough ⟨ran.2.2.2, ran.2.1⟩).1 rfl
    change StreamingUpstreamResponseBodyState.Drained _ _ _ (sentOn ran.2.1 ran.2.2) at drained
    generalize sentOn ran.2.1 ran.2.2 = result at drained ended
    cases drained with
    | whole ends content => exact never ends.comes
    | broke breaks | hung hangs => cases ended

theorem honest_source_iff (source : UpstreamResponseSource κ) (pool : PlainHttp1SenderPool κ)
    (contentLength : Option Nat) :
    (fromSource source contentLength).Honest pool ↔
      contentLength = some 0 ∨ ¬ Masks (upstreamSource κ) (pool, ⟨source, none⟩) := by
  unfold fromSource
  split
  · rename_i zero
    exact iff_of_true (honest_of_sound (Or.inl rfl)) (Or.inl zero)
  rename_i other
  rw [or_iff_right other]
  constructor
  · intro honest masks
    obtain ⟨count, masked⟩ := masked_of_masks masks .default rfl
    apply honest (replicate (count + 1) .all) false
    simp only [reports, BodyOp.runs_eq, map_replicate, Bool.false_eq_true, ↓reduceIte]
    exact masked
  · intro never
    exact honest_of_sound (Or.inr never)

/-- An end is never told after a failure exactly for these bodies: of a response over hyper
or HTTP/3 and of a request over hyper, those whose frames do not end behind a failure; of a
response over HTTP/1.1 and of a request on the fast path, those that arrive whole. A response
that announces no bytes is not read at all. -/
theorem failures_stay_visible_iff (pool : PlainHttp1SenderPool κ) (contentLength : Option Nat) :
    (∀ incoming, (fromHyper incoming contentLength).Honest pool ↔
      contentLength = some 0 ∨ ¬ incoming.ResponseMasks) ∧
    (∀ requestStream, (fromHttp3 requestStream contentLength).Honest pool ↔
      contentLength = some 0 ∨ ¬ requestStream.Masks) ∧
    (∀ lease reader kind, (∀ rest, reader.later ≠ .dropped :: rest) →
      ((fromPlainHttp1 (.holding lease reader kind none) contentLength).Honest pool ↔
        contentLength = some 0 ∨ Arrives reader.unread reader.later kind)) ∧
    (∀ incoming, (InboundRequestBodyState.new (.hyper incoming)).Honest ↔ ¬ incoming.RequestMasks) ∧
    (∀ reader kind budget, (∀ rest, reader.later ≠ .dropped :: rest) →
      ((InboundRequestBodyState.new (.leased ⟨some (.live reader kind budget), false⟩)).Honest ↔
        ∃ content rest, Downstream.FastHttp1RequestBodyState.Owes reader kind budget content
          rest)) := by
  refine ⟨?_, ?_, ?_, ?_, ?_⟩
  · intro incoming
    have honest := honest_source_iff (.hyper incoming) pool contentLength
    rwa [masks_response] at honest
  · intro requestStream
    have honest := honest_source_iff (.http3 requestStream) pool contentLength
    rwa [masks_http3] at honest
  · intro lease reader kind awaited
    have masks := @masks_plainHttp1 κ _ none pool lease reader kind none awaited
    have honest := honest_source_iff (.plainHttp1 (.holding lease reader kind none)) pool
      contentLength
    rwa [masks, not_not] at honest
  · intro incoming
    rw [honest_request_iff, masks_request]
  · intro reader kind budget awaited
    rw [honest_request_iff, masks_leased reader kind budget awaited, not_not]

/-- Two of five bytes arrive before the connection closes. -/
theorem failures_stay_visible_sample :
    let lease : PlainHttp1SenderLease Unit := ⟨(), 8, true, false, none⟩
    let reader : Reader IoError := ⟨[], Text.ascii "ab"⟩
    (∀ rest, reader.later ≠ .dropped :: rest) ∧
    ((fromPlainHttp1 (.holding lease reader (.fixed 5) none) (some 5)).Honest .empty ↔
      some 5 = some 0 ∨ Arrives reader.unread reader.later (.fixed 5)) := by
  intro lease reader
  exact ⟨nofun, (failures_stay_visible_iff .empty (some 5)).2.2.1 lease reader (.fixed 5) nofun⟩

/-- The program is told that the first read failed and by the second that these are all bytes;
so is a program that reads a request. -/
theorem truncated_body_told_complete :
    let lease : PlainHttp1SenderLease Unit := ⟨(), 8, true, false, none⟩
    let reader : Reader IoError := ⟨[], Text.ascii "ab"⟩
    (fromPlainHttp1 (.holding lease reader (.fixed 5) none) (some 5)).reports .empty [.all, .all]
      false = [.failed, .ended] ∧
    (reads inboundSource [.all, .all] .default
      (some (.leased ⟨some (.live reader (.fixed 5) 1024), false⟩))).1 = [.failed, .ended] := by
  decide

end UpstreamResponseBodyState

end PdEdge.State

import PdEdge.State.Truncation

/-!
# Sending a whole body on

Whatever a program has read of a response body is still in the buffer, so what is sent on is
the buffer and then the rest. The frames that come out are therefore those of the source read
from its start to its end, with the trailers it met there.
-/

namespace PdEdge.State

open Sources Wire UpstreamResponseBodyState StreamingUpstreamResponseBodyState
open Downstream (Frame)
open Upstream (PlainHttp1ResponseBody PlainHttp1SenderPool PlainHttp1SenderLease PlainHttp1BodyKind
  Awaits FieldOf withFields)
open UpstreamResponseBodySource (upstreamSource)

/-! ## The buffer holds what was read -/

section

variable {σ : Type} {source : Source σ VmError} {start state : σ} {stream : BufferedByteStream}

/-- The buffer of a stream holds what its source gave so far. -/
inductive Taken (source : Source σ VmError) (start : σ) (stream : BufferedByteStream) (state : σ) :
    Prop
  | part (running : stream.eof = false) (gives : Gives source start stream.buffered state)
  | whole (eof : stream.eof = true) (ends : Ends source start stream.buffered state)

/-- An operation that does not fail keeps it so. -/
theorem Taken.after {result : Report × BufferedByteStream × σ}
    (taken : Taken source start stream state) (does : Reads source stream state result)
    (fine : result.1 ≠ .failed ∧ result.1 ≠ .dropped) :
    Taken source start result.2.1 result.2.2 := by
  cases does with
  | more gives buffered same told =>
    cases taken with
    | part running given =>
      refine .part (same.trans running) ?_
      rw [buffered]
      exact given.trans gives
    | whole eof ends =>
      obtain ⟨rfl, rfl⟩ := gives.of_stuck ends.stuck
      refine .whole (same.trans eof) ?_
      rwa [buffered, List.append_nil]
  | ended running ends buffered eof told =>
    cases taken with
    | part _ given =>
      obtain ⟨last, rest, ended⟩ := ends
      refine .whole eof ⟨last, ?_, ended⟩
      rw [buffered]
      exact given.trans rest
    | whole past _ =>
      rw [running] at past
      cases past
  | broke running breaks => exact absurd rfl fine.1
  | hung running hangs => exact absurd rfl fine.2

theorem Taken.reads (ops : List Read) (taken : Taken source start stream state)
    (fine : ∀ report ∈ (reads source ops stream state).1, report ≠ .failed ∧ report ≠ .dropped) :
    Taken source start (State.reads source ops stream state).2.1
      (State.reads source ops stream state).2.2 := by
  induction ops generalizing stream state with
  | nil => exact taken
  | cons read ops ih =>
    simp only [State.reads, List.mem_cons] at fine
    have one := taken.after (read.run_reads stream state) (fine _ (Or.inl rfl))
    exact ih one fun report member => fine report (Or.inr member)

/-- What the source still gives up to its end belongs behind the buffer. -/
theorem Taken.ends {data : List UInt8} {final : σ} (taken : Taken source start stream state)
    (rest : Ends source state data final) : Ends source start (stream.buffered ++ data) final := by
  cases taken with
  | part running gives =>
    obtain ⟨last, given, ended⟩ := rest
    exact ⟨last, gives.trans given, ended⟩
  | whole eof ends =>
    have stuck := ends.stuck
    obtain ⟨last, given, ended⟩ := rest
    obtain ⟨rfl, rfl⟩ := given.of_stuck stuck
    cases ended.symm.trans stuck
    rwa [List.append_nil]

/-- A source that ends from its start still does. -/
theorem Taken.rest {data : List UInt8} {final : σ} (taken : Taken source start stream state)
    (ends : Ends source start data final) : ∃ data final, Ends source state data final := by
  cases taken with
  | part running gives =>
    obtain ⟨rest, -, ended⟩ := ends.after gives
    exact ⟨rest, final, ended⟩
  | whole eof ended => exact ⟨[], state, state, .refl state, ended.stuck⟩

end

/-! ## What is sent on -/

/-- Data frames with this content and then these trailers, if there are any. -/
def Exact (frames : List PassedFrame) (content : List UInt8) (trailers : Option HeaderMap) :
    Prop :=
  ∃ pieces : List (List UInt8),
    frames = pieces.map .data ++ trailers.toList.map .trailers ∧ pieces.flatten = content

/-- The content of a frame. -/
def PassedFrame.bytes : PassedFrame → List UInt8
  | .data bytes => bytes
  | .trailers _ => []

def PassedFrame.headers : PassedFrame → Option HeaderMap
  | .data _ => none
  | .trailers headers => some headers

section

variable {κ : Type} [DecidableEq κ] {start carried : Carried κ} {stream : BufferedByteStream}

theorem sentOn_drained (stream : BufferedByteStream) (carried : Carried κ) :
    StreamingUpstreamResponseBodyState.Drained carried.1
      ⟨some stream.buffered, carried.2, false⟩ [] (sentOn stream carried) := by
  have drained := drainLoop_drained [] carried.1
    (takeStreamingPassthrough ⟨carried.2, stream⟩).1 rfl
  change StreamingUpstreamResponseBodyState.Drained _ _ _ (sentOn stream carried) at drained
  have same : (takeStreamingPassthrough ⟨carried.2, stream⟩).1.buffered = stream.buffered := by
    by_cases empty : stream.buffered = []
    all_goals simp [takeStreamingPassthrough, buffered, empty]
  generalize sentOn stream carried = result at drained ⊢
  cases drained with
  | whole ends content => exact .whole ends (content.trans (by rw [same]; rfl))
  | broke breaks => exact .broke breaks
  | hung hangs => exact .hung hangs

variable (taken : Taken (upstreamSource κ) start stream carried)
include taken

/-- Frames that come to an end are those of the whole source. -/
theorem sentOn_ready {frames : List PassedFrame} (sent : sentOn stream carried = .ready frames) :
    ∃ data final, Ends (upstreamSource κ) start data final ∧
      Exact frames data final.2.trailers := by
  have drained := sentOn_drained stream carried
  rw [sent] at drained
  cases drained with
  | @whole pieces data final ends content => exact ⟨_, final, taken.ends ends, pieces, rfl, content⟩

/-- Frames come to an end where the source does. -/
theorem sentOn_of_ends {data : List UInt8} {final : Carried κ}
    (ends : Ends (upstreamSource κ) start data final) :
    ∃ frames, sentOn stream carried = .ready frames := by
  obtain ⟨rest, final', ends⟩ := taken.rest ends
  have drained := sentOn_drained stream carried
  generalize sentOn stream carried = result at drained
  cases drained with
  | whole => exact ⟨_, rfl⟩
  | broke breaks => exact absurd breaks ends.not_breaks
  | hung hangs => exact absurd hangs ends.not_hangs

end

/-! ## What the upstream sends -/

/-- Frames of hyper with this content and these trailers. -/
inductive Incoming.Carries : Incoming → List UInt8 → Option HeaderMap → Prop
  | ended : Carries ⟨[], none⟩ [] none
  | trailers {headers : HeaderMap} {frames : List (Awaited String Frame)}
    {failing : Option String} :
    Carries ⟨.ready (.trailers headers) :: frames, failing⟩ [] (some headers)
  | data {bytes : Bytes} {frames : List (Awaited String Frame)} {failing : Option String}
    {content : List UInt8} {trailers : Option HeaderMap}
    (rest : Carries ⟨frames, failing⟩ content trailers) :
    Carries ⟨.ready (.data bytes) :: frames, failing⟩ (bytes.data ++ content) trailers
  | other {frames : List (Awaited String Frame)} {failing : Option String}
    {content : List UInt8} {trailers : Option HeaderMap}
    (rest : Carries ⟨frames, failing⟩ content trailers) :
    Carries ⟨.ready .other :: frames, failing⟩ content trailers

/-- An upstream sends this content and these trailers over a carrier. -/
inductive Sends {κ : Type} : UpstreamResponseSource κ → List UInt8 → Option HeaderMap → Prop
  | hyper {incoming : Incoming} {content : List UInt8} {trailers : Option HeaderMap}
    (carries : incoming.Carries content trailers) : Sends (.hyper incoming) content trailers
  /-- A body in HTTP/1.1 by the standard, or one that ends with the connection. -/
  | plainHttp1 {lease : PlainHttp1SenderLease κ} {reader : Reader IoError}
    {kind : PlainHttp1BodyKind} {rest content : List UInt8} {lines : List (List UInt8)}
    {fields : HeaderMap} (awaits : Awaits rest kind reader.unread content lines)
    (read : List.Forall₂ FieldOf lines fields) :
    Sends (.plainHttp1 (.holding lease reader kind none)) content (withFields none fields)
  /-- A response without a body. -/
  | bodiless {lease : PlainHttp1SenderLease κ} :
    Sends (.plainHttp1 ⟨lease, .done, none⟩) [] none
  | http3 {pieces : List (List UInt8)} {trailers : Option HeaderMap} :
    Sends (.http3 ⟨pieces.map .ready, none, trailers⟩) pieces.flatten trailers

def UpstreamResponseSource.isHttp3 {κ : Type} : UpstreamResponseSource κ → Bool
  | .http3 _ => true
  | _ => false

section

variable {κ : Type} [DecidableEq κ] {pool : PlainHttp1SenderPool κ} {final : Carried κ}
variable {data content : List UInt8} {trailers captured : Option HeaderMap}

theorem ends_hyper {incoming : Incoming} (carries : incoming.Carries content trailers)
    (ends : Ends (upstreamSource κ) (pool, ⟨.hyper incoming, none⟩) data final) :
    data = content ∧ final.2.trailers = trailers := by
  induction carries generalizing data with
  | ended | trailers =>
    obtain ⟨rfl, rfl⟩ := ends.of_eof rfl
    exact ⟨rfl, rfl⟩
  | data rest ih =>
    obtain ⟨more, rfl, behind⟩ := ends.of_chunk rfl
    obtain ⟨rfl, same⟩ := ih behind
    exact ⟨rfl, same⟩
  | other rest ih => exact ih (ends.of_skip rfl)

variable {pieces : List (List UInt8)}

theorem ends_http3
    (ends : Ends (upstreamSource κ) (pool, ⟨.http3 ⟨pieces.map .ready, none, trailers⟩, none⟩)
      data final) : data = pieces.flatten ∧ final.2.trailers = none := by
  induction pieces generalizing data with
  | nil =>
    obtain ⟨rfl, rfl⟩ := ends.of_eof rfl
    exact ⟨rfl, rfl⟩
  | cons piece pieces ih =>
    obtain ⟨more, rfl, behind⟩ := ends.of_chunk rfl
    obtain ⟨rfl, same⟩ := ih behind
    exact ⟨rfl, same⟩

theorem ends_plainHttp1 {lease : PlainHttp1SenderLease κ} {reader : Reader IoError}
    {kind : PlainHttp1BodyKind} {rest : List UInt8} {lines : List (List UInt8)}
    {recorded : Option HeaderMap} (awaits : Awaits rest kind reader.unread content lines)
    (ends : Ends (upstreamSource κ)
      (pool, ⟨.plainHttp1 (.holding lease reader kind recorded), captured⟩) data final) :
    data = content ∧ ∃ fields, List.Forall₂ FieldOf lines fields ∧
      final.2.trailers = withFields recorded fields := by
  induction shorter : content.length using Nat.strongRecOn
    generalizing data content reader kind lines recorded with
  | ind size ih =>
    have decodes : PlainHttp1ResponseBody.Decodes pool lease rest content recorded lines
        ((PlainHttp1ResponseBody.holding lease reader kind recorded).pullNext pool) :=
      PlainHttp1ResponseBody.pullNext_decodes awaits
    have pulled : (upstreamSource κ).pull
        (pool, ⟨.plainHttp1 (.holding lease reader kind recorded), captured⟩) =
        UpstreamResponseBodySource.pullPlainHttp1 captured
          ((PlainHttp1ResponseBody.holding lease reader kind recorded).pullNext pool) := rfl
    generalize (PlainHttp1ResponseBody.holding lease reader kind recorded).pullNext pool =
      result at decodes pulled
    cases decodes with
    | @piece bytes content' after next recorded' lines' nonempty same left record =>
      obtain ⟨more, rfl, behind⟩ := ends.of_chunk pulled
      have less : content'.length < size := by
        have some := List.length_pos_of_ne_nil nonempty
        rw [← shorter, same, List.length_append]
        omega
      obtain ⟨rfl, fields', read', last⟩ := ih _ less left behind rfl
      obtain ⟨front, fields, rfl, read, rfl⟩ := record
      refine ⟨same.symm, fields ++ fields', List.rel_append read read', ?_⟩
      rw [last, Upstream.withFields_append]
    | @last chunk after recorded' some same behind record =>
      obtain ⟨front, fields, lines, read, rfl⟩ := record
      rw [List.append_nil] at lines
      subst lines
      cases chunk with
      | none =>
        obtain ⟨rfl, rfl⟩ := ends.of_eof pulled
        exact ⟨same.symm, fields, read, rfl⟩
      | some bytes =>
        obtain ⟨more, rfl, behind⟩ := ends.of_chunk pulled
        obtain ⟨rfl, rfl⟩ := behind.of_eof (pull_over)
        exact ⟨by rw [List.append_nil]; exact same.symm, fields, read, rfl⟩
    | failed => exact absurd ⟨_, .refl _, pulled⟩ ends.not_breaks
    | dropped => exact absurd ⟨_, .refl _, pulled⟩ ends.not_hangs

/-- HTTP/3 data without a failure comes to its end. -/
theorem http3_ends (pool : PlainHttp1SenderPool κ) {trailers captured : Option HeaderMap} :
    ∃ data final, Ends (upstreamSource κ)
      (pool, ⟨.http3 ⟨pieces.map .ready, none, trailers⟩, captured⟩) data final := by
  induction pieces with
  | nil => exact ⟨[], _, _, .refl _, rfl⟩
  | cons piece pieces ih =>
    obtain ⟨data, final, last, gives, ended⟩ := ih
    exact ⟨piece ++ data, final, last, .chunk rfl gives, ended⟩

/-- Trailers that a carrier's end is read with; those of HTTP/3 stay in the stream. -/
theorem ends_sends {source : UpstreamResponseSource κ} (sends : Sends source content trailers)
    (ends : Ends (upstreamSource κ) (pool, ⟨source, none⟩) data final)
    (read : source.isHttp3 → trailers = none) :
    data = content ∧ final.2.trailers = trailers := by
  cases sends with
  | hyper carries => exact ends_hyper carries ends
  | plainHttp1 awaits fields =>
    obtain ⟨same, fields', fields'', last⟩ := ends_plainHttp1 awaits ends
    rw [Upstream.fields_unique fields fields'']
    exact ⟨same, last⟩
  | bodiless =>
    obtain ⟨rfl, rfl⟩ := ends.of_eof (pull_over)
    exact ⟨rfl, rfl⟩
  | http3 =>
    rw [read rfl] at ends ⊢
    exact ends_http3 ends

end

/-! ## Completeness -/

/-- The content and the trailers of frames are determined by them. -/
theorem Exact.unique {frames : List PassedFrame} {content content' : List UInt8}
    {trailers trailers' : Option HeaderMap} (one : Exact frames content trailers)
    (other : Exact frames content' trailers') : content = content' ∧ trailers = trailers' := by
  have reads {content : List UInt8} {trailers : Option HeaderMap}
      (exact : Exact frames content trailers) :
      content = frames.flatMap PassedFrame.bytes ∧
        trailers.toList = frames.filterMap PassedFrame.headers := by
    obtain ⟨pieces, rfl, rfl⟩ := exact
    constructor
    · cases trailers <;> simp [List.flatMap, Function.comp_def, PassedFrame.bytes]
    · cases trailers <;> simp [List.filterMap_map, Function.comp_def, PassedFrame.headers]
  obtain ⟨bytes, headers⟩ := reads one
  obtain ⟨bytes', headers'⟩ := reads other
  refine ⟨bytes.trans bytes'.symm, ?_⟩
  have same := headers.trans headers'.symm
  cases trailers with
  | none =>
    cases trailers' with
    | none => rfl
    | some headers => cases same
  | some headers =>
    cases trailers' with
    | none => cases same
    | some headers' =>
      cases same
      rfl

variable {κ : Type} [DecidableEq κ]

namespace UpstreamResponseBodyState

/-- After any operations none of which failed, a body that is sent on comes out with this
content and these trailers, and it comes to its end if its carrier does. -/
def PassesOn (body : UpstreamResponseBodyState κ) (pool : PlainHttp1SenderPool κ)
    (content : List UInt8) (trailers : Option HeaderMap) : Prop :=
  ∀ ops, (∀ report ∈ (BodyOp.runs ops body.stream (pool, body.source)).1,
      report ≠ .failed ∧ report ≠ .dropped) →
    let sent := sentOn (BodyOp.runs ops body.stream (pool, body.source)).2.1
      (BodyOp.runs ops body.stream (pool, body.source)).2.2
    (∀ frames, sent = .ready frames → Exact frames content trailers) ∧
    ((∃ data final, Ends (upstreamSource κ) (pool, body.source) data final) →
      ∃ frames, sent = .ready frames)

theorem passesOn_iff {body : UpstreamResponseBodyState κ} {pool : PlainHttp1SenderPool κ}
    {content : List UInt8} {trailers : Option HeaderMap}
    (fresh : Taken (upstreamSource κ) (pool, body.source) body.stream (pool, body.source)) :
    body.PassesOn pool content trailers ↔
      ∀ data final, Ends (upstreamSource κ) (pool, body.source) data final →
        data = content ∧ final.2.trailers = trailers := by
  constructor
  · intro passes data final ends
    obtain ⟨exact, comes⟩ := passes [] (by simp [BodyOp.runs])
    obtain ⟨frames, sent⟩ := comes ⟨data, final, ends⟩
    obtain ⟨data', final', ends', read⟩ := sentOn_ready fresh sent
    obtain ⟨rfl, rfl⟩ := ends.unique ends'
    exact read.unique (exact frames sent)
  intro determined ops fine
  rw [BodyOp.runs_eq] at fine
  have taken := fresh.reads (ops.map BodyOp.asRead) fine
  rw [← BodyOp.runs_eq] at taken
  refine ⟨?_, ?_⟩
  · intro frames sent
    obtain ⟨data, final, ends, read⟩ := sentOn_ready taken sent
    obtain ⟨rfl, rfl⟩ := determined data final ends
    exact read
  · rintro ⟨data, final, ends⟩
    exact sentOn_of_ends taken ends

/-- A body is sent on whole exactly if its announced length is not zero while there is
something to send, and it has no trailers when it comes over HTTP/3. -/
theorem passthrough_complete_iff {source : UpstreamResponseSource κ} {content : List UInt8}
    {trailers : Option HeaderMap} (sends : Sends source content trailers)
    (pool : PlainHttp1SenderPool κ) (contentLength : Option Nat) :
    (fromSource source contentLength).PassesOn pool content trailers ↔
      (contentLength = some 0 → content = [] ∧ trailers = none) ∧
        (source.isHttp3 → trailers = none) := by
  unfold fromSource
  split
  · rename_i zero
    have nothing : Ends (upstreamSource κ) (pool, .default) [] (pool, .default) := ⟨_, .refl _, rfl⟩
    have fresh : Taken (upstreamSource κ) (pool, .default) { BufferedByteStream.default with
        eof := true } (pool, .default) := .whole rfl nothing
    rw [passesOn_iff fresh]
    constructor
    · intro determined
      obtain ⟨empty, none⟩ := determined [] _ nothing
      exact ⟨fun _ => ⟨empty.symm, none.symm⟩, fun _ => none.symm⟩
    rintro ⟨empty, -⟩ data final ends
    obtain ⟨rfl, rfl⟩ := ends.unique nothing
    obtain ⟨rfl, rfl⟩ := empty zero
    exact ⟨rfl, rfl⟩
  · rename_i other
    have fresh : Taken (upstreamSource κ) (pool, ⟨source, none⟩) .default
        (pool, ⟨source, none⟩) := .part rfl (.refl _)
    rw [passesOn_iff fresh]
    constructor
    · intro determined
      refine ⟨fun zero => absurd zero other, fun carried => ?_⟩
      cases sends with
      | @http3 pieces trailers =>
        obtain ⟨data, final, ends⟩ := http3_ends pool
        rw [← (determined data final ends).2, (ends_http3 ends).2]
      | hyper carries | plainHttp1 awaits read | bodiless => cases carried
    · rintro ⟨-, read⟩ data final ends
      exact ends_sends sends ends read

/-- A body of hyper in two frames with trailers, of which a line was read. -/
theorem passthrough_complete_sample :
    let incoming : Incoming := ⟨[.ready (.data ⟨Text.ascii "a\nb", by decide⟩),
      .ready (.trailers [(.connection, .textPlain)])], none⟩
    (fromSource (.hyper incoming) none : UpstreamResponseBodyState Unit).PassesOn .empty
      (Text.ascii "a\nb") (some [(.connection, .textPlain)]) := by
  refine (passthrough_complete_iff (.hyper (.data .trailers)) .empty none).mpr ⟨nofun, nofun⟩

/-- Trailers of HTTP/3 are not read, and those of a response that announces no bytes are not
looked at. -/
theorem trailers_not_sent_on :
    let headers : HeaderMap := [(.connection, .textPlain)]
    let overHttp3 : UpstreamResponseBodyState Unit := fromHttp3 ⟨[], none, some headers⟩ none
    let announced : UpstreamResponseBodyState Unit :=
      fromHyper ⟨[.ready (.trailers headers)], none⟩ (some 0)
    (sentOn overHttp3.stream (.empty, overHttp3.source) = .ready [] ∧
      Sends (.http3 ⟨[], none, some headers⟩ : UpstreamResponseSource Unit) [] (some headers)) ∧
    (sentOn announced.stream (.empty, announced.source) = .ready [] ∧
      Sends (.hyper ⟨[.ready (.trailers headers)], none⟩ : UpstreamResponseSource Unit) []
        (some headers)) := by
  refine ⟨⟨rfl, @Sends.http3 Unit [] _⟩, rfl, .hyper .trailers⟩

end UpstreamResponseBodyState

end PdEdge.State

import PdEdge.State.UpstreamBody

/-!
# Sending an upstream body on

`take_streaming_passthrough` takes what was buffered of a body and its source; `next_frame`
gives the buffered bytes, then what the source still gives, then the trailers. `drain` is
what a consumer gets that asks for frames until there are no more.
-/

namespace PdEdge.State

open Iteration Sources Wire
open Upstream (PlainHttp1SenderPool)
open UpstreamResponseBodySource (upstreamSource left pullNext_eof pullNext_exhausted)

section

variable {σ : Type} (source : Source σ VmError)

/-- The loop of `next_frame`: the next bytes, or the end. -/
def pieceLoop : Loop σ (Awaited VmError (Option (List UInt8)) × σ) where
  turn state :=
    match source.pull state with
    | (.ready (.chunk bytes), next) =>
      if bytes ≠ [] then .leave (.ready (some bytes), next) else .again next
    | (.ready .skip, next) => .again next
    | (.ready .eof, next) => .leave (.ready none, next)
    | (.failed err, next) => .leave (.failed err, next)
    | (.dropped, next) => .leave (.dropped, next)
  measure := source.measure
  lowers state next turned := by
    split at turned
    · rename_i bytes after pulled
      split at turned
      · cases turned
      · cases turned
        exact Source.lower pulled (by simp)
    · rename_i after pulled
      cases turned
      exact Source.lower pulled (by simp)
    all_goals cases turned

/-- Everything the loop can do. -/
inductive Piece (state : σ) : Awaited VmError (Option (List UInt8)) × σ → Prop
  | bytes {bytes : List UInt8} {next : σ} (nonempty : bytes ≠ [])
    (gives : Gives source state bytes next) : Piece state (.ready (some bytes), next)
  | ended {next : σ} (ends : Ends source state [] next) : Piece state (.ready none, next)
  | broke {err : VmError} {next : σ} (breaks : Breaks source state [] err next) :
    Piece state (.failed err, next)
  | hung {next : σ} (hangs : Hangs source state [] next) : Piece state (.dropped, next)

variable {source} {state middle : σ}

/-- A pull without bytes stands in front of what the loop does next. -/
theorem Piece.front {result : Awaited VmError (Option (List UInt8)) × σ}
    (gives : ∀ {data last}, Gives source middle data last → Gives source state data last)
    (piece : Piece source middle result) : Piece source state result := by
  cases piece with
  | bytes nonempty rest => exact .bytes nonempty (gives rest)
  | ended ends =>
    obtain ⟨last, rest, ended⟩ := ends
    exact .ended ⟨last, gives rest, ended⟩
  | broke breaks =>
    obtain ⟨last, rest, broke⟩ := breaks
    exact .broke ⟨last, gives rest, broke⟩
  | hung hangs =>
    obtain ⟨last, rest, hung⟩ := hangs
    exact .hung ⟨last, gives rest, hung⟩

/-- The loop does nothing else. -/
theorem pieceLoop_piece (source : Source σ VmError) (state : σ) :
    Piece source state ((pieceLoop source).run state) := by
  induction state using (pieceLoop source).run_induct with
  | left state result turned =>
    rw [(pieceLoop source).run_leave turned]
    simp only [pieceLoop] at turned
    split at turned
    · rename_i bytes after pulled
      split at turned
      · rename_i nonempty
        cases turned
        have gives : Gives source state (bytes ++ []) after := .chunk pulled (.refl after)
        rw [List.append_nil] at gives
        exact .bytes nonempty gives
      · cases turned
    · cases turned
    · rename_i after pulled
      cases turned
      exact .ended ⟨state, .refl state, pulled⟩
    · rename_i err after pulled
      cases turned
      exact .broke ⟨state, .refl state, pulled⟩
    · rename_i after pulled
      cases turned
      exact .hung ⟨state, .refl state, pulled⟩
  | again state next turned ih =>
    rw [(pieceLoop source).run_again turned]
    simp only [pieceLoop] at turned
    split at turned
    · rename_i bytes after pulled
      split at turned
      · cases turned
      rename_i empty
      cases turned
      have none : bytes = [] := by simpa using empty
      subst none
      exact ih.front fun rest => .chunk pulled rest
    · rename_i after pulled
      cases turned
      exact ih.front fun rest => .skip pulled rest
    all_goals cases turned

end

/-- `Frame<Bytes>` as `next_frame` makes it. -/
inductive PassedFrame where
  | data (bytes : List UInt8)
  | trailers (headers : HeaderMap)

/-- `StreamingUpstreamResponseBodyState`. -/
structure StreamingUpstreamResponseBodyState (κ : Type) where
  prefixBytes : Option (List UInt8)
  source : UpstreamResponseBodySource κ
  trailersSent : Bool

variable {κ : Type} [DecidableEq κ]

/-- `take_streaming_passthrough`. -/
def UpstreamResponseBodyState.takeStreamingPassthrough (body : UpstreamResponseBodyState κ) :
    StreamingUpstreamResponseBodyState κ × UpstreamResponseBodyState κ :=
  (⟨if body.stream.buffered = [] then none else some body.stream.buffered, body.source, false⟩,
    ⟨.default, .default⟩)

namespace StreamingUpstreamResponseBodyState

/-- What `next_frame` does behind the loop. -/
def frameOf (sent : Bool) : Awaited VmError (Option (List UInt8)) × Carried κ →
    Awaited VmError (Option PassedFrame) × PlainHttp1SenderPool κ ×
      StreamingUpstreamResponseBodyState κ
  | (.ready (some bytes), pool, source) => (.ready (some (.data bytes)), pool, ⟨none, source, sent⟩)
  | (.ready none, pool, source) =>
    match sent, source.trailers with
    | false, some trailers =>
      (.ready (some (.trailers trailers)), pool, ⟨none, { source with trailers := none }, true⟩)
    | _, _ => (.ready none, pool, ⟨none, source, sent⟩)
  | (.failed err, pool, source) => (.failed err, pool, ⟨none, source, sent⟩)
  | (.dropped, pool, source) => (.dropped, pool, ⟨none, source, sent⟩)

/-- `next_frame`. -/
def nextFrame (pool : PlainHttp1SenderPool κ) (body : StreamingUpstreamResponseBodyState κ) :
    Awaited VmError (Option PassedFrame) × PlainHttp1SenderPool κ ×
      StreamingUpstreamResponseBodyState κ :=
  match body.prefixBytes with
  | some (byte :: bytes) =>
    (.ready (some (.data (byte :: bytes))), pool, { body with prefixBytes := none })
  | _ => frameOf body.trailersSent ((pieceLoop (upstreamSource κ)).run (pool, body.source))

/-- The bytes of the prefix. -/
def buffered (body : StreamingUpstreamResponseBodyState κ) : List UInt8 :=
  body.prefixBytes.getD []

section

variable {pool : PlainHttp1SenderPool κ} {body : StreamingUpstreamResponseBodyState κ}

/-- Everything `next_frame` can do. -/
inductive Frames (pool : PlainHttp1SenderPool κ) (body : StreamingUpstreamResponseBodyState κ) :
    Awaited VmError (Option PassedFrame) × PlainHttp1SenderPool κ ×
      StreamingUpstreamResponseBodyState κ → Prop
  | buffered (kept : body.buffered ≠ []) :
    Frames pool body (.ready (some (.data body.buffered)), pool, { body with prefixBytes := none })
  | bytes {bytes : List UInt8} {next : Carried κ} (replayed : body.buffered = [])
    (nonempty : bytes ≠ []) (gives : Gives (upstreamSource κ) (pool, body.source) bytes next) :
    Frames pool body (.ready (some (.data bytes)), next.1, ⟨none, next.2, body.trailersSent⟩)
  | trailers {headers : HeaderMap} {next : Carried κ} (replayed : body.buffered = [])
    (ends : Ends (upstreamSource κ) (pool, body.source) [] next)
    (unsent : body.trailersSent = false) (captured : next.2.trailers = some headers) :
    Frames pool body (.ready (some (.trailers headers)), next.1,
      ⟨none, { next.2 with trailers := none }, true⟩)
  | ended {next : Carried κ} (replayed : body.buffered = [])
    (ends : Ends (upstreamSource κ) (pool, body.source) [] next)
    (rest : body.trailersSent = true ∨ next.2.trailers = none) :
    Frames pool body (.ready none, next.1, ⟨none, next.2, body.trailersSent⟩)
  | broke {err : VmError} {next : Carried κ} (replayed : body.buffered = [])
    (breaks : Breaks (upstreamSource κ) (pool, body.source) [] err next) :
    Frames pool body (.failed err, next.1, ⟨none, next.2, body.trailersSent⟩)
  | hung {next : Carried κ} (replayed : body.buffered = [])
    (hangs : Hangs (upstreamSource κ) (pool, body.source) [] next) :
    Frames pool body (.dropped, next.1, ⟨none, next.2, body.trailersSent⟩)

theorem frameOf_frames (replayed : body.buffered = [])
    {result : Awaited VmError (Option (List UInt8)) × Carried κ}
    (piece : Piece (upstreamSource κ) (pool, body.source) result) :
    Frames pool body (frameOf body.trailersSent result) := by
  cases piece with
  | bytes nonempty gives => exact .bytes replayed nonempty gives
  | @ended next ends =>
    cases sent : body.trailersSent with
    | true =>
      have past : Frames pool body (.ready none, next.1, ⟨none, next.2, body.trailersSent⟩) :=
        .ended replayed ends (Or.inl sent)
      rwa [sent] at past
    | false =>
      cases captured : next.2.trailers with
      | none =>
        have past : Frames pool body (.ready none, next.1, ⟨none, next.2, body.trailersSent⟩) :=
          .ended replayed ends (Or.inr captured)
        simpa only [frameOf, captured, sent] using past
      | some headers =>
        have last := Frames.trailers replayed ends sent captured
        simpa only [frameOf, captured] using last
  | broke breaks => exact .broke replayed breaks
  | hung hangs => exact .hung replayed hangs

/-- `next_frame` does nothing else. -/
theorem nextFrame_frames (pool : PlainHttp1SenderPool κ)
    (body : StreamingUpstreamResponseBodyState κ) : Frames pool body (body.nextFrame pool) := by
  have piece := pieceLoop_piece (upstreamSource κ) (pool, body.source)
  obtain ⟨_ | _ | ⟨byte, bytes⟩, source, sent⟩ := body
  · exact frameOf_frames rfl piece
  · exact frameOf_frames rfl piece
  · exact @Frames.buffered κ _ pool ⟨some (byte :: bytes), source, sent⟩ (by simp [buffered])

end

/-- At its end a source is exhausted. -/
theorem exhausted_of_ends {carried final : Carried κ} {data : List UInt8}
    (ends : Ends (upstreamSource κ) carried data final) : final.2.source = .exhausted := by
  obtain ⟨last, gives, ended⟩ := ends
  have exhausted := @pullNext_eof κ _ last (congrArg Prod.fst ended)
  rwa [show UpstreamResponseBodySource.pullNext last = _ from ended] at exhausted

/-- Behind the trailers comes nothing. -/
theorem nextFrame_sent (pool : PlainHttp1SenderPool κ) {source : UpstreamResponseBodySource κ}
    (past : source.source = .exhausted) :
    nextFrame pool ⟨none, source, true⟩ = (.ready none, pool, ⟨none, source, true⟩) := by
  have pulled : (upstreamSource κ).pull (pool, source) = (.ready .eof, pool, source) :=
    @pullNext_exhausted κ _ (pool, source) past
  have left : (pieceLoop (upstreamSource κ)).run (pool, source) = (.ready none, pool, source) := by
    apply (pieceLoop (upstreamSource κ)).run_leave
    simp only [pieceLoop, pulled]
  simp only [nextFrame, left, frameOf]

/-- What is left to send. -/
def toSend (pool : PlainHttp1SenderPool κ) (body : StreamingUpstreamResponseBodyState κ) : Nat :=
  (if body.buffered = [] then 0 else 1) + left (pool, body.source) +
    if body.trailersSent then 0 else 1

/-- Every frame leaves less to send. -/
theorem nextFrame_lowers {pool pool' : PlainHttp1SenderPool κ}
    {body body' : StreamingUpstreamResponseBodyState κ} {frame : PassedFrame}
    (framed : body.nextFrame pool = (.ready (some frame), pool', body')) :
    toSend pool' body' < toSend pool body := by
  have frames := nextFrame_frames pool body
  rw [framed] at frames
  cases frames with
  | buffered kept =>
    have replayed : ({ body with prefixBytes := none } :
      StreamingUpstreamResponseBodyState κ).buffered = [] := rfl
    simp [toSend, kept, replayed]
  | @bytes bytes next replayed nonempty gives =>
    have less : left next < left (pool, body.source) := gives.measure_lt nonempty
    have nothing : (⟨none, next.2, body.trailersSent⟩ :
      StreamingUpstreamResponseBodyState κ).buffered = [] := rfl
    have same : left (next.1, next.2) = left next := rfl
    simp only [toSend, replayed, nothing, same]
    omega
  | @trailers headers next replayed ends unsent captured =>
    have past := exhausted_of_ends ends
    have nothing : left (next.1, { next.2 with trailers := none }) = 0 := by simp only [left, past]
    simp [toSend, nothing, unsent, StreamingUpstreamResponseBodyState.buffered]

variable (κ) in
/-- Ask for frames until there are no more. -/
def drainLoop : Loop
    (List PassedFrame × PlainHttp1SenderPool κ × StreamingUpstreamResponseBodyState κ)
    (Awaited VmError (List PassedFrame) × PlainHttp1SenderPool κ) where
  turn state :=
    match state.2.2.nextFrame state.2.1 with
    | (.ready (some frame), pool, body) => .again (state.1 ++ [frame], pool, body)
    | (.ready none, pool, _) => .leave (.ready state.1, pool)
    | (.failed err, pool, _) => .leave (.failed err, pool)
    | (.dropped, pool, _) => .leave (.dropped, pool)
  measure state := toSend state.2.1 state.2.2
  lowers state next turned := by
    split at turned
    · rename_i framed
      cases turned
      exact nextFrame_lowers framed
    all_goals cases turned

/-- The frames a consumer of a body gets. -/
def drain (pool : PlainHttp1SenderPool κ) (body : StreamingUpstreamResponseBodyState κ) :
    Awaited VmError (List PassedFrame) × PlainHttp1SenderPool κ :=
  (drainLoop κ).run ([], pool, body)

/-- Everything a consumer can get, by what the source gives. -/
inductive Drained (pool : PlainHttp1SenderPool κ) (body : StreamingUpstreamResponseBodyState κ)
    (before : List PassedFrame) : Awaited VmError (List PassedFrame) → Prop
  | whole {pieces : List (List UInt8)} {data : List UInt8} {final : Carried κ}
    (ends : Ends (upstreamSource κ) (pool, body.source) data final)
    (content : pieces.flatten = body.buffered ++ data) :
    Drained pool body before (.ready (before ++ pieces.map .data ++
      final.2.trailers.toList.map .trailers))
  | broke {data : List UInt8} {err : VmError} {final : Carried κ}
    (breaks : Breaks (upstreamSource κ) (pool, body.source) data err final) :
    Drained pool body before (.failed err)
  | hung {data : List UInt8} {final : Carried κ}
    (hangs : Hangs (upstreamSource κ) (pool, body.source) data final) :
    Drained pool body before .dropped

/-- A consumer gets nothing else. -/
theorem drainLoop_drained (before : List PassedFrame) (pool : PlainHttp1SenderPool κ)
    (body : StreamingUpstreamResponseBodyState κ) (unsent : body.trailersSent = false) :
    Drained pool body before ((drainLoop κ).run (before, pool, body)).1 := by
  generalize start : (before, pool, body) = state
  induction state using (drainLoop κ).run_induct generalizing before pool body with
  | left state result turned =>
    rw [(drainLoop κ).run_leave turned]
    subst start
    have frames := nextFrame_frames pool body
    simp only [drainLoop] at turned
    generalize body.nextFrame pool = framed at frames turned
    cases frames with
    | buffered kept | bytes replayed nonempty gives | trailers replayed ends unsent captured =>
      cases turned
    | @ended next replayed ends rest =>
      cases turned
      have none : next.2.trailers = none := by
        rcases rest with sent | none
        · rw [unsent] at sent
          cases sent
        · exact none
      have whole := @Drained.whole κ _ pool body before [] [] next ends (by rw [replayed]; rfl)
      simpa [none] using whole
    | broke replayed breaks =>
      cases turned
      exact .broke breaks
    | hung replayed hangs =>
      cases turned
      exact .hung hangs
  | again state next turned ih =>
    rw [(drainLoop κ).run_again turned]
    subst start
    have frames := nextFrame_frames pool body
    simp only [drainLoop] at turned
    generalize body.nextFrame pool = framed at frames turned
    cases frames with
    | buffered kept =>
      cases turned
      have rest := ih _ pool { body with prefixBytes := none } unsent rfl
      generalize ((drainLoop κ).run _).1 = result at rest ⊢
      cases rest with
      | @whole pieces data final ends content =>
        have whole := @Drained.whole κ _ pool body before (body.buffered :: pieces) data final ends
          (by rw [List.flatten_cons, content]; rfl)
        simpa using whole
      | broke breaks => exact .broke breaks
      | hung hangs => exact .hung hangs
    | @bytes bytes next replayed nonempty gives =>
      cases turned
      have rest := ih _ next.1 ⟨none, next.2, body.trailersSent⟩ unsent rfl
      generalize ((drainLoop κ).run _).1 = result at rest ⊢
      cases rest with
      | @whole pieces data final ends content =>
        obtain ⟨last, more, ended⟩ := ends
        have whole := @Drained.whole κ _ pool body before (bytes :: pieces) (bytes ++ data) final
          ⟨last, gives.trans more, ended⟩
          (by rw [List.flatten_cons, content, replayed]; rfl)
        simpa using whole
      | broke breaks =>
        obtain ⟨last, more, broke⟩ := breaks
        exact .broke ⟨last, gives.trans more, broke⟩
      | hung hangs =>
        obtain ⟨last, more, hung⟩ := hangs
        exact .hung ⟨last, gives.trans more, hung⟩
    | @trailers headers next replayed ends unsent captured =>
      cases turned
      have sent := @nextFrame_sent κ _ next.1 { next.2 with trailers := none }
        (exhausted_of_ends ends)
      have leaves : (drainLoop κ).run (before ++ [.trailers headers], next.1,
          ⟨none, { next.2 with trailers := none }, true⟩) =
          (.ready (before ++ [.trailers headers]), next.1) := by
        apply (drainLoop κ).run_leave
        simp only [drainLoop, sent]
      rw [leaves]
      have whole := @Drained.whole κ _ pool body before [] [] next ends (by rw [replayed]; rfl)
      simpa [captured] using whole
    | ended replayed ends rest | broke replayed breaks | hung replayed hangs => cases turned

end StreamingUpstreamResponseBodyState

end PdEdge.State

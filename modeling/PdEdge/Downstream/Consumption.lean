import PdEdge.Downstream.Recovery

/-!
# Exact consumption of a request body

On a stream that starts with a well-formed body, the pulls hand out its content in order
and `finish` leaves the connection at the first byte behind it. Conversely, pulls that
reach the end of a chunked body have used a body in the sense of the decoder's own rules.
-/

namespace PdEdge.Downstream

open Wire Chunked FastHttp1StreamingBodyKind List Text

/-- A well-formed request body: its framing, its bytes on the wire and its content. -/
inductive WellFormed (budget : Nat) :
    FastHttp1StreamingBodyKind → List UInt8 → List UInt8 → Prop
  | fixed {bytes : List UInt8} : WellFormed budget (.fixed bytes.length) bytes bytes
  | chunked {body : Chunked.Body} (accepted : Rfc9112.rules.Accepts body)
    (text : ∀ line ∈ body.sizeLines, (Text.fromUtf8 line).isSome)
    (within : body.content.length ≤ budget) :
    WellFormed budget (.chunked .needSize) body.encode body.content

/-- The bytes that pulls handed out. -/
def delivered (results : List Pulled) : List UInt8 :=
  results.flatMap fun
    | .ready (some data) => data
    | _ => []

namespace FastHttp1RequestBodyState

/-- The unread bytes start with what is left of a body that the budget allows. -/
structure Owes (reader : Reader IoError) (kind : FastHttp1StreamingBodyKind) (budget : Nat)
    (content rest : List UInt8) : Prop where
  remains : ∃ encoded, Remains requestRules kind encoded content ∧ reader.unread = encoded ++ rest
  affords : Affords kind budget content

section

variable {reader after : Reader IoError} {kind next : FastHttp1StreamingBodyKind}
variable {budget left : Nat} {used yielded content rest : List UInt8}

/-- Steps hand out content from the front. -/
theorem Owes.along (owes : Owes reader kind budget content rest)
    (path : Path Advances (kind, budget) used yielded (next, left))
    (split : reader.unread = used ++ after.unread) :
    ∃ content', content = yielded ++ content' ∧ Owes after next left content' rest := by
  obtain ⟨encoded, remains, arrives⟩ := owes.remains
  obtain ⟨encoded', content', remains', -, rfl, arrives'⟩ :=
    remains.along (decoderRules_agree) path (arrives.symm.trans split)
  exact ⟨content', rfl, ⟨encoded', remains', arrives'⟩, affords_along path owes.affords⟩

/-- In front of what is owed stands what steps hand out. -/
theorem Owes.before (owes : Owes after next left content rest)
    (path : Path Advances (kind, budget) used yielded (next, left))
    (split : reader.unread = used ++ after.unread) :
    Owes reader kind budget (yielded ++ content) rest := by
  obtain ⟨encoded, remains, arrives⟩ := owes.remains
  refine ⟨⟨used ++ encoded, remains.before path, ?_⟩, affords_before path owes.affords⟩
  rw [split, arrives, append_assoc]

theorem exists_owes_iff (path : Path Advances (kind, budget) used yielded (next, left))
    (split : reader.unread = used ++ after.unread) :
    (∃ content rest, Owes reader kind budget content rest) ↔
      ∃ content rest, Owes after next left content rest := by
  constructor
  · rintro ⟨content, rest, owes⟩
    obtain ⟨content', -, owes'⟩ := owes.along path split
    exact ⟨content', rest, owes'⟩
  · rintro ⟨content, rest, owes⟩
    exact ⟨_, rest, owes.before path split⟩

variable (owes : Owes reader kind budget content rest)
include owes

/-- Where a turn finds the body complete, all content has been handed out. -/
theorem Owes.ended (ends : Ends kind used) (split : reader.unread = used ++ after.unread) :
    content = [] ∧ after.unread = rest := by
  obtain ⟨encoded, remains, arrives⟩ := owes.remains
  rw [arrives] at split
  cases ends with
  | fixed =>
    cases remains with
    | fixed full =>
      have nothing := eq_nil_of_length_eq_zero full
      subst nothing
      exact ⟨rfl, split.symm⟩
  | chunked =>
    cases remains with
    | chunked body =>
      obtain ⟨-, nothing, behind⟩ := Rest.endAfter body split
      exact ⟨nothing, behind⟩

/-- A turn has the bytes it needs. -/
theorem Owes.enough : kind.enough reader.unread := by
  obtain ⟨encoded, remains, arrives⟩ := owes.remains
  by_contra short
  exact remains_short short remains arrives

/-- A turn stays within the budget. -/
theorem Owes.within : ¬ kind.overBudget budget reader.unread := by
  obtain ⟨encoded, remains, arrives⟩ := owes.remains
  have affords := owes.affords
  by_cases announces : kind = .chunked .needSize
  · subst announces
    cases remains with
    | chunked body =>
      obtain ⟨line, size, more, rfl, single, sized, small⟩ := Rest.sizeLine body
      rw [append_assoc] at arrives
      rw [overBudget_of_line arrives single, sized]
      simp only [Affords, FastHttp1ChunkedState.place, Place.pending] at affords
      simp only [Except.toOption, Option.any_some, decide_eq_true_eq]
      omega
  · simp [overBudget_of_ne announces]

/-- A pull hands out the next of the content, or finds the end when there is none left. -/
theorem Owes.pull :
    ∃ after next left piece content',
      (live reader kind budget).pullNext = (.ready piece, live after next left) ∧
      after.later = reader.later ∧ Owes after next left content' rest ∧
      content = piece.getD [] ++ content' ∧ (piece = none → content' = [] ∧ after.unread = rest) := by
  have pull := pullNext_pulls reader kind budget
  generalize (live reader kind budget).pullNext = result at pull ⊢
  generalize pullLoop.trace (live reader kind budget) = trace at pull
  cases pull with
  | @intro used middle next left result before path split later calm takes =>
    obtain ⟨content, rfl, owes⟩ := owes.along path split
    cases takes with
    | @deliver data after last calm nonempty step split' later' =>
      obtain ⟨content', rfl, owes'⟩ := owes.along (.one step) split'
      refine ⟨after, last, left, some data, content', rfl, later'.trans later, owes', rfl, ?_⟩
      simp
    | @finished ending after calm ends split' later' =>
      obtain ⟨rfl, behind⟩ := owes.ended ends split'
      have owes' : Owes after (.fixed 0) left [] rest := ⟨⟨[], .fixed rfl, behind⟩, trivial⟩
      exact ⟨after, .fixed 0, left, none, [], rfl, later'.trans later, owes', rfl,
        fun _ => ⟨rfl, behind⟩⟩
    | refused calm bad =>
      obtain ⟨encoded, remains, arrives⟩ := owes.remains
      exact absurd arrives (bad _ _ _ remains)
    | exceeded exceeds => exact absurd exceeds owes.within
    | failed short last | dropped short last => exact absurd owes.enough short

/-- Draining hands out the rest of the content and stops at the end of the body. -/
theorem Owes.finish :
    ∃ final, (live reader kind budget).finish = .ready (.ofReader final) ∧
      final.unread = rest ∧ final.later = reader.later := by
  have drained : ∃ final next left,
      (live reader kind budget).drainRemaining = (.ready (), live final next left) ∧
      final.unread = rest ∧ final.later = reader.later := by
    refine drainLoop.run_invariant
      (fun state => ∃ after next left content, state = live after next left ∧
        Owes after next left content rest ∧ after.later = reader.later)
      (fun value => ∃ final next left, value = (.ready (), live final next left) ∧
        final.unread = rest ∧ final.later = reader.later) ?_ ?_ _
      ⟨reader, kind, budget, content, rfl, owes, rfl⟩
    · rintro state next ⟨after, kind', left, content, rfl, owes, later⟩ turned
      obtain ⟨final, last, finalLeft, piece, content', pulled, later', owes', -, -⟩ := owes.pull
      simp only [drainLoop, pulled] at turned
      cases piece with
      | none => cases turned
      | some data =>
        cases turned
        exact ⟨final, last, finalLeft, content', rfl, owes', later'.trans later⟩
    · rintro state value ⟨after, kind', left, content, rfl, owes, later⟩ turned
      obtain ⟨final, last, finalLeft, piece, content', pulled, later', owes', -, ended⟩ := owes.pull
      simp only [drainLoop, pulled] at turned
      cases piece with
      | none =>
        cases turned
        exact ⟨final, last, finalLeft, rfl, (ended rfl).2, later'.trans later⟩
      | some data => cases turned
  obtain ⟨final, next, left, drained, behind, later⟩ := drained
  refine ⟨final, ?_, behind, later⟩
  unfold FastHttp1RequestBodyState.finish
  rw [drained]
  rfl

/-- Any number of pulls hands out a front part of the content. -/
theorem Owes.pulls (count : Nat) :
    ∃ final next left content', ((live reader kind budget).pulls count).2 = live final next left ∧
      final.later = reader.later ∧ Owes final next left content' rest ∧
      content = delivered ((live reader kind budget).pulls count).1 ++ content' ∧
      (∀ pulled ∈ ((live reader kind budget).pulls count).1, ∃ piece, pulled = .ready piece) ∧
      (.ready none ∈ ((live reader kind budget).pulls count).1 → content' = []) := by
  induction count generalizing reader kind budget content with
  | zero =>
    refine ⟨reader, kind, budget, content, rfl, rfl, owes, rfl, ?_, ?_⟩
    all_goals simp [pulls]
  | succ count ih =>
    obtain ⟨after, next, left, piece, content', pulled, later, owes', rfl, none⟩ := owes.pull
    obtain ⟨final, last, finalLeft, content'', reached, later', owes'', rfl, ready, ended⟩ :=
      ih owes'
    simp only [pulls, pulled]
    refine ⟨final, last, finalLeft, content'', reached, later'.trans later, owes'', ?_, ?_, ?_⟩
    · cases piece <;> simp [delivered]
    · exact forall_mem_cons.mpr ⟨⟨piece, rfl⟩, ready⟩
    intro member
    rcases mem_cons.mp member with same | member
    · cases same
      exact (append_eq_nil_iff.mp (none rfl).1).2
    · exact ended member

/-- Enough pulls hand out all of the content and then find the end of the body. -/
theorem Owes.delivers :
    ∃ pieces : List (List UInt8), ((live reader kind budget).pulls (pieces.length + 1)).1 =
        pieces.map (fun piece => .ready (some piece)) ++ [.ready none] ∧
      pieces.flatten = content := by
  induction lower : (live reader kind budget).weight using Nat.strong_induction_on
    generalizing reader kind budget content with
  | _ weight ih =>
    obtain ⟨after, next, left, piece, content', pulled, -, owes', split, ended⟩ := owes.pull
    cases piece with
    | none =>
      refine ⟨[], ?_, ?_⟩
      · simp [FastHttp1RequestBodyState.pulls, pulled]
      · rw [split, (ended rfl).1]
        rfl
    | some data =>
      have less : (live after next left).weight < weight := lower ▸ pullNext_lowers pulled
      obtain ⟨pieces, ran, whole⟩ := ih _ less owes' rfl
      refine ⟨data :: pieces, ?_, ?_⟩
      · rw [length_cons, pulls_succ, pulled, ran]
        rfl
      · rw [split, flatten_cons, whole]
        rfl

end

variable {reader : Reader IoError} {kind : FastHttp1StreamingBodyKind}

/-- A well-formed body is one that the decoder's rules accept. -/
theorem owes_of_wellFormed {budget : Nat} {encoded content rest : List UInt8}
    (small : budget < usizeLimit) (body : WellFormed budget kind encoded content)
    (arrives : reader.unread = encoded ++ rest) : Owes reader kind budget content rest := by
  cases body with
  | fixed => exact ⟨⟨encoded, .fixed rfl, arrives⟩, trivial⟩
  | @chunked body accepted text within =>
    have reads : requestRules.Accepts body := by
      refine ⟨?_, accepted.lastSingle, ?_, ?_⟩
      · intro chunk member
        have front := accepted.chunks chunk member
        have line : chunk.line ∈ body.sizeLines :=
          mem_append_left _ (mem_map.mpr ⟨chunk, member, rfl⟩)
        have bound := Body.data_length_le member
        exact ⟨front.single, chunkSize_of_sizeLine front.sized (text _ line) (by omega),
          front.nonempty⟩
      · have line : body.last ∈ body.sizeLines := mem_append_right _ mem_cons_self
        exact chunkSize_of_sizeLine accepted.lastSized (text _ line) (by omega)
      · intro line member
        have trailer := accepted.trailers line member
        exact ⟨trailer.single, trivial, trailer.nonempty⟩
    exact ⟨⟨body.encode, .chunked (.size reads), arrives⟩, within⟩

/-- From a stream that starts with a well-formed body, in whatever reads it arrives, any
number of pulls hands out a front part of the content, all of it once the end was seen, and
`finish` hands back the connection at the first byte behind the body. -/
theorem exact_consumption {reader : Reader IoError} {kind : FastHttp1StreamingBodyKind}
    {budget : Nat} {encoded content rest : List UInt8} (small : budget < usizeLimit)
    (body : WellFormed budget kind encoded content) (arrives : reader.unread = encoded ++ rest)
    (count : Nat) :
    let run := (live reader kind budget).pulls count
    (∀ pulled ∈ run.1, ∃ piece, pulled = .ready piece) ∧
    delivered run.1 <+: content ∧
    (.ready none ∈ run.1 → delivered run.1 = content) ∧
    ∃ final, run.2.finish = .ready (.ofReader final) ∧ final.unread = rest ∧
      final.later = reader.later := by
  have owes := owes_of_wellFormed small body arrives
  obtain ⟨after, next, left, content', reached, later, owes', split, ready, ended⟩ :=
    owes.pulls count
  obtain ⟨final, finished, behind, later'⟩ := owes'.finish
  refine ⟨ready, ⟨content', split.symm⟩, ?_, final, ?_, behind, later'.trans later⟩
  · intro seen
    rw [split, ended seen, append_nil]
  · rw [reached, finished]

attribute [local simp] Rfc9112.Blank

/-- A chunk extension and a trailer, three reads and a pipelined request behind them. -/
theorem exact_consumption_chunked :
    let run := (live ⟨[.data ⟨Text.ascii "abc\r\n0\r\nT: v\r", by decide⟩,
      .data ⟨ascii "\n\r\nGET", by decide⟩], ascii "3;x\r\n"⟩
      (.chunked .needSize) 1048576).pulls 2
    (∀ pulled ∈ run.1, ∃ piece, pulled = .ready piece) ∧
    delivered run.1 <+: ascii "abc" ∧
    (.ready none ∈ run.1 → delivered run.1 = ascii "abc") ∧
    ∃ final, run.2.finish = .ready (.ofReader final) ∧ final.unread = ascii "GET" ∧
      final.later = [] := by
  have extension : Rfc9112.ChunkExt (ascii ";x") :=
    @Rfc9112.ChunkExt.named [] [] (ascii "x") [] (by simp)
      (by simp) ⟨by decide, by decide +kernel⟩ .nil
  have chunk : Rfc9112.rules.AcceptsChunk ⟨ascii "3;x", ascii "abc"⟩ :=
    ⟨by decide, ⟨ascii "3", _, rfl, by decide, extension⟩, by decide⟩
  have trailer : Rfc9112.rules.AcceptsTrailer (ascii "T: v") :=
    ⟨by decide, ⟨ascii "T", ascii " v", rfl, ⟨by decide, by decide +kernel⟩, by decide +kernel⟩,
      by decide⟩
  have accepted : Rfc9112.rules.Accepts ⟨[⟨ascii "3;x", ascii "abc"⟩], ascii "0", [ascii "T: v"]⟩ :=
    ⟨by simpa using chunk, by decide, ⟨ascii "0", [], rfl, by decide, .nil⟩, by simpa using trailer⟩
  exact exact_consumption (by decide) (.chunked accepted (by decide) (by decide)) rfl 2

/-- A size line with a quoted extension may hold bytes that are no text. -/
theorem accepts_quoted : Rfc9112.rules.Accepts ⟨[], [48, 59, 97, 61, 34, 255, 34], []⟩ := by
  have quoted : Rfc9112.ExtValue [34, 255, 34] :=
    @Rfc9112.ExtValue.quoted [255] (.plain (by decide +kernel) .nil)
  have extension : Rfc9112.ChunkExt [59, 97, 61, 34, 255, 34] :=
    @Rfc9112.ChunkExt.valued [] [] [97] [] [] [34, 255, 34] [] (by simp)
      (by simp) ⟨by decide, by decide +kernel⟩ (by simp)
      (by simp) quoted .nil
  exact ⟨by simp, by decide, ⟨[48], _, rfl, by decide, extension⟩, by simp⟩

/-- A chunk extension may quote bytes that are not UTF-8; the decoder refuses its size line,
so the body is well formed and `finish` fails. -/
theorem consumption_needs_utf8 : ¬ ∀ (reader : Reader IoError) (budget : Nat)
    (body : Chunked.Body) (rest : List UInt8) (count : Nat), budget < usizeLimit →
    Rfc9112.rules.Accepts body → body.content.length ≤ budget →
    reader.unread = body.encode ++ rest →
    (∀ pulled ∈ ((live reader (.chunked .needSize) budget).pulls count).1,
      ∃ piece, pulled = .ready piece) →
    ∃ final, ((live reader (.chunked .needSize) budget).pulls count).2.finish =
      .ready (.ofReader final) ∧ final.unread = rest := by
  intro consumes
  obtain ⟨final, finished, -⟩ := consumes ⟨[], [48, 59, 97, 61, 34, 255, 34, 13, 10, 13, 10]⟩ 0
    _ [] 0 (by decide) accepts_quoted (by decide) rfl (by simp [pulls])
  cases finished

/-- Pulls that hand out pieces and then find the end have used a body that the decoder's
rules accept. -/
theorem remains_of_pulls {budget : Nat} {pieces : List (List UInt8)}
    {final : FastHttp1RequestBodyState}
    (ran : (live reader kind budget).pulls (pieces.length + 1) =
      (pieces.map (fun piece => .ready (some piece)) ++ [.ready none], final)) :
    ∃ used after left, final = live after (.fixed 0) left ∧
      Remains requestRules kind used pieces.flatten ∧ reader.unread = used ++ after.unread := by
  induction pieces generalizing reader kind budget with
  | nil =>
    rw [length_nil, pulls_succ] at ran
    simp only [map_nil, nil_append, Prod.mk.injEq, cons.injEq] at ran
    obtain ⟨⟨pulled, -⟩, rfl⟩ := ran
    obtain ⟨after, left, completes, same⟩ :=
      completes_of_end (.refl reader (kind, budget)) (Prod.ext pulled rfl)
    obtain ⟨used, remains, split⟩ := completes.remains
    exact ⟨used, after, left, same, remains, split⟩
  | cons piece pieces ih =>
    rw [length_cons, pulls_succ] at ran
    simp only [map_cons, cons_append, Prod.mk.injEq, cons.injEq] at ran
    obtain ⟨⟨pulled, others⟩, last⟩ := ran
    have whole : (live reader kind budget).pullNext =
      (.ready (some piece), (live reader kind budget).pullNext.2) := Prod.ext pulled rfl
    obtain ⟨after, next, left, same, reaches⟩ :=
      reaches_of_deliver (.refl reader (kind, budget)) whole
    rw [same] at others last
    obtain ⟨used', final', left', final, remains, split⟩ := ih (Prod.ext others last)
    obtain ⟨used, path, front⟩ := reaches.steps
    refine ⟨used ++ used', final', left', final, remains.before path, ?_⟩
    rw [front, split, append_assoc]

end FastHttp1RequestBodyState

end PdEdge.Downstream

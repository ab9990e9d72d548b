import PdEdge.Upstream.Turn

/-!
# What a whole `pull_next` of the client does

As on the downstream side, a pull is a path of turns that go round again and one turn that
leaves. On bytes that start with a body it hands out the content in order and releases the
connection at the end of the body; a chunked body that was read to its end is one that the
rules of the decoder accept.
-/

namespace PdEdge.Upstream

open Wire Chunked List

namespace PlainHttp1BodyKind

section

variable {kind next : PlainHttp1BodyKind} {used yielded encoded content tail unread : List UInt8}

/-- What a step is made in front of remains, with what the step used. -/
theorem Advances.before (step : Advances kind used yielded next)
    (remains : Remains responseRules next encoded content) :
    Remains responseRules kind (used ++ encoded) (yielded ++ content) := by
  cases step with
  | fixed fits =>
    cases remains with
    | fixed full =>
      refine .fixed ?_
      rw [length_append]
      omega
  | chunked move =>
    cases remains with
    | chunked rest => exact .chunked (move.restBefore rest)
  | closeDelimited => cases remains

theorem Remains.before (remains : Remains responseRules next encoded content)
    (path : Path Advances kind used yielded next) :
    Remains responseRules kind (used ++ encoded) (yielded ++ content) :=
  path.before (Remains responseRules) Advances.before remains

variable {rules : Chunked.Rules}

/-- A step on bytes that start with the rest of a body leaves the rest of a body. -/
theorem Advances.consumes (agree : responseRules.Agree rules) :
    Consumes (Remains rules) Advances := by
  intro state next used yielded encoded content tail unread step remains same
  cases step with
  | fixed fits =>
    cases remains with
    | fixed full =>
      obtain ⟨more, rfl, behind⟩ := owed_front same (by omega)
      refine ⟨more, more, .fixed ?_, rfl, rfl, behind⟩
      rw [← full, length_append]
      omega
  | chunked move =>
    cases remains with
    | chunked rest =>
      obtain ⟨encoded', content', after, splits⟩ := move.restAfter agree rest same
      exact ⟨encoded', content', .chunked after, splits⟩
  | closeDelimited => cases remains

theorem Remains.along (agree : responseRules.Agree rules)
    (remains : Remains rules kind encoded content) (path : Path Advances kind used yielded next)
    (same : encoded ++ tail = used ++ unread) :
    ∃ encoded' content', Remains rules next encoded' content' ∧ encoded = used ++ encoded' ∧
      content = yielded ++ content' ∧ unread = encoded' ++ tail :=
  path.after (Remains rules) (Advances.consumes agree) remains same

variable {chunk : Option (List UInt8)}

/-- Where the bytes start with the rest of a body, its end is the end of that rest. -/
theorem Remains.ended (remains : Remains rules kind encoded content) (ends : Ends kind used chunk)
    (same : encoded ++ tail = used ++ unread) : content = chunk.getD [] ∧ unread = tail := by
  cases ends with
  | zero =>
    cases remains with
    | fixed full =>
      rw [eq_nil_of_length_eq_zero full] at same ⊢
      exact ⟨rfl, same.symm⟩
  | fixed =>
    cases remains with
    | fixed full => exact ⟨(append_inj same full).1, (append_inj same full).2.symm⟩
  | chunked =>
    cases remains with
    | chunked rest => exact ⟨(Rest.endAfter rest same).2.1, (Rest.endAfter rest same).2.2⟩

/-- The end of a body is what remains of it there. -/
theorem Ends.remains (ends : Ends kind used chunk) :
    Remains responseRules kind used (chunk.getD []) := by
  cases ends with
  | zero | fixed => exact .fixed rfl
  | chunked => exact .chunked (Rest.ending responseRules)

end

end PlainHttp1BodyKind

open PlainHttp1BodyKind

namespace PlainHttp1ResponseBody

variable {κ : Type} [DecidableEq κ]

/-- A pull: turns that go round again and one turn that leaves. -/
inductive Pulls (pool : PlainHttp1SenderPool κ) (lease : PlainHttp1SenderLease κ)
    (reader : Reader IoError) (kind : PlainHttp1BodyKind) :
    Pulled × PlainHttp1SenderPool κ × PlainHttp1ResponseBody κ → Prop
  | intro {used : List UInt8} {middle : Reader IoError} {next : PlainHttp1BodyKind}
    {trailers : Option HeaderMap}
    {result : Pulled × PlainHttp1SenderPool κ × PlainHttp1ResponseBody κ}
    (path : Path Advances kind used [] next) (split : reader.unread = used ++ middle.unread)
    (later : middle.later = reader.later)
    (takes : Takes pool lease middle next trailers (.leave result)) :
    Pulls pool lease reader kind result

/-- Every pull of a body that holds its connection is one. -/
theorem pullNext_pulls (pool : PlainHttp1SenderPool κ) (lease : PlainHttp1SenderLease κ)
    (reader : Reader IoError) (kind : PlainHttp1BodyKind) (trailers : Option HeaderMap) :
    Pulls pool lease reader kind ((holding lease reader kind trailers).pullNext pool) := by
  show Pulls pool lease reader kind ((pullLoop κ).run _)
  generalize start : (pool, holding lease reader kind trailers) = state
  induction state using (pullLoop κ).run_induct generalizing reader kind trailers with
  | left state result turned =>
    rw [(pullLoop κ).run_leave turned]
    subst start
    have takes := Takes.of_turned _ _ _ _ turned
    exact .intro (.refl kind) rfl rfl takes
  | again state next turned ih =>
    rw [(pullLoop κ).run_again turned]
    subst start
    have takes := Takes.of_turned _ _ _ _ turned
    cases takes with
    | @again used after next trailers' step split later records lower =>
      have rest := ih after next trailers' rfl
      cases rest with
      | @intro used' middle last trailers'' result path split' later' takes =>
        have whole : Path Advances kind (used ++ used') [] last := .cons step path
        refine .intro whole ?_ (later'.trans later) takes
        rw [split, split', append_assoc]

/-- A body that is over gives nothing. -/
theorem pullNext_over (lease : PlainHttp1SenderLease κ) (trailers : Option HeaderMap)
    (pool : PlainHttp1SenderPool κ) :
    (⟨lease, .done, trailers⟩ : PlainHttp1ResponseBody κ).pullNext pool =
      (.ready none, pool, ⟨lease, .done, trailers⟩) :=
  (pullLoop κ).run_leave rfl

/-- A turn that hands out no content and takes no connection. -/
def Dry : PullTurn κ → Prop
  | .again next => next.2.lease.connection = none
  | .leave result => ∀ data, result.1 ≠ .ready (some data)

attribute [local simp] pullTurn connectionMut Dry fail

theorem pullTurn_dry (pool : PlainHttp1SenderPool κ) {body : PlainHttp1ResponseBody κ}
    (unheld : body.lease.connection = none) : Dry (pullTurn (pool, body)) := by
  obtain ⟨⟨key, capacity, mayReuse, dirty, connection⟩, kind, trailers⟩ := body
  subst unheld
  rcases kind with _ | remaining | (_ | remaining | _ | _) | _
  · simp
  · by_cases zero : remaining = 0
    · simp [pullFixed, zero, finish]
    · simp [pullFixed, zero]
  · simp [pullSize]
  · by_cases zero : remaining = 0
    all_goals simp [pullData, zero]
  · simp [pullTerminator]
  · simp [pullTrailer]
  · simp [pullCloseDelimited]

variable {body : PlainHttp1ResponseBody κ} {pool : PlainHttp1SenderPool κ}

/-- Without its connection a body gives no content. -/
theorem pullNext_unheld (unheld : body.lease.connection = none) {data : List UInt8} :
    (body.pullNext pool).1 ≠ .ready (some data) := by
  refine (pullLoop κ).run_invariant (fun state => state.2.lease.connection = none)
    (fun result => result.1 ≠ .ready (some data)) ?_ ?_ (pool, body) unheld
  · rintro ⟨pool, body⟩ next unheld turned
    have dry := pullTurn_dry pool unheld
    rwa [show pullTurn (pool, body) = _ from turned] at dry
  rintro ⟨pool, body⟩ result unheld turned
  have dry := pullTurn_dry pool unheld
  rw [show pullTurn (pool, body) = _ from turned] at dry
  exact dry data

/-- A pull that hands out content leaves less to read, or was the last. -/
theorem pullNext_shrinks {data : List UInt8}
    (pulled : (body.pullNext pool).1 = .ready (some data)) :
    body.kind ≠ .done ∧ ∃ reader, body.lease.connection = some reader ∧
      ((body.pullNext pool).2.2.kind = .done ∨ ∃ after,
        (body.pullNext pool).2.2.lease.connection = some after ∧
        after.unread.length < reader.unread.length) := by
  obtain ⟨⟨key, capacity, mayReuse, dirty, connection⟩, kind, trailers⟩ := body
  cases connection with
  | none => exact absurd pulled (pullNext_unheld rfl)
  | some reader =>
    have running : kind ≠ .done := by
      rintro rfl
      cases pulled
    have pull := pullNext_pulls pool ⟨key, capacity, mayReuse, dirty, none⟩ reader kind trailers
    simp only [holding] at pull
    generalize (PlainHttp1ResponseBody.mk _ kind trailers).pullNext pool = result at pulled pull ⊢
    cases pull with
    | @intro used middle next trailers' result path split later takes =>
      refine ⟨running, reader, rfl, ?_⟩
      cases takes with
      | idle | closed | refused | failed | dropped => cases pulled
      | @deliver piece after last nonempty step split' later' =>
        have some := length_pos_of_ne_nil nonempty
        refine Or.inr ⟨after, rfl, ?_⟩
        rw [split, split', length_append, length_append]
        omega
      | finished => exact Or.inl rfl

/-- A number of calls of `pull_next`, one after the other. -/
def pulls : Nat → PlainHttp1ResponseBody κ → PlainHttp1SenderPool κ →
    List Pulled × PlainHttp1SenderPool κ × PlainHttp1ResponseBody κ
  | 0, body, pool => ([], pool, body)
  | count + 1, body, pool =>
    let (pulled, pool, body) := body.pullNext pool
    let (results, final) := pulls count body pool
    (pulled :: results, final)

theorem pulls_succ (count : Nat) (body : PlainHttp1ResponseBody κ) (pool : PlainHttp1SenderPool κ) :
    body.pulls (count + 1) pool =
      ((body.pullNext pool).1 :: ((body.pullNext pool).2.2.pulls count (body.pullNext pool).2.1).1,
        ((body.pullNext pool).2.2.pulls count (body.pullNext pool).2.1).2) := rfl

/-! ## Bodies read to their end -/

section

variable {pool : PlainHttp1SenderPool κ} {lease : PlainHttp1SenderLease κ}
variable {reader : Reader IoError} {state : ChunkedState} {trailers : Option HeaderMap}

/-- A chunked body stays one until it ends. -/
theorem path_chunked {next : PlainHttp1BodyKind} {used yielded : List UInt8}
    (path : Path Advances (.chunked state) used yielded next) : ∃ next', next = .chunked next' := by
  generalize start : PlainHttp1BodyKind.chunked state = kind at path
  induction path generalizing state with
  | refl => exact ⟨state, start.symm⟩
  | cons first rest ih =>
    subst start
    cases first with
    | chunked move => exact ih rfl

variable {final : PlainHttp1SenderPool κ × PlainHttp1ResponseBody κ}

/-- A pull of a chunked body makes steps in it and then a turn that leaves. -/
theorem reaches_of_pulled {result : Pulled × PlainHttp1SenderPool κ × PlainHttp1ResponseBody κ}
    (pulled : (holding lease reader (.chunked state) trailers).pullNext pool = result) :
    ∃ middle next trailers', Reaches Advances reader (.chunked state) [] middle (.chunked next) ∧
      Takes pool lease middle (.chunked next) trailers' (.leave result) := by
  have pull := pullNext_pulls pool lease reader (.chunked state) trailers
  rw [pulled] at pull
  cases pull with
  | @intro used middle next trailers' _ path split later takes =>
    obtain ⟨next, rfl⟩ := path_chunked path
    exact ⟨middle, next, trailers', ⟨⟨used, path, split⟩, later⟩, takes⟩

/-- A pull of a chunked body that hands out bytes has made steps in it. -/
theorem reaches_of_deliver {data : List UInt8}
    (pulled : (holding lease reader (.chunked state) trailers).pullNext pool =
      (.ready (some data), final)) :
    ∃ after next trailers', final = (pool, holding lease after (.chunked next) trailers') ∧
      Reaches Advances reader (.chunked state) data after (.chunked next) := by
  obtain ⟨middle, next, trailers', reaches, takes⟩ := reaches_of_pulled pulled
  cases takes with
  | @deliver data' after last nonempty step split' later' =>
    obtain ⟨last, rfl⟩ := path_chunked (.one step)
    exact ⟨after, last, trailers', rfl, reaches.along (.one step) split' later'⟩
  | finished ends => cases ends

/-- A pull of a chunked body that finds its end has made the steps to it. -/
theorem reaches_of_end (pulled : (holding lease reader (.chunked state) trailers).pullNext pool =
      (.ready none, final)) :
    ∃ middle after trailers', final = released pool lease after trailers' ∧
      Reaches Advances reader (.chunked state) [] middle (.chunked .readTrailers) ∧
      middle.unread = crlf ++ after.unread := by
  obtain ⟨middle, next, trailers', reaches, takes⟩ := reaches_of_pulled pulled
  cases takes with
  | idle past => cases past
  | @finished ending piece after ends split' later' =>
    cases ends
    exact ⟨middle, after, trailers', rfl, reaches, split'⟩
  | closed close => cases close

/-- Pulls that hand out pieces and then find the end have used a body that the decoder's
rules accept, and released the connection behind it. -/
theorem remains_of_pulls {pieces : List (List UInt8)}
    (ran : (holding lease reader (.chunked state) trailers).pulls (pieces.length + 1) pool =
      (pieces.map (fun piece => .ready (some piece)) ++ [.ready none], final)) :
    ∃ used after trailers', final = released pool lease after trailers' ∧
      Remains responseRules (.chunked state) used pieces.flatten ∧
      reader.unread = used ++ after.unread := by
  induction pieces generalizing reader state trailers with
  | nil =>
    rw [length_nil, pulls_succ] at ran
    simp only [map_nil, nil_append, Prod.mk.injEq, cons.injEq] at ran
    obtain ⟨⟨pulled, -⟩, rfl⟩ := ran
    obtain ⟨middle, after, trailers', final, reaches, split⟩ := reaches_of_end (Prod.ext pulled rfl)
    obtain ⟨used, path, front⟩ := reaches.steps
    have remains := Ends.chunked.remains.before path
    refine ⟨used ++ crlf, after, trailers', final, remains, ?_⟩
    rw [front, split, append_assoc]
  | cons piece pieces ih =>
    rw [length_cons, pulls_succ] at ran
    simp only [map_cons, cons_append, Prod.mk.injEq, cons.injEq] at ran
    obtain ⟨⟨pulled, others⟩, last⟩ := ran
    have whole : (holding lease reader (.chunked state) trailers).pullNext pool =
      (.ready (some piece), ((holding lease reader (.chunked state) trailers).pullNext pool).2) :=
      Prod.ext pulled rfl
    obtain ⟨after, next, trailers', same, reaches⟩ := reaches_of_deliver whole
    rw [same] at others last
    obtain ⟨used', final', trailers'', final, remains, split⟩ := ih (Prod.ext others last)
    obtain ⟨used, path, front⟩ := reaches.steps
    refine ⟨used ++ used', final', trailers'', final, remains.before path, ?_⟩
    rw [front, split, append_assoc]

/-- From bytes that start with a body, pulls hand out its content and then find its end. -/
theorem pulls_of_remains {encoded content rest : List UInt8}
    (remains : Remains responseRules (.chunked state) encoded content)
    (arrives : reader.unread = encoded ++ rest) :
    ∃ (pieces : List (List UInt8)) (after : Reader IoError) (trailers' : Option HeaderMap),
      (holding lease reader (.chunked state) trailers).pulls (pieces.length + 1) pool =
        (pieces.map (fun piece => .ready (some piece)) ++ [.ready none],
          released pool lease after trailers') ∧
      pieces.flatten = content ∧ after.unread = rest := by
  induction shorter : content.length using Nat.strong_induction_on
    generalizing reader state trailers encoded content with
  | _ length ih =>
    generalize pulled : (holding lease reader (.chunked state) trailers).pullNext pool = result
    obtain ⟨middle, next, trailers', ⟨⟨used, path, split⟩, later⟩, takes⟩ := reaches_of_pulled pulled
    obtain ⟨encoded', content', remains', -, same, arrives'⟩ :=
      remains.along (decoderRules_agree) path (arrives.symm.trans split)
    subst same
    have few (short : ¬ enough (.chunked next) middle.unread) : False :=
      remains_short short remains' arrives'
    cases takes with
    | idle past => cases past
    | @deliver data after last nonempty step split' later' =>
      obtain ⟨last, rfl⟩ := path_chunked (.one step)
      obtain ⟨encoded'', content'', remains'', -, same, arrives''⟩ :=
        remains'.along (decoderRules_agree) (.one step) (arrives'.symm.trans split')
      have less : content''.length < length := by
        have some := length_pos_of_ne_nil nonempty
        rw [← shorter, same, length_append]
        omega
      obtain ⟨pieces, final, trailers'', ran, whole, behind⟩ :=
        @ih _ less after last trailers' _ _ remains'' arrives'' rfl
      refine ⟨data :: pieces, final, trailers'', ?_, ?_, behind⟩
      · rw [length_cons, pulls_succ, pulled, ran]
        rfl
      · rw [flatten_cons, whole, same]
    | @finished ending piece after ends split' later' =>
      obtain ⟨nothing, behind⟩ := remains'.ended ends (arrives'.symm.trans split')
      cases ends
      refine ⟨[], after, trailers', ?_, nothing.symm, behind⟩
      rw [length_nil, pulls_succ, pulled]
      rfl
    | closed close => cases close
    | refused holds bad => exact absurd arrives' (bad _ _ _ remains')
    | failed short last | dropped short last => exact (few short).elim

end

end PlainHttp1ResponseBody

end PdEdge.Upstream

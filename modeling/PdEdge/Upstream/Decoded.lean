import Mathlib.Data.List.Forall2
import PdEdge.Upstream.Pull

/-!
# Response bodies as the standard has them

`pull_next` on a body that is well formed by the standard, or that ends with the connection:
as long as no call fails, the pieces are the content in order, the end is reported behind the
last of them, the trailers are those of the body, and the connection is left at the first
byte behind it.
-/

namespace PdEdge.Upstream

open Wire Chunked Text List

/-! ## Trailers -/

/-- A trailer line and the field in it: its name in lower case, and its value from the first
byte that is not blank. -/
def FieldOf (line : List UInt8) (field : HeaderName × HeaderValue) : Prop :=
  ∃ name blanks, line = name ++ 58 :: (blanks ++ field.2.bytes) ∧
    name.map Text.lower = field.1.bytes ∧ (∀ byte ∈ blanks, byte ∈ [9, 10, 12, 13, 32]) ∧
    ∀ byte ∈ field.2.bytes.head?, byte ∉ [9, 10, 12, 13, 32]

/-- The trailers after some more fields were recorded. -/
def withFields (trailers : Option HeaderMap) (fields : HeaderMap) : Option HeaderMap :=
  if fields = [] then trailers else some (trailers.getD [] ++ fields)

/-- Between two states of a decoder, the fields of the lines in between were recorded. -/
def Recorded (trailers : Option HeaderMap) (lines : List (List UInt8))
    (trailers' : Option HeaderMap) (lines' : List (List UInt8)) : Prop :=
  ∃ front fields, lines = front ++ lines' ∧ List.Forall₂ FieldOf front fields ∧
    trailers' = withFields trailers fields

theorem Recorded.refl (trailers : Option HeaderMap) (lines : List (List UInt8)) :
    Recorded trailers lines trailers lines :=
  ⟨[], [], rfl, .nil, rfl⟩

variable {first second : HeaderMap}

theorem withFields_append {trailers : Option HeaderMap} :
    withFields (withFields trailers first) second = withFields trailers (first ++ second) := by
  unfold withFields
  by_cases none : first = []
  · simp [none]
  · by_cases nothing : second = []
    · simp [none, nothing]
    · simp [none, nothing, append_assoc]

theorem Recorded.trans {trailers trailers' trailers'' : Option HeaderMap}
    {lines lines' lines'' : List (List UInt8)} (first : Recorded trailers lines trailers' lines')
    (second : Recorded trailers' lines' trailers'' lines'') :
    Recorded trailers lines trailers'' lines'' := by
  obtain ⟨front, fields, rfl, read, rfl⟩ := first
  obtain ⟨front', fields', rfl, read', rfl⟩ := second
  refine ⟨front ++ front', fields ++ fields', by simp, rel_append read read', ?_⟩
  exact withFields_append

variable {bytes line : List UInt8} {value : HeaderValue}

theorem fromBytes_name {name : HeaderName} (checked : HeaderName.fromBytes bytes = some name) :
    bytes.map lower = name.bytes := by
  unfold HeaderName.fromBytes at checked
  split at checked
  · cases checked
    rfl
  · cases checked

theorem fromBytes_value (checked : HeaderValue.fromBytes bytes = some value) :
    bytes = value.bytes := by
  unfold HeaderValue.fromBytes at checked
  split at checked
  · cases checked
    rfl
  · cases checked

/-- A line with a colon is what stands before the first one and what stands behind it. -/
theorem split_colon (colon : (58 : UInt8) ∈ line) :
    line = line.take (line.idxOf 58) ++ 58 :: line.drop (line.idxOf 58 + 1) := by
  have within := idxOf_lt_length_of_mem colon
  have first := drop_eq_getElem_cons within
  rw [getElem_idxOf within] at first
  rw [← first, take_append_drop]

/-- What is trimmed is blank, and what is left does not start so. -/
theorem trimAsciiStart_split (bytes : List UInt8) :
    ∃ blanks, bytes = blanks ++ trimAsciiStart bytes ∧
      (∀ byte ∈ blanks, byte ∈ [9, 10, 12, 13, 32]) ∧
      ∀ byte ∈ (trimAsciiStart bytes).head?, byte ∉ [9, 10, 12, 13, 32] := by
  refine ⟨bytes.takeWhile fun byte => [9, 10, 12, 13, 32].contains byte,
    takeWhile_append_dropWhile.symm, ?_, ?_⟩
  · intro byte member
    have blank := mem_takeWhile_imp member
    simpa using blank
  intro byte member
  have first := head?_dropWhile_not (fun byte => [9, 10, 12, 13, 32].contains byte) bytes
  rw [trimAsciiStart, Option.mem_def] at member
  rw [member] at first
  simpa using first

/-- What `record_trailer_line` makes of a line is the field in it. -/
theorem fieldOf_entry {name : HeaderName} (recorded : trailerEntry line = .ok (name, value)) :
    FieldOf line (name, value) := by
  unfold trailerEntry at recorded
  split at recorded
  · cases recorded
  rename_i colon
  have line := split_colon (not_not.mp colon)
  dsimp only at recorded
  split at recorded
  · cases recorded
  rename_i named
  split at recorded
  · cases recorded
  rename_i valued
  cases recorded
  obtain ⟨blanks, split, allBlank, first⟩ := trimAsciiStart_split _
  rw [fromBytes_value valued] at split first
  rw [split] at line
  exact ⟨_, blanks, line, fromBytes_name named, allBlank, first⟩

/-- A field name holds no colon, in whatever case it was sent. -/
theorem colon_notMem_name {name : List UInt8} {field : HeaderName}
    (same : name.map lower = field.bytes) : (58 : UInt8) ∉ name := by
  intro member
  have inside : lower 58 ∈ field.bytes := by
    rw [← same]
    exact mem_map_of_mem member
  exact absurd (field.token.2 _ inside) (by decide)

/-- A line holds one field. -/
theorem fieldOf_unique {first second : HeaderName × HeaderValue} (one : FieldOf line first)
    (other : FieldOf line second) : first = second := by
  have reads {field : HeaderName × HeaderValue} (read : FieldOf line field) :
      field.1.bytes = (line.takeWhile (· ≠ 58)).map lower ∧
      field.2.bytes = trimAsciiStart ((line.dropWhile (· ≠ 58)).drop 1) := by
    obtain ⟨name, blanks, rfl, same, blank, begins⟩ := read
    have plain : ∀ byte ∈ name, decide (byte ≠ 58) = true := by
      intro byte member
      simp only [ne_eq, decide_eq_true_eq]
      rintro rfl
      exact colon_notMem_name same member
    rw [takeWhile_append_of_pos plain, dropWhile_append_of_pos plain]
    refine ⟨by simp [same], ?_⟩
    have blankOnly : ∀ byte ∈ blanks, [9, 10, 12, 13, 32].contains byte = true := by
      intro byte member
      simpa using blank byte member
    simp only [trimAsciiStart, ne_eq, not_true_eq_false, decide_false, Bool.false_eq_true,
      not_false_eq_true, dropWhile_cons_of_neg, drop_one, tail_cons]
    rw [dropWhile_append_of_pos blankOnly]
    cases bytes : field.2.bytes with
    | nil => rfl
    | cons byte rest =>
      rw [bytes] at begins
      have visible := begins byte rfl
      rw [dropWhile_cons_of_neg]
      simpa using visible
  obtain ⟨name, value⟩ := reads one
  obtain ⟨name', value'⟩ := reads other
  refine Prod.ext ?_ ?_
  · exact HeaderName.ext (name.trans name'.symm)
  · exact HeaderValue.ext (value.trans value'.symm)

theorem fields_unique {lines : List (List UInt8)} (one : List.Forall₂ FieldOf lines first)
    (other : List.Forall₂ FieldOf lines second) : first = second := by
  induction one generalizing second with
  | nil =>
    cases other
    rfl
  | cons read rest ih =>
    cases other with
    | cons read' rest' => rw [fieldOf_unique read read', ih rest']

/-! ## What is left of a body -/

/-- The unread bytes start with what is left of a body by the standard: its content, its
trailer lines and the rest behind it. -/
inductive Awaits (rest : List UInt8) :
    PlainHttp1BodyKind → List UInt8 → List UInt8 → List (List UInt8) → Prop
  | fixed {bytes : List UInt8} {remaining : Nat} (full : bytes.length = remaining) :
    Awaits rest (.fixed remaining) (bytes ++ rest) bytes []
  | chunked {state : ChunkedState} {encoded content : List UInt8} {lines : List (List UInt8)}
    (body : RestWith Rfc9112.rules state.place encoded content lines) :
    Awaits rest (.chunked state) (encoded ++ rest) content lines
  | closeDelimited {bytes : List UInt8} (last : rest = []) :
    Awaits rest .closeDelimited bytes bytes []

/-- The trailer lines left behind a step of a body. -/
def LeavesLines (kind : PlainHttp1BodyKind) (used : List UInt8)
    (lines lines' : List (List UInt8)) : Prop :=
  (kind ≠ .chunked .readTrailers ∧ lines' = lines) ∨
    kind = .chunked .readTrailers ∧ ∃ line, used = line ++ crlf ∧ lines = line :: lines'

section

variable {rest unread unread' used yielded content : List UInt8}
variable {kind next : PlainHttp1BodyKind} {lines : List (List UInt8)}

/-- A step leaves what is left behind it. -/
theorem Awaits.step (awaits : Awaits rest kind unread content lines)
    (step : PlainHttp1BodyKind.Advances kind used yielded next)
    (split : unread = used ++ unread') :
    ∃ content' lines', Awaits rest next unread' content' lines' ∧
      content = yielded ++ content' ∧ LeavesLines kind used lines lines' := by
  cases step with
  | fixed fits =>
    cases awaits with
    | @fixed bytes _ full =>
      obtain ⟨more, rfl, rfl⟩ := owed_front split (by omega)
      refine ⟨more, [], .fixed ?_, rfl, Or.inl ⟨by simp, rfl⟩⟩
      rw [← full, length_append]
      omega
  | @chunked state next _ _ move =>
    cases awaits with
    | chunked body =>
      obtain ⟨encoded', content', lines', after, -, same, behind, leaves⟩ :=
        move.restWithAfter (chunkSize_agrees _) body split
      refine ⟨content', lines', behind ▸ .chunked after, same, ?_⟩
      cases state with
      | readTrailers =>
        cases leaves with
        | all before => exact absurd rfl before
        | others cut => exact Or.inr ⟨rfl, _, rfl, cut⟩
      | needSize | expectChunkTerminator | readData =>
        cases leaves with
        | all before => exact Or.inl ⟨by simp, rfl⟩
  | closeDelimited =>
    cases awaits with
    | closeDelimited last =>
      subst split
      exact ⟨unread', [], .closeDelimited last, rfl, Or.inl ⟨by simp, rfl⟩⟩

/-- Among the trailers no step has content. -/
theorem advances_trailers (step : PlainHttp1BodyKind.Advances (.chunked .readTrailers) used
    yielded next) : yielded = [] := by
  cases step with
  | @chunked state next used yielded move =>
    generalize next.place = place at move
    cases move
    rfl

/-- Where a body ends, this was the last of its content and no trailer line is left. -/
theorem Awaits.ended {chunk : Option (List UInt8)}
    (awaits : Awaits rest kind unread content lines) (ends : PlainHttp1BodyKind.Ends kind used chunk)
    (split : unread = used ++ unread') : content = chunk.getD [] ∧ unread' = rest ∧ lines = [] := by
  cases ends with
  | zero =>
    cases awaits with
    | fixed full =>
      rw [eq_nil_of_length_eq_zero full] at split ⊢
      exact ⟨rfl, split.symm, rfl⟩
  | fixed =>
    cases awaits with
    | fixed full =>
      obtain ⟨same, behind⟩ := append_inj split full
      exact ⟨same, behind.symm, rfl⟩
  | chunked =>
    cases awaits with
    | chunked body =>
      obtain ⟨-, nothing, behind, none⟩ := RestWith.endAfter body split
      exact ⟨nothing, behind, none⟩

end

namespace PlainHttp1ResponseBody

variable {κ : Type} [DecidableEq κ]

section

variable {pool : PlainHttp1SenderPool κ} {lease : PlainHttp1SenderLease κ}
variable {reader after : Reader IoError} {kind next : PlainHttp1BodyKind}
variable {trailers trailers' : Option HeaderMap} {rest content used : List UInt8}
variable {lines lines' : List (List UInt8)}
variable {body : PlainHttp1ResponseBody κ}

/-- A step that goes round again leaves the rest of the body and of its trailers. -/
theorem Records.awaits (records : Records trailers kind used trailers')
    (awaits : Awaits rest kind reader.unread content lines)
    (step : PlainHttp1BodyKind.Advances kind used [] next)
    (split : reader.unread = used ++ after.unread) :
    ∃ lines', Awaits rest next after.unread content lines' ∧
      Recorded trailers lines trailers' lines' := by
  obtain ⟨content', lines', left, rfl, leaves⟩ := awaits.step step split
  refine ⟨lines', left, ?_⟩
  cases records with
  | nothing other =>
    rcases leaves with ⟨-, rfl⟩ | ⟨same, -⟩
    · exact .refl trailers lines'
    · exact absurd same other
  | field recorded =>
    rcases leaves with ⟨other, -⟩ | ⟨-, line, same, rfl⟩
    · exact absurd rfl other
    · rw [append_cancel_right same] at recorded
      exact ⟨[line], [_], rfl, .cons (fieldOf_entry recorded) .nil, rfl⟩

/-- What a pull that does not fail does on a body by the standard. -/
inductive Decodes (pool : PlainHttp1SenderPool κ) (lease : PlainHttp1SenderLease κ)
    (rest content : List UInt8) (trailers : Option HeaderMap) (lines : List (List UInt8)) :
    Pulled × PlainHttp1SenderPool κ × PlainHttp1ResponseBody κ → Prop
  /-- It hands out the next of the content. -/
  | piece {data content' : List UInt8} {after : Reader IoError} {next : PlainHttp1BodyKind}
    {trailers' : Option HeaderMap} {lines' : List (List UInt8)} (nonempty : data ≠ [])
    (same : content = data ++ content') (left : Awaits rest next after.unread content' lines')
    (recorded : Recorded trailers lines trailers' lines') :
    Decodes pool lease rest content trailers lines
      (.ready (some data), pool, holding lease after next trailers')
  /-- It comes to the end of the body, perhaps with the last of its content. -/
  | last {chunk : Option (List UInt8)} {after : Reader IoError} {trailers' : Option HeaderMap}
    (some : chunk ≠ some []) (same : content = chunk.getD []) (behind : after.unread = rest)
    (recorded : Recorded trailers lines trailers' []) :
    Decodes pool lease rest content trailers lines
      (.ready chunk, released pool lease after trailers')
  | failed {err : VmError} {final : PlainHttp1SenderPool κ × PlainHttp1ResponseBody κ} :
    Decodes pool lease rest content trailers lines (.failed err, final)
  | dropped {final : PlainHttp1SenderPool κ × PlainHttp1ResponseBody κ} :
    Decodes pool lease rest content trailers lines (.dropped, final)

/-- The turn that leaves. -/
theorem Takes.decodes {result : Pulled × PlainHttp1SenderPool κ × PlainHttp1ResponseBody κ}
    (awaits : Awaits rest kind reader.unread content lines)
    (takes : Takes pool lease reader kind trailers (.leave result)) :
    Decodes pool lease rest content trailers lines result := by
  cases takes with
  | idle past =>
    subst past
    cases awaits
  | deliver nonempty step split later =>
    obtain ⟨content', lines', left, same, leaves⟩ := awaits.step step split
    rcases leaves with ⟨other, rfl⟩ | ⟨rfl, line, rfl, rfl⟩
    · exact .piece nonempty same left (.refl trailers lines')
    · exact absurd (advances_trailers step) nonempty
  | finished ends split later =>
    obtain ⟨same, behind, rfl⟩ := awaits.ended ends split
    refine .last ?_ same behind (.refl trailers [])
    cases ends with
    | zero | chunked => simp
    | fixed nonempty => simpa using nonempty
  | closed close nothing last =>
    subst close
    generalize reader.unread = unread at awaits nothing
    subst nothing
    cases awaits with
    | closeDelimited last => exact .last (by simp) rfl last.symm (.refl trailers [])
  | refused holds bad | failed short last => exact .failed
  | dropped short last => exact .dropped

/-- A whole pull. -/
theorem pullNext_decodes (awaits : Awaits rest kind reader.unread content lines) :
    Decodes pool lease rest content trailers lines
      ((holding lease reader kind trailers).pullNext pool) := by
  show Decodes pool lease rest content trailers lines ((pullLoop κ).run _)
  generalize start : (pool, holding lease reader kind trailers) = state
  induction state using (pullLoop κ).run_induct generalizing reader kind trailers lines with
  | left state result turned =>
    rw [(pullLoop κ).run_leave turned]
    subst start
    exact (Takes.of_turned _ _ _ _ turned).decodes awaits
  | again state next turned ih =>
    rw [(pullLoop κ).run_again turned]
    subst start
    have takes := Takes.of_turned _ _ _ _ turned
    cases takes with
    | @again used after next trailers' step split later records lower =>
      obtain ⟨lines', left, recorded⟩ := records.awaits awaits step split
      have goesOn := ih left rfl
      generalize (pullLoop κ).run (pool, holding lease after next trailers') = result at goesOn ⊢
      cases goesOn with
      | piece nonempty same left recorded' =>
        exact .piece nonempty same left (recorded.trans recorded')
      | last some same behind recorded' => exact .last some same behind (recorded.trans recorded')
      | failed => exact .failed
      | dropped => exact .dropped

/-- Calls on a body that is over. -/
theorem pulls_over (lease : PlainHttp1SenderLease κ) (trailers : Option HeaderMap)
    (pool : PlainHttp1SenderPool κ) (count : Nat) :
    (⟨lease, .done, trailers⟩ : PlainHttp1ResponseBody κ).pulls count pool =
      (replicate count (.ready none), pool, ⟨lease, .done, trailers⟩) := by
  induction count with
  | zero => rfl
  | succ count ih => rw [pulls_succ, pullNext_over, ih, replicate_succ]

/-- Calls that did not fail handed out the content of a body in order, and then its end. -/
structure Delivered (pool : PlainHttp1SenderPool κ) (lease : PlainHttp1SenderLease κ)
    (rest content : List UInt8) (trailers : Option HeaderMap) (lines : List (List UInt8))
    (results : List Pulled) (final : PlainHttp1SenderPool κ × PlainHttp1ResponseBody κ)
    (pieces : List (List UInt8)) (ends : Nat) : Prop where
  results : results = pieces.map (fun piece => .ready (some piece)) ++
    List.replicate ends (.ready none)
  nonempty : ∀ piece ∈ pieces, piece ≠ []
  inOrder : pieces.flatten <+: content
  complete : ends ≠ 0 → pieces.flatten = content ∧ ∃ after fields,
    final = released pool lease after (withFields trailers fields) ∧
    List.Forall₂ FieldOf lines fields ∧ after.unread = rest

/-- From any state of a body. -/
theorem pulls_delivered {count : Nat} {results : List Pulled}
    {final : PlainHttp1SenderPool κ × PlainHttp1ResponseBody κ}
    (awaits : Awaits rest kind reader.unread content lines)
    (ran : (holding lease reader kind trailers).pulls count pool = (results, final))
    (fine : ∀ pulled ∈ results, pulled.isReady) :
    ∃ pieces ends, Delivered pool lease rest content trailers lines results final pieces ends := by
  induction count generalizing reader kind content trailers lines results with
  | zero =>
    cases ran
    exact ⟨[], 0, by simp, by simp, by simp, by simp⟩
  | succ count ih =>
    have decodes := @pullNext_decodes _ _ pool lease reader kind trailers rest content lines awaits
    rw [pulls_succ] at ran
    generalize (holding lease reader kind trailers).pullNext pool = pulled at decodes ran
    cases decodes with
    | @piece data content' after next trailers' lines' nonempty same left recorded =>
      cases others : (holding lease after next trailers').pulls count pool with
      | mk results' final' =>
        rw [others] at ran
        cases ran
        obtain ⟨pieces, ends, delivered⟩ := ih left others fun other member =>
          fine other (mem_cons_of_mem _ member)
        refine ⟨data :: pieces, ends, ?_, ?_, ?_, ?_⟩
        · rw [delivered.results]
          rfl
        · simpa using ⟨nonempty, delivered.nonempty⟩
        · rw [same, flatten_cons]
          exact prefix_append_right_inj data |>.mpr delivered.inOrder
        intro some
        obtain ⟨whole, last, fields, ended, read, behind⟩ := delivered.complete some
        obtain ⟨front, fields', rfl, read', rfl⟩ := recorded
        refine ⟨by rw [flatten_cons, whole, same], last, fields' ++ fields, ?_, ?_, behind⟩
        · rw [ended, withFields_append]
        · exact rel_append read' read
    | @last chunk after trailers' some same behind recorded =>
      obtain ⟨front, fields, split, read, rfl⟩ := recorded
      rw [append_nil] at split
      subst split
      have past := pulls_over (released pool lease after (withFields trailers fields)).2.lease
        (withFields trailers fields) (released pool lease after (withFields trailers fields)).1
        count
      have done : (released pool lease after (withFields trailers fields)).2 =
          ⟨(released pool lease after (withFields trailers fields)).2.lease, .done,
            withFields trailers fields⟩ := rfl
      rw [done, past] at ran
      cases ran
      cases chunk with
      | none =>
        refine ⟨[], count + 1, rfl, by simp, by simp, fun _ => ⟨same.symm, after, fields, ?_⟩⟩
        exact ⟨rfl, read, behind⟩
      | some data =>
        refine ⟨[data], count, rfl, by simpa using some, by simp [same], fun _ => ⟨?_, ?_⟩⟩
        · simpa using same.symm
        · exact ⟨after, fields, rfl, read, behind⟩
    | failed | dropped =>
      cases ran
      cases fine _ mem_cons_self

theorem pulls_length (count : Nat) (pool : PlainHttp1SenderPool κ) :
    (body.pulls count pool).1.length = count := by
  induction count generalizing body pool with
  | zero => rfl
  | succ count ih => rw [pulls_succ, length_cons, ih]

/-- Pieces that are not empty are no more than the bytes in them. -/
theorem length_le_flatten {pieces : List (List UInt8)} (nonempty : ∀ piece ∈ pieces, piece ≠ []) :
    pieces.length ≤ pieces.flatten.length := by
  induction pieces with
  | nil => exact Nat.le_refl 0
  | cons piece pieces ih =>
    have some := length_pos_of_ne_nil (nonempty piece mem_cons_self)
    have others := ih fun other member => nonempty other (mem_cons_of_mem _ member)
    rw [length_cons, flatten_cons, length_append]
    omega

/-- Trailers are there exactly when lines were recorded. -/
theorem isSome_withFields {fields : HeaderMap} (read : List.Forall₂ FieldOf lines fields) :
    (withFields none fields).isSome ↔ lines ≠ [] := by
  cases read with
  | nil | cons first others => simp [withFields]

/-- From a response body by the standard, or one that ends with the connection, calls of
`pull_next` that do not fail hand out its content in order and then its end, with its
trailers and the connection at the first byte behind it. Calls enough come to the end. -/
theorem response_body_decoded {count : Nat} {results : List Pulled}
    {final : PlainHttp1SenderPool κ × PlainHttp1ResponseBody κ}
    (awaits : Awaits rest kind reader.unread content lines)
    (ran : (holding lease reader kind none).pulls count pool = (results, final))
    (fine : ∀ pulled ∈ results, pulled.isReady) :
    ∃ pieces ends, Delivered pool lease rest content none lines results final pieces ends ∧
      (content.length < count → ends ≠ 0) ∧
      (ends ≠ 0 → (final.2.trailers.isSome ↔ lines ≠ [])) := by
  obtain ⟨pieces, ends, delivered⟩ := pulls_delivered awaits ran fine
  refine ⟨pieces, ends, delivered, ?_, ?_⟩
  · have length : results.length = count := by rw [← pulls_length count pool, ran]
    have few := length_le_flatten delivered.nonempty
    have within := delivered.inOrder.length_le
    rw [delivered.results, length_append, length_map, length_replicate] at length
    omega
  intro some
  obtain ⟨-, after, fields, ended, read, -⟩ := delivered.complete some
  rw [ended]
  exact isSome_withFields read

/-- A chunked body with an extension and a trailer, behind which another response starts, in
two reads. -/
theorem response_body_decoded_sample :
    let wire := Text.ascii "2;x\r\nab\r\n0\r\nA: b\r\n\r\nHTTP"
    let lease : PlainHttp1SenderLease Unit := ⟨(), 8, true, false, none⟩
    let reader : Reader IoError := ⟨[.data ⟨wire.drop 6, by decide⟩], wire.take 6⟩
    let ran := (holding lease reader (.chunked .needSize) none).pulls 3 .empty
    ∃ pieces ends, Delivered .empty lease (ascii "HTTP") (ascii "ab") none
      [ascii "A: b"] ran.1 ran.2 pieces ends ∧ ((ascii "ab").length < 3 → ends ≠ 0) ∧
      (ends ≠ 0 → (ran.2.2.trailers.isSome ↔ [ascii "A: b"] ≠ [])) := by
  intro wire lease reader ran
  have accepted : Rfc9112.rules.Accepts
      ⟨[⟨ascii "2;x", ascii "ab"⟩], ascii "0", [ascii "A: b"]⟩ := by
    refine ⟨?_, by decide, ⟨ascii "0", [], rfl, by decide, .nil⟩, ?_⟩
    · have extension : Rfc9112.ChunkExt (ascii ";x") :=
        @Rfc9112.ChunkExt.named [] [] (ascii "x") [] (by simp [Rfc9112.Blank])
          (by simp [Rfc9112.Blank]) (by decide +kernel) .nil
      simpa using ⟨by decide, ⟨ascii "2", _, rfl, by decide, extension⟩, by decide⟩
    · have field : Rfc9112.FieldLine (ascii "A: b") :=
        ⟨ascii "A", ascii " b", rfl, by decide +kernel, by decide +kernel⟩
      simpa using ⟨by decide, field, by decide⟩
  have body : RestWith Rfc9112.rules (ChunkedState.place .needSize) _ _ _ := .size accepted
  have fine : ran.1.all Awaited.isReady := by decide +kernel
  exact response_body_decoded (.chunked body) rfl (all_eq_true.mp fine)

end

end PlainHttp1ResponseBody

end PdEdge.Upstream

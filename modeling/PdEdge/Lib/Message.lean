import PdEdge.Lib.Rfc9112

/-!
# Messages by the standard

A response is a status line, field lines, an empty line and a body. The bytes determine the
head and what follows it (`Message.unique`); whether what follows is exactly the body is
settled by the head and the method of the request. The head of a request is determined by the
bytes in the same way (`RequestMessage.unique`).
-/

namespace Rfc9112

open Text Wire

/-- The head of a response; field names are in lower case and values without blanks around
them. -/
structure Head where
  /-- The minor version. -/
  minor : Nat
  /-- The status code. -/
  status : Nat
  /-- Names and values in order. -/
  fields : List (List UInt8 × List UInt8)

/-- The values of a field in order. -/
def Head.values (head : Head) (name : List UInt8) : List (List UInt8) :=
  (head.fields.filter fun field => field.1 = name).map Prod.snd

/-- The minor version and the status of a status line. -/
def parseStatusLine (line : List UInt8) : Option (Nat × Nat) :=
  if line.take 7 = ascii "HTTP/1." ∧ (line.drop 8).take 1 = [32] ∧
      ((line.drop 9).take 3).length = 3 ∧ (line.drop 12).take 1 = [32] ∧
      (line.drop 13).all isFieldByte then do
    let minor ← decimal ((line.drop 7).take 1)
    let status ← decimal ((line.drop 9).take 3)
    some (minor, status)
  else none

/-- The name and the value of a field line. -/
def parseFieldLine (line : List UInt8) : Option (List UInt8 × List UInt8) :=
  let name := line.takeWhile (· ≠ 58)
  let value := line.drop (name.length + 1)
  if Token name ∧ 58 ∈ line ∧ value.all isFieldByte then
    some (name.map lower, stripBlanks value)
  else none

/-- The bytes are a head and what follows it. -/
inductive Message : List UInt8 → Head → List UInt8 → Prop
  | intro {start : List UInt8} {lines : List (List UInt8)} {minor status : Nat}
    {fields : List (List UInt8 × List UInt8)} {rest : List UInt8}
    (single : findCrlf start = none) (started : parseStatusLine start = some (minor, status))
    (each : ∀ line ∈ lines, findCrlf line = none ∧ line ≠ [])
    (read : lines.mapM parseFieldLine = some fields) :
    Message (start ++ crlf ++ (Chunked.encodeTrailers lines ++ rest)) ⟨minor, status, fields⟩ rest

variable {rest rest' bytes : List UInt8} {head : Head} {headRequest : Bool}

/-- Lines that have no line end in them and are not empty, apart from the first, are found
again in front of whatever follows them. -/
theorem lines_unique {start start' : List UInt8} {lines lines' : List (List UInt8)}
    (single : findCrlf start = none) (single' : findCrlf start' = none)
    (each : ∀ line ∈ lines, findCrlf line = none ∧ line ≠ [])
    (each' : ∀ line ∈ lines', findCrlf line = none ∧ line ≠ [])
    (same : start ++ crlf ++ (Chunked.encodeTrailers lines ++ rest) =
      start' ++ crlf ++ (Chunked.encodeTrailers lines' ++ rest')) :
    start = start' ∧ lines = lines' ∧ rest = rest' := by
  obtain ⟨rfl, tails⟩ := line_unique single single' same
  let rules : Chunked.Rules := ⟨fun _ _ => True, fun _ => True⟩
  have accepts (lines : List (List UInt8))
      (each : ∀ line ∈ lines, findCrlf line = none ∧ line ≠ []) :
      ∀ line ∈ lines, rules.AcceptsTrailer line := by
    intro line member
    obtain ⟨single, nonempty⟩ := each line member
    exact ⟨single, trivial, nonempty⟩
  exact ⟨rfl, Chunked.Rules.trailers_unique (accepts lines each) (accepts lines' each') tails⟩

/-- Bytes are one head and one rest at most. -/
theorem Message.unique {head' : Head} (first : Message bytes head rest)
    (second : Message bytes head' rest') : head = head' ∧ rest = rest' := by
  generalize same : bytes = bytes' at second
  cases first with
  | @intro start lines minor status fields _ single started each read =>
    cases second with
    | @intro start' lines' minor' status' fields' _ single' started' each' read' =>
      obtain ⟨rfl, rfl, rest⟩ := lines_unique single single' each each' same
      rw [started] at started'
      rw [read] at read'
      cases started'
      cases read'
      exact ⟨rfl, rest⟩

/-! ## Requests -/

/-- The bytes are the head of a request and what follows it: a line that splits at its spaces
into method, target and version, field lines, and an empty line. -/
inductive RequestMessage : List UInt8 → List UInt8 → List UInt8 →
    List (List UInt8 × List UInt8) → List UInt8 → Prop
  | intro {start method target : List UInt8} {lines : List (List UInt8)}
    {fields : List (List UInt8 × List UInt8)} {rest : List UInt8}
    (single : findCrlf start = none) (started : start.splitOn 32 = [method, target,
      ascii "HTTP/1.1"])
    (each : ∀ line ∈ lines, findCrlf line = none ∧ line ≠ [])
    (read : lines.mapM parseFieldLine = some fields) :
    RequestMessage (start ++ crlf ++ (Chunked.encodeTrailers lines ++ rest)) method target fields rest

/-- Bytes are the head of one request at most. -/
theorem RequestMessage.unique {method method' target target' : List UInt8}
    {fields fields' : List (List UInt8 × List UInt8)}
    (first : RequestMessage bytes method target fields rest)
    (second : RequestMessage bytes method' target' fields' rest') :
    method' = method ∧ target' = target ∧ fields' = fields ∧ rest' = rest := by
  generalize same : bytes = bytes' at second
  cases first with
  | @intro start _ _ lines _ _ single started each read =>
    cases second with
    | @intro start' _ _ lines' _ _ single' started' each' read' =>
      obtain ⟨rfl, rfl, rest⟩ := lines_unique single single' each each' same
      rw [started] at started'
      rw [read] at read'
      cases started'
      cases read'
      exact ⟨rfl, rfl, rfl, rest.symm⟩

/-- A name and a value with a colon and a blank between them are read back. -/
theorem parseFieldLine_field {name value : List UInt8} (token : Token name)
    (visible : ∀ byte ∈ value, isFieldByte byte) :
    parseFieldLine (name ++ ascii ": " ++ value) = some (name.map lower, stripBlanks value) := by
  have noColon : ∀ byte ∈ name, decide (byte ≠ 58) = true := by
    intro byte member
    have tchar := token.2 byte member
    apply decide_eq_true
    rintro rfl
    exact absurd tchar (by decide +kernel)
  have line : name ++ ascii ": " ++ value = name ++ 58 :: 32 :: value := by simp [ascii]
  have front : (name ++ 58 :: 32 :: value).takeWhile (· ≠ 58) = name := by
    rw [List.takeWhile_append_of_pos noColon]
    simp
  have behind : (name ++ 58 :: 32 :: value).drop (name.length + 1) = 32 :: value := by
    rw [← List.drop_drop, List.drop_left]
    rfl
  have each : ∀ byte ∈ 32 :: value, isFieldByte byte :=
    List.forall_mem_cons.mpr ⟨by decide +kernel, visible⟩
  have colon : (58 : UInt8) ∈ name ++ 58 :: 32 :: value := by simp
  rw [line]
  simp only [parseFieldLine, front, behind]
  rw [if_pos ⟨token, colon, List.all_eq_true.mpr each⟩]
  rfl

/-- The rest is exactly the body that the rule calls for. A message of minor version zero has
no transfer coding, and neither an error nor the end of the connection delimits a body. -/
def BodyRule.Holds (minor : Nat) (rest : List UInt8) : BodyRule → Prop
  | .noBody => rest = []
  | .chunked => minor ≠ 0 ∧ ChunkedBody rest
  | .fixed length => rest.length = length
  | .malformed => False
  | .untilClose => False

/-- The length values of a head. -/
def Head.lengths (head : Head) : List (List UInt8) := head.values (ascii "content-length")

/-- The transfer coding values of a head. -/
def Head.codings (head : Head) : List (List UInt8) := head.values (ascii "transfer-encoding")

/-- What follows the head is its body, all of it and nothing else, and the head says so in
one way only. -/
structure Complete (headRequest : Bool) (head : Head) (rest : List UInt8) : Prop where
  /-- The body ends where the bytes end. -/
  delimited : (responseBody (bodiless headRequest head.status) head.lengths head.codings).Holds
    head.minor rest
  /-- Only one kind of framing header is there. -/
  single : ¬ (head.lengths ≠ [] ∧ head.codings ≠ [])
  /-- A declared length is the number of bytes of the body. -/
  declared : bodiless headRequest head.status = false →
    ∀ value ∈ head.lengths, decimal value = some rest.length
  /-- A body has one of the framing headers. -/
  framed : bodiless headRequest head.status = false → head.lengths ≠ [] ∨ head.codings ≠ []

/-- The bytes are one complete response with nothing left after it. -/
def SelfDelimiting (headRequest : Bool) (bytes : List UInt8) : Prop :=
  ∃ head rest, Message bytes head rest ∧ Complete headRequest head rest

theorem selfDelimiting_iff (message : Message bytes head rest) :
    SelfDelimiting headRequest bytes ↔ Complete headRequest head rest := by
  constructor
  · rintro ⟨other, otherRest, parsed, complete⟩
    obtain ⟨rfl, rfl⟩ := message.unique parsed
    exact complete
  · exact fun complete => ⟨head, rest, message, complete⟩

/-- A response that has no body by method or status is complete when nothing follows it. -/
theorem complete_bodiless (none : bodiless headRequest head.status = true) :
    Complete headRequest head rest ↔ ¬ (head.lengths ≠ [] ∧ head.codings ≠ []) ∧ rest = [] := by
  constructor
  · intro complete
    have delimited := complete.delimited
    rw [none] at delimited
    exact ⟨complete.single, delimited⟩
  rintro ⟨single, nothing⟩
  refine ⟨?_, single, ?_, ?_⟩
  · rw [none]
    exact nothing
  all_goals simp [none]

variable (may : bodiless headRequest head.status = false)
include may

/-- A response with a length is complete when all lengths are that of the body and there is
no transfer coding. -/
theorem complete_length (given : head.lengths ≠ []) :
    Complete headRequest head rest ↔
      head.codings = [] ∧ ∀ value ∈ head.lengths, decimal value = some rest.length := by
  constructor
  · intro complete
    have uncoded : head.codings = [] := by
      by_contra coded
      exact complete.single ⟨given, coded⟩
    exact ⟨uncoded, complete.declared may⟩
  rintro ⟨uncoded, declared⟩
  refine ⟨?_, by simp [uncoded], fun _ => declared, fun _ => Or.inl given⟩
  have agreed := (agreedLength_eq_some given).mpr declared
  have final : finalChunked [] = false := by decide
  rw [may, uncoded, responseBody, if_neg (by decide), final, if_neg (by decide), if_neg given,
    agreed]
  rfl

/-- A response without a length is complete when its final coding is chunked, which its
version knows, and what follows is a chunked body. -/
theorem complete_coded (absent : head.lengths = []) :
    Complete headRequest head rest ↔
      finalChunked head.codings ∧ head.minor ≠ 0 ∧ ChunkedBody rest := by
  have rule : responseBody false [] head.codings =
      if finalChunked head.codings then .chunked else .untilClose := by
    simp [responseBody]
  constructor
  · intro complete
    have delimited := complete.delimited
    rw [may, absent, rule] at delimited
    split at delimited
    · rename_i final
      exact ⟨final, delimited⟩
    · exact delimited.elim
  · rintro ⟨final, body⟩
    refine ⟨?_, by simp [absent], by simp [absent], fun _ => Or.inr ?_⟩
    · rw [may, absent, rule, if_pos final]
      exact body
    · intro uncoded
      rw [uncoded] at final
      exact absurd final (by decide)

end Rfc9112

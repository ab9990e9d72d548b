import PdEdge.Lib.Message
import PdEdge.Upstream.Head
import PdEdge.Upstream.Pull
import PdEdge.Upstream.Request

/-!
# One exchange on a connection

The parts of `forward_serialized_via_sender_pool`: a connection is acquired, the request is
sent and the response head parsed, and the connection goes to the response body or back to
the pool. What the upstream does on a connection is given piece by piece: before the first
request, and from each request to the next.

An answer that is one final response with clear framing, or the beginning of one, is read as
such: no byte of it is left where its body ends.
-/

namespace PdEdge.Upstream

open Heads Wire Chunked PlainHttp1BodyKind

section

variable {κ : Type} [DecidableEq κ]

/-- `acquire_plain_http1_connection`; a new connection comes with what the upstream sends on
it before any request. -/
def acquirePlainHttp1Connection (pool : PlainHttp1SenderPool κ) (key : κ)
    (connect : Awaited VmError (Socket IoError)) :
    Awaited VmError PlainHttp1PooledConnection × PlainHttp1SenderPool κ :=
  match pool.take key with
  | (some connection, pool) => (.ready connection, pool)
  | (none, pool) =>
    match connect with
    | .ready socket => (.ready ⟨socket, []⟩, pool)
    | .failed err => (.failed err, pool)
    | .dropped => (.dropped, pool)

/-- `send_serialized_request_and_parse_response`, with what was sent; the upstream's answer
comes behind what it had sent before. -/
def sendSerializedRequestAndParseResponse (parser : HeadParser HttparseResponse)
    (connection : PlainHttp1PooledConnection) (request : SerializedOutboundHttp1Request)
    (outcomes : List (Awaited IoError Unit)) (answer : Socket IoError) :
    Awaited VmError ParsedResponseHead × List UInt8 × PlainHttp1PooledConnection :=
  match sendRequest request ⟨outcomes, []⟩ with
  | (.ready _, writer) =>
    let (parsed, connection) :=
      parseResponseHead parser request.method (connection.socket ++ answer) connection.buffered
    (parsed, writer.sent, connection)
  | (.failed err, writer) => (.failed err, writer.sent, connection)
  | (.dropped, writer) => (.dropped, writer.sent, connection)

/-- What becomes of the connection behind a head: the lease of a body, or the pool. -/
def handOver (pool : PlainHttp1SenderPool κ) (key : κ) (capacity : Nat)
    (connection : PlainHttp1PooledConnection) (head : ParsedResponseHead) :
    PlainHttp1SenderPool κ × Option (PlainHttp1ResponseBody κ) :=
  match head.bodyKind with
  | some kind => (pool, some (.new (.new key capacity (head.mayReuse kind) connection) kind))
  | none => (if head.keepAlive then (pool.put key capacity connection).2 else pool, none)

end

/-- On a connection without unread bytes, the head that is returned is the one of the answer
to a request that was sent whole. -/
theorem sendAndParse_ready {parser : HeadParser HttparseResponse}
    {connection after : PlainHttp1PooledConnection} {request : SerializedOutboundHttp1Request}
    {outcomes : List (Awaited IoError Unit)} {answer : Socket IoError}
    {head : ParsedResponseHead} {sent : List UInt8} (spent : connection.ahead = [])
    (ran : sendSerializedRequestAndParseResponse parser connection request outcomes answer =
      (.ready head, sent, after)) :
    request.Complete sent ∧ ∃ response consumed,
      parser.parse (carried answer) = .complete response consumed ∧
      acceptHead request.method response = .ok head ∧
      after.ahead = parser.behind (carried answer) := by
  have own : connection.buffered ++ carried (connection.socket ++ answer) = carried answer := by
    rw [carried_append, ← List.append_assoc]
    exact congrArg (· ++ carried answer) spent
  unfold sendSerializedRequestAndParseResponse at ran
  split at ran
  · rename_i writer wrote
    simp only [Prod.mk.injEq] at ran
    obtain ⟨parsed, rfl, rest⟩ := ran
    refine ⟨sendRequest_ready wrote, ?_⟩
    rw [← own]
    exact parseResponseHead_ready (Prod.ext parsed rest)
  all_goals cases ran

/-! ## Answers -/

/-- The head of a final response whose body every reader delimits by this rule. -/
def Plain (method : Method) (response : HttparseResponse) (rule : Rfc9112.BodyRule) : Prop :=
  let lengths := rawValues response.headers .contentLength
  let codings := rawValues response.headers .transferEncoding
  ∃ status, response.code = some status ∧ ¬ (100 ≤ status ∧ status < 200) ∧
    rule = Rfc9112.responseBody (Rfc9112.bodiless (method = .head) status) lengths codings ∧
    (Rfc9112.bodiless (method = .head) status ∨ ClearFraming lengths codings)

/-- With these bytes behind them, the bytes are one whole final response and nothing else. -/
def Completes (parser : HeadParser HttparseResponse) (method : Method)
    (bytes more : List UInt8) : Prop :=
  ∃ response consumed rule, parser.parse bytes = .complete response consumed ∧
    Plain method response rule ∧ rule.Holds 1 (parser.behind bytes ++ more)

/-- If there is a head in the bytes, they are one final response or the beginning of one. -/
def OneResponse (parser : HeadParser HttparseResponse) (method : Method)
    (bytes : List UInt8) : Prop :=
  ∀ response consumed, parser.parse bytes = .complete response consumed →
    ∃ rule, Plain method response rule ∧
      (rule = .untilClose ∨ ∃ more, rule.Holds 1 (parser.behind bytes ++ more))

/-- What is owed of a response when its body is read from here. -/
inductive Owed (parser : HeadParser HttparseResponse) (method : Method) (bytes : List UInt8)
    (ahead : List UInt8) : PlainHttp1BodyKind → Prop
  | untilClose : Owed parser method bytes ahead .closeDelimited
  | body {kind : PlainHttp1BodyKind} {more content : List UInt8}
    (remains : Remains Rfc9112.rules kind (ahead ++ more) content)
    (completes : Completes parser method bytes more) : Owed parser method bytes ahead kind

/-- How the body of an answer is read. -/
inductive Begins (parser : HeadParser HttparseResponse) (method : Method) (bytes : List UInt8) :
    Option PlainHttp1BodyKind → Prop
  | empty (nothing : parser.behind bytes = []) (whole : Completes parser method bytes []) :
    Begins parser method bytes none
  | body {kind : PlainHttp1BodyKind} (owed : Owed parser method bytes (parser.behind bytes) kind) :
    Begins parser method bytes (some kind)

section

variable {parser : HeadParser HttparseResponse} {method : Method} {bytes : List UInt8}
variable {response : HttparseResponse} {head : ParsedResponseHead} {rule : Rfc9112.BodyRule}

/-- A plain head is followed. -/
theorem Plain.follows (plain : Plain method response rule)
    (accepted : acceptHead method response = .ok head) : head.Follows rule := by
  obtain ⟨status, coded, -, rfl, clear⟩ := plain
  obtain rfl : status = head.status :=
    Option.some.inj (coded.symm.trans (acceptHead_ok accepted).1)
  by_cases bodiless : Rfc9112.bodiless (method = .head) head.status
  · simp [Rfc9112.responseBody, bodiless, ParsedResponseHead.Follows,
      bodyKind_of_bodiless accepted bodiless]
  rw [Bool.not_eq_true] at bodiless
  rw [bodiless] at clear ⊢
  have framed := clear.resolve_left Bool.false_ne_true
  exact (chosen_follows_iff (chosen_of_accepted accepted bodiless)).mpr framed

/-- An answer of one response is read as it. -/
theorem OneResponse.begins {consumed : Nat} (one : OneResponse parser method bytes)
    (parsed : parser.parse bytes = .complete response consumed)
    (accepted : acceptHead method response = .ok head) :
    Begins parser method bytes head.bodyKind := by
  obtain ⟨rule, plain, ending⟩ := one response consumed parsed
  have follows := plain.follows accepted
  -- what the rule holds of when the whole response is there
  have completes (more : List UInt8) (holds : rule.Holds 1 (parser.behind bytes ++ more)) :
      Completes parser method bytes more := ⟨response, consumed, rule, parsed, plain, holds⟩
  have empty (more : List UInt8) (holds : rule.Holds 1 (parser.behind bytes ++ more))
      (nothing : parser.behind bytes ++ more = []) : Begins parser method bytes none := by
    obtain ⟨nothing', rfl⟩ := List.append_eq_nil_iff.mp nothing
    exact .empty nothing' (completes [] holds)
  rcases ending with rfl | ⟨more, holds⟩
  · rw [follows.1]
    exact .body .untilClose
  cases rule with
  | noBody =>
    rw [show head.bodyKind = none from follows]
    exact empty more holds holds
  | chunked =>
    rw [show head.bodyKind = some (.chunked .needSize) from follows]
    obtain ⟨-, body, standard, encoded⟩ := id holds
    have whole : Remains Rfc9112.rules (.chunked .needSize) (parser.behind bytes ++ more)
        body.content := by
      rw [encoded]
      exact .chunked (Rest.size standard)
    exact .body (.body whole (completes more holds))
  | fixed length =>
    rcases follows with fixed | ⟨rfl, none⟩
    · rw [fixed]
      exact .body (.body (.fixed holds) (completes more holds))
    · rw [none]
      exact empty more holds (List.eq_nil_of_length_eq_zero holds)
  | malformed | untilClose => exact holds.elim

end

/-! ## Reading what is owed -/

section

variable {parser : HeadParser HttparseResponse} {method : Method} {bytes : List UInt8}
variable {kind next : PlainHttp1BodyKind} {used yielded before after : List UInt8}

/-- Only a body that ends with the connection is read as one. -/
theorem path_closeDelimited (path : Path Advances kind used yielded next) :
    next = .closeDelimited ↔ kind = .closeDelimited := by
  induction path with
  | refl => rfl
  | cons first rest ih =>
    rw [ih]
    cases first <;> simp

variable (owed : Owed parser method bytes before kind)
include owed

/-- Steps leave what is owed behind them. -/
theorem Owed.along (path : Path Advances kind used yielded next) (split : before = used ++ after) :
    Owed parser method bytes after next := by
  cases owed with
  | untilClose =>
    rw [(path_closeDelimited path).mpr rfl]
    exact .untilClose
  | @body _ more content remains completes =>
    have same : before ++ more ++ [] = used ++ (after ++ more) := by simp [split]
    obtain ⟨encoded, content', rest, -, -, left⟩ := remains.along (chunkSize_agrees _) path same
    rw [List.append_nil] at left
    rw [← left] at rest
    exact .body rest completes

/-- Where the body ends, the response is whole and nothing is left. -/
theorem Owed.ended {chunk : Option (List UInt8)} (ends : Ends kind used chunk)
    (split : before = used ++ after) : after = [] ∧ Completes parser method bytes [] := by
  cases owed with
  | untilClose => cases ends
  | @body _ more content remains completes =>
    have same : before ++ more ++ [] = used ++ (after ++ more) := by simp [split]
    obtain ⟨nothing, rfl⟩ := List.append_eq_nil_iff.mp (remains.ended ends same).2
    exact ⟨nothing, completes⟩

end

end PdEdge.Upstream

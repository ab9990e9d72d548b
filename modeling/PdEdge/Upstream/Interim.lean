import PdEdge.Upstream.World

/-!
# Interim responses

A server may send any number of interim responses before the final one. The client takes the
first head on the connection for the answer: `parse_response_head` does not look at the
status, and `response_has_no_body` holds of an interim response, so that its connection goes
back to the pool with the final response still to come.
-/

namespace PdEdge.Upstream

open Heads Wire Text

/-- A response head on the wire, and what is read in it. -/
structure SentHead where
  text : List UInt8
  raw : HttparseResponse

/-- The statuses after which another response follows; 101 is none of them. -/
def interimStatus (status : Nat) : Bool := 100 ≤ status && status < 200 && status ≠ 101

namespace SentHead

/-- The parser reads these bytes as this head, with this status. -/
structure Reads (parser : HeadParser HttparseResponse) (sent : SentHead) (status : Nat) :
    Prop where
  parsed : parser.parse sent.text = .complete sent.raw sent.text.length
  coded : sent.raw.code = some status

def Interim (parser : HeadParser HttparseResponse) (sent : SentHead) : Prop :=
  ∃ status, sent.Reads parser status ∧ interimStatus status

def Final (parser : HeadParser HttparseResponse) (sent : SentHead) : Prop :=
  ∃ status, sent.Reads parser status ∧ interimStatus status = false

end SentHead

/-- The exchange has ended with this head, and a connection that was put in the pool holds
nothing but the bytes behind it. -/
structure Answers {κ : Type} [DecidableEq κ] (before : PlainHttp1SenderPool κ)
    (result : PlainHttp1SenderPool κ × Phase κ) (head : ParsedResponseHead)
    (behind : List UInt8) : Prop where
  returned : ∃ trace body, result.2 = .responded trace body ∧ trace.head = head
  pooled : ∀ key, ∀ connection ∈ result.1.connections key,
    connection ∈ before.connections key ∨ connection.unread = behind

section

variable {κ : Type} [DecidableEq κ] {libraries : Libraries} {task : Task κ}
variable {pool : PlainHttp1SenderPool κ} {retried : Bool} {connection : PlainHttp1PooledConnection}
variable {request : SerializedOutboundHttp1Request} {outcomes : List (Awaited IoError Unit)}
variable {answer : Socket IoError} {writer : Writer} {head : ParsedResponseHead}

/-- Behind a request that was sent, the result is that of `parse_response_head`. -/
theorem sendAndParse_sent (sent : sendRequest request ⟨outcomes, []⟩ = (.ready (), writer)) :
    sendSerializedRequestAndParseResponse libraries.responses connection request outcomes answer =
      ((parseResponseHead libraries.responses request.method (connection.socket ++ answer)
        connection.buffered).1, writer.sent,
        (parseResponseHead libraries.responses request.method (connection.socket ++ answer)
          connection.buffered).2) := by
  rw [sendSerializedRequestAndParseResponse, sent]

/-- The pool is given the connection behind a head, or nothing. -/
theorem handOver_connections (key other : κ) (capacity : Nat) (found : PlainHttp1PooledConnection)
    (member : found ∈ (handOver pool key capacity connection head).1.connections other) :
    found ∈ pool.connections other ∨ found = connection := by
  unfold handOver at member
  split at member
  · exact Or.inl member
  split at member
  · rw [PlainHttp1SenderPool.connections_put] at member
    split at member
    · rename_i same
      rw [same.1]
      simpa using member
    · exact Or.inl member
  · exact Or.inl member

variable {text rest : List UInt8} {raw : HttparseResponse}

section

variable (sent : sendRequest request ⟨outcomes, []⟩ = (.ready (), writer))
include sent

variable (parsed : libraries.responses.parse text = .complete raw text.length)
include parsed

/-- The exchange of a final response that comes first. -/
theorem exchange_answers (accepted : acceptHead request.method raw = .ok head)
    (arrives : connection.buffered ++ arriving (connection.socket ++ answer) = text ++ rest) :
    Answers pool (task.exchange libraries pool retried connection request outcomes answer)
      head rest := by
  obtain ⟨after, found, left⟩ := parseResponseHead_front parsed accepted arrives
  have result := @sendAndParse_sent libraries connection request outcomes answer writer sent
  rw [found] at result
  rw [Task.exchange, result]
  refine ⟨⟨_, _, rfl, rfl⟩, fun key other member => ?_⟩
  rcases handOver_connections _ _ _ _ member with old | rfl
  · exact Or.inl old
  · exact Or.inr left

/-- The head an exchange ends with is the first on its connection. -/
theorem status_of_exchange {trace : Trace} {body : Option (PlainHttp1ResponseBody κ)}
    (arrives : connection.buffered ++ arriving (connection.socket ++ answer) = text ++ rest)
    (ended : (task.exchange libraries pool retried connection request outcomes answer).2 =
      .responded trace body) : raw.code = some trace.head.status := by
  have result := @sendAndParse_sent libraries connection request outcomes answer writer sent
  generalize found : parseResponseHead libraries.responses request.method
    (connection.socket ++ answer) connection.buffered = outcome at result
  obtain ⟨awaited, after⟩ := outcome
  rw [Task.exchange, result] at ended
  cases awaited with
  | ready head =>
    cases ended
    obtain ⟨response, consumed, whole, accepted, -⟩ := parseResponseHead_ready found
    rw [carried_eq, ← List.append_assoc, arrives, List.append_assoc,
      HeadParser.parse_append parsed] at whole
    cases whole
    exact (acceptHead_ok accepted).1
  | failed err =>
    dsimp only at ended
    split at ended <;> cases ended
  | dropped => cases ended

end

/-- With any number of interim responses in front of it, the final response is the one that
is returned, and the connection is not pooled before it, exactly when there are none. -/
theorem final_response_answers_iff {interims : List SentHead} {final : SentHead}
    {rest : List UInt8} (sent : sendRequest request ⟨outcomes, []⟩ = (.ready (), writer))
    (early : ∀ interim ∈ interims, interim.Interim libraries.responses)
    (last : final.Final libraries.responses)
    (accepted : acceptHead request.method final.raw = .ok head)
    (arrives : connection.buffered ++ arriving (connection.socket ++ answer) =
      interims.flatMap SentHead.text ++ (final.text ++ rest)) :
    Answers pool (task.exchange libraries pool retried connection request outcomes answer)
      head rest ↔ interims = [] := by
  obtain ⟨status, reads, isFinal⟩ := last
  constructor
  · intro answers
    obtain ⟨trace, body, ended, same⟩ := answers.returned
    cases interims with
    | nil => rfl
    | cons interim interims =>
      obtain ⟨earlier, readsEarly, isInterim⟩ := early interim List.mem_cons_self
      rw [List.flatMap_cons, List.append_assoc] at arrives
      have first := status_of_exchange sent readsEarly.parsed arrives ended
      have ended := (acceptHead_ok accepted).1
      rw [same, readsEarly.coded] at first
      rw [reads.coded] at ended
      cases first
      cases ended
      rw [isFinal] at isInterim
      cases isInterim
  · rintro rfl
    exact exchange_answers sent reads.parsed accepted arrives

end

/-- The head of early hints and that of an empty final response. -/
def earlyHints : SentHead :=
  ⟨ascii "HTTP/1.1 103 Early Hints\r\n\r\n", ⟨some 1, some 103, []⟩⟩

def emptyOk : SentHead :=
  ⟨ascii "HTTP/1.1 200 OK\r\nContent-Length: 0\r\n\r\n",
    ⟨some 1, some 200, [⟨ascii "Content-Length", ascii "0"⟩]⟩⟩

/-- What a parser reads in these two heads. -/
def readHint (text : List UInt8) : HttparseResponse :=
  if text = earlyHints.text then earlyHints.raw else emptyOk.raw

def twoHeads : Libraries :=
  ⟨.terminated (ascii "\r\n\r\n") readHint (by decide), fun _ => ""⟩

theorem reads_earlyHints : earlyHints.Reads twoHeads.responses 103 := by
  have stopped : HeadParser.stop (ascii "\r\n\r\n") earlyHints.text =
      some earlyHints.text.length := by decide +kernel
  have parsed : twoHeads.responses.parse earlyHints.text = _ :=
    HeadParser.terminated_parse _ readHint (by decide) stopped
  exact ⟨parsed, rfl⟩

theorem reads_emptyOk : emptyOk.Reads twoHeads.responses 200 := by
  have stopped : HeadParser.stop (ascii "\r\n\r\n") emptyOk.text =
      some emptyOk.text.length := by decide +kernel
  have parsed : twoHeads.responses.parse emptyOk.text = _ :=
    HeadParser.terminated_parse _ readHint (by decide) stopped
  exact ⟨parsed, rfl⟩

/-- A request without a body. -/
def hintedRequest : SerializedOutboundHttp1Request :=
  ⟨ascii "GET / HTTP/1.1\r\nhost: a\r\n\r\n", ⟨ascii "GET"⟩, .empty, false⟩

/-- A final response in two reads, with no interim response before it. -/
theorem final_response_answers_sample :
    Answers PlainHttp1SenderPool.empty
      (Task.exchange twoHeads ⟨(), 8, "http://a", .acquiring false⟩ .empty false ⟨[], []⟩
        hintedRequest [] [.data ⟨emptyOk.text.take 9, by decide⟩,
          .data ⟨emptyOk.text.drop 9, by decide⟩])
      ⟨200, [(.contentLength, ⟨ascii "0", by decide +kernel⟩)], .http11, some 0, true,
        none⟩ [] := by
  exact (final_response_answers_iff rfl (List.forall_mem_nil _)
    ⟨200, reads_emptyOk, rfl⟩ (by decide +kernel) (by decide +kernel)).mpr rfl

/-- Early hints before a final response are returned in its place. -/
theorem interim_response_returned : ¬ ∀ (libraries : Libraries) (task : Task Unit)
    (connection : PlainHttp1PooledConnection) (request : SerializedOutboundHttp1Request)
    (answer : Socket IoError) (writer : Writer) (interims : List SentHead) (final : SentHead)
    (head : ParsedResponseHead) (rest : List UInt8),
    sendRequest request ⟨[], []⟩ = (.ready (), writer) →
    (∀ interim ∈ interims, interim.Interim libraries.responses) →
    final.Final libraries.responses → acceptHead request.method final.raw = .ok head →
    connection.buffered ++ arriving (connection.socket ++ answer) =
      interims.flatMap SentHead.text ++ (final.text ++ rest) →
    Answers .empty (task.exchange libraries .empty false connection request [] answer)
      head rest := by
  intro all
  let answer : Socket IoError := [.data ⟨earlyHints.text ++ emptyOk.text, by decide⟩]
  have answers := all twoHeads ⟨(), 8, "http://a", .acquiring false⟩ ⟨[], []⟩ hintedRequest answer
    _ [earlyHints] emptyOk
    ⟨200, [(.contentLength, ⟨ascii "0", by decide +kernel⟩)], .http11, some 0, true, none⟩ []
    rfl (by simpa using ⟨103, reads_earlyHints, rfl⟩) ⟨200, reads_emptyOk, rfl⟩
    (by decide +kernel) (by decide +kernel)
  -- the connection in the pool still has the final response ahead of it
  have ahead : ((Task.exchange twoHeads ⟨(), 8, "http://a", .acquiring false⟩ .empty false ⟨[], []⟩
      hintedRequest [] answer).1.connections ()).map Reader.unread = [emptyOk.text] := by
    decide +kernel
  have member : emptyOk.text ∈ ((Task.exchange twoHeads ⟨(), 8, "http://a", .acquiring false⟩
      .empty false ⟨[], []⟩ hintedRequest [] answer).1.connections ()).map Reader.unread := by
    exact List.mem_singleton_self _
  obtain ⟨connection, pooled, unread⟩ := List.mem_map.mp member
  rcases answers.pooled () connection pooled with old | behind
  · cases old
  · rw [behind] at unread
    cases unread

end PdEdge.Upstream

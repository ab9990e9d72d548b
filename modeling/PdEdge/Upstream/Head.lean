import PdEdge.Lib.HeadParser
import PdEdge.Upstream.Turn

/-!
# Response heads

`parse_response_head` runs the head parser on a growing buffer, turns what it found into a
header map and chooses how the body is read. The choice is compared here with the order of
precedence of the standard, over every head the parser accepts.
-/

namespace PdEdge.Upstream

open Heads Text Wire Rfc9112 HeaderValue

/-- `httparse::Response` after a parse. -/
structure HttparseResponse where
  version : Option Nat
  code : Option Nat
  headers : List RawHttpHeader

/-- `ParsedResponseHead`. -/
structure ParsedResponseHead where
  status : Nat
  headers : HeaderMap
  version : Version
  contentLength : Option Nat
  keepAlive : Bool
  bodyKind : Option PlainHttp1BodyKind
  deriving DecidableEq

/-- `header_content_length`. -/
def headerContentLength (headers : HeaderMap) : Option Nat :=
  ((headers.get .contentLength).bind HeaderValue.toStr).bind parseU64

/-- `response_keeps_alive`. -/
def responseKeepsAlive (version : Version) (headers : HeaderMap) : Bool :=
  keepAlive version (headerContainsToken headers .connection "close")
    (headerContainsToken headers .connection "keep-alive")

/-- `response_has_no_body`. -/
def responseHasNoBody (status : Nat) (method : Method) : Bool :=
  method = .head || (100 ≤ status && status < 200) || status == 204 || status == 304

/-- `transfer_is_chunked`. -/
def transferIsChunked (headers : HeaderMap) : Bool :=
  headerContainsToken headers .transferEncoding "chunked"

/-- `version_from_http11_minor`. -/
def versionFromHttp11Minor (minor : Option Nat) : Version :=
  match minor with
  | some 0 => .http10
  | _ => .http11

/-- The loop that fills the header map. -/
def appendHeaders : List RawHttpHeader → HeaderMap → Except VmError HeaderMap
  | [], headers => .ok headers
  | header :: raw, headers =>
    let shown := String.ofList (header.name.map byteChar)
    match HeaderName.fromBytes header.name with
    | none => .error (.hostError (s!"invalid plain http/1.1 upstream header name \x60{shown}\x60: " ++
        "invalid HTTP header name"))
    | some name =>
      match HeaderValue.fromBytes header.value with
      | none =>
        .error (.hostError (s!"invalid plain http/1.1 upstream header value for \x60{shown}\x60: " ++
          "failed to parse header value"))
      | some value => appendHeaders raw (headers.add name value)

/-- The way the body is read. -/
def chooseBodyKind (status : Nat) (method : Method) (headers : HeaderMap) :
    Option PlainHttp1BodyKind :=
  let contentLength := headerContentLength headers
  if responseHasNoBody status method || contentLength = some 0 then none
  else if transferIsChunked headers then some (.chunked .needSize)
  else
    match contentLength with
    | some length => some (.fixed length)
    | none => some .closeDelimited

/-- What `parse_response_head` makes of a complete head. -/
def acceptHead (method : Method) (response : HttparseResponse) :
    Except VmError ParsedResponseHead := do
  let version := versionFromHttp11Minor response.version
  let some status := response.code
    | .error (.hostError "plain http/1.1 upstream response missing status code")
  let headers ← appendHeaders response.headers []
  .ok {
    status, headers, version
    contentLength := headerContentLength headers
    keepAlive := responseKeepsAlive version headers
    bodyKind := chooseBodyKind status method headers }

/-- `parse_response_head`: parse, and read more while the head is not complete. -/
def parseResponseHead (parser : HeadParser HttparseResponse) (method : Method) :
    Socket IoError → List UInt8 → Awaited VmError ParsedResponseHead × PlainHttp1PooledConnection
  | socket, buffered =>
    match parser.parse buffered with
    | .complete response consumed =>
      match acceptHead method response with
      | .ok head => (.ready head, ⟨socket, buffered.drop consumed⟩)
      | .error err => (.failed err, ⟨socket, buffered⟩)
    | .invalid message =>
      (.failed (.hostError
        s!"failed to parse plain http/1.1 upstream response head: {message}"), ⟨socket, buffered⟩)
    | .incomplete =>
      match socket with
      | [] => (.failed (.hostError
        "plain http/1.1 upstream connection closed before response head completed"), ⟨[], buffered⟩)
      | .data segment :: rest => parseResponseHead parser method rest (buffered ++ segment.bytes)
      | .error err :: rest => (.failed (readError err), ⟨rest, buffered⟩)
      | .dropped :: rest => (.dropped, ⟨rest, buffered⟩)

/-- Whether the lease of the body may put the connection back, as the caller decides it. -/
def ParsedResponseHead.mayReuse (head : ParsedResponseHead) (kind : PlainHttp1BodyKind) : Bool :=
  head.keepAlive && kind ≠ .closeDelimited

variable {parser : HeadParser HttparseResponse} {method : Method} {socket : Socket IoError}
variable {buffered : List UInt8} {head : ParsedResponseHead}

/-- A head that is returned is the one the bytes ahead start with, and the bytes behind it
are left. -/
theorem parseResponseHead_ready {after : PlainHttp1PooledConnection}
    (parsed : parseResponseHead parser method socket buffered = (.ready head, after)) :
    ∃ response consumed, parser.parse (buffered ++ carried socket) = .complete response consumed ∧
      acceptHead method response = .ok head ∧
      after.ahead = parser.behind (buffered ++ carried socket) := by
  fun_induction parseResponseHead parser method socket buffered with
  | case1 socket buffered response consumed found other accepted =>
    cases parsed
    refine ⟨response, consumed, HeadParser.parse_append found, accepted, ?_⟩
    rw [HeadParser.behind_append found, HeadParser.behind_complete found]
    rfl
  | case5 buffered found segment rest ih =>
    obtain ⟨response, consumed, whole, accepted, left⟩ := ih parsed
    rw [List.append_assoc] at whole left
    exact ⟨response, consumed, whole, accepted, left⟩
  | case2 | case3 | case4 | case6 | case7 => cases parsed

variable {raw : HttparseResponse} {lengths : List (List UInt8)}

/-- A head that is in the buffer is returned. -/
theorem parseResponseHead_found {consumed : Nat}
    (found : parser.parse buffered = .complete raw consumed)
    (accepted : acceptHead method raw = .ok head) :
    parseResponseHead parser method socket buffered =
      (.ready head, ⟨socket, buffered.drop consumed⟩) := by
  rw [parseResponseHead.eq_def]
  simp only [found, accepted]

/-- The head that the unread bytes start with is returned, in whatever reads it arrives. -/
theorem parseResponseHead_front {text rest : List UInt8}
    (parsed : parser.parse text = .complete raw text.length)
    (accepted : acceptHead method raw = .ok head)
    (same : buffered ++ arriving socket = text ++ rest) :
    ∃ after, parseResponseHead parser method socket buffered = (.ready head, after) ∧
      after.unread = rest := by
  induction socket generalizing buffered with
  | nil =>
    obtain ⟨behind, rfl, more, found⟩ | ⟨short, -⟩ := HeadParser.parse_front parsed same
    · refine ⟨_, parseResponseHead_found found accepted, ?_⟩
      rw [← more, List.drop_left]
      rfl
    · have length := congrArg List.length same
      simp [arriving] at length
      omega
  | cons event socket ih =>
    obtain ⟨behind, rfl, more, found⟩ | ⟨short, waits⟩ := HeadParser.parse_front parsed same
    · refine ⟨_, parseResponseHead_found found accepted, ?_⟩
      rw [← more, List.drop_left]
      rfl
    cases event with
    | data segment =>
      have goesOn : parseResponseHead parser method (.data segment :: socket) buffered =
          parseResponseHead parser method socket (buffered ++ segment.bytes) := by
        rw [parseResponseHead.eq_def]
        simp only [waits]
      rw [goesOn]
      apply ih
      rw [List.append_assoc]
      exact same
    | error err | dropped =>
      have length := congrArg List.length same
      simp [arriving] at length
      omega

/-- A head that is still awaited when the task is dropped is never returned. -/
theorem parseResponseHead_interrupted {rest : Socket IoError}
    (waits : parser.Waits (buffered ++ arriving socket))
    (interrupted : later socket = .dropped :: rest) :
    ∃ after, parseResponseHead parser method socket buffered = (.dropped, after) := by
  induction socket generalizing buffered with
  | nil => cases interrupted
  | cons event socket ih =>
    have asked := waits.front
    cases event with
    | data segment =>
      have goesOn : parseResponseHead parser method (.data segment :: socket) buffered =
          parseResponseHead parser method socket (buffered ++ segment.bytes) := by
        rw [parseResponseHead.eq_def]
        simp only [asked]
      rw [goesOn]
      apply ih
      · rw [List.append_assoc]
        exact waits
      · exact interrupted
    | error err => cases interrupted
    | dropped =>
      rw [parseResponseHead.eq_def]
      simp only [asked]
      exact ⟨_, rfl⟩

/-! ## The rule of the standard -/

/-- The body is read as the rule says: a body of length zero may be read as none, and what
ends with the connection does not leave a connection to use again. -/
def ParsedResponseHead.Follows (head : ParsedResponseHead) : Rfc9112.BodyRule → Prop
  | .noBody => head.bodyKind = none
  | .chunked => head.bodyKind = some (.chunked .needSize)
  | .fixed length => head.bodyKind = some (.fixed length) ∨ length = 0 ∧ head.bodyKind = none
  | .malformed => False
  | .untilClose => head.bodyKind = some .closeDelimited ∧ head.mayReuse .closeDelimited = false

instance (head : ParsedResponseHead) (rule : Rfc9112.BodyRule) : Decidable (head.Follows rule) :=
  match rule with
  | .noBody => inferInstanceAs (Decidable (_ = _))
  | .chunked => inferInstanceAs (Decidable (_ = _))
  | .fixed _ => inferInstanceAs (Decidable (_ ∨ _))
  | .malformed => inferInstanceAs (Decidable False)
  | .untilClose => inferInstanceAs (Decidable (_ ∧ _))

/-- The first length value of a raw list, as it is read. -/
def firstLength (lengths : List (List UInt8)) : Option Nat :=
  (lengths.head?.bind HeaderValue.visibleText).bind parseU64

/-- Headers on which every reading agrees: chunked is found where it is the final coding and
nowhere else, lengths say one number in digits alone, and no length of zero stands before
chunked. -/
def ClearFraming (lengths codings : List (List UInt8)) : Prop :=
  let found := anyToken (codings.filterMap HeaderValue.visibleText) "chunked"
  (Rfc9112.finalChunked codings ∧ found ∧ firstLength lengths ≠ some 0) ∨
  (¬ Rfc9112.finalChunked codings ∧
    ((lengths ≠ [] ∧ ∀ value ∈ lengths, Rfc9112.decimal value = some 0) ∨
      (¬ found ∧ ∃ length < u64Limit, ∀ value ∈ lengths, Rfc9112.decimal value = some length)))

/-- The map holds the values of the raw list. -/
theorem appendHeaders_values {raw : List RawHttpHeader} {headers filled : HeaderMap}
    (made : appendHeaders raw headers = .ok filled) {name : HeaderName} :
    (filled.getAll name).map bytes = (headers.getAll name).map bytes ++ rawValues raw name := by
  induction raw generalizing headers with
  | nil =>
    cases made
    simp [rawValues]
  | cons header raw ih =>
    simp only [appendHeaders] at made
    split at made
    · contradiction
    rename_i other named
    split at made
    · contradiction
    rename_i value valued
    have bytes := fromBytes_eq_some valued
    have same : other = name ↔ eqIgnoreAsciiCase header.name name.bytes :=
      HeaderName.fromBytes_eq_some named
    rw [ih made, HeaderMap.add, HeaderMap.getAll_append, HeaderMap.getAll_cons]
    by_cases equal : other = name
    · simp [equal, bytes, rawValues, same.mp equal]
    · have differs : ¬ eqIgnoreAsciiCase header.name name.bytes := fun named =>
        equal (same.mpr named)
      simp [equal, rawValues, differs]

section

variable {method : Method} {response : HttparseResponse} {head : ParsedResponseHead}

/-- What was made of a head that is accepted. -/
theorem acceptHead_ok (accepted : acceptHead method response = .ok head) :
    response.code = some head.status ∧ appendHeaders response.headers [] = .ok head.headers ∧
      head.bodyKind = chooseBodyKind head.status method head.headers := by
  unfold acceptHead at accepted
  cases coded : response.code with
  | none => simp [coded] at accepted
  | some status =>
    cases filled : appendHeaders response.headers [] with
    | error err => simp [coded, filled, bind, Except.bind] at accepted
    | ok headers =>
      simp only [coded, filled, bind, Except.bind, Except.ok.injEq] at accepted
      rw [← accepted]
      exact ⟨rfl, rfl, rfl⟩

/-- What was made of a head, in terms of its raw headers. -/
theorem bodyKind_of_accepted (accepted : acceptHead method response = .ok head) :
    head.bodyKind = if responseHasNoBody head.status method ∨
        firstLength (rawValues response.headers .contentLength) = some 0 then none
      else if anyToken ((rawValues response.headers .transferEncoding).filterMap
        visibleText) "chunked" then some (.chunked .needSize)
      else
        some (((firstLength (rawValues response.headers .contentLength)).map
          PlainHttp1BodyKind.fixed).getD .closeDelimited) := by
  obtain ⟨-, filled, kind⟩ := acceptHead_ok accepted
  have values : ∀ name, (head.headers.getAll name).map bytes = rawValues response.headers name := by
    intro name
    simpa using appendHeaders_values filled
  have length : headerContentLength head.headers =
      firstLength (rawValues response.headers .contentLength) := by
    rw [headerContentLength, firstLength, ← values, HeaderMap.get]
    cases head.headers.getAll .contentLength <;> rfl
  have token : transferIsChunked head.headers = anyToken
      ((rawValues response.headers .transferEncoding).filterMap visibleText)
      "chunked" := by
    rw [transferIsChunked, headerContainsToken, ← values, List.filterMap_map]
    rfl
  simp only [kind, chooseBodyKind, length, token, Bool.or_eq_true, decide_eq_true_eq]
  cases firstLength (rawValues response.headers .contentLength) <;> rfl

end

/-! ## Where the choice is that of the standard -/

/-- Lengths that agree on a number that fits are read as it. -/
theorem firstLength_of_agreed {length : Nat} (given : lengths ≠ [])
    (agreed : ∀ value ∈ lengths, decimal value = some length) (fits : length < u64Limit) :
    firstLength lengths = some length := by
  cases lengths with
  | nil => contradiction
  | cons first rest =>
    have written := agreed first List.mem_cons_self
    simp only [firstLength, List.head?_cons, Option.bind_some, (text_of_decimal written).2]
    exact parseU64_of_decimal written fits

/-- A length that is read fits its type. -/
theorem firstLength_lt {length : Nat} (read : firstLength lengths = some length) :
    length < u64Limit := by
  obtain ⟨text, -, parsed⟩ := Option.bind_eq_some_iff.mp read
  exact parseU64_lt parsed

section

variable {lengths codings : List (List UInt8)} {head : ParsedResponseHead} {found : Bool}

/-- What is chosen for a response that may have a body. -/
def Chosen (head : ParsedResponseHead) (lengths : List (List UInt8)) (found : Bool) : Prop :=
  head.bodyKind = if firstLength lengths = some 0 then none
    else if found then some (.chunked .needSize)
    else some (((firstLength lengths).map PlainHttp1BodyKind.fixed).getD .closeDelimited)

/-- Chunked is chosen where it is found and no length of zero comes first. -/
theorem chosen_chunked_iff (chosen : Chosen head lengths found) :
    head.Follows .chunked ↔ found ∧ firstLength lengths ≠ some 0 := by
  unfold Chosen at chosen
  simp only [ParsedResponseHead.Follows, chosen]
  by_cases zero : firstLength lengths = some 0
  · simp [zero]
  · cases found with
    | true => simp [zero]
    | false => cases read : firstLength lengths <;> simp_all

/-- Without lengths the body is read until the connection closes unless chunked is found. -/
theorem chosen_untilClose_iff (chosen : Chosen head [] found) :
    head.Follows .untilClose ↔ ¬ found := by
  have unread : firstLength [] = none := rfl
  unfold Chosen at chosen
  simp only [ParsedResponseHead.Follows, ParsedResponseHead.mayReuse, chosen, unread]
  cases found <;> simp

/-- An agreed length is chosen when it is zero, or fits and chunked is not found. -/
theorem chosen_fixed_iff {length : Nat} (chosen : Chosen head lengths found)
    (given : lengths ≠ []) (agreed : ∀ value ∈ lengths, decimal value = some length) :
    head.Follows (.fixed length) ↔ length = 0 ∨ ¬ found ∧ length < u64Limit := by
  unfold Chosen at chosen
  simp only [ParsedResponseHead.Follows, chosen]
  by_cases fits : length < u64Limit
  · have read := firstLength_of_agreed given agreed fits
    by_cases zero : length = 0
    · simp [read, zero]
    · cases found <;> simp [read, zero, fits]
  have nonzero : length ≠ 0 := by
    rintro rfl
    exact fits (by decide)
  have other : firstLength lengths ≠ some length := fun read => fits (firstLength_lt read)
  by_cases zero : firstLength lengths = some 0
  · simp [zero, nonzero, fits]
  cases found with
  | true => simp [zero, nonzero, fits]
  | false =>
    cases read : firstLength lengths with
    | none => simp [nonzero, fits]
    | some number => simp_all

/-- For a response that may have a body, the choice is that of the standard exactly when the
framing headers are clear. -/
theorem chosen_follows_iff (chosen : Chosen head lengths
      (anyToken (codings.filterMap visibleText) "chunked")) :
    head.Follows (responseBody false lengths codings) ↔ ClearFraming lengths codings := by
  unfold responseBody ClearFraming
  rw [if_neg (by decide)]
  by_cases final : finalChunked codings
  · rw [if_pos final, chosen_chunked_iff chosen]
    simp [final]
  rw [if_neg final]
  by_cases absent : lengths = []
  · subst absent
    rw [if_pos rfl, chosen_untilClose_iff chosen]
    have room : ∃ length, length < u64Limit := ⟨0, by decide⟩
    simp [final, room]
  rw [if_neg absent]
  cases agreement : agreedLength lengths with
  | none =>
    have conflict : ∀ length, ¬ ∀ value ∈ lengths, decimal value = some length := by
      intro length agreed
      have agreement' := (agreedLength_eq_some absent).mpr agreed
      rw [agreement] at agreement'
      contradiction
    simp [ParsedResponseHead.Follows, final, conflict]
  | some length =>
    have agreed := (agreedLength_eq_some absent).mp agreement
    have unique : ∀ other, (∀ value ∈ lengths, decimal value = some other) ↔
        other = length := by
      intro other
      rw [← agreedLength_eq_some absent, agreement, Option.some.injEq, eq_comm]
    simp only [chosen_fixed_iff chosen absent agreed, unique, final]
    constructor
    · rintro (rfl | ⟨unfound, fits⟩)
      · exact Or.inr ⟨by decide, Or.inl ⟨absent, rfl⟩⟩
      · exact Or.inr ⟨by decide, Or.inr ⟨unfound, length, fits, rfl⟩⟩
    rintro (⟨impossible, -⟩ | ⟨-, ⟨-, zero⟩ | ⟨unfound, other, fits, rfl⟩⟩)
    · contradiction
    · exact Or.inl zero.symm
    · exact Or.inr ⟨unfound, fits⟩

end

section

variable {method : Method} {response : HttparseResponse} {head : ParsedResponseHead}
variable (accepted : acceptHead method response = .ok head)
include accepted

/-- No body is read for a response that has none by its method or status. -/
theorem bodyKind_of_bodiless (bodiless : bodiless (method = .head) head.status) :
    head.bodyKind = none := by
  have same : responseHasNoBody head.status method =
      Rfc9112.bodiless (method = .head) head.status := rfl
  rw [bodyKind_of_accepted accepted, same]
  simp [bodiless]

/-- For other responses the framing headers choose. -/
theorem chosen_of_accepted (bodily : bodiless (method = .head) head.status = false) :
    Chosen head (rawValues response.headers .contentLength)
      (anyToken ((rawValues response.headers .transferEncoding).filterMap
        visibleText) "chunked") := by
  have same : responseHasNoBody head.status method = bodiless (method = .head) head.status := rfl
  have kind := bodyKind_of_accepted accepted
  rw [same, bodily] at kind
  simpa [Chosen] using kind

end

/-- On every head that is accepted, the body is read as the standard says exactly when the
response has none by its method or status, or its framing headers are clear. -/
theorem bodyKind_follows_iff {method : Method} {response : HttparseResponse}
    {head : ParsedResponseHead} (accepted : acceptHead method response = .ok head) :
    head.Follows (Rfc9112.responseBody (Rfc9112.bodiless (method = .head) head.status)
      (rawValues response.headers .contentLength)
      (rawValues response.headers .transferEncoding)) ↔
    Rfc9112.bodiless (method = .head) head.status ∨
      ClearFraming (rawValues response.headers .contentLength)
        (rawValues response.headers .transferEncoding) := by
  by_cases bodiless : bodiless (method = .head) head.status
  · simp [responseBody, ParsedResponseHead.Follows, bodiless,
      bodyKind_of_bodiless accepted bodiless]
  · simp only [Bool.not_eq_true] at bodiless
    simp only [bodiless, Bool.false_eq_true, false_or]
    exact chosen_follows_iff (chosen_of_accepted accepted bodiless)

/-- A chunked response with a length besides. -/
theorem bodyKind_follows_sample :
    let response : HttparseResponse := ⟨some 1, some 200,
      [⟨ascii "Content-Length", ascii "12"⟩, ⟨ascii "Transfer-Encoding", ascii "gzip, chunked"⟩]⟩
    let head : ParsedResponseHead := ⟨200, [(.contentLength, ⟨ascii "12", by decide +kernel⟩),
      (.transferEncoding, ⟨ascii "gzip, chunked", by decide +kernel⟩)], .http11, some 12, true,
      some (.chunked .needSize)⟩
    acceptHead ⟨ascii "GET"⟩ response = .ok head ∧ head.Follows .chunked := by
  intro response head
  have accepted : acceptHead ⟨ascii "GET"⟩ response = .ok head := by decide +kernel
  have clear : ClearFraming (rawValues response.headers .contentLength)
      (rawValues response.headers .transferEncoding) :=
    Or.inl ⟨by decide +kernel, by decide +kernel, by decide +kernel⟩
  have follows := (bodyKind_follows_iff accepted).mpr (Or.inr clear)
  exact ⟨accepted, follows⟩

/-- A length of zero hides the chunked body behind it. -/
theorem zero_length_hides_chunked : ¬ ∀ (method : Method) (response : HttparseResponse)
    (head : ParsedResponseHead), acceptHead method response = .ok head →
    head.Follows (Rfc9112.responseBody (Rfc9112.bodiless (method = .head) head.status)
      (rawValues response.headers .contentLength)
      (rawValues response.headers .transferEncoding)) := by
  intro follows
  let head : ParsedResponseHead := ⟨200, [(.contentLength, ⟨ascii "0", by decide +kernel⟩),
    (.transferEncoding, .chunked)], .http11, some 0, true, none⟩
  have chosen := follows ⟨ascii "GET"⟩ ⟨some 1, some 200,
    [⟨ascii "Content-Length", ascii "0"⟩, ⟨ascii "Transfer-Encoding", ascii "chunked"⟩]⟩ head
    (by decide +kernel)
  exact absurd chosen (by decide +kernel)

end PdEdge.Upstream

import PdEdge.Http1.Headers

/-!
# How the fast path frames a request

`LazyHttpHeaders` answers from the raw header list until the map is built. The classifier
of the fast path asks it for the framing headers; its answer is compared here with the
framing of the standard, over every list of raw headers.
-/

namespace PdEdge.Downstream

open Text

/-- `LazyHttpHeaders`: the raw list, and the map once something asked for it. -/
structure LazyHttpHeaders where
  raw : Option (List RawHttpHeader)
  parsed : Option HeaderMap

namespace LazyHttpHeaders

/-- `from_raw_header_bytes`. -/
def fromRawHeaderBytes (raw : List RawHttpHeader) : LazyHttpHeaders := ⟨some raw, none⟩

/-- `headers`: the map, built from the raw list where there is none yet. -/
def headers (lazy : LazyHttpHeaders) : HeaderMap :=
  match lazy.parsed with
  | some parsed => parsed
  | none => (lazy.raw.getD []).filterMap fun header => do
    let name ← HeaderName.fromBytes header.name
    let value ← HeaderValue.fromBytes header.value
    some (name, value)

/-- `get_str`. -/
def getStr (lazy : LazyHttpHeaders) (name : HeaderName) : Option (List Char) :=
  match lazy.parsed with
  | some parsed => (parsed.get name).bind HeaderValue.toStr
  | none => lazy.raw.bind fun raw => raw.findSome? fun header =>
    if eqIgnoreAsciiCase header.name name.bytes then fromUtf8 header.value else none

/-- `contains_name`. -/
def containsName (lazy : LazyHttpHeaders) (name : HeaderName) : Bool :=
  match lazy.parsed with
  | some parsed => parsed.containsKey name
  | none => lazy.raw.any fun raw => raw.any fun header => eqIgnoreAsciiCase header.name name.bytes

/-- `header_contains_token`. -/
def headerContainsToken (lazy : LazyHttpHeaders) (name : HeaderName) (token : String) : Bool :=
  match lazy.parsed with
  | some parsed => PdEdge.headerContainsToken parsed name token
  | none => lazy.raw.any fun raw => anyToken ((rawValues raw name).filterMap fromUtf8) token

/-- The headers that `for_each_header` goes through, in order. -/
def forEachHeader (lazy : LazyHttpHeaders) : List RawHttpHeader :=
  match lazy.parsed with
  | some parsed => parsed.map fun entry => ⟨entry.1.bytes, entry.2.bytes⟩
  | none => (lazy.raw.getD []).filter fun header => (fromUtf8 header.name).isSome

/-- `content_length`. -/
def contentLength (lazy : LazyHttpHeaders) : Option Nat :=
  (lazy.getStr .contentLength).bind parseU64

section

variable (raw : List RawHttpHeader) (name : HeaderName)

theorem getStr_raw :
    (fromRawHeaderBytes raw).getStr name = (rawValues raw name).findSome? fromUtf8 := by
  simp only [getStr, fromRawHeaderBytes, Option.bind_some]
  induction raw with
  | nil => rfl
  | cons header raw ih =>
    by_cases same : eqIgnoreAsciiCase header.name name.bytes
    · simp [rawValues, same, List.findSome?_cons, ih]
    · simpa [rawValues, same] using ih

theorem containsName_raw :
    (fromRawHeaderBytes raw).containsName name = !(rawValues raw name).isEmpty := by
  simp only [containsName, fromRawHeaderBytes, Option.any_some]
  induction raw with
  | nil => rfl
  | cons header raw ih =>
    by_cases same : eqIgnoreAsciiCase header.name name.bytes
    · simp [rawValues, same]
    · simpa [rawValues, same] using ih

end

end LazyHttpHeaders

/-- `DownstreamHttp1FastBodyKind`. -/
inductive DownstreamHttp1FastBodyKind where
  | empty
  | fixed (length : Nat)
  | chunked
  deriving DecidableEq, Repr

open LazyHttpHeaders

/-- `downstream_http1_fast_path_expects_continue_lazy`. -/
def fastPathExpectsContinue (headers : LazyHttpHeaders) : Bool :=
  match headers.getStr .expect with
  | some value => strEqIgnoreAsciiCase (trim value) "100-continue".toList
  | none => false

/-- `classify_downstream_http1_fast_body_lazy`. -/
def classifyFastBody (headers : LazyHttpHeaders) : Option DownstreamHttp1FastBodyKind :=
  if headers.containsName .contentLength && headers.containsName .transferEncoding then none
  else if headers.containsName .transferEncoding then
    if headers.headerContainsToken .transferEncoding "chunked" then some .chunked else none
  else
    match headers.contentLength with
    | none => some .empty
    | some contentLength =>
      if contentLength = 0 then some .empty
      else if contentLength < usizeLimit then some (.fixed contentLength) else none

/-- `downstream_http1_fast_path_eligible_lazy`. -/
def fastPathEligible (method : Method) (headers : LazyHttpHeaders) : Bool :=
  if method = .connect then false
  else if headers.containsName .expect && !fastPathExpectsContinue headers then false
  else if headers.containsName .upgrade then false
  else if headers.headerContainsToken .connection "upgrade" then false
  else (classifyFastBody headers).isSome

/-! ## The framing of the standard -/

/-- The framing headers of a request give this body: none of them, lengths that all say the
same number in digits alone, or chunked as the only transfer coding. -/
def DownstreamHttp1FastBodyKind.Frames (lengths codings : List (List UInt8)) :
    DownstreamHttp1FastBodyKind → Prop
  | .empty => codings = [] ∧ ∀ value ∈ lengths, Rfc9112.decimal value = some 0
  | .fixed length =>
    codings = [] ∧ lengths ≠ [] ∧ ∀ value ∈ lengths, Rfc9112.decimal value = some length
  | .chunked => lengths = [] ∧ Rfc9112.listMembers codings = [Rfc9112.chunkedCoding]

/-- Whatever the classifier answers is the framing of the standard, and the fast path takes
no request without one. -/
def FramesSoundly (raw : List RawHttpHeader) : Prop :=
  (∀ kind, classifyFastBody (.fromRawHeaderBytes raw) = some kind →
    kind.Frames (rawValues raw .contentLength) (rawValues raw .transferEncoding)) ∧
  ∀ method, fastPathEligible method (.fromRawHeaderBytes raw) →
    ∃ kind : DownstreamHttp1FastBodyKind,
      kind.Frames (rawValues raw .contentLength) (rawValues raw .transferEncoding)

/-- Headers that leave the classifier no choice: both framing headers, lengths that all say
one number that fits, or codings among which chunked is not found unless it stands alone. -/
def Unambiguous (raw : List RawHttpHeader) : Prop :=
  let lengths := rawValues raw .contentLength
  let codings := rawValues raw .transferEncoding
  (codings ≠ [] ∧ lengths ≠ []) ∨
  (codings ≠ [] ∧ (anyToken (codings.filterMap fromUtf8) "chunked" →
    Rfc9112.listMembers codings = [Rfc9112.chunkedCoding])) ∨
  (codings = [] ∧ ∃ length < u64Limit, ∀ value ∈ lengths, Rfc9112.decimal value = some length)

/-- Lengths that agree on a number are read as it. -/
theorem contentLength_of_decimal {raw : List RawHttpHeader} {length : Nat}
    (given : rawValues raw .contentLength ≠ []) (fits : length < u64Limit)
    (agree : ∀ value ∈ rawValues raw .contentLength, Rfc9112.decimal value = some length) :
    (fromRawHeaderBytes raw).contentLength = some length := by
  unfold contentLength
  rw [getStr_raw]
  cases values : rawValues raw .contentLength with
  | nil => contradiction
  | cons first rest =>
    have written := agree first (values ▸ List.mem_cons_self)
    rw [List.findSome?_cons, (text_of_decimal written).1]
    exact parseU64_of_decimal written fits

section

variable {raw : List RawHttpHeader}

/-- With a transfer coding the answer is chunked or nothing. -/
theorem classify_coded (coded : rawValues raw .transferEncoding ≠ []) :
    classifyFastBody (.fromRawHeaderBytes raw) = if rawValues raw .contentLength = [] ∧
        anyToken ((rawValues raw .transferEncoding).filterMap fromUtf8) "chunked" then
        some .chunked
      else none := by
  have present : (fromRawHeaderBytes raw).containsName .transferEncoding = true := by
    simpa [containsName_raw] using coded
  have token : (fromRawHeaderBytes raw).headerContainsToken .transferEncoding "chunked" =
      anyToken ((rawValues raw .transferEncoding).filterMap fromUtf8) "chunked" := rfl
  unfold classifyFastBody
  rw [present, token, containsName_raw]
  by_cases given : rawValues raw .contentLength = []
  all_goals simp [given]

/-- Without a transfer coding the length decides. -/
theorem classify_uncoded (uncoded : rawValues raw .transferEncoding = []) :
    ((fromRawHeaderBytes raw).contentLength = none →
      classifyFastBody (.fromRawHeaderBytes raw) = some .empty) ∧
    ∀ length, (fromRawHeaderBytes raw).contentLength = some length →
      classifyFastBody (.fromRawHeaderBytes raw) =
        some (if length = 0 then .empty else .fixed length) := by
  have absent : (fromRawHeaderBytes raw).containsName .transferEncoding = false := by
    simp [containsName_raw, uncoded]
  unfold classifyFastBody
  rw [absent]
  constructor
  · intro unread
    simp [unread]
  intro length read
  have fits : length < usizeLimit := by
    obtain ⟨text, -, parsed⟩ := Option.bind_eq_some_iff.mp read
    exact parseU64_lt parsed
  by_cases zero : length = 0
  · simp [read, zero]
  · simp [read, zero, fits]

/-- The answer frames the request as the standard does exactly when nothing else could. -/
theorem classify_frames_iff (raw : List RawHttpHeader) :
    (∀ kind, classifyFastBody (.fromRawHeaderBytes raw) = some kind →
      kind.Frames (rawValues raw .contentLength) (rawValues raw .transferEncoding)) ↔
    Unambiguous raw := by
  by_cases uncoded : rawValues raw .transferEncoding = []
  · obtain ⟨unread, read⟩ := classify_uncoded uncoded
    simp only [Unambiguous, uncoded, ne_eq, not_true_eq_false, false_and, true_and, false_or]
    constructor
    · intro frames
      cases parsed : (fromRawHeaderBytes raw).contentLength with
      | none => exact ⟨0, by decide, (frames .empty (unread parsed)).2⟩
      | some length =>
        have answer := read length parsed
        by_cases zero : length = 0
        · rw [if_pos zero] at answer
          exact ⟨0, by decide, (frames .empty answer).2⟩
        · rw [if_neg zero] at answer
          obtain ⟨text, -, number⟩ := Option.bind_eq_some_iff.mp parsed
          exact ⟨length, parseU64_lt number, (frames _ answer).2.2⟩
    · rintro ⟨length, fits, agree⟩ kind answer
      by_cases given : rawValues raw .contentLength = []
      · have unparsed : (fromRawHeaderBytes raw).contentLength = none := by
          rw [contentLength, getStr_raw, given]
          rfl
        rw [unread unparsed] at answer
        cases answer
        exact ⟨rfl, by simp [given]⟩
      rw [read length (contentLength_of_decimal given fits agree)] at answer
      cases answer
      split
      · rename_i zero
        exact ⟨rfl, zero ▸ agree⟩
      · exact ⟨rfl, given, agree⟩
  · rw [classify_coded uncoded]
    simp only [Unambiguous, uncoded, ne_eq, not_false_eq_true, true_and, false_and, or_false]
    by_cases given : rawValues raw .contentLength = []
    · by_cases token : anyToken ((rawValues raw .transferEncoding).filterMap fromUtf8) "chunked"
      · simp [given, token, DownstreamHttp1FastBodyKind.Frames]
      · simp [given, token]
    · simp [given]

/-- The fast path takes only requests that the classifier has an answer for. -/
theorem classify_of_eligible {method : Method} {headers : LazyHttpHeaders}
    (eligible : fastPathEligible method headers) : ∃ kind,
      classifyFastBody headers = some kind := by
  unfold fastPathEligible at eligible
  split at eligible
  · contradiction
  split at eligible
  · contradiction
  split at eligible
  · contradiction
  split at eligible
  · contradiction
  exact Option.isSome_iff_exists.mp eligible

end

/-- On every list of raw headers, the fast path frames the request as the standard does
exactly when the framing headers leave no choice. -/
theorem framesSoundly_iff (raw : List RawHttpHeader) : FramesSoundly raw ↔ Unambiguous raw := by
  rw [← classify_frames_iff]
  constructor
  · exact And.left
  intro frames
  refine ⟨frames, fun method eligible => ?_⟩
  obtain ⟨kind, answer⟩ := classify_of_eligible eligible
  exact ⟨kind, frames kind answer⟩

/-- Two lengths that differ are framed by the first. -/
theorem conflicting_lengths_framed : ¬ ∀ raw : List RawHttpHeader, FramesSoundly raw := by
  intro sound
  have frames := (sound [⟨ascii "Content-Length", ascii "5"⟩,
    ⟨ascii "Content-Length", ascii "6"⟩]).1 (.fixed 5) (by decide +kernel)
  have second := frames.2.2 (ascii "6") (by decide +kernel)
  exact absurd second (by decide)

end PdEdge.Downstream

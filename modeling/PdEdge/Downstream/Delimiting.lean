import PdEdge.Lib.Message
import PdEdge.Downstream.Writers

/-!
# Whether the responses that keep a connection open are self-delimiting

A response after which the connection is used again has to end, by the standard, exactly
where its bytes end. The head that a writer sends is read back by the standard's parser, and
each decision on the framing is followed to the body that it announces.
-/

namespace PdEdge.Downstream

open Text Wire Rfc9112 HeaderMap List

/-! ## Reading the head back -/

/-- The minor version a head is written with. -/
def minorVersion (version : Version) : Nat := if version = .http10 then 0 else 1

/-- Values as the standard reads them. -/
def stripped (values : List HeaderValue) : List (List UInt8) :=
  values.map fun value => Rfc9112.stripBlanks value.bytes

/-- The head that a status and headers are written as. -/
def headOf (version : Version) (status : StatusCode) (headers : HeaderMap) : Rfc9112.Head where
  minor := minorVersion version
  status := status.code
  fields := headers.map fun entry => (entry.1.bytes, Rfc9112.stripBlanks entry.2.bytes)

/-- The three digits of a status code are its number. -/
theorem decimal_asStr (status : StatusCode) : decimal status.asStr = some status.code := by
  obtain ⟨code, low, high⟩ := status
  have hundreds := toDigit_decimal (code / 100) (by omega)
  have tens := toDigit_decimal (code / 10 % 10) (by omega)
  have ones := toDigit_decimal (code % 10) (by omega)
  simp only [decimal, StatusCode.asStr, map_cons, map_nil, digitsValue,
    reduceCtorEq, ↓reduceIte, digitsFrom, hundreds, tens, ones, Option.some.injEq]
  omega

section

variable (canonicalReason : StatusCode → Option ReasonPhrase)

/-- What stands behind the status code is visible. -/
theorem reason_visible (status : StatusCode) :
    ∀ byte ∈ ((canonicalReason status).map ReasonPhrase.bytes).getD (ascii "OK"),
      isFieldByte byte := by
  cases canonicalReason status with
  | none => decide +kernel
  | some phrase => exact phrase.visible

/-- A status line is read back as its version and status. -/
theorem parseStatusLine_statusLine {version : Version} {status : StatusCode} :
    parseStatusLine (statusLine canonicalReason version status) =
      some (minorVersion version, status.code) := by
  have visible := reason_visible canonicalReason status
  have code := decimal_asStr status
  have label : ∃ digit, ascii (if version = .http10 then "HTTP/1.0" else "HTTP/1.1") =
      ascii "HTTP/1." ++ [digit] ∧ decimal [digit] = some (minorVersion version) := by
    unfold minorVersion
    split
    · exact ⟨48, by decide, by decide⟩
    · exact ⟨49, by decide, by decide⟩
  obtain ⟨digit, label, minor⟩ := label
  rw [statusLine, label]
  generalize ((canonicalReason status).map ReasonPhrase.bytes).getD (ascii "OK") = reason at visible
  have one : ((ascii "HTTP/1." ++ [digit] ++ [32] ++ status.asStr ++ [32] ++ reason).drop 7).take 1 =
      [digit] := rfl
  have three : ((ascii "HTTP/1." ++ [digit] ++ [32] ++ status.asStr ++ [32] ++ reason).drop 9).take 3 =
      status.asStr := rfl
  rw [parseStatusLine, if_pos ⟨rfl, rfl, rfl, rfl, all_eq_true.mpr visible⟩, one, three, minor,
    code]
  rfl

/-- A status line has no line end in it. -/
theorem statusLine_single (version : Version) (status : StatusCode) :
    findCrlf (statusLine canonicalReason version status) = none := by
  have label : (13 : UInt8) ∉ ascii (if version = .http10 then "HTTP/1.0" else "HTTP/1.1") := by
    split <;> decide
  have digits : (13 : UInt8) ∉ status.asStr := by
    intro member
    have written := (digits_of_digitsValue (decimal_asStr status)).2 _ (mem_map_of_mem member)
    exact absurd written (by decide)
  have reason : (13 : UInt8) ∉ ((canonicalReason status).map ReasonPhrase.bytes).getD (ascii "OK") :=
    fun member => absurd (reason_visible canonicalReason status 13 member) (by decide)
  apply findCrlf_none
  simp only [statusLine, mem_append, mem_singleton]
  tauto

/-- The line of a header is read back as its name and value. -/
theorem parseFieldLine_headerLine (entry : HeaderName × HeaderValue) :
    parseFieldLine (headerLine entry) = some (entry.1.bytes, stripBlanks entry.2.bytes) := by
  have read := parseFieldLine_field entry.1.token entry.2.visible
  rwa [entry.1.lowered] at read

end

variable {headers : HeaderMap} {requestKeepAlive : Bool} {requestVersion : Version}
variable {resolved : ResolvedNativeLocalHttp1DownstreamResponse}

/-- The lines of a header map are read back as its entries. -/
theorem parseFields_headers :
    (headers.map headerLine).mapM parseFieldLine =
      some (headers.map fun entry => (entry.1.bytes, stripBlanks entry.2.bytes)) := by
  induction headers with
  | nil => rfl
  | cons entry headers ih =>
    simp only [map_cons, mapM_cons, parseFieldLine_headerLine, ih]
    rfl

variable (canonicalReason : StatusCode → Option ReasonPhrase) (version : Version)

/-- What a writer sends is its head and the body behind it. -/
theorem message_writeHead (status : StatusCode) (headers : HeaderMap) (rest : List UInt8) :
    Rfc9112.Message (writeHead canonicalReason version status (headerLines headers) ++ rest)
      (headOf version status headers) rest := by
  have lines : headerLines headers ++ crlf = Chunked.encodeTrailers (headers.map headerLine) := by
    simp [headerLines, Chunked.encodeTrailers, flatMap_map]
  have each : ∀ line ∈ headers.map headerLine, findCrlf line = none ∧ line ≠ [] :=
    forall_mem_map.mpr fun _ _ => headerLine_single
  have message := @Rfc9112.Message.intro _ _ _ _ _ rest
    (statusLine_single canonicalReason version status)
    (parseStatusLine_statusLine canonicalReason) each (parseFields_headers)
  rw [writeHead, append_assoc (_ ++ crlf), lines, append_assoc]
  exact message

/-- The values of a name in the head are those of the map. -/
theorem values_headOf {status : StatusCode} (name : HeaderName) :
    (headOf version status headers).values name.bytes = stripped (headers.getAll name) := by
  simp only [headOf, Rfc9112.Head.values, stripped, getAll]
  induction headers with
  | nil => rfl
  | cons entry headers ih =>
    by_cases named : entry.1 = name
    · simp [named, ih]
    · have differs : ¬ entry.1.bytes = name.bytes := fun bytes => named (HeaderName.ext bytes)
      simp [named, differs, ih]

theorem lengths_headOf (status : StatusCode) (headers : HeaderMap) :
    (headOf version status headers).lengths = stripped (headers.getAll .contentLength) :=
  values_headOf version .contentLength

theorem codings_headOf (status : StatusCode) (headers : HeaderMap) :
    (headOf version status headers).codings = stripped (headers.getAll .transferEncoding) :=
  values_headOf version .transferEncoding

theorem bodiless_headOf (method : Method) (version : Version) (status : StatusCode)
    (headers : HeaderMap) :
    bodiless (method = .head) (headOf version status headers).status =
      http1ResponseHasNoBody status method := rfl

theorem stripped_eq_nil {values : List HeaderValue} : stripped values = [] ↔ values = [] := by
  simp [stripped]

/-! ## What was decided -/

/-- The token chunked is found among these values. -/
def findsChunked (codings : List HeaderValue) : Bool :=
  anyToken (codings.filterMap HeaderValue.toStr) "chunked"

section

variable {η : Type} (access : HeaderAccess η)

/-- The connection header does not touch the others. -/
theorem getAll_settleConnection {version : Version} {keepAlive : Bool} {headers : η}
    {name : HeaderName} (other : name ≠ .connection) :
    (access.view (settleConnection access version keepAlive headers)).getAll name =
      (access.view headers).getAll name := by
  unfold settleConnection
  split
  · rw [access.insert_view, getAll_insert, if_neg other]
  · split
    · rw [access.insert_view, getAll_insert, if_neg other]
    · rfl

variable (version : Version) (hasBody streams requestKeepAlive : Bool) (headers : η)

/-- Headers that frame the body, or have none to frame, are left as they are. -/
theorem decideFraming_kept (framed : hasBody = false ∨ streams = false ∨
      (access.view headers).getAll .contentLength ≠ [] ∨
      findsChunked ((access.view headers).getAll .transferEncoding)) :
    let framing := decideFraming access version hasBody streams requestKeepAlive headers
    framing.useChunked = findsChunked ((access.view headers).getAll .transferEncoding) ∧
    ∀ name, name ≠ .connection →
      (access.view framing.headers).getAll name = (access.view headers).getAll name := by
  have skipped : (hasBody && !access.containsName headers .contentLength &&
      !access.containsToken headers .transferEncoding "chunked" && streams) = false := by
    rw [access.contains_view, access.token_view]
    rcases framed with no | no | given | found
    · simp [no]
    · simp [no]
    · simp [(containsKey_iff _ _).mpr given]
    · have token : headerContainsToken (access.view headers) .transferEncoding "chunked" = true :=
        found
      simp [token]
  intro framing
  simp only [framing, decideFraming, skipped, Bool.false_eq_true, ↓reduceIte]
  refine ⟨access.token_view _ _ _, fun name other => ?_⟩
  exact getAll_settleConnection access other

/-- Neither header that could frame the body is there. -/
theorem unframed_access (unframed : (access.view headers).getAll .contentLength = [])
    (unfound : findsChunked ((access.view headers).getAll .transferEncoding) = false) :
    access.containsName headers .contentLength = false ∧
      access.containsToken headers .transferEncoding "chunked" = false := by
  constructor
  · rw [access.contains_view, Bool.eq_false_iff, ne_eq, containsKey_iff]
    simpa using unframed
  · rw [access.token_view]
    exact unfound

/-- A streamed body without a framing header is chunked in HTTP/1.1. -/
theorem decideFraming_chunked (newer : version ≠ .http10)
    (unframed : (access.view headers).getAll .contentLength = [])
    (unfound : findsChunked ((access.view headers).getAll .transferEncoding) = false) :
    let framing := decideFraming access version true true requestKeepAlive headers
    framing.useChunked = true ∧ (access.view framing.headers).getAll .contentLength = [] ∧
    (access.view framing.headers).getAll .transferEncoding = [.chunked] := by
  obtain ⟨absent, token⟩ := unframed_access access headers unframed unfound
  intro framing
  simp only [framing, decideFraming, absent, token, newer, Bool.not_false, Bool.and_true,
    ↓reduceIte]
  have length : HeaderName.contentLength ≠ .connection := by decide
  have coding : HeaderName.transferEncoding ≠ .connection := by decide
  refine ⟨trivial, ?_, ?_⟩
  · rw [getAll_settleConnection access length, access.insert_view,
      getAll_insert, if_neg (by decide), unframed]
  · rw [getAll_settleConnection access coding, access.insert_view, getAll_insert, if_pos rfl]

variable (unframed : (access.view headers).getAll .contentLength = [])
include unframed

variable (unfound : findsChunked ((access.view headers).getAll .transferEncoding) = false)
include unfound

/-- A streamed body without a framing header is ended by closing in HTTP/1.0. -/
theorem decideFraming_closing :
    let framing := decideFraming access .http10 true true requestKeepAlive headers
    framing.keepAlive = false ∧ framing.useChunked = false ∧
    ∀ name, name ≠ .connection →
      (access.view framing.headers).getAll name = (access.view headers).getAll name := by
  obtain ⟨absent, token⟩ := unframed_access access headers unframed unfound
  intro framing
  simp only [framing, decideFraming, absent, token, Bool.not_false, Bool.and_true, ↓reduceIte,
    true_and]
  exact fun name other => getAll_settleConnection access other

/-- A streamed body without a framing header is chunked if the connection is kept. -/
theorem decideFraming_added
    (kept : (decideFraming access version true true requestKeepAlive headers).keepAlive) :
    let framing := decideFraming access version true true requestKeepAlive headers
    version ≠ .http10 ∧ framing.useChunked = true ∧
    (access.view framing.headers).getAll .contentLength = [] ∧
    (access.view framing.headers).getAll .transferEncoding = [.chunked] := by
  have newer : version ≠ .http10 := by
    rintro rfl
    obtain ⟨closing, -, -⟩ := decideFraming_closing access requestKeepAlive headers unframed unfound
    rw [closing] at kept
    contradiction
  exact ⟨newer, decideFraming_chunked access version requestKeepAlive headers newer unframed
    unfound⟩

end

/-! ## Where the framing is right -/

/-- The framing headers a writer starts from, and the body it is given, make a response that
ends where its bytes end. -/
def FramesBody (version : Version) (lengths codings : List HeaderValue) :
    Option (List Frame) → Prop
  | none => lengths ≠ [] ∧ ∀ value ∈ stripped lengths, Rfc9112.decimal value = some 0
  | some frames =>
    (lengths ≠ [] → ∀ value ∈ stripped lengths,
      Rfc9112.decimal value = some (frames.flatMap Frame.payload).length) ∧
    (lengths = [] → version ≠ .http10 ∧ (∀ frame ∈ frames, ¬ frame.Hollow) ∧
      (findsChunked codings → Rfc9112.finalChunked (stripped codings)))

/-- Not both framing headers, and where a body may follow, the right one for it. -/
def WellFramed (bodiless : Bool) (version : Version) (lengths codings : List HeaderValue)
    (body : Option (List Frame)) : Prop :=
  ¬ (lengths ≠ [] ∧ codings ≠ []) ∧ (bodiless = false → FramesBody version lengths codings body)

/-- What goes out chunked is a chunked body of the standard exactly when every data frame
carries bytes. -/
theorem chunkedBody_writeBody (frames : List Frame) (keepAlive : Bool) :
    Rfc9112.ChunkedBody (writeBody true frames keepAlive).1 ↔ ∀ frame ∈ frames, ¬ frame.Hollow := by
  rw [writeBody_chunked]
  exact whole_body_iff readsWriter_standard frames

theorem not_chunkedBody_nil : ¬ Rfc9112.ChunkedBody [] := by
  rintro ⟨body, -, empty⟩
  simp [Chunked.Body.encode, crlf] at empty

section

variable (canonicalReason : StatusCode → Option ReasonPhrase) {η : Type} (access : HeaderAccess η)
variable (method : Method) (requestKeepAlive : Bool) (version : Version) (status : StatusCode)
variable (headers : η) {final : η} {frames : List Frame}

attribute [local simp] WellFramed FramesBody

/-- A head alone, with the framing headers the writer started from. -/
theorem headOnly_iff (body : Option (List Frame)) (same : ∀ name, name ≠ .connection →
      (access.view final).getAll name = (access.view headers).getAll name)
    (nothing : body = none ∨ http1ResponseHasNoBody status method = true) :
    Rfc9112.SelfDelimiting (method = .head)
      (writeHead canonicalReason version status (access.lines final)) ↔
    WellFramed (http1ResponseHasNoBody status method) version
      ((access.view headers).getAll .contentLength)
      ((access.view headers).getAll .transferEncoding) body := by
  have message := message_writeHead canonicalReason version status (access.view final) []
  rw [append_nil, ← access.lines_view] at message
  rw [selfDelimiting_iff message]
  have lengths := lengths_headOf version status (access.view final)
  have codings := codings_headOf version status (access.view final)
  rw [same _ (by decide)] at lengths codings
  cases may : http1ResponseHasNoBody status method with
  | true =>
    have bodiless : bodiless (method = .head) (headOf version status
        (access.view final)).status = true := may
    rw [complete_bodiless bodiless, lengths, codings]
    simp [stripped_eq_nil]
  | false =>
    have bodiless : bodiless (method = .head) (headOf version status
        (access.view final)).status = false := may
    have absent : body = none := nothing.resolve_right (by simp [may])
    subst absent
    by_cases given : (access.view headers).getAll .contentLength = []
    · have none : (headOf version status (access.view final)).lengths = [] := by
        rw [lengths, given]
        rfl
      rw [complete_coded bodiless none]
      simp [given, not_chunkedBody_nil]
    have some : (headOf version status (access.view final)).lengths ≠ [] := by
      rw [lengths, ne_eq, stripped_eq_nil]
      exact given
    rw [complete_length bodiless some, lengths, codings, stripped_eq_nil]
    simp [given]

section

variable (may : http1ResponseHasNoBody status method = false)
include may

/-- A head with a length in it and a body that is not chunked. -/
theorem plainResponse_iff {keepAlive : Bool}
    (given : (access.view headers).getAll .contentLength ≠ [])
    (same : ∀ name, name ≠ .connection →
      (access.view final).getAll name = (access.view headers).getAll name) :
    Rfc9112.SelfDelimiting (method = .head)
      (writeHead canonicalReason version status (access.lines final) ++
        (writeBody (findsChunked ((access.view headers).getAll .transferEncoding)) frames
          keepAlive).1) ↔
    WellFramed false version ((access.view headers).getAll .contentLength)
      ((access.view headers).getAll .transferEncoding) (some frames) := by
  have message := message_writeHead canonicalReason version status (access.view final)
    (writeBody (findsChunked ((access.view headers).getAll .transferEncoding)) frames keepAlive).1
  rw [← access.lines_view] at message
  rw [selfDelimiting_iff message]
  have lengths := lengths_headOf version status (access.view final)
  have codings := codings_headOf version status (access.view final)
  rw [same _ (by decide)] at lengths codings
  have some : (headOf version status (access.view final)).lengths ≠ [] := by
    rw [lengths, ne_eq, stripped_eq_nil]
    exact given
  have bodiless : bodiless (method = .head) (headOf version status
      (access.view final)).status = false := may
  rw [complete_length bodiless some, lengths, codings, stripped_eq_nil]
  by_cases uncoded : (access.view headers).getAll .transferEncoding = []
  · have unfound : findsChunked [] = false := by decide
    rw [uncoded, unfound, writeBody_plain]
    simp [given]
  · simp [uncoded, given]

/-- A head whose only framing header is a transfer coding, and a chunked body. -/
theorem chunkedResponse_iff {codings : List HeaderValue} {keepAlive : Bool}
    (unframed : (access.view final).getAll .contentLength = [])
    (coded : (access.view final).getAll .transferEncoding = codings) :
    Rfc9112.SelfDelimiting (method = .head)
      (writeHead canonicalReason version status (access.lines final) ++
        (writeBody true frames keepAlive).1) ↔
    version ≠ .http10 ∧ (∀ frame ∈ frames, ¬ frame.Hollow) ∧ finalChunked (stripped codings) := by
  have message := message_writeHead canonicalReason version status (access.view final)
    (writeBody true frames keepAlive).1
  rw [← access.lines_view] at message
  rw [selfDelimiting_iff message]
  have bodiless : bodiless (method = .head) (headOf version status
      (access.view final)).status = false := may
  have none : (headOf version status (access.view final)).lengths = [] := by
    rw [lengths_headOf, unframed]
    rfl
  have minor : (headOf version status (access.view final)).minor ≠ 0 ↔ version ≠ .http10 := by
    simp [headOf, minorVersion]
  rw [complete_coded bodiless none, codings_headOf, coded, chunkedBody_writeBody, minor]
  constructor
  · rintro ⟨final, newer, solid⟩
    exact ⟨newer, solid, final⟩
  · rintro ⟨newer, solid, final⟩
    exact ⟨final, newer, solid⟩

end

/-- Whenever one of the three writers keeps the connection, what it wrote is one complete
response exactly when the headers it started from frame the body it was given. -/
theorem writeFramed_iff (body : Option (List Frame))
    (kept : (writeFramed canonicalReason access method requestKeepAlive version status headers
      body).2) :
    Rfc9112.SelfDelimiting (method = .head)
      (writeFramed canonicalReason access method requestKeepAlive version status headers body).1 ↔
    WellFramed (http1ResponseHasNoBody status method) version
      ((access.view headers).getAll .contentLength)
      ((access.view headers).getAll .transferEncoding) body := by
  cases may : http1ResponseHasNoBody status method with
  | true =>
    obtain ⟨-, same⟩ := decideFraming_kept access version false body.isSome requestKeepAlive headers
      (Or.inl rfl)
    have only := headOnly_iff canonicalReason access method version status headers body same
      (Or.inr may)
    cases body <;> simpa [writeFramed, may] using only
  | false =>
    cases body with
    | none =>
      obtain ⟨-, same⟩ := decideFraming_kept access version true false requestKeepAlive headers
        (Or.inr (Or.inl rfl))
      have only := headOnly_iff canonicalReason access method version status headers none same
        (Or.inl rfl)
      simpa [writeFramed, may] using only
    | some frames =>
      simp only [writeFramed, may, Bool.not_false, Option.isSome_some, ↓reduceIte] at kept ⊢
      have framingKept := writeFrames_keepAlive _ frames [] _ kept
      by_cases given : (access.view headers).getAll .contentLength = []
      · cases found : findsChunked ((access.view headers).getAll .transferEncoding) with
        | true =>
          obtain ⟨chunked, same⟩ := decideFraming_kept access version true true requestKeepAlive
            headers (Or.inr (Or.inr (Or.inr found)))
          have unframed := (same .contentLength (by decide)).trans given
          rw [chunked, found, chunkedResponse_iff canonicalReason access method version status may
            unframed (same .transferEncoding (by decide))]
          simp [given, found]
        | false =>
          obtain ⟨newer, chunked, unframed, coded⟩ := decideFraming_added access version
            requestKeepAlive headers given found framingKept
          have final : finalChunked (stripped [.chunked]) = true := by decide
          rw [chunked, chunkedResponse_iff canonicalReason access method version status may unframed
            coded, final]
          simp [given, found, newer]
      · obtain ⟨chunked, same⟩ := decideFraming_kept access version true true requestKeepAlive
          headers (Or.inr (Or.inr (Or.inl given)))
        rw [chunked]
        exact plainResponse_iff canonicalReason access method version status headers may given same

end

/-! ## Declared lengths -/

/-- What the writer of local responses sends: a head with the length of what follows it and no
transfer coding. -/
theorem nativeLocal_message {method : Method} :
    let status := (StatusCode.fromU16 resolved.status).getD .ok
    let content := if http1ResponseHasNoBody status method then [] else resolved.body.data
    ∃ (settled : HeaderMap) (value : HeaderValue),
      Rfc9112.Message (writeNativeLocalHttp1Response canonicalReason method requestKeepAlive
        requestVersion resolved).1 (headOf requestVersion.http1 status settled) content ∧
      settled.getAll .contentLength = [value] ∧ settled.getAll .transferEncoding = [] ∧
      decimal (stripBlanks value.bytes) = some content.length := by
  intro status content
  unfold writeNativeLocalHttp1Response
  extract_lets version hasBody bodyLen uncoded declared typed keepAlive settled head
  obtain ⟨value, made, decimal⟩ := ofNumber_spec bodyLen
  have values : ∀ name, name ≠ .connection → name ≠ .contentType →
      settled.getAll name = (uncoded.insert .contentLength value).getAll name := by
    intro name notConnection notType
    have settledSame : settled.getAll name = typed.getAll name :=
      getAll_settleConnection mapAccess notConnection
    have declaredEq : declared = uncoded.insert .contentLength value := by
      simp only [declared, made]
    rw [settledSame, ← declaredEq]
    simp only [typed]
    split
    · rw [getAll_insert, if_neg notType]
    · rfl
  have length : bodyLen = content.length := by
    simp only [bodyLen, hasBody, content]
    by_cases may : http1ResponseHasNoBody status method = true <;> simp [may]
  have written : (if 0 < bodyLen then head ++ resolved.body.data else head) = head ++ content := by
    rw [length]
    simp only [content]
    split
    · simp
    split
    · rfl
    · rename_i empty
      rw [eq_nil_of_length_eq_zero (Nat.eq_zero_of_not_pos empty), append_nil]
  refine ⟨settled, value, ?_, ?_, ?_, length ▸ decimal⟩
  · rw [written]
    exact message_writeHead canonicalReason version status settled content
  · rw [values _ (by decide) (by decide), getAll_insert, if_pos rfl]
  · rw [values _ (by decide) (by decide), getAll_insert, if_neg (by decide),
      getAll_remove, if_pos rfl]

/-- The writer of local responses declares the length of what it writes. -/
theorem nativeLocal_selfDelimiting {method : Method} :
    Rfc9112.SelfDelimiting (method = .head) (writeNativeLocalHttp1Response canonicalReason method
      requestKeepAlive requestVersion resolved).1 := by
  obtain ⟨settled, value, message, length, uncoded, decimal⟩ := nativeLocal_message canonicalReason
  generalize (StatusCode.fromU16 resolved.status).getD .ok = status at message decimal
  have lengths : (headOf requestVersion.http1 status settled).lengths =
      [stripBlanks value.bytes] := by
    rw [lengths_headOf, length]
    rfl
  have codings : (headOf requestVersion.http1 status settled).codings = [] := by
    rw [codings_headOf, uncoded]
    rfl
  have same := bodiless_headOf method requestVersion.http1 status settled
  rw [selfDelimiting_iff message]
  cases may : http1ResponseHasNoBody status method with
  | true =>
    rw [complete_bodiless (same.trans may)]
    simp [codings]
  | false =>
    rw [may] at decimal
    rw [complete_length (same.trans may) (by simp [lengths]), lengths]
    simpa [codings] using decimal

/-! ## The headers of a native response -/

/-- Merging leaves the last value of the overlay, or the values of the target. -/
theorem getAll_merge (target overlay : HeaderMap) (name : HeaderName) :
    (mergeHttpHeaders target overlay).getAll name =
      ((overlay.getAll name).getLast?.map fun value => [value]).getD (target.getAll name) :=
  getAll_mergeHeaders name

namespace ResolvedNativeHttp1DownstreamResponse

/-- The last value the program sets for a header, or the values it is set over. -/
def overlaid (native : ResolvedNativeHttp1DownstreamResponse) (name : HeaderName)
    (values : List HeaderValue) : List HeaderValue :=
  ((native.responseHeaders.getAll name).getLast?.map fun value => [value]).getD values

/-- Transfer codings come from the program alone: those of the upstream are of the hop. -/
def codings (native : ResolvedNativeHttp1DownstreamResponse) : List HeaderValue :=
  native.overlaid .transferEncoding []

/-- Lengths come from the program, else from the upstream, else from the body. -/
def lengths (native : ResolvedNativeHttp1DownstreamResponse) : List HeaderValue :=
  let given := native.overlaid .contentLength (native.headers.getAll .contentLength)
  if given = [] ∧ findsChunked native.codings = false then
    (native.body.knownLength.bind HeaderValue.ofNumber).toList
  else given

theorem getAll_preparedHeaders (native : ResolvedNativeHttp1DownstreamResponse) :
    native.preparedHeaders.getAll .contentLength = native.lengths ∧
    native.preparedHeaders.getAll .transferEncoding = native.codings := by
  have merged : ∀ name, (mergeHttpHeaders
      (native.headers.filter fun entry => !isHopByHopHeader entry.1)
      native.responseHeaders).getAll name = native.overlaid name
        (if isHopByHopHeader name then [] else native.headers.getAll name) := by
    intro name
    rw [getAll_merge, getAll_filter native.headers name fun name =>
      !isHopByHopHeader name, overlaid]
    cases isHopByHopHeader name <;> rfl
  have length := merged .contentLength
  have coding := merged .transferEncoding
  rw [if_neg (by decide +kernel)] at length
  unfold preparedHeaders
  extract_lets kept headers
  have token : headerContainsToken headers .transferEncoding "chunked" =
      findsChunked native.codings := by
    rw [headerContainsToken, coding]
    rfl
  have present : headers.containsKey .contentLength = true ↔
      native.overlaid .contentLength (native.headers.getAll .contentLength) ≠ [] := by
    rw [containsKey_iff, length]
  by_cases unframed : native.overlaid .contentLength (native.headers.getAll .contentLength) = [] ∧
      findsChunked native.codings = false
  · have absent : headers.containsKey .contentLength = false := by
      rw [Bool.eq_false_iff, ne_eq, present]
      simpa using unframed.1
    simp only [absent, token, unframed.2, Bool.not_false, Bool.and_true, ↓reduceIte, lengths,
      unframed, and_self]
    cases native.body.knownLength.bind HeaderValue.ofNumber with
    | none => exact ⟨length.trans unframed.1, coding⟩
    | some value =>
      simp only [getAll_insert, ↓reduceIte, Option.toList_some, true_and]
      exact coding
  · have framed : (!headers.containsKey .contentLength &&
        !headerContainsToken headers .transferEncoding "chunked") = false := by
      rw [token]
      cases found : findsChunked native.codings with
      | true => simp
      | false =>
        have given := present.mpr fun absent => unframed ⟨absent, found⟩
        simp [given]
    simp only [framed, Bool.false_eq_true, ↓reduceIte, lengths, unframed]
    exact ⟨length, coding⟩

end ResolvedNativeHttp1DownstreamResponse

/-! ## Every resolved response -/

/-- `Http1DownstreamResolution`, each with what its writer is given. -/
inductive Http1DownstreamResolution where
  | nativeLocal (requestVersion : Version) (resolved : ResolvedNativeLocalHttp1DownstreamResponse)
  | native (resolved : ResolvedNativeHttp1DownstreamResponse)
  | snapshot (resolved : ResolvedSnapshotHttp1DownstreamResponse)
  | graph (response : Response)

namespace Http1DownstreamResolution

/-- The writer of each resolution: what it writes, and whether the connection is kept. -/
def write (canonicalReason : StatusCode → Option ReasonPhrase) (method : Method)
    (requestKeepAlive : Bool) : Http1DownstreamResolution → List UInt8 × Bool
  | .nativeLocal requestVersion resolved =>
    writeNativeLocalHttp1Response canonicalReason method requestKeepAlive requestVersion resolved
  | .native resolved => writeNativeHttp1Response canonicalReason method requestKeepAlive resolved
  | .snapshot resolved =>
    writeSnapshotHttp1Response canonicalReason method requestKeepAlive resolved
  | .graph response => writeHttp1Response canonicalReason method requestKeepAlive response

/-- A response that keeps the connection answers a request that does. -/
theorem write_keeps {canonicalReason : StatusCode → Option ReasonPhrase} {method : Method}
    {requestKeepAlive : Bool} {resolution : Http1DownstreamResolution}
    (kept : (resolution.write canonicalReason method requestKeepAlive).2) :
    requestKeepAlive = true := by
  cases resolution with
  | nativeLocal version resolved => exact (Bool.and_eq_true_iff.mp kept).1
  | native resolved | snapshot resolved | graph response => exact writeFramed_keeps kept

/-- The framing headers of the response fit its body. -/
def FramedRight (method : Method) : Http1DownstreamResolution → Prop
  | .nativeLocal _ _ => True
  | .native resolved =>
    WellFramed (http1ResponseHasNoBody resolved.statusCode method) resolved.version.http1
      resolved.lengths resolved.codings (some resolved.body.frames)
  | .snapshot resolved =>
    WellFramed (http1ResponseHasNoBody ((StatusCode.fromU16 resolved.status).getD .ok) method)
      resolved.version.http1 (resolved.headers.view.getAll .contentLength)
      (resolved.headers.view.getAll .transferEncoding) resolved.body
  | .graph response =>
    WellFramed (http1ResponseHasNoBody response.status method) response.version.http1
      (response.headers.getAll .contentLength) (response.headers.getAll .transferEncoding)
      (some response.frames)

/-- Whenever a writer keeps the connection, the bytes it wrote are one complete response with
nothing left over exactly when the framing headers of the response fit its body. -/
theorem selfDelimiting_write_iff (canonicalReason : StatusCode → Option ReasonPhrase)
    (method : Method) (requestKeepAlive : Bool) (response : Http1DownstreamResolution)
    (kept : (response.write canonicalReason method requestKeepAlive).2 = true) :
    Rfc9112.SelfDelimiting (method = .head)
      (response.write canonicalReason method requestKeepAlive).1 ↔
    response.FramedRight method := by
  cases response with
  | nativeLocal requestVersion resolved =>
    exact iff_of_true (nativeLocal_selfDelimiting canonicalReason) trivial
  | native resolved =>
    obtain ⟨lengths, codings⟩ := resolved.getAll_preparedHeaders
    have framed := writeFramed_iff canonicalReason mapAccess method requestKeepAlive
      resolved.version.http1 resolved.statusCode resolved.preparedHeaders
      (some resolved.body.frames) kept
    rw [FramedRight, ← lengths, ← codings]
    exact framed
  | snapshot resolved =>
    exact writeFramed_iff canonicalReason snapshotAccess method requestKeepAlive
      resolved.version.http1 _ resolved.headers resolved.body kept
  | graph response =>
    exact writeFramed_iff canonicalReason mapAccess method requestKeepAlive
      response.version.http1 response.status response.headers (some response.frames) kept

/-- A response of a program without framing headers, in two frames. -/
theorem selfDelimiting_write_sample :
    let frames : List Frame := [.data ⟨ascii "ab", by decide⟩, .data ⟨ascii "c", by decide⟩]
    let written := (graph ⟨.http11, .ok, [], frames⟩).write (fun _ => none) ⟨ascii "GET"⟩ true
    written.2 = true ∧ Rfc9112.SelfDelimiting false written.1 := by
  intro frames written
  have framed : (graph ⟨.http11, .ok, [], frames⟩).FramedRight ⟨ascii "GET"⟩ := by
    refine ⟨by decide, fun _ => ⟨by decide, fun _ => ⟨by decide, ?_, by decide⟩⟩⟩
    simp [frames, Frame.Hollow, ascii]
  exact ⟨rfl, (selfDelimiting_write_iff (fun _ => none) ⟨ascii "GET"⟩ true _ rfl).mpr framed⟩

/-- A program that sets chunked on an upstream response with a length makes the writer send
both framing headers. -/
theorem both_framing_headers_sent : ¬ ∀ (canonicalReason : StatusCode → Option ReasonPhrase)
    (method : Method) (requestKeepAlive : Bool) (response : Http1DownstreamResolution),
    (response.write canonicalReason method requestKeepAlive).2 = true →
    Rfc9112.SelfDelimiting (method = .head)
      (response.write canonicalReason method requestKeepAlive).1 := by
  intro delimiting
  let headers : HeaderMap := [(.contentLength, ⟨ascii "0", by decide +kernel⟩)]
  let native : ResolvedNativeHttp1DownstreamResponse :=
    ⟨200, headers, .http11, .empty, [(.transferEncoding, .chunked)], none⟩
  have written := delimiting (fun _ => none) ⟨ascii "GET"⟩ true (.native native) (by decide +kernel)
  have framed := (writeFramed_iff (fun _ => none) mapAccess ⟨ascii "GET"⟩ true .http11
    native.statusCode native.preparedHeaders (some native.body.frames) (by decide +kernel)).mp written
  exact framed.1 ⟨by decide +kernel, by decide +kernel⟩

end Http1DownstreamResolution

end PdEdge.Downstream

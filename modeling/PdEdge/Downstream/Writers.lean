import PdEdge.Downstream.BodyWriter

/-!
# The response writers

The four functions that write a resolved response to the downstream connection. Three of
them decide on the framing in the same way, from headers that they hold in different forms;
`HeaderAccess` is what they need of those forms. The fourth declares the length of a body
that it has in memory.
-/

namespace PdEdge.Downstream

open Text Wire HeaderMap

/-! ## Headers of a response -/

/-- What a writer does with the headers of a response, and the map it does it to. -/
structure HeaderAccess (η : Type) where
  containsName : η → HeaderName → Bool
  containsToken : η → HeaderName → String → Bool
  insert : η → HeaderName → HeaderValue → η
  lines : η → List UInt8
  /-- The headers as a map. -/
  view : η → HeaderMap
  contains_view : ∀ headers name, containsName headers name = (view headers).containsKey name
  token_view : ∀ headers name token,
    containsToken headers name token = headerContainsToken (view headers) name token
  insert_view : ∀ headers name value other,
    (view (insert headers name value)).getAll other = ((view headers).insert name value).getAll other
  lines_view : ∀ headers, lines headers = headerLines (view headers)

/-- A header map is used as it is. -/
def mapAccess : HeaderAccess HeaderMap where
  containsName := HeaderMap.containsKey
  containsToken := headerContainsToken
  insert := HeaderMap.insert
  lines := headerLines
  view headers := headers
  contains_view _ _ := rfl
  token_view _ _ _ := rfl
  insert_view _ _ _ _ := rfl
  lines_view _ := rfl

/-- `SnapshotHttp1DownstreamHeaders`: the headers of an upstream response under those of the
program, or headers of their own. -/
inductive SnapshotHttp1DownstreamHeaders where
  | snapshot (base overlay : HeaderMap)
  | explicit (headers : HeaderMap)

namespace SnapshotHttp1DownstreamHeaders

/-- `contains_name`. -/
def containsName (headers : SnapshotHttp1DownstreamHeaders) (name : HeaderName) : Bool :=
  match headers with
  | .snapshot base overlay =>
    overlay.containsKey name || (!isHopByHopHeader name && base.containsKey name)
  | .explicit headers => headers.containsKey name

/-- `header_contains_token`. -/
def containsToken (headers : SnapshotHttp1DownstreamHeaders) (name : HeaderName)
    (token : String) : Bool :=
  match headers with
  | .snapshot base overlay =>
    if overlay.containsKey name then headerContainsToken overlay name token
    else if isHopByHopHeader name then false
    else headerContainsToken base name token
  | .explicit headers => headerContainsToken headers name token

/-- `insert_override`. -/
def insertOverride (headers : SnapshotHttp1DownstreamHeaders) (name : HeaderName)
    (value : HeaderValue) : SnapshotHttp1DownstreamHeaders :=
  match headers with
  | .snapshot base overlay => .snapshot base (overlay.insert name value)
  | .explicit headers => .explicit (headers.insert name value)

/-- The headers of the base that are written. -/
def shown (base overlay : HeaderMap) : HeaderMap :=
  base.filter fun entry => !(overlay.containsKey entry.1 || isHopByHopHeader entry.1)

/-- `write_http1_lines`. -/
def writeHttp1Lines (headers : SnapshotHttp1DownstreamHeaders) : List UInt8 :=
  match headers with
  | .snapshot base overlay => headerLines (shown base overlay) ++ headerLines overlay
  | .explicit headers => headerLines headers

/-- The headers as they are written. -/
def view : SnapshotHttp1DownstreamHeaders → HeaderMap
  | .snapshot base overlay => shown base overlay ++ overlay
  | .explicit headers => headers

section

variable (base overlay : HeaderMap) (name : HeaderName) (value : HeaderValue)

theorem getAll_shown : (shown base overlay).getAll name =
    if overlay.containsKey name || isHopByHopHeader name then [] else base.getAll name := by
  rw [shown, getAll_filter base name fun name =>
    !(overlay.containsKey name || isHopByHopHeader name)]
  cases overlay.containsKey name || isHopByHopHeader name <;> rfl

theorem getAll_view : (view (.snapshot base overlay)).getAll name =
    if overlay.containsKey name then overlay.getAll name
    else if isHopByHopHeader name then [] else base.getAll name := by
  rw [view, getAll_append, getAll_shown]
  cases overridden : overlay.containsKey name with
  | true => simp
  | false => simp [getAll_absent overridden]

/-- An override is the only value of its name, whether the base or the overlay had another. -/
theorem getAll_insertOverride {headers : SnapshotHttp1DownstreamHeaders} (other : HeaderName) :
    (view (headers.insertOverride name value)).getAll other =
      ((view headers).insert name value).getAll other := by
  cases headers with
  | explicit headers => rfl
  | snapshot base overlay =>
    rw [insertOverride, getAll_view, getAll_insert, getAll_insert, getAll_view, containsKey_insert]
    by_cases same : other = name <;> simp [same]

end

end SnapshotHttp1DownstreamHeaders

open SnapshotHttp1DownstreamHeaders in
/-- Snapshot headers are the map that they are written as. -/
def snapshotAccess : HeaderAccess SnapshotHttp1DownstreamHeaders where
  containsName := containsName
  containsToken := containsToken
  insert := insertOverride
  lines := writeHttp1Lines
  view := view
  contains_view headers name := by
    cases headers with
    | explicit headers => rfl
    | snapshot base overlay =>
      rw [Bool.eq_iff_iff, HeaderMap.containsKey_iff, getAll_view, containsName]
      cases overridden : overlay.containsKey name with
      | true => simpa using (overlay.containsKey_iff name).mp overridden
      | false => cases isHopByHopHeader name <;> simp [HeaderMap.containsKey_iff]
  token_view headers name token := by
    cases headers with
    | explicit headers => rfl
    | snapshot base overlay =>
      simp only [containsToken, headerContainsToken, getAll_view]
      split
      · rfl
      · split <;> rfl
  insert_view headers name value := getAll_insertOverride name value
  lines_view headers := by
    cases headers with
    | explicit headers => rfl
    | snapshot base overlay => simp [writeHttp1Lines, view, headerLines]

/-! ## The decision on the framing -/

/-- `http1_response_has_no_body`. -/
def http1ResponseHasNoBody (status : StatusCode) (method : Method) : Bool :=
  method = .head || (100 ≤ status.code && status.code < 200) || status.code == 204 ||
    status.code == 304

/-- What a writer has decided before it writes the head. -/
structure Framing (η : Type) where
  headers : η
  useChunked : Bool
  keepAlive : Bool

section

variable {η : Type} (access : HeaderAccess η)

/-- The connection header that tells the peer what was decided. -/
def settleConnection (version : Version) (keepAlive : Bool) (headers : η) : η :=
  if !keepAlive then access.insert headers .connection .close
  else if version = .http10 && !access.containsName headers .connection then
    access.insert headers .connection .keepAlive
  else headers

/-- Chunked or not, kept open or not; a body that is to be streamed without a framing header
is chunked in HTTP/1.1 and ended by closing in HTTP/1.0. -/
def decideFraming (version : Version) (hasBody streams requestKeepAlive : Bool) (headers : η) :
    Framing η :=
  let hasContentLength := access.containsName headers .contentLength
  let useChunked := access.containsToken headers .transferEncoding "chunked"
  let keepAlive := requestKeepAlive &&
    keepAlive version (access.containsToken headers .connection "close")
      (access.containsToken headers .connection "keep-alive")
  let framing : Framing η :=
    if hasBody && !hasContentLength && !useChunked && streams then
      if version = .http10 then ⟨headers, useChunked, false⟩
      else ⟨access.insert headers .transferEncoding .chunked, true, keepAlive⟩
    else ⟨headers, useChunked, keepAlive⟩
  { framing with headers := settleConnection access version framing.keepAlive framing.headers }

end

/-! ## The writers -/

/-- The text behind a status code, on one line. -/
structure ReasonPhrase where
  bytes : List UInt8
  visible : ∀ byte ∈ bytes, Rfc9112.isFieldByte byte

/-- `Response<Body>`: its head and the frames of its body. -/
structure Response where
  version : Version
  status : StatusCode
  headers : HeaderMap
  frames : List Frame

/-- `OutboundHttp1ForwardBody`: no body, or the chunks and trailers that `pull_next` and
`take_trailers` give, and the length known beforehand. -/
inductive OutboundHttp1ForwardBody where
  | empty
  | raw (chunks : List { bytes : Bytes // bytes.data ≠ [] }) (trailers : Option HeaderMap)
    (contentLength : Option Nat)

namespace OutboundHttp1ForwardBody

/-- The length the writer knows before it reads the body. -/
def knownLength : OutboundHttp1ForwardBody → Option Nat
  | .empty => some 0
  | .raw _ _ contentLength => contentLength

/-- The frames the body is written as. -/
def frames : OutboundHttp1ForwardBody → List Frame
  | .empty => []
  | .raw chunks trailers _ => bodyFrames (chunks.map Subtype.val) trailers

end OutboundHttp1ForwardBody

/-- `ResolvedNativeHttp1DownstreamResponse`: the upstream response and what the program puts
over it. -/
structure ResolvedNativeHttp1DownstreamResponse where
  status : Nat
  headers : HeaderMap
  version : Version
  body : OutboundHttp1ForwardBody
  responseHeaders : HeaderMap
  responseStatus : Option Nat

/-- `ResolvedSnapshotHttp1DownstreamResponse`; the body is absent when it is known to be
empty. -/
structure ResolvedSnapshotHttp1DownstreamResponse where
  status : Nat
  headers : SnapshotHttp1DownstreamHeaders
  version : Version
  body : Option (List Frame)

/-- `ResolvedNativeLocalHttp1DownstreamResponse`. -/
structure ResolvedNativeLocalHttp1DownstreamResponse where
  status : Nat
  headers : HeaderMap
  body : Bytes
  defaultContentType : Bool

/-- `merge_http_headers`. -/
def mergeHttpHeaders (target overlay : HeaderMap) : HeaderMap :=
  overlay.foldl (fun target entry => target.insert entry.1 entry.2) target

namespace ResolvedNativeHttp1DownstreamResponse

/-- The status to write: that of the program if it is one, else that of the upstream. -/
def statusCode (native : ResolvedNativeHttp1DownstreamResponse) : StatusCode :=
  (native.responseStatus.bind StatusCode.fromU16).getD ((StatusCode.fromU16 native.status).getD .ok)

/-- The headers of the upstream without those of the hop, under those of the program, with
the known length where nothing else frames the body. -/
def preparedHeaders (native : ResolvedNativeHttp1DownstreamResponse) : HeaderMap :=
  let kept := native.headers.filter fun entry => !isHopByHopHeader entry.1
  let headers := mergeHttpHeaders kept native.responseHeaders
  if !headers.containsKey .contentLength &&
      !headerContainsToken headers .transferEncoding "chunked" then
    match native.body.knownLength.bind HeaderValue.ofNumber with
    | some value => headers.insert .contentLength value
    | none => headers
  else headers

end ResolvedNativeHttp1DownstreamResponse

section

variable (canonicalReason : StatusCode → Option ReasonPhrase)

/-- The status line without its end. -/
def statusLine (version : Version) (status : StatusCode) : List UInt8 :=
  ascii (if version = .http10 then "HTTP/1.0" else "HTTP/1.1") ++ [32] ++ status.asStr ++ [32] ++
    ((canonicalReason status).map ReasonPhrase.bytes).getD (ascii "OK")

/-- `write_http1_status_line`, the header lines and the empty line. -/
def writeHead (version : Version) (status : StatusCode) (lines : List UInt8) : List UInt8 :=
  statusLine canonicalReason version status ++ crlf ++ lines ++ crlf

/-- What three of the writers do: decide on the framing, write the head and, where there is
one, the body. -/
def writeFramed {η : Type} (access : HeaderAccess η) (method : Method) (requestKeepAlive : Bool)
    (version : Version) (status : StatusCode) (headers : η) (body : Option (List Frame)) :
    List UInt8 × Bool :=
  let hasBody := !http1ResponseHasNoBody status method
  let framing := decideFraming access version hasBody body.isSome requestKeepAlive headers
  let head := writeHead canonicalReason version status (access.lines framing.headers)
  match body with
  | some frames =>
    if hasBody then
      let (written, keepAlive) := writeBody framing.useChunked frames framing.keepAlive
      (head ++ written, keepAlive)
    else (head, framing.keepAlive)
  | none => (head, framing.keepAlive)

variable (method : Method) (requestKeepAlive : Bool)

/-- `write_http1_response`. -/
def writeHttp1Response (response : Response) : List UInt8 × Bool :=
  writeFramed canonicalReason mapAccess method requestKeepAlive response.version.http1
    response.status response.headers (some response.frames)

/-- `write_native_http1_response`. -/
def writeNativeHttp1Response (native : ResolvedNativeHttp1DownstreamResponse) :
    List UInt8 × Bool :=
  writeFramed canonicalReason mapAccess method requestKeepAlive native.version.http1
    native.statusCode native.preparedHeaders (some native.body.frames)

/-- `write_snapshot_http1_response`. -/
def writeSnapshotHttp1Response (snapshot : ResolvedSnapshotHttp1DownstreamResponse) :
    List UInt8 × Bool :=
  writeFramed canonicalReason snapshotAccess method requestKeepAlive snapshot.version.http1
    ((StatusCode.fromU16 snapshot.status).getD .ok) snapshot.headers snapshot.body

/-- `write_native_local_http1_response`. -/
def writeNativeLocalHttp1Response (requestVersion : Version)
    (resolved : ResolvedNativeLocalHttp1DownstreamResponse) : List UInt8 × Bool :=
  let status := (StatusCode.fromU16 resolved.status).getD .ok
  let version := requestVersion.http1
  let hasBody := !http1ResponseHasNoBody status method
  let bodyLen := if hasBody then resolved.body.data.length else 0
  let headers := resolved.headers.remove .transferEncoding
  let headers :=
    match HeaderValue.ofNumber bodyLen with
    | some value => headers.insert .contentLength value
    | none => headers
  let headers :=
    if resolved.defaultContentType && 0 < bodyLen && !headers.containsKey .contentType then
      headers.insert .contentType .textPlain
    else headers
  let keepAlive := requestKeepAlive &&
    keepAlive version (headerContainsToken headers .connection "close")
      (headerContainsToken headers .connection "keep-alive")
  let headers := settleConnection mapAccess version keepAlive headers
  let head := writeHead canonicalReason version status (headerLines headers)
  (if 0 < bodyLen then head ++ resolved.body.data else head, keepAlive)

end

/-! ## Keeping the connection -/

/-- A connection that the request does not keep is not kept. -/
theorem decideFraming_keeps {η : Type} {access : HeaderAccess η} {version : Version}
    {hasBody streams requestKeepAlive : Bool} {headers : η}
    (kept : (decideFraming access version hasBody streams requestKeepAlive headers).keepAlive) :
    requestKeepAlive = true := by
  unfold decideFraming at kept
  dsimp only at kept
  split at kept
  · split at kept
    · cases kept
    · exact (Bool.and_eq_true_iff.mp kept).1
  · exact (Bool.and_eq_true_iff.mp kept).1

theorem writeFramed_keeps {canonicalReason : StatusCode → Option ReasonPhrase} {η : Type}
    {access : HeaderAccess η} {method : Method} {requestKeepAlive : Bool} {version : Version}
    {status : StatusCode} {headers : η} {body : Option (List Frame)}
    (kept : (writeFramed canonicalReason access method requestKeepAlive version status headers
      body).2) : requestKeepAlive = true := by
  unfold writeFramed at kept
  dsimp only at kept
  split at kept
  · split at kept
    · exact decideFraming_keeps (writeFrames_keepAlive _ _ _ _ kept)
    · exact decideFraming_keeps kept
  · exact decideFraming_keeps kept

end PdEdge.Downstream

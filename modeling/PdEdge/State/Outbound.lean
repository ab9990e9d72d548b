import PdEdge.Upstream.RequestHead

/-!
# The outbound request of an exchange

A program describes a request by calls of host functions on the node of an exchange. The
default upstream exchange inherits the inbound request until a call changes it; other
exchanges start from an empty request. Each call is the checks of its host function and the
change it makes where they pass; the change to a target may fail after the node was touched.
-/

namespace PdEdge.State

open Text
open Downstream (LazyHttpHeaders)
open Upstream (OutboundHttp1RequestHeaders)

/-- `HttpUpstreamScheme`. -/
inductive HttpUpstreamScheme where
  | http
  | https
  deriving DecidableEq, Repr

/-- `HttpUpstreamScheme::as_str`. -/
def HttpUpstreamScheme.asStr : HttpUpstreamScheme → List Char
  | .http => "http".toList
  | .https => "https".toList

/-- `trim` and `to_ascii_lowercase`. -/
def label (text : List Char) : List Char := (trim text).map Char.toLower

/-- `HttpUpstreamScheme::parse`. -/
def HttpUpstreamScheme.parse (text : List Char) : Except VmError HttpUpstreamScheme :=
  if label text = "http".toList then .ok .http
  else if label text = "https".toList then .ok .https
  else
    let value := String.ofList text
    .error (.hostError s!"invalid upstream scheme '{value}'; expected http or https")

/-- `HttpVersionPreference`. -/
inductive HttpVersionPreference where
  | auto
  | http1
  | http2
  | http3
  deriving DecidableEq, Repr

/-- `HttpVersionPreference::parse`. -/
def HttpVersionPreference.parse (text : List Char) : Option HttpVersionPreference :=
  if label text ∈ ["auto".toList, []] then some .auto
  else if label text ∈ ["1".toList, "1.1".toList, "http/1.1".toList] then some .http1
  else if label text ∈ ["2".toList, "h2".toList, "http/2".toList] then some .http2
  else if label text ∈ ["3".toList, "h3".toList, "http/3".toList] then some .http3
  else none

/-- What the program takes from the `http` and `url` crates. An authority is accepted only if
its characters are visible ASCII; the serializer of form pairs writes letters, digits and
`*-._+%&=` alone. -/
structure UrlLibraries where
  /-- `Authority::from_str`, with the host of the authority. -/
  authorityHost : List Char → Option (List Char)
  /-- `form_urlencoded::parse`. -/
  formParse : List UInt8 → List (List Char × List Char)
  /-- `form_urlencoded::Serializer`. -/
  formSerialize : List (List Char × List Char) → List Char
  visible : ∀ text host, authorityHost text = some host →
    ∀ char ∈ text, 33 ≤ char.toNat ∧ char.toNat ≤ 126
  encoded : ∀ pairs, ∀ char ∈ formSerialize pairs, char.isAlphanum ∨ char ∈ "*-._+%&=".toList

/-- The bytes a line is broken or split at. -/
def breaks (byte : UInt8) : Bool := byte == 10 || byte == 13 || byte == 32

/-- `HttpRequestHead`, as far as a request inherits it. The parsers of inbound requests let
through only methods and header names that are tokens, targets without blanks or line breaks,
and values without control characters. -/
structure HttpRequestHead where
  method : Method
  path : List Char
  query : List Char
  headers : LazyHttpHeaders
  token : Rfc9112.Token method.name
  pathUnbroken : ∀ byte ∈ toUtf8 path, breaks byte = false
  queryUnbroken : ∀ byte ∈ toUtf8 query, breaks byte = false
  headersChecked : ∀ header ∈ headers.forEachHeader,
    Rfc9112.Token header.name ∧ ∀ byte ∈ header.value, Rfc9112.isFieldByte byte

/-- `ParsedHttpUpstreamTarget`, without the copies of its texts. -/
structure ParsedHttpUpstreamTarget where
  scheme : HttpUpstreamScheme
  host : List Char
  port : Nat
  hostHeader : List Char
  authority : List Char
  plainHttp1PoolKey : List Char
  target : List Char

/-- `format_upstream_authority`. -/
def formatUpstreamAuthority (host : List Char) (port : Nat) : List Char :=
  let host :=
    match host with
    | '[' :: inner => if inner.getLast? = some ']' then inner.dropLast else host
    | _ => host
  if ':' ∈ host then '[' :: host ++ "]:".toList ++ Nat.toDigits 10 port
  else host ++ ':' :: Nat.toDigits 10 port

/-- The error of a target that makes no origin. -/
def invalidTarget (host : List Char) (port : Nat) : VmError :=
  let host := String.ofList host
  .hostError s!"invalid upstream target host='{host}' port={port}"

/-- `build_upstream_origin`; the authority ends in the port, which is the port it is parsed
with. -/
def buildUpstreamOrigin (libraries : UrlLibraries) (scheme : HttpUpstreamScheme)
    (host : List Char) (port : Nat) : Except VmError ParsedHttpUpstreamTarget :=
  if port = 0 then .error (.hostError "upstream port must be between 1 and 65535")
  else
    let authority := formatUpstreamAuthority host port
    if '@' ∈ authority then .error (invalidTarget host port)
    else
      match libraries.authorityHost authority with
      | none => .error (invalidTarget host port)
      | some parsed =>
        let bracket (char : Char) : Bool := char == '[' || char == ']'
        let parsedHost := (parsed.dropWhile bracket).rdropWhile bracket
        if parsedHost = [] then .error (invalidTarget host port)
        else .ok {
          scheme
          host := parsedHost
          port
          hostHeader := authority
          authority
          plainHttp1PoolKey := "http://".toList ++ authority
          target := scheme.asStr ++ "://".toList ++ authority }

/-- `HttpOutboundRequestNode`; the parts of a target are set together. -/
structure HttpOutboundRequestNode where
  inheritsRequestHead : Bool
  method : Method
  path : List Char
  query : List Char
  headers : HeaderMap
  inheritedHeaderOverrides : HeaderMap
  bodyOverride : Option (List UInt8)
  target : Option ParsedHttpUpstreamTarget
  targetScheme : HttpUpstreamScheme
  versionPreference : HttpVersionPreference

namespace HttpOutboundRequestNode

/-- `new`. -/
def new : HttpOutboundRequestNode :=
  ⟨false, .get, "/".toList, [], [], [], none, none, .http, .auto⟩

/-- `default_upstream`. -/
def defaultUpstream : HttpOutboundRequestNode :=
  ⟨true, .get, [], [], [], [], none, none, .http, .auto⟩

/-- `set_target_host_port`. -/
def setTargetHostPort (libraries : UrlLibraries) (node : HttpOutboundRequestNode)
    (host : List Char) (port : Nat) : Except VmError Unit × HttpOutboundRequestNode :=
  match buildUpstreamOrigin libraries node.targetScheme host port with
  | .error err => (.error err, node)
  | .ok parsed => (.ok (), { node with target := some parsed })

/-- `set_target_scheme`: the scheme changes even where the origin cannot be built again. -/
def setTargetScheme (libraries : UrlLibraries) (node : HttpOutboundRequestNode)
    (scheme : HttpUpstreamScheme) : Except VmError Unit × HttpOutboundRequestNode :=
  let node := { node with targetScheme := scheme }
  match node.target with
  | none => (.ok (), node)
  | some old =>
    match buildUpstreamOrigin libraries scheme old.host old.port with
    | .error err => (.error err, node)
    | .ok parsed =>
      (.ok (), { node with target := some { parsed with host := old.host, port := old.port } })

/-- `materialize_inherited_request_head`. -/
def materializeInheritedRequestHead (node : HttpOutboundRequestNode) (head : HttpRequestHead) :
    HttpOutboundRequestNode :=
  if node.inheritsRequestHead then
    { node with
      method := head.method
      path := head.path
      query := head.query
      headers := head.headers.headers.mergeHeaders node.inheritedHeaderOverrides
      inheritedHeaderOverrides := []
      inheritsRequestHead := false }
  else node

/-- `insert_header`. -/
def insertHeader (node : HttpOutboundRequestNode) (entry : HeaderName × HeaderValue) :
    HttpOutboundRequestNode :=
  if node.inheritsRequestHead then
    { node with
      inheritedHeaderOverrides := node.inheritedHeaderOverrides.insert entry.1 entry.2 }
  else { node with headers := node.headers.insert entry.1 entry.2 }

end HttpOutboundRequestNode

/-! ## Checks of the host functions -/

/-- `parse_header_name`. -/
def parseHeaderName (name : List Char) : Except VmError HeaderName :=
  match HeaderName.fromBytes (toUtf8 name) with
  | some parsed => .ok parsed
  | none =>
    let name := String.ofList name
    .error (.hostError s!"invalid header name '{name}'")

/-- `parse_header`. -/
def parseHeader (name value : List Char) : Except VmError (HeaderName × HeaderValue) := do
  let headerName ← parseHeaderName name
  match HeaderValue.fromBytes (toUtf8 value) with
  | some headerValue => .ok (headerName, headerValue)
  | none =>
    let value := String.ofList value
    .error (.hostError s!"invalid header value '{value}'")

/-- The values a header batch can be made of: a text, or anything else. -/
abbrev BatchItem := Option (List Char)

/-- A value given for a header batch. -/
inductive HeaderBatch where
  | null
  | array (values : List BatchItem)
  | map (entries : List (BatchItem × BatchItem))
  | other

/-- The loop over the pairs of a batch. -/
def parsePairs (kind : String) :
    List (BatchItem × BatchItem) → HeaderMap → Except VmError HeaderMap
  | [], parsed => .ok parsed
  | (none, _) :: _, _ => .error (.hostError s!"header batch {kind} keys must be strings")
  | (some _, none) :: _, _ => .error (.hostError s!"header batch {kind} values must be strings")
  | (some name, some value) :: pairs, parsed => do
    let entry ← parseHeader name value
    parsePairs kind pairs (parsed.insert entry.1 entry.2)

/-- The pairs of an array of even length. -/
def pairUp : List BatchItem → List (BatchItem × BatchItem)
  | first :: second :: rest => (first, second) :: pairUp rest
  | _ => []

/-- `parse_string_header_batch`, without its cache. -/
def parseStringHeaderBatch : HeaderBatch → Except VmError HeaderMap
  | .null => .ok []
  | .array values =>
    if values.length % 2 ≠ 0 then
      .error (.hostError "header batch arrays must contain alternating name/value string pairs")
    else parsePairs "array" (pairUp values) []
  | .map entries => parsePairs "map" entries []
  | .other => .error (.hostError
      "header batch must be null, an array of alternating strings, or a string map")

/-- `is_valid_request_path`. -/
def isValidRequestPath (value : List Char) : Bool :=
  value.head? == some '/' && !value.contains '?' && !value.contains '#' && !value.any isWhitespace

/-- `strip_prefix('?')`. -/
def stripQuestionMark : List Char → List Char
  | '?' :: query => query
  | query => query

/-- `parse_upstream_port`. -/
def parseUpstreamPort (port : Int) : Except VmError Nat :=
  if 1 ≤ port ∧ port ≤ 65535 then .ok port.toNat
  else .error (.hostError s!"invalid upstream port '{port}'")

/-- `parse_version_preference`. -/
def parseVersionPreference (text : List Char) : Except VmError HttpVersionPreference :=
  match HttpVersionPreference.parse text with
  | some preference => .ok preference
  | none =>
    let label := String.ofList text
    .error (.hostError s!"invalid http version preference '{label}'; expected auto, 1.1, 2, or 3")

/-! ## The calls -/

/-- The host functions that change the request of an exchange. -/
inductive ExchangeCall where
  | setMethod (method : List Char)
  | setPath (path : List Char)
  | setQuery (query : List Char)
  | setQueryArg (key value : List Char)
  | setHeader (name value : List Char)
  | addHeader (name value : List Char)
  | clearHeader (name : List Char)
  | setTarget (host : List Char) (port : Int)
  | setScheme (scheme : List Char)
  | setVersion (version : List Char)
  | setBody (body : List Char)
  | prepareDefaultUpstream (host : List Char) (port : Int) (version : List Char)
    (headers : HeaderBatch)

/-- What a call returns and the node it leaves. -/
abbrev Called := Except VmError Unit × HttpOutboundRequestNode

/-- A change that follows a check. -/
def checked {α : Type} (node : HttpOutboundRequestNode) (check : Except VmError α)
    (change : α → Called) : Called :=
  match check with
  | .error err => (.error err, node)
  | .ok value => change value

section

variable (libraries : UrlLibraries) (inbound : Option HttpRequestHead)

/-- `with_exchange_request_mut`: the default exchange stops inheriting before it is changed. -/
def exchangeRequestMut (node : HttpOutboundRequestNode) : HttpOutboundRequestNode :=
  match inbound with
  | some head => node.materializeInheritedRequestHead head
  | none => node

/-- `prepare_default_upstream_request`. -/
def prepareDefaultUpstreamRequest (node : HttpOutboundRequestNode) (host : List Char) (port : Int)
    (version : List Char) (headers : HeaderBatch) : Called :=
  checked node (parseVersionPreference version) fun preference =>
  checked node (parseUpstreamPort port) fun port =>
    match node.setTargetHostPort libraries host port with
    | (.error err, node) => (.error err, node)
    | (.ok (), node) =>
      let node := { node with versionPreference := preference }
      checked node (parseStringHeaderBatch headers) fun parsed =>
        (.ok (), parsed.foldl HttpOutboundRequestNode.insertHeader node)

/-- `set_exchange_query_arg`. -/
def queryWithArg (query key value : List Char) : List Char :=
  let pairs := libraries.formParse (toUtf8 query)
  libraries.formSerialize (pairs.filter (fun pair => pair.1 ≠ key) ++ [(key, value)])

/-- A call on the node of an exchange; `inbound` is the inbound request on the default exchange
and nothing on the others. -/
def ExchangeCall.run (call : ExchangeCall) (node : HttpOutboundRequestNode) : Called :=
  let changed := exchangeRequestMut inbound node
  match call with
  | .setMethod method =>
    match Method.fromBytes (toUtf8 method) with
    | some parsed => (.ok (), { changed with method := parsed })
    | none =>
      let method := String.ofList method
      (.error (.hostError s!"invalid http method '{method}'"), node)
  | .setPath path =>
    if isValidRequestPath path then (.ok (), { changed with path := path })
    else
      let path := String.ofList path
      (.error (.hostError
        s!"path must start with '/' and must not contain whitespace, '?', or '#', got '{path}'"),
        node)
  | .setQuery query =>
    let normalized := stripQuestionMark query
    if normalized.contains '#' || normalized.any isWhitespace then
      let query := String.ofList query
      (.error (.hostError s!"query must not contain whitespace or '#', got '{query}'"), node)
    else (.ok (), { changed with query := normalized })
  | .setQueryArg key value =>
    (.ok (), { changed with query := queryWithArg libraries changed.query key value })
  | .setHeader name value =>
    checked node (parseHeader name value) fun entry =>
      (.ok (), { changed with headers := changed.headers.insert entry.1 entry.2 })
  | .addHeader name value =>
    checked node (parseHeader name value) fun entry =>
      (.ok (), { changed with headers := changed.headers.add entry.1 entry.2 })
  | .clearHeader name =>
    checked node (parseHeaderName name) fun parsed =>
      (.ok (), { changed with headers := changed.headers.remove parsed })
  | .setTarget host port =>
    checked node (parseUpstreamPort port) fun port =>
      changed.setTargetHostPort libraries host port
  | .setScheme scheme =>
    checked node (HttpUpstreamScheme.parse scheme) fun scheme =>
      changed.setTargetScheme libraries scheme
  | .setVersion version =>
    checked node (parseVersionPreference version) fun preference =>
      (.ok (), { changed with versionPreference := preference })
  | .setBody body => (.ok (), { changed with bodyOverride := some (toUtf8 body) })
  | .prepareDefaultUpstream host port version headers =>
    match inbound with
    | some _ => prepareDefaultUpstreamRequest libraries node host port version headers
    | none => (.ok (), node)

/-- The node after some calls, whatever they returned. -/
def runCalls (calls : List ExchangeCall) (node : HttpOutboundRequestNode) :
    HttpOutboundRequestNode :=
  calls.foldl (fun node call => (call.run libraries inbound node).2) node

end

/-! ## What is sent -/

/-- `filtered_upstream_headers`. -/
def filteredUpstreamHeaders (headers : HeaderMap) (hostHeader : Option (List Char)) : HeaderMap :=
  let filtered := headers.foldl (fun (filtered : HeaderMap) entry =>
    if entry.1 ≠ .host ∧ entry.1 ≠ .contentLength ∧ ¬ isHopByHopHeader entry.1 then
      filtered.insert entry.1 entry.2
    else filtered) []
  match hostHeader.bind fun host => HeaderValue.fromBytes (toUtf8 host) with
  | some value => filtered.insert .host value
  | none => filtered

/-- What `serialize_request_head_parts_into` is called with for a node. -/
structure OutboundHead where
  method : Method
  path : List Char
  query : List Char
  headers : OutboundHttp1RequestHeaders
  authority : List Char

/-- The head of an HTTP/1.1 request of a node that has a target: the inbound request's with the
overrides, or the node's own. -/
def HttpOutboundRequestNode.outboundHead (node : HttpOutboundRequestNode)
    (inbound : Option HttpRequestHead) : Option OutboundHead :=
  node.target.map fun target =>
    let authority := target.authority
    match node.inheritsRequestHead, inbound with
    | true, some head =>
      let headers :=
        if node.inheritedHeaderOverrides = [] then
          .inheritedFiltered head.headers (some (toUtf8 authority))
        else
          .inheritedFilteredWithOverrides head.headers (some (toUtf8 authority))
            node.inheritedHeaderOverrides
      ⟨head.method, head.path, head.query, headers, authority⟩
    | _, _ =>
      ⟨node.method, node.path, node.query,
        .parsed (filteredUpstreamHeaders node.headers (some authority)), authority⟩

/-- The bytes of a head. -/
def OutboundHead.serialize (head : OutboundHead) (bodyContentLength : Option Nat) : List UInt8 :=
  (Upstream.serializeRequestHeadPartsInto head.method (toUtf8 head.path) (toUtf8 head.query)
    head.headers (toUtf8 head.authority) bodyContentLength).1

end PdEdge.State

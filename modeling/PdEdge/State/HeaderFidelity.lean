import PdEdge.State.Unsplit

/-!
# The headers of an outbound request against the calls that made it

What is sent is not the same from inherited headers and from a map: the map keeps one value of a
name where it is filtered, and drops what the overrides may say about the connection. Elsewhere
both send what the calls ask for.
-/

namespace PdEdge.State

open Text HttpOutboundRequestNode HeaderName List
open Upstream
open Downstream (LazyHttpHeaders)

/-! ## What is sent -/

/-- The headers that are passed on from end to end: not those of the connection, nor those that
name the host or say how long the body is. -/
def endToEnd (name : HeaderName) : Bool :=
  decide (name ≠ .host ∧ name ≠ .contentLength ∧ ¬ isHopByHopHeader name)

/-- `cloned_headers_or_request_head`. -/
def HttpOutboundRequestNode.clonedHeadersOrRequestHead (node : HttpOutboundRequestNode)
    (inbound : Option HttpRequestHead) : HeaderMap :=
  match node.inheritsRequestHead, inbound with
  | true, some head => head.headers.headers.mergeHeaders node.inheritedHeaderOverrides
  | _, _ => node.headers

/-- The headers that `start_outbound_exchange_response` gives to a carrier for the request it
has prepared. -/
def HttpOutboundRequestNode.preparedHeaders (node : HttpOutboundRequestNode)
    (inbound : Option HttpRequestHead) : Option HeaderMap :=
  node.target.map fun target =>
    filteredUpstreamHeaders (node.clonedHeadersOrRequestHead inbound) (some target.authority)

/-- All values of each name in a serialized head. -/
def OutboundHead.values (head : OutboundHead) (bodyContentLength : Option Nat) : Multimap :=
  rawValues (requestHeaderLines head.headers (toUtf8 head.authority) bodyContentLength).1

/-- What is sent has the wanted headers from end to end, serialized or prepared. -/
def CarriesHeaders (wanted : Multimap) (head : OutboundHead) (prepared : HeaderMap) : Prop :=
  ∀ name, endToEnd name →
    (∀ bodyContentLength, head.values bodyContentLength name = wanted name) ∧
    HeaderMap.values prepared name = wanted name

/-- Two heads ask for the same, but for the case of names and the order among them. -/
structure SameRequest (first second : OutboundHead) : Prop where
  method : first.method = second.method
  path : first.path = second.path
  query : first.query = second.query
  headers : ∀ bodyContentLength, first.values bodyContentLength = second.values bodyContentLength
  chunked : ∀ bodyContentLength,
    (requestHeaderLines first.headers (toUtf8 first.authority) bodyContentLength).2 =
      (requestHeaderLines second.headers (toUtf8 second.authority) bodyContentLength).2

/-- Taking the inbound head into the map behind any of the calls makes no difference to what is
sent behind all of them. -/
def SameMaterialized (libraries : UrlLibraries) (inbound : Option HttpRequestHead)
    (calls : List ExchangeCall) (head : OutboundHead) : Prop :=
  ∀ before after, calls = before ++ after →
    ∃ other, (runCalls libraries inbound after (exchangeRequestMut inbound
      (runCalls libraries inbound before (exchangeNode inbound)))).outboundHead inbound = some other ∧
      SameRequest head other

/-! ## What the two forms send -/

open OutboundHttp1RequestHeaders

/-- Filtering leaves the target's host and the last value of each header from end to end. -/
theorem values_filtered {headers : HeaderMap} {host : List Char}
    (visible : ∀ byte ∈ toUtf8 host, Rfc9112.isFieldByte byte) {name : HeaderName} :
    HeaderMap.values (filteredUpstreamHeaders headers (some host)) name =
      if name = .host then [toUtf8 host]
      else if endToEnd name then (HeaderMap.values headers name).getLast?.toList else [] := by
  have valued : HeaderValue.fromBytes (toUtf8 host) = some ⟨toUtf8 host, visible⟩ :=
    dif_pos (all_eq_true.mpr visible)
  have folded : headers.foldl (fun (filtered : HeaderMap) entry =>
      if entry.1 ≠ .host ∧ entry.1 ≠ .contentLength ∧ ¬ isHopByHopHeader entry.1 then
        filtered.insert entry.1 entry.2
      else filtered) [] =
        HeaderMap.mergeHeaders [] (headers.filter fun entry => endToEnd entry.1) := by
    rw [HeaderMap.mergeHeaders, foldl_filter]
    simp [endToEnd]
  simp only [filteredUpstreamHeaders, Option.bind_some, valued, folded, values_insert,
    HeaderEdit.apply, Function.update_apply]
  split_ifs with named kept
  · rfl
  · simp only [HeaderMap.values, HeaderMap.getAll_mergeHeaders, HeaderMap.getAll_filter, kept,
      ↓reduceIte, HeaderMap.getAll_nil, getLast?_map]
    cases (headers.getAll name).getLast? <;> rfl
  · simp [HeaderMap.values, HeaderMap.getAll_mergeHeaders, HeaderMap.getAll_filter, kept]

/-- The line that keeps a connection. -/
def keepAliveLine : RawHttpHeader := ⟨HeaderName.connection.bytes, ascii "keep-alive"⟩

theorem rawValues_line {other name : HeaderName} {value : List UInt8} :
    rawValues [⟨other.bytes, value⟩] name = if other = name then [value] else [] := by
  simp only [rawValues, filter_cons, eqIgnoreAsciiCase_names, filter_nil]
  by_cases same : other = name <;> simp [same]

/-- The lists of the connection's headers are one list. -/
theorem isHopByHopHeaderName_bytes (name : HeaderName) :
    isHopByHopHeaderName name.bytes = isHopByHopHeader name := by
  simp only [isHopByHopHeaderName, isHopByHopHeader, any_cons, any_nil,
    contains_cons, contains_nil, eqIgnoreAsciiCase, name.lowered]
  rfl

theorem endToEnd_eq (name : HeaderName) :
    endToEnd name = ((tracked? name.bytes).isNone && !isHopByHopHeaderName name.bytes) := by
  have hop : isHopByHopHeader .connection ∧ isHopByHopHeader .transferEncoding := by decide +kernel
  rw [isHopByHopHeaderName_bytes, Bool.eq_iff_iff]
  simp only [endToEnd, decide_eq_true_eq, Bool.and_eq_true, Bool.not_eq_true',
    Option.isNone_iff_eq_none, Option.eq_none_iff_forall_ne_some, ne_eq, tracked?_eq_some,
    eqIgnoreAsciiCase_names, Bool.not_eq_true]
  constructor
  · rintro ⟨host, length, kept⟩
    refine ⟨?_, kept⟩
    intro tracked same
    subst same
    cases tracked with
    | host => exact host rfl
    | contentLength => exact length rfl
    | connection =>
      exact absurd hop.1 (by simp [show isHopByHopHeader .connection = false from kept])
    | transferEncoding =>
      exact absurd hop.2 (by simp [show isHopByHopHeader .transferEncoding = false from kept])
  · rintro ⟨untracked, kept⟩
    exact ⟨untracked .host, untracked .contentLength, kept⟩

/-- The inherited values of a name that is written from end to end and not overridden. -/
theorem rawValues_passes (source : OutboundHttp1RequestHeaders) (name : HeaderName) :
    rawValues (source.inherited.filter source.passes) name =
      bif endToEnd name && !source.given.containsKey name then rawValues source.inherited name
      else [] := by
  have decided (header : RawHttpHeader) (same : eqIgnoreAsciiCase header.name name.bytes) :
      source.passes header = (endToEnd name && !source.given.containsKey name) := by
    have lowered : header.name.map lower = name.bytes.map lower := eq_of_beq same
    have alike : eqIgnoreAsciiCase header.name = eqIgnoreAsciiCase name.bytes := by
      funext other
      simp only [eqIgnoreAsciiCase, lowered]
    have given : (source.given.any fun entry => eqIgnoreAsciiCase name.bytes entry.1.bytes) =
        source.given.containsKey name := by
      simp only [eqIgnoreAsciiCase_names, HeaderMap.containsKey, eq_comm]
    simp only [passes, endToEnd_eq, tracked?, isHopByHopHeaderName,
      alike, given, Bool.not_or, Bool.and_assoc]
  unfold rawValues
  rw [filter_filter]
  cases kept : endToEnd name && !source.given.containsKey name with
  | true =>
    congr 1
    apply filter_congr
    intro header _
    cases same : eqIgnoreAsciiCase header.name name.bytes with
    | false => rfl
    | true => rw [decided header same, kept, Bool.and_self]
  | false =>
    rw [cond_false, map_eq_nil_iff, filter_eq_nil_iff]
    intro header _ both
    obtain ⟨same, passed⟩ := Bool.and_eq_true_iff.mp both
    rw [decided header same, kept] at passed
    cases passed

theorem containsKey_eq (headers : HeaderMap) (name : HeaderName) :
    headers.containsKey name = !(HeaderMap.values headers name).isEmpty := by
  rw [Bool.eq_iff_iff, HeaderMap.containsKey_iff]
  simp [HeaderMap.values]

/-- The values of a head that is written from inherited headers. -/
theorem values_inheriting {source : OutboundHttp1RequestHeaders} {host : List UInt8}
    (hosted : source.hostHeader = some host) (authority : List UInt8)
    (bodyContentLength : Option Nat) (name : HeaderName) :
    rawValues (requestHeaderLines source authority bodyContentLength).1 name =
      (bif endToEnd name && !source.given.containsKey name then rawValues source.inherited name
        else []) ++ HeaderMap.values source.given name ++
      (bif source.given.containsKey .host then [] else rawValues [hostLine host] name) ++
      (bif source.framed then [] else rawValues [addedFraming bodyContentLength] name) ++
      (bif source.given.containsKey .connection then [] else rawValues [keepAliveLine] name) := by
  have nothing : rawValues [] name = [] := rfl
  have added : source.addedHost authority = [] := by simp [addedHost, hosted]
  simp only [requestHeaderLines_eq, rawValues_append, rawValues_passes, rawValues_entryLine, added,
    nothing, append_nil, hostLines, hosted, Option.toList_some,
    map_cons, map_nil, addedConnection, Bool.apply_cond
      (fun lines => rawValues lines name), HeaderMap.values, keepAliveLine]

section

variable (headers : HeaderMap) {host : List Char}
variable (visible : ∀ byte ∈ toUtf8 host, Rfc9112.isFieldByte byte)
include visible

/-- A filtered map has a host and leaves the rest of the connection to the head. -/
theorem filtered_keys :
    (filteredUpstreamHeaders headers (some host)).containsKey .host ∧
    (parsed (filteredUpstreamHeaders headers (some host))).framed = false ∧
    (filteredUpstreamHeaders headers (some host)).containsKey .connection = false := by
  have none : endToEnd .contentLength = false ∧ endToEnd .transferEncoding = false ∧
      endToEnd .connection = false := by decide +kernel
  have apart : contentLength ≠ .host ∧ transferEncoding ≠ .host ∧
      connection ≠ .host := by decide +kernel
  simp [OutboundHttp1RequestHeaders.framed, given, containsKey_eq,
    values_filtered visible, none, apart]

/-- The values of a head that is written from a filtered map. -/
theorem values_own (authority : List UInt8) (bodyContentLength : Option Nat) (name : HeaderName) :
    rawValues (requestHeaderLines (.parsed (filteredUpstreamHeaders headers (some host))) authority
        bodyContentLength).1 name =
      HeaderMap.values (filteredUpstreamHeaders headers (some host)) name ++
      rawValues [addedFraming bodyContentLength] name ++ rawValues [keepAliveLine] name := by
  obtain ⟨hosted, unframed, unkept⟩ := filtered_keys headers visible
  simp only [requestHeaderLines_eq, rawValues_append, rawValues_entryLine, unframed,
    inherited, given,
    hostLines, addedHost,
    addedConnection, hosted, unkept, filter_nil,
    nil_append, append_nil, cond_true, cond_false, Bool.true_or, HeaderMap.values,
    keepAliveLine]

end

/-- What a head says about the connection unless the program does. -/
def supplied (authority : List UInt8) : Multimap := fun name =>
  if name = .host then [authority]
  else if name = .connection then [ascii "keep-alive"] else []

/-- The overrides say no more about the connection than the head would. -/
def Harmless (authority : List UInt8) (overrides : HeaderMap) : Prop :=
  ∀ name, endToEnd name = false →
    HeaderMap.values overrides name = [] ∨ HeaderMap.values overrides name = supplied authority name

theorem toList_getLast?_eq_self {α : Type} {values : List α} :
    values.getLast?.toList = values ↔ values.length ≤ 1 := by
  match values with
  | [] => simp
  | [value] => simp
  | first :: second :: rest =>
    have shorter : (first :: second :: rest).getLast?.toList.length ≤ 1 := by
      cases (first :: second :: rest).getLast? <;> simp
    constructor
    · intro same
      rw [same] at shorter
      exact shorter
    · intro short
      simp at short

/-- No header from end to end is one that the head adds. -/
theorem added_elsewhere {name : HeaderName} (kept : endToEnd name) (host : List UInt8)
    (bodyContentLength : Option Nat) :
    rawValues [hostLine host] name = [] ∧ rawValues [addedFraming bodyContentLength] name = [] ∧
      rawValues [keepAliveLine] name = [] := by
  have apart (other : HeaderName) (dropped : endToEnd other = false) : other ≠ name := by
    rintro rfl
    rw [kept] at dropped
    cases dropped
  refine ⟨?_, ?_, ?_⟩
  · exact (rawValues_line).trans (if_neg (apart .host (by decide +kernel)))
  · cases bodyContentLength with
    | some length =>
      exact (rawValues_line).trans (if_neg (apart .contentLength (by decide +kernel)))
    | none => exact (rawValues_line).trans (if_neg (apart .transferEncoding (by decide +kernel)))
  · exact (rawValues_line).trans (if_neg (apart .connection (by decide +kernel)))

section

variable {source : OutboundHttp1RequestHeaders} {merged : HeaderMap} {authority : List Char}

/-- A map that the inherited headers and the overrides of a source are merged into. -/
structure Merges (source : OutboundHttp1RequestHeaders) (merged : HeaderMap) : Prop where
  values : ∀ name, HeaderMap.values merged name =
    bif source.given.containsKey name then HeaderMap.values source.given name
    else rawValues source.inherited name

variable (merges : Merges source merged) (hosted : source.hostHeader = some (toUtf8 authority))
variable {name : HeaderName}

include merges hosted in
/-- Inherited headers are written with all their values. -/
theorem inheriting_endToEnd {bodyContentLength : Option Nat} (kept : endToEnd name) :
    rawValues (requestHeaderLines source (toUtf8 authority) bodyContentLength).1 name =
      HeaderMap.values merged name := by
  obtain ⟨noHost, noFraming, noConnection⟩ :=
    added_elsewhere kept (toUtf8 authority) bodyContentLength
  rw [values_inheriting hosted, merges.values, noHost, noFraming, noConnection, kept]
  simp only [Bool.cond_self, append_nil, Bool.true_and]
  cases present : source.given.containsKey name with
  | true => rfl
  | false =>
    have empty : HeaderMap.values source.given name = [] := by simpa [containsKey_eq] using present
    rw [empty]
    exact append_nil _

variable (visible : ∀ byte ∈ toUtf8 authority, Rfc9112.isFieldByte byte)

include visible in
/-- Of a map, the last value of a header is written. -/
theorem own_endToEnd (headers : HeaderMap) (bodyContentLength : Option Nat) (kept : endToEnd name) :
    rawValues (requestHeaderLines (.parsed (filteredUpstreamHeaders headers (some authority)))
        (toUtf8 authority) bodyContentLength).1 name =
      (HeaderMap.values headers name).getLast?.toList := by
  obtain ⟨-, noFraming, noConnection⟩ := added_elsewhere kept (toUtf8 authority) bodyContentLength
  have apart : name ≠ .host := by
    rintro rfl
    exact absurd kept (by decide +kernel)
  rw [values_own headers visible, noFraming, noConnection, values_filtered visible,
    if_neg apart, if_pos kept]
  simp

/-- The framing header that is added is another one for a body of known length. -/
theorem framing_elsewhere {name : HeaderName} :
    ∃ bodyContentLength, rawValues [addedFraming bodyContentLength] name = [] := by
  by_cases length : name = .contentLength
  · subst length
    exact ⟨none, by decide +kernel⟩
  · exact ⟨some 0, (rawValues_line).trans (if_neg (Ne.symm length))⟩

include hosted in
/-- The part of a head that is about the connection, from inherited headers and from a map. -/
theorem values_connection (bodyContentLength : Option Nat) (dropped : endToEnd name = false) :
    rawValues (requestHeaderLines source (toUtf8 authority) bodyContentLength).1 name =
      HeaderMap.values source.given name ++
      (bif source.given.containsKey .host then [] else
        if name = .host then [toUtf8 authority] else []) ++
      (bif source.framed then [] else rawValues [addedFraming bodyContentLength] name) ++
      (bif source.given.containsKey .connection then [] else
        if name = .connection then [ascii "keep-alive"] else []) := by
  have host : rawValues [hostLine (toUtf8 authority)] name =
      if name = .host then [toUtf8 authority] else [] := by
    simp only [hostLine, rawValues_line, eq_comm]
  have connection : rawValues [keepAliveLine] name =
      if name = .connection then [ascii "keep-alive"] else [] := by
    simp only [keepAliveLine, rawValues_line, eq_comm]
  rw [values_inheriting hosted, dropped, host, connection]
  rfl

include visible in
theorem own_connection (headers : HeaderMap) (bodyContentLength : Option Nat)
    (dropped : endToEnd name = false) :
    rawValues (requestHeaderLines (.parsed (filteredUpstreamHeaders headers (some authority)))
        (toUtf8 authority) bodyContentLength).1 name =
      (if name = .host then [toUtf8 authority] else []) ++
      rawValues [addedFraming bodyContentLength] name ++
      if name = .connection then [ascii "keep-alive"] else [] := by
  have connection : rawValues [keepAliveLine] name =
      if name = .connection then [ascii "keep-alive"] else [] := by
    simp only [keepAliveLine, rawValues_line, eq_comm]
  rw [values_own headers visible, values_filtered visible, connection, dropped]
  rfl

include hosted visible in
/-- Where both forms send the same about the connection, the overrides are harmless. -/
theorem harmless_of_same (same : ∀ bodyContentLength,
      rawValues (requestHeaderLines source (toUtf8 authority) bodyContentLength).1 =
        rawValues (requestHeaderLines (.parsed (filteredUpstreamHeaders merged (some authority)))
          (toUtf8 authority) bodyContentLength).1) :
    Harmless (toUtf8 authority) source.given := by
  intro name dropped
  obtain ⟨bodyContentLength, unframed⟩ := framing_elsewhere
  have values := congrFun (same bodyContentLength) name
  rw [values_connection hosted _ dropped, own_connection visible _ _ dropped, unframed] at values
  have key := containsKey_eq source.given name
  have apart : host ≠ .connection := by decide +kernel
  simp only [Bool.cond_self, append_nil, supplied] at values ⊢
  by_cases host : name = .host
  · subst host
    simp only [↓reduceIte, apart, Bool.cond_self, append_nil] at values ⊢
    cases present : source.given.containsKey .host with
    | true => exact Or.inr (by simpa [present] using values)
    | false => exact Or.inl (by simpa [present] using key)
  by_cases connection : name = .connection
  · subst connection
    simp only [↓reduceIte, host, Bool.cond_self, append_nil, nil_append] at values ⊢
    cases present : source.given.containsKey .connection with
    | true => exact Or.inr (by simpa [present] using values)
    | false => exact Or.inl (by simpa [present] using key)
  · simp only [host, connection, ↓reduceIte, Bool.cond_self, append_nil] at values
    exact Or.inl values

/-- Harmless overrides leave the framing to the head. -/
theorem Harmless.unframed {authority : List UInt8}
    (harmless : Harmless authority source.given) : source.framed = false := by
  have none (name : HeaderName) (dropped : endToEnd name = false)
      (unsupplied : supplied authority name = []) : source.given.containsKey name = false := by
    rw [containsKey_eq]
    rcases harmless name dropped with empty | same
    · rw [empty]
      rfl
    · rw [same, unsupplied]
      rfl
  rw [OutboundHttp1RequestHeaders.framed, none .contentLength (by decide +kernel) rfl,
    none .transferEncoding (by decide +kernel) rfl]
  rfl

include hosted visible in
/-- Harmless overrides say about the connection what the head would. -/
theorem Harmless.same (harmless : Harmless (toUtf8 authority) source.given)
    (bodyContentLength : Option Nat) (dropped : endToEnd name = false) :
    rawValues (requestHeaderLines source (toUtf8 authority) bodyContentLength).1 name =
      rawValues (requestHeaderLines (.parsed (filteredUpstreamHeaders merged (some authority)))
        (toUtf8 authority) bodyContentLength).1 name := by
  have key := containsKey_eq source.given name
  have apart : host ≠ .connection := by decide +kernel
  have given := harmless name dropped
  have elsewhere : rawValues [addedFraming bodyContentLength] .host = [] ∧
      rawValues [addedFraming bodyContentLength] .connection = [] := by
    cases bodyContentLength <;> exact ⟨rfl, rfl⟩
  rw [values_connection hosted _ dropped, own_connection visible _ _ dropped, harmless.unframed]
  rw [supplied] at given
  by_cases host : name = .host
  · subst host
    rcases given with empty | same
    · simp [key, empty, apart]
    · simp [key, same, apart, elsewhere]
  by_cases connection : name = .connection
  · subst connection
    rcases given with empty | same
    · simp [key, empty, Ne.symm apart]
    · simp [key, same, Ne.symm apart, elsewhere]
  · have empty : HeaderMap.values source.given name = [] := by simpa [host, connection] using given
    simp [empty, host, connection]

end

/-! ## Both forms against the calls -/

section

variable {libraries : UrlLibraries} {inbound : Option HttpRequestHead}
variable {node : HttpOutboundRequestNode} {target : ParsedHttpUpstreamTarget}

attribute [local simp] materializeInheritedRequestHead clonedHeadersOrRequestHead

/-- The headers of a prepared request are those of the map. -/
theorem clonedHeaders_eq :
    node.clonedHeadersOrRequestHead inbound = (exchangeRequestMut inbound node).headers := by
  cases inbound with
  | none | some head =>
    cases own : node.inheritsRequestHead <;>
      simp [exchangeRequestMut, own]

/-- The head of a node with headers of its own. -/
def HttpOutboundRequestNode.ownHead (node : HttpOutboundRequestNode)
    (target : ParsedHttpUpstreamTarget) : OutboundHead :=
  ⟨node.method, node.path, node.query,
    .parsed (filteredUpstreamHeaders node.headers (some target.authority)), target.authority⟩

theorem outboundHead_own (own : inbound.isSome → node.inheritsRequestHead = false)
    (present : node.target = some target) :
    node.outboundHead inbound = some (node.ownHead target) := by
  cases inbound with
  | none => simp [outboundHead, ownHead, present]
  | some head => simp [outboundHead, ownHead, own rfl, present]

variable {head : OutboundHead}

/-- The head of a node that inherits: the source of its headers has the inbound headers, the
host and the overrides. -/
theorem outboundHead_inheriting {inbound : HttpRequestHead} (inherits : node.inheritsRequestHead)
    (present : node.target = some target) (asked : node.outboundHead (some inbound) = some head) :
    head.method = inbound.method ∧ head.path = inbound.path ∧ head.query = inbound.query ∧
    head.authority = target.authority ∧
    head.headers.hostHeader = some (toUtf8 target.authority) ∧
    head.headers.given = node.inheritedHeaderOverrides ∧
    head.headers.inherited = inbound.headers.forEachHeader := by
  simp only [outboundHead, inherits, present, Option.map_some, Option.some.injEq] at asked
  subst asked
  refine ⟨rfl, rfl, rfl, rfl, ?_⟩
  by_cases plain : node.inheritedHeaderOverrides = []
  all_goals
    simp only [plain, ↓reduceIte]
    exact ⟨rfl, rfl, rfl⟩

/-- The overrides of a node are merged into the map it stops inheriting with. -/
theorem merges_overrides {head : HttpRequestHead} {source : OutboundHttp1RequestHeaders}
    (single : Single node.inheritedHeaderOverrides)
    (given : source.given = node.inheritedHeaderOverrides)
    (inherited : source.inherited = head.headers.forEachHeader)
    (inherits : node.inheritsRequestHead) :
    Merges source (exchangeRequestMut (some head) node).headers := by
  have merged : (exchangeRequestMut (some head) node).headers =
      head.headers.headers.mergeHeaders node.inheritedHeaderOverrides := by
    simp [exchangeRequestMut, inherits]
  refine ⟨fun name => ?_⟩
  have base := congrFun (values_lazy head.headersChecked) name
  rw [merged, given, inherited, ← base, containsKey_eq, HeaderMap.values,
    HeaderMap.getAll_mergeHeaders]
  have few := single name
  simp only [HeaderMap.values]
  rcases all : node.inheritedHeaderOverrides.getAll name with _ | ⟨first, _ | ⟨second, rest⟩⟩
  · rfl
  · rfl
  · rw [all] at few
    simp at few

theorem sameMaterialized_iff {calls : List ExchangeCall} :
    SameMaterialized libraries inbound calls head ↔
      ∃ other, (exchangeRequestMut inbound (runCalls libraries inbound calls
        (exchangeNode inbound))).outboundHead inbound = some other ∧ SameRequest head other := by
  have moved (before after : List ExchangeCall) :
      runCalls libraries inbound after (exchangeRequestMut inbound
        (runCalls libraries inbound before (exchangeNode inbound))) =
      exchangeRequestMut inbound
        (runCalls libraries inbound (before ++ after) (exchangeNode inbound)) := by
    rw [← runCalls_materialize]
    simp [runCalls]
  constructor
  · intro same
    obtain ⟨other, sent, alike⟩ := same calls [] (append_nil calls).symm
    exact ⟨other, sent, alike⟩
  · rintro ⟨other, sent, alike⟩ before after rfl
    rw [moved]
    exact ⟨other, sent, alike⟩

/-- An inheriting node sends what its map would, exactly when no header has two values and the
overrides say nothing about the connection. -/
theorem sameRequest_iff {inbound : HttpRequestHead} (inherits : node.inheritsRequestHead)
    (present : node.target = some target) (asked : node.outboundHead (some inbound) = some head)
    (single : Single node.inheritedHeaderOverrides)
    (visible : ∀ byte ∈ toUtf8 target.authority, Rfc9112.isFieldByte byte) :
    SameRequest head ((exchangeRequestMut (some inbound) node).ownHead target) ↔
      (∀ name, endToEnd name → (HeaderMap.values
        (exchangeRequestMut (some inbound) node).headers name).length ≤ 1) ∧
      Harmless (toUtf8 target.authority) node.inheritedHeaderOverrides := by
  obtain ⟨method, path, query, authority, hosted, given, inherited⟩ :=
    outboundHead_inheriting inherits present asked
  have merges := merges_overrides single given inherited inherits
  have fields : (exchangeRequestMut (some inbound) node).method = inbound.method ∧
      (exchangeRequestMut (some inbound) node).path = inbound.path ∧
      (exchangeRequestMut (some inbound) node).query = inbound.query := by
    simp [exchangeRequestMut, inherits]
  rw [← given]
  constructor
  · intro same
    have headers := same.headers
    simp only [OutboundHead.values, authority, ownHead] at headers
    refine ⟨fun name kept => ?_, harmless_of_same hosted visible headers⟩
    have values := congrFun (headers none) name
    rw [inheriting_endToEnd merges hosted kept, own_endToEnd visible _ none kept] at values
    exact (toList_getLast?_eq_self).mp values.symm
  · rintro ⟨few, harmless⟩
    refine ⟨method.trans fields.1.symm, path.trans fields.2.1.symm, query.trans fields.2.2.symm,
      ?_, ?_⟩
    · intro bodyContentLength
      funext name
      simp only [OutboundHead.values, authority, ownHead]
      cases kept : endToEnd name with
      | true =>
        rw [inheriting_endToEnd merges hosted kept, own_endToEnd visible _ _ kept]
        exact ((toList_getLast?_eq_self).mpr (few name kept)).symm
      | false => exact harmless.same hosted visible bodyContentLength kept
    · intro bodyContentLength
      have unframed := (filtered_keys (exchangeRequestMut (some inbound) node).headers visible).2.1
      simp only [ownHead, requestHeaderLines_eq, harmless.unframed, unframed]

/-- A prepared request keeps all values exactly when no header has two. -/
theorem prepared_iff (headers : HeaderMap)
    (visible : ∀ byte ∈ toUtf8 target.authority, Rfc9112.isFieldByte byte) {name : HeaderName}
    (kept : endToEnd name) :
    HeaderMap.values (filteredUpstreamHeaders headers (some target.authority)) name =
        HeaderMap.values headers name ↔
      (HeaderMap.values headers name).length ≤ 1 := by
  have apart : name ≠ .host := by
    rintro rfl
    exact absurd kept (by decide +kernel)
  rw [values_filtered visible, if_neg apart, if_pos kept]
  exact toList_getLast?_eq_self

/-- A head of its own has the last value of each header, and so has a prepared request. -/
theorem carries_own_iff (visible : ∀ byte ∈ toUtf8 target.authority, Rfc9112.isFieldByte byte) :
    CarriesHeaders (HeaderMap.values node.headers) (node.ownHead target)
        (filteredUpstreamHeaders node.headers (some target.authority)) ↔
      ∀ name, endToEnd name → (HeaderMap.values node.headers name).length ≤ 1 := by
  constructor
  · intro carries name passed
    exact (prepared_iff node.headers visible passed).mp (carries name passed).2
  · intro few name passed
    refine ⟨fun bodyContentLength => ?_, (prepared_iff node.headers visible passed).mpr
      (few name passed)⟩
    have sent := own_endToEnd visible node.headers bodyContentLength passed
    rw [(toList_getLast?_eq_self).mpr (few name passed)] at sent
    exact sent

/-- An inheriting node sends all values of the map, and so does a prepared request that has no
header twice. -/
theorem carries_inheriting {inbound : HttpRequestHead} (inherits : node.inheritsRequestHead)
    (present : node.target = some target) (asked : node.outboundHead (some inbound) = some head)
    (single : Single node.inheritedHeaderOverrides)
    (visible : ∀ byte ∈ toUtf8 target.authority, Rfc9112.isFieldByte byte)
    (few : ∀ name, endToEnd name → (HeaderMap.values
      (exchangeRequestMut (some inbound) node).headers name).length ≤ 1) :
    CarriesHeaders (HeaderMap.values (exchangeRequestMut (some inbound) node).headers) head
      (filteredUpstreamHeaders (exchangeRequestMut (some inbound) node).headers
        (some target.authority)) := by
  obtain ⟨-, -, -, authority, hosted, given, inherited⟩ :=
    outboundHead_inheriting inherits present asked
  have merges := merges_overrides single given inherited inherits
  intro name passed
  refine ⟨fun bodyContentLength => ?_, (prepared_iff _ visible passed).mpr (few name passed)⟩
  rw [OutboundHead.values, authority, inheriting_endToEnd merges hosted passed]

theorem SameRequest.rfl (head : OutboundHead) : SameRequest head head :=
  ⟨Eq.refl _, Eq.refl _, Eq.refl _, fun _ => Eq.refl _, fun _ => Eq.refl _⟩

end

/-- Whatever calls a program makes on an exchange: what is sent has the headers that the calls
make of those that came in, and is the same had the inbound head been taken into the map earlier,
exactly when no header from end to end has two values and, while the head is inherited, the
program's overrides say no more about the connection than the head does anyway. -/
theorem upstream_headers_iff (libraries : UrlLibraries) (inbound : Option HttpRequestHead)
    (calls : List ExchangeCall) (head : OutboundHead) (prepared : HeaderMap)
    (asked : (runCalls libraries inbound calls (exchangeNode inbound)).outboundHead inbound =
      some head)
    (made : (runCalls libraries inbound calls (exchangeNode inbound)).preparedHeaders inbound =
      some prepared) :
    (CarriesHeaders (askedFor libraries inbound calls) head prepared ∧
      SameMaterialized libraries inbound calls head) ↔
    (∀ name, endToEnd name → (askedFor libraries inbound calls name).length ≤ 1) ∧
      ((runCalls libraries inbound calls (exchangeNode inbound)).inheritsRequestHead →
        Harmless (toUtf8 head.authority)
          (runCalls libraries inbound calls (exchangeNode inbound)).inheritedHeaderOverrides) := by
  obtain ⟨own, values⟩ := runCalls_asked libraries inbound calls
  have started : (exchangeNode inbound).Sound ∧
      Single (exchangeNode inbound).inheritedHeaderOverrides := by
    cases inbound with
    | none => exact ⟨sound_new, fun _ => Nat.zero_le 1⟩
    | some head => exact ⟨sound_defaultUpstream, fun _ => Nat.zero_le 1⟩
  have sound : (runCalls libraries inbound calls (exchangeNode inbound)).Sound :=
    runCalls_sound started.1
  have single : Single
      (runCalls libraries inbound calls (exchangeNode inbound)).inheritedHeaderOverrides :=
    single_runCalls started.2
  rw [sameMaterialized_iff]
  generalize runCalls libraries inbound calls (exchangeNode inbound) = node at *
  rw [← values]
  obtain ⟨target, present, -⟩ := Option.map_eq_some_iff.mp asked
  have visible := sound.authority target present
  have ownTarget : (exchangeRequestMut inbound node).target = some target :=
    materialize_fields.2.trans present
  simp only [outboundHead_own (fun _ => own) ownTarget, Option.some.injEq, exists_eq_left']
  obtain rfl : filteredUpstreamHeaders (exchangeRequestMut inbound node).headers
      (some target.authority) = prepared := by
    simpa [preparedHeaders, present, clonedHeaders_eq] using made
  cases inherits : node.inheritsRequestHead with
  | false =>
    have same : exchangeRequestMut inbound node = node := exchangeRequestMut_of_own fun _ => inherits
    obtain rfl : node.ownHead target = head :=
      Option.some.inj ((outboundHead_own (fun _ => inherits) present).symm.trans asked)
    rw [same, carries_own_iff visible]
    simp [SameRequest.rfl]
  | true =>
    cases inbound with
    | none => exact absurd own (by simp [exchangeRequestMut, inherits])
    | some inbound =>
      obtain ⟨-, -, -, authority, -⟩ := outboundHead_inheriting inherits present asked
      rw [sameRequest_iff inherits present asked single visible, authority]
      constructor
      · rintro ⟨-, few, harmless⟩
        exact ⟨few, fun _ => harmless⟩
      · rintro ⟨few, harmless⟩
        exact ⟨carries_inheriting inherits present asked single visible few, few, harmless rfl⟩

/-! ## Samples -/

def xTag : HeaderName := ⟨ascii "x-tag", by decide +kernel, by decide +kernel, by decide⟩

def xMore : HeaderName := ⟨ascii "x-more", by decide +kernel, by decide +kernel, by decide⟩

/-- A request for the root with these headers. -/
def rootRequest (raw : List RawHttpHeader)
    (checked : ∀ header ∈ (LazyHttpHeaders.fromRawHeaderBytes raw).forEachHeader,
      Rfc9112.Token header.name ∧ ∀ byte ∈ header.value, Rfc9112.isFieldByte byte) :
    HttpRequestHead where
  method := .get
  path := "/".toList
  query := []
  headers := .fromRawHeaderBytes raw
  token := by decide +kernel
  pathUnbroken := by decide +kernel
  queryUnbroken := by decide +kernel
  headersChecked := checked

/-- A request with one tag. -/
def taggedOnce : HttpRequestHead :=
  rootRequest [⟨ascii "host", ascii "edge"⟩, ⟨ascii "x-tag", ascii "a"⟩] (by decide +kernel)

/-- A request with two tags. -/
def taggedTwice : HttpRequestHead :=
  rootRequest [⟨ascii "host", ascii "edge"⟩, ⟨ascii "x-tag", ascii "a"⟩,
    ⟨ascii "x-tag", ascii "b"⟩] (by decide +kernel)

/-- The calls of a program that adds a header to the request it passes on. -/
def addingCalls : List ExchangeCall :=
  [.prepareDefaultUpstream "upstream".toList 80 "1.1".toList
    (.map [(some "X-More".toList, some "c".toList)])]

/-- The calls of a program that sets a header on the request it passes on. -/
def settingCalls : List ExchangeCall :=
  [.prepareDefaultUpstream "upstream".toList 80 "1.1".toList .null,
    .setHeader "X-More".toList "c".toList]

/-- A request with one tag is passed on with it and with the header that is added. -/
theorem upstream_headers_sample :
    ∃ head prepared,
      (runCalls visibleUrls (some taggedOnce) addingCalls .defaultUpstream).outboundHead
        (some taggedOnce) = some head ∧
      CarriesHeaders (askedFor visibleUrls (some taggedOnce) addingCalls) head prepared ∧
      SameMaterialized visibleUrls (some taggedOnce) addingCalls head := by
  have sent : ((runCalls visibleUrls (some taggedOnce) addingCalls
      (exchangeNode (some taggedOnce))).outboundHead (some taggedOnce)).isSome ∧
      ((runCalls visibleUrls (some taggedOnce) addingCalls
        (exchangeNode (some taggedOnce))).preparedHeaders (some taggedOnce)).isSome := by
    decide +kernel
  obtain ⟨head, asked⟩ := Option.isSome_iff_exists.mp sent.1
  obtain ⟨prepared, made⟩ := Option.isSome_iff_exists.mp sent.2
  refine ⟨head, prepared, asked,
    (upstream_headers_iff visibleUrls (some taggedOnce) addingCalls head prepared asked made).mpr
      ⟨?_, ?_⟩⟩
  · intro name kept
    have batch : (acceptedBatch visibleUrls "upstream".toList 80 "1.1".toList
        (.map [(some "X-More".toList, some "c".toList)])).toOption =
          some [(xMore, ⟨ascii "c", by decide +kernel⟩)] := by decide +kernel
    have values : askedFor visibleUrls (some taggedOnce) addingCalls =
        Function.update (inboundValues (some taggedOnce)) xMore [ascii "c"] := by
      simp only [askedFor, addingCalls, flatMap_cons, flatMap_nil, append_nil,
        ExchangeCall.edits, Option.isSome_some, ↓reduceIte, batch, Option.getD_some]
      rfl
    have host : host ≠ name := by
      rintro rfl
      exact absurd kept (by decide +kernel)
    have inbound : inboundValues (some taggedOnce) name =
        rawValues [⟨HeaderName.host.bytes, ascii "edge"⟩] name ++
          rawValues [⟨xTag.bytes, ascii "a"⟩] name :=
      rawValues_append [⟨HeaderName.host.bytes, ascii "edge"⟩] [⟨xTag.bytes, ascii "a"⟩] name
    rw [values, Function.update_apply, inbound, rawValues_line, rawValues_line, if_neg host]
    split_ifs <;> simp
  · intro _ name dropped
    have overrides : (runCalls visibleUrls (some taggedOnce) addingCalls
        (exchangeNode (some taggedOnce))).inheritedHeaderOverrides =
          [(xMore, ⟨ascii "c", by decide +kernel⟩)] := by decide +kernel
    have other : xMore ≠ name := by
      rintro rfl
      exact absurd dropped (by decide +kernel)
    left
    rw [overrides]
    simp [HeaderMap.values, HeaderMap.getAll_cons, other]

/-- A program that sets a header on a request with two tags has it sent with the last alone. -/
theorem repeated_header_collapses :
    ¬ ∀ (libraries : UrlLibraries) (inbound : Option HttpRequestHead) (calls : List ExchangeCall)
      (head : OutboundHead) (prepared : HeaderMap),
      (runCalls libraries inbound calls (exchangeNode inbound)).outboundHead inbound = some head →
      (runCalls libraries inbound calls (exchangeNode inbound)).preparedHeaders inbound =
        some prepared →
      CarriesHeaders (askedFor libraries inbound calls) head prepared ∧
        SameMaterialized libraries inbound calls head := by
  intro all
  have sent : ((runCalls visibleUrls (some taggedTwice) settingCalls
      (exchangeNode (some taggedTwice))).outboundHead (some taggedTwice)).map
        (fun head => head.values none xTag) = some [ascii "b"] := by decide +kernel
  have filtered : ((runCalls visibleUrls (some taggedTwice) settingCalls
      (exchangeNode (some taggedTwice))).preparedHeaders (some taggedTwice)).isSome := by
    decide +kernel
  obtain ⟨head, asked, last⟩ := Option.map_eq_some_iff.mp sent
  obtain ⟨prepared, made⟩ := Option.isSome_iff_exists.mp filtered
  have carries := (all visibleUrls (some taggedTwice) settingCalls head prepared asked made).1
  have values := (carries xTag (by decide +kernel)).1 none
  rw [last] at values
  exact absurd values (by decide +kernel)

end PdEdge.State

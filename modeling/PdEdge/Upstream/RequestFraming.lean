import PdEdge.RequestBody
import PdEdge.Upstream.RequestHead

/-!
# The framing of an outbound request

What a head must be for the upstream to take the request as it is meant: one host, no header
of the inbound connection, and one header that describes the body behind it. The three sources
of headers are one: inherited headers, a host header and a map that is written as it is. All
that can go wrong stands in the map, in the host header, or in what the inbound `Connection`
header names.
-/

namespace PdEdge.Upstream

open Text OutboundHttp1RequestHeaders HeaderMap List

/-- A header that says where a body ends. -/
def framesBody (line : RawHttpHeader) : Bool :=
  eqIgnoreAsciiCase line.name HeaderName.contentLength.bytes ||
    eqIgnoreAsciiCase line.name HeaderName.transferEncoding.bytes

/-- The header gives the number of the bytes, or says chunked and they are a chunked body. -/
def Describes (line : RawHttpHeader) (bytes : List UInt8) : Prop :=
  (eqIgnoreAsciiCase line.name HeaderName.contentLength.bytes ∧
    Rfc9112.decimal (Rfc9112.stripBlanks line.value) = some bytes.length) ∨
  (eqIgnoreAsciiCase line.name HeaderName.transferEncoding.bytes ∧
    Rfc9112.listMembers [line.value] = [Rfc9112.chunkedCoding] ∧ Rfc9112.ChunkedBody bytes)

/-- The headers of a connection: those of the list, and those that its `Connection` header
names. -/
def HopByHop (inbound : List RawHttpHeader) (name : List UInt8) : Prop :=
  isHopByHopHeaderName name ∨ name.map lower ∈ Rfc9112.listMembers (rawValues inbound .connection)

/-- The framing header that is added where the map has none. -/
def addedFraming (bodyContentLength : Option Nat) : RawHttpHeader :=
  match bodyContentLength with
  | some length => ⟨HeaderName.contentLength.bytes, writeDigits 10 (length + 1) length []⟩
  | none => ⟨HeaderName.transferEncoding.bytes, ascii "chunked"⟩

namespace OutboundHttp1RequestHeaders

/-- The headers of the inbound request that are filtered while they are written. -/
def inherited : OutboundHttp1RequestHeaders → List RawHttpHeader
  | .parsed _ => []
  | .inheritedFiltered headers _ => headers.forEachHeader
  | .inheritedFilteredWithOverrides headers _ _ => headers.forEachHeader

def hostHeader : OutboundHttp1RequestHeaders → Option (List UInt8)
  | .parsed _ => none
  | .inheritedFiltered _ hostHeader => hostHeader
  | .inheritedFilteredWithOverrides _ hostHeader _ => hostHeader

/-- The map that is written as it is. -/
def given : OutboundHttp1RequestHeaders → HeaderMap
  | .parsed headers => headers
  | .inheritedFiltered _ _ => []
  | .inheritedFilteredWithOverrides _ _ overrides => overrides

/-- An inherited header that is written. -/
def passes (headers : OutboundHttp1RequestHeaders) (header : RawHttpHeader) : Bool :=
  (tracked? header.name).isNone && !(isHopByHopHeaderName header.name ||
    headers.given.any fun entry => eqIgnoreAsciiCase header.name entry.1.bytes)

/-- The lines that the program sets: a map that was built for the request holds the inbound
headers. -/
def setLines : OutboundHttp1RequestHeaders → List RawHttpHeader
  | .parsed _ => []
  | headers => headers.given.map entryLine

/-- The headers of the inbound request. -/
def inbound : OutboundHttp1RequestHeaders → List RawHttpHeader
  | .parsed headers => headers.map entryLine
  | headers => headers.inherited

/-- One host is left: the program's, or else the host header, or else none came in. -/
def HostOnce (headers : OutboundHttp1RequestHeaders) : Prop :=
  (headers.given.getAll .host).length = 1 ∨
  (headers.given.getAll .host = [] ∧
    (headers.hostHeader.isSome ∨ rawValues headers.inherited .host = []))

/-- A map has no header of a connection; and what the inbound `Connection` header names is
dropped for another reason. -/
def EndToEnd : OutboundHttp1RequestHeaders → Prop
  | .parsed headers => ∀ entry ∈ headers, ¬ isHopByHopHeaderName entry.1.bytes
  | headers => ∀ header ∈ headers.inherited,
    header.name.map lower ∈ Rfc9112.listMembers (rawValues headers.inherited .connection) →
    ¬ headers.passes header

/-- The map has no framing header, or one that is right for whatever the body gives. -/
def FramesItself (headers : OutboundHttp1RequestHeaders) (body : OutboundHttp1RequestBody) :
    Prop :=
  let framing := (headers.given.map entryLine).filter framesBody
  framing = [] ∨ ∃ line, framing = [line] ∧ ∀ content, body.Gives content → Describes line content

section

variable (headers : OutboundHttp1RequestHeaders)

/-- The host line that is written for a source. -/
def hostLines : List RawHttpHeader :=
  bif headers.given.containsKey .host then [] else headers.hostHeader.toList.map hostLine

/-- The host line that is added where the source has none. -/
def addedHost (authority : List UInt8) : List RawHttpHeader :=
  bif headers.given.containsKey .host || headers.hostHeader.isSome ||
    !(rawValues headers.inherited .host).isEmpty then [] else [hostLine authority]

/-- The map says itself where the body ends. -/
def framed : Bool :=
  headers.given.containsKey .contentLength || headers.given.containsKey .transferEncoding

/-- The connection header that is added where the map has none. -/
def addedConnection : List RawHttpHeader :=
  bif headers.given.containsKey .connection then []
  else [⟨HeaderName.connection.bytes, ascii "keep-alive"⟩]

/-- The lines that are written behind those of the source's own headers. -/
def added (authority : List UInt8) (bodyContentLength : Option Nat) : List RawHttpHeader :=
  headers.hostLines ++ headers.addedHost authority ++
    (bif headers.framed then [] else [addedFraming bodyContentLength]) ++ headers.addedConnection

end

end OutboundHttp1RequestHeaders

/-- The head has one host, nothing of the inbound connection and one framing header, which
describes what is written behind the head. -/
structure WellFramed (headers : OutboundHttp1RequestHeaders) (authority : List UInt8)
    (body : OutboundHttp1RequestBody) : Prop where
  host : (rawValues (requestHeaderLines headers authority body.contentLength).1 .host).length = 1
  endToEnd : ∀ line ∈ (requestHeaderLines headers authority body.contentLength).1,
    HopByHop headers.inbound line.name →
    line ∈ headers.setLines ++ headers.added authority body.contentLength
  framing : ∃ line,
    (requestHeaderLines headers authority body.contentLength).1.filter framesBody = [line] ∧
    ∀ writer final : Writer,
      sendRequestBody body (requestHeaderLines headers authority body.contentLength).2 writer =
        (.ready (), final) →
      ∃ encoded, final.sent = writer.sent ++ encoded ∧ Describes line encoded

/-! ## The lines of a head -/

theorem rawValues_append (front behind : List RawHttpHeader) (name : HeaderName) :
    rawValues (front ++ behind) name = rawValues front name ++ rawValues behind name := by
  simp [rawValues]

theorem rawValues_entryLine {headers : HeaderMap} {name : HeaderName} :
    rawValues (headers.map entryLine) name = (headers.getAll name).map HeaderValue.bytes := by
  unfold rawValues getAll
  rw [filter_map, map_map, map_map]
  have same : ((fun header : RawHttpHeader => eqIgnoreAsciiCase header.name name.bytes) ∘ entryLine) =
      fun entry => decide (entry.1 = name) :=
    funext fun entry => eqIgnoreAsciiCase_names
  rw [same]
  rfl

section

variable (headers : OutboundHttp1RequestHeaders)

/-- The three sources of headers write the same three parts. -/
theorem encodeSource_eq : headers.encodeSource =
    (headers.inherited.filter headers.passes ++ headers.given.map entryLine ++ headers.hostLines,
      fun
      | .host => headers.given.containsKey .host || headers.hostHeader.isSome ||
        !(rawValues headers.inherited .host).isEmpty
      | tracked => headers.given.containsKey tracked.name) := by
  have seen (raw : List RawHttpHeader) :
      (raw.any fun header => tracked? header.name = some .host) = !(rawValues raw .host).isEmpty := by
    rw [Bool.eq_iff_iff]
    simp [rawValues, tracked?_eq_some, Tracked.name]
  have flags (headers : HeaderMap) :
      headers.foldl (fun (flags : HeaderFlags) entry => flags.see entry.1.bytes) .none =
        fun tracked : Tracked => headers.containsKey tracked.name := by
    funext tracked
    rw [foldl_see]
    rfl
  cases headers with
  | parsed headers =>
    rw [encodeSource, flags]
    refine Prod.ext (by simp [inherited, given, hostLines, hostHeader]) (funext fun tracked => ?_)
    cases tracked <;> simp [inherited, given, hostHeader, rawValues, Tracked.name]
  | inheritedFiltered headers host =>
    have keeps : (inheritedFiltered headers host).passes = fun header =>
        (tracked? header.name).isNone && !isHopByHopHeaderName header.name := by
      funext header
      simp [passes, given]
    simp only [encodeSource, inheritHeaders_eq, keeps]
    refine Prod.ext ?_ (funext fun tracked => ?_)
    · simp [inherited, given, hostLines, hostHeader, containsKey]
    · cases tracked <;>
        simp [HeaderFlags.none, seen, inherited, given, hostHeader, containsKey]
  | inheritedFilteredWithOverrides headers host overrides =>
    have keeps : (inheritedFilteredWithOverrides headers host overrides).passes = fun header =>
        (tracked? header.name).isNone && !(isHopByHopHeaderName header.name ||
          overrides.any fun entry => eqIgnoreAsciiCase header.name entry.1.bytes) := rfl
    simp only [encodeSource, inheritHeaders_eq, flags, keeps]
    refine Prod.ext ?_ (funext fun tracked => ?_)
    · cases own : overrides.containsKey .host <;>
        simp [inherited, given, hostLines, hostHeader, Tracked.name, own]
    · cases own : overrides.containsKey .host <;> cases tracked <;>
        simp [seen, inherited, given, hostHeader, Tracked.name, own]

variable (authority : List UInt8) (bodyContentLength : Option Nat)

/-- The lines of a head, part by part. -/
theorem requestHeaderLines_eq :
    requestHeaderLines headers authority bodyContentLength =
      (headers.inherited.filter headers.passes ++ headers.given.map entryLine ++
        headers.hostLines ++ headers.addedHost authority ++
        (bif headers.framed then [] else [addedFraming bodyContentLength]) ++
        headers.addedConnection, !headers.framed && bodyContentLength.isNone) := by
  simp only [requestHeaderLines, encodeRequestHeaders, encodeSource_eq, Tracked.name, addedHost,
    framed, addedConnection, Bool.cond_eq_ite, addedFraming]
  cases bodyContentLength <;> rfl

/-- No tracked header is passed on. -/
theorem rawValues_passed (tracked : Tracked) :
    rawValues (headers.inherited.filter headers.passes) tracked.name = [] := by
  unfold rawValues
  rw [filter_filter, map_eq_nil_iff, filter_eq_nil_iff]
  intro header _ both
  obtain ⟨named, kept⟩ := Bool.and_eq_true_iff.mp both
  rw [passes, tracked?_eq_some.mpr named] at kept
  cases kept

theorem framesBody_passed : (headers.inherited.filter headers.passes).filter framesBody = [] := by
  have lengths := rawValues_passed headers .contentLength
  have codings := rawValues_passed headers .transferEncoding
  simp only [rawValues, map_eq_nil_iff, filter_eq_nil_iff] at lengths codings ⊢
  intro header member frames
  rcases Bool.or_eq_true_iff.mp frames with length | coding
  · exact lengths header member length
  · exact codings header member coding

/-- How many hosts a head has. -/
theorem host_length_iff :
    (rawValues (requestHeaderLines headers authority bodyContentLength).1 .host).length = 1 ↔
      headers.HostOnce := by
  have passed : rawValues (headers.inherited.filter headers.passes) .host = [] :=
    rawValues_passed headers .host
  have framing : rawValues (bif headers.framed then [] else [addedFraming bodyContentLength])
      .host = [] := by
    cases headers.framed with
    | true => rfl
    | false => cases bodyContentLength <;> rfl
  have connection : rawValues headers.addedConnection .host = [] := by
    unfold addedConnection
    cases headers.given.containsKey .connection <;> rfl
  have own : headers.given.containsKey .host = !(headers.given.getAll .host).isEmpty := by
    rw [Bool.eq_iff_iff, containsKey_iff]
    simp
  simp only [requestHeaderLines_eq, rawValues_append, passed, framing, connection,
    rawValues_entryLine, append_nil, nil_append, length_append, length_map,
    hostLines, addedHost, HostOnce, own]
  -- with a host in the map nothing is added; without one, the host header or the authority is
  cases headers.given.getAll .host with
  | cons value values =>
    simp only [isEmpty_cons, Bool.not_false, cond_true, Bool.true_or, length_cons,
      reduceCtorEq, false_and, or_false]
    show values.length + 1 + 0 + 0 = 1 ↔ values.length + 1 = 1
    omega
  | nil =>
    cases headers.hostHeader with
    | some host =>
      simp only [isEmpty_nil, Bool.not_true, cond_false, Option.isSome_some, Bool.false_or,
        Bool.true_or, cond_true, true_or, and_true, or_true, iff_true]
      rfl
    | none =>
      cases rawValues headers.inherited .host with
      | nil => simp [hostLine, rawValues, eqIgnoreAsciiCase]
      | cons value values => simp [rawValues]

/-- What of a head says where the body ends: what the map has, or else what is added. -/
theorem framing_lines :
    (requestHeaderLines headers authority bodyContentLength).1.filter framesBody =
      (headers.given.map entryLine).filter framesBody ++
        bif headers.framed then [] else [addedFraming bodyContentLength] := by
  have hosts : headers.hostLines.filter framesBody = [] := by
    unfold hostLines
    cases headers.given.containsKey .host <;> cases headers.hostHeader <;> rfl
  have host : (headers.addedHost authority).filter framesBody = [] := by
    unfold addedHost
    generalize (headers.given.containsKey .host || headers.hostHeader.isSome ||
      !(rawValues headers.inherited .host).isEmpty) = present
    cases present <;> rfl
  have connection : headers.addedConnection.filter framesBody = [] := by
    unfold addedConnection
    cases headers.given.containsKey .connection <;> rfl
  have framing : (bif headers.framed then [] else [addedFraming bodyContentLength]).filter
      framesBody = bif headers.framed then [] else [addedFraming bodyContentLength] := by
    cases headers.framed with
    | true => rfl
    | false => cases bodyContentLength <;> rfl
  simp only [requestHeaderLines_eq, filter_append, framesBody_passed, hosts, host,
    connection, framing, append_nil, nil_append]

/-- The map frames the body exactly when it has a framing header. -/
theorem framed_eq_false_iff :
    headers.framed = false ↔ (headers.given.map entryLine).filter framesBody = [] := by
  simp only [framed, containsKey, Bool.or_eq_false_iff, any_eq_false,
    filter_eq_nil_iff, mem_map, forall_exists_index, and_imp,
    forall_apply_eq_imp_iff₂, framesBody, entryLine, eqIgnoreAsciiCase_names,
    Bool.or_eq_true, decide_eq_true_eq, not_or]
  exact ⟨fun none entry member => ⟨none.1 entry member, none.2 entry member⟩,
    fun none => ⟨fun entry member => (none entry member).1,
      fun entry member => (none entry member).2⟩⟩

/-- What is added: a host, the framing header and the one that keeps the connection. -/
theorem mem_added {line : RawHttpHeader}
    (member : line ∈ headers.added authority bodyContentLength) :
    (∃ host ∈ headers.hostHeader, line = hostLine host) ∨ line = hostLine authority ∨
    (headers.framed = false ∧ line = addedFraming bodyContentLength) ∨
    (headers.given.containsKey .connection = false ∧
      line = ⟨HeaderName.connection.bytes, ascii "keep-alive"⟩) := by
  have absent {present : Bool} {lines : List RawHttpHeader}
      (listed : line ∈ bif present then [] else lines) : present = false ∧ line ∈ lines := by
    cases present with
    | true => cases listed
    | false => exact ⟨rfl, listed⟩
  simp only [added, mem_append] at member
  rcases member with ((host | host) | framing) | connection
  · obtain ⟨value, listed, rfl⟩ := mem_map.mp (absent host).2
    exact .inl ⟨value, Option.mem_toList.mp listed, rfl⟩
  · exact .inr (.inl (mem_singleton.mp (absent host).2))
  · exact .inr (.inr (.inl ((absent framing).imp_right mem_singleton.mp)))
  · exact .inr (.inr (.inr ((absent connection).imp_right mem_singleton.mp)))

/-- A line that is added has the name of a tracked header that the map does not have, or is a
host. -/
theorem name_of_added {line : RawHttpHeader}
    (member : line ∈ headers.added authority bodyContentLength) :
    ∃ tracked : Tracked, line.name = tracked.name.bytes ∧
      (tracked = .host ∨ headers.given.containsKey tracked.name = false) := by
  rcases mem_added headers authority bodyContentLength member with
    ⟨host, -, rfl⟩ | rfl | ⟨unframed, rfl⟩ | ⟨unset, rfl⟩
  · exact ⟨.host, rfl, .inl rfl⟩
  · exact ⟨.host, rfl, .inl rfl⟩
  · obtain ⟨length, coding⟩ := Bool.or_eq_false_iff.mp unframed
    cases bodyContentLength with
    | some => exact ⟨.contentLength, rfl, .inr length⟩
    | none => exact ⟨.transferEncoding, rfl, .inr coding⟩
  · exact ⟨.connection, rfl, .inr unset⟩

/-- A line of a head is an inherited one that passes, one of the map or one that is added. -/
theorem mem_requestHeaderLines {line : RawHttpHeader} :
    line ∈ (requestHeaderLines headers authority bodyContentLength).1 ↔
      (line ∈ headers.inherited ∧ headers.passes line) ∨ line ∈ headers.given.map entryLine ∨
      line ∈ headers.added authority bodyContentLength := by
  simp only [requestHeaderLines_eq, added, mem_append, mem_filter, or_assoc]

/-- An inherited header that passes is neither one of the map nor one that is added. -/
theorem passed_apart {line : RawHttpHeader} (passed : headers.passes line) :
    line ∉ headers.given.map entryLine ++ headers.added authority bodyContentLength := by
  intro member
  rcases mem_append.mp member with set | added
  · obtain ⟨entry, inside, rfl⟩ := mem_map.mp set
    have same : (headers.given.any fun other =>
        eqIgnoreAsciiCase (entryLine entry).name other.1.bytes) = true :=
      any_eq_true.mpr ⟨entry, inside, eqIgnoreAsciiCase_names.trans (decide_eq_true rfl)⟩
    simp [passes, same] at passed
  · obtain ⟨tracked, named, -⟩ := name_of_added headers authority bodyContentLength added
    have found : tracked? line.name = some tracked := by
      rw [tracked?_eq_some, named]
      exact eqIgnoreAsciiCase_names.trans (decide_eq_true rfl)
    simp [passes, found] at passed

/-- A map without a header of a connection names none in a `Connection` header. -/
theorem rawValues_connection_eq_nil {headers : HeaderMap}
    (none : ∀ entry ∈ headers, ¬ isHopByHopHeaderName entry.1.bytes) :
    rawValues (headers.map entryLine) .connection = [] := by
  rw [rawValues_entryLine, map_eq_nil_iff]
  by_contra present
  have key := (containsKey_iff headers .connection).mpr present
  obtain ⟨other, inside, same⟩ := any_eq_true.mp key
  apply none other inside
  rw [of_decide_eq_true same]
  decide +kernel

/-- Nothing of the inbound connection is written unless its `Connection` header names it, or the
source is a map that has it. -/
theorem endToEnd_iff :
    (∀ line ∈ (requestHeaderLines headers authority bodyContentLength).1,
      HopByHop headers.inbound line.name →
      line ∈ headers.setLines ++ headers.added authority bodyContentLength) ↔
      headers.EndToEnd := by
  have filtered (source : OutboundHttp1RequestHeaders) :
      (∀ line ∈ (requestHeaderLines source authority bodyContentLength).1,
        HopByHop source.inherited line.name →
        line ∈ source.given.map entryLine ++ source.added authority bodyContentLength) ↔
        ∀ header ∈ source.inherited, header.name.map lower ∈
          Rfc9112.listMembers (rawValues source.inherited .connection) →
          ¬ source.passes header := by
    constructor
    · intro own header member named kept
      have written := (mem_requestHeaderLines source authority bodyContentLength).mpr
        (.inl ⟨member, kept⟩)
      exact passed_apart source authority bodyContentLength kept (own header written (.inr named))
    · intro none line written hop
      rcases (mem_requestHeaderLines source authority bodyContentLength).mp written with
        ⟨member, kept⟩ | own
      · rcases hop with listed | named
        · simp [passes, listed] at kept
        · exact absurd kept (none line member named)
      · exact mem_append.mpr own
  cases headers with
  | parsed headers =>
    constructor
    · intro own entry member listed
      -- a line of the map is not also added, as only a host is added to a map that has one
      have written := (mem_requestHeaderLines (.parsed headers) authority bodyContentLength).mpr
        (.inr (.inl (mem_map_of_mem member)))
      obtain ⟨tracked, named, host | absent⟩ := name_of_added (.parsed headers) authority
        bodyContentLength (own (entryLine entry) written (.inl listed))
      · change entry.1.bytes = _ at named
        rw [named, host] at listed
        exact absurd listed (by decide +kernel)
      · have same : entry.1 = tracked.name := HeaderName.ext named
        exact absurd (decide_eq_true same) (any_eq_false.mp absent entry member)
    · intro none line written hop
      rcases (mem_requestHeaderLines (.parsed headers) authority bodyContentLength).mp written with
        ⟨inherited, -⟩ | set | added
      · cases inherited
      · obtain ⟨entry, member, rfl⟩ := mem_map.mp set
        rcases hop with listed | named
        · exact absurd listed (none entry member)
        · change _ ∈ Rfc9112.listMembers (rawValues (headers.map entryLine) .connection) at named
          rw [rawValues_connection_eq_nil none] at named
          cases named
      · exact added
  | inheritedFiltered headers host => exact filtered (.inheritedFiltered headers host)
  | inheritedFilteredWithOverrides headers host overrides =>
    exact filtered (.inheritedFilteredWithOverrides headers host overrides)

end

/-! ## The body behind the head -/

variable {body : OutboundHttp1RequestBody}

/-- A declared length is the number of bytes that the body gives. -/
theorem OutboundHttp1RequestBody.Gives.contentLength {content : List UInt8}
    (gives : body.Gives content) : ∀ length ∈ body.contentLength, content.length = length := by
  intro length member
  cases gives with
  | empty | bytes => exact Option.some.inj member
  | streaming declared => exact declared length member

/-- Where no write fails, a stream that keeps to its length is sent. -/
theorem sendStream_whole (chunks : List Bytes) (remaining : Option Nat) (sent : List UInt8)
    (declared : ∀ length ∈ remaining, (chunks.flatMap Bytes.data).length = length) :
    sendStream false (chunks.map .ready) remaining ⟨[], sent⟩ =
      (.ready (), ⟨[], sent ++ chunks.flatMap Bytes.data⟩) := by
  induction chunks generalizing remaining sent with
  | nil =>
    have done : remaining.any (· ≠ 0) = false := by
      cases remaining with
      | none => rfl
      | some length => simpa using (declared length rfl).symm
    rw [map_nil, sendStream, sendEnd, done]
    simp
  | cons chunk chunks ih =>
    simp only [flatMap_cons, length_append] at declared
    rw [map_cons, sendStream]
    by_cases empty : chunk.data = []
    · rw [if_pos empty, ih remaining sent (by simpa [empty] using declared)]
      simp [empty]
    have within : remaining.any (· < chunk.data.length) = false := by
      cases remaining with
      | none => rfl
      | some length =>
        have total := declared length rfl
        simp only [Option.any_some, decide_eq_false_iff_not]
        omega
    have rest : ∀ length ∈ remaining.map (· - chunk.data.length),
        (chunks.flatMap Bytes.data).length = length := by
      intro length member
      obtain ⟨whole, given, rfl⟩ := Option.map_eq_some_iff.mp member
      have total := declared whole given
      omega
    rw [if_neg empty, within]
    show sendStream false (chunks.map .ready) _ ⟨[], sent ++ chunk.data⟩ = _
    rw [ih _ _ rest]
    simp

theorem sendRequestBody_whole {content : List UInt8} (gives : body.Gives content) :
    sendRequestBody body false ⟨[], []⟩ = (.ready (), ⟨[], content⟩) := by
  cases gives with
  | empty | bytes => rfl
  | streaming declared => exact sendStream_whole _ _ _ declared

/-- The framing header that is added describes what is sent. -/
theorem addedFraming_describes {writer final : Writer}
    (written : sendRequestBody body body.contentLength.isNone writer = (.ready (), final)) :
    ∃ encoded, final.sent = writer.sent ++ encoded ∧
      Describes (addedFraming body.contentLength) encoded := by
  obtain ⟨content, encoded, gives, sent, framed⟩ := sendRequestBody_ready written
  refine ⟨encoded, sent, ?_⟩
  have counted := gives.contentLength
  cases length : body.contentLength with
  | some length' =>
    -- a body with a length is sent as it is
    have plain : body.inChunks body.contentLength.isNone = false := by
      rw [length]
      cases body <;> rfl
    rw [plain] at framed
    obtain rfl : encoded = content := framed
    have digits := (decimal_writeDigits length').1
    refine Or.inl ⟨rfl, ?_⟩
    rw [counted length' length]
    show Rfc9112.decimal (Rfc9112.stripBlanks (writeDigits 10 (length' + 1) length' [])) = _
    rw [stripBlanks_digits digits, digits]
  | none =>
    have chunked : body.inChunks body.contentLength.isNone = true := by
      rw [length]
      cases body with
      | empty | bytes body => cases length
      | streaming contentLength stream => rfl
    rw [chunked] at framed
    have back : ReadBack encoded content := framed
    exact Or.inr ⟨by decide +kernel, by decide +kernel, back.standard⟩

section

variable (headers : OutboundHttp1RequestHeaders) (authority : List UInt8)
variable (body : OutboundHttp1RequestBody)

/-- The framing of a request is left to the proxy, or right. -/
theorem framing_iff :
    (∃ line,
      (requestHeaderLines headers authority body.contentLength).1.filter framesBody = [line] ∧
      ∀ writer final : Writer,
        sendRequestBody body (requestHeaderLines headers authority body.contentLength).2 writer =
          (.ready (), final) →
        ∃ encoded, final.sent = writer.sent ++ encoded ∧ Describes line encoded) ↔
      headers.FramesItself body := by
  rw [framing_lines, requestHeaderLines_eq, FramesItself]
  cases framed : headers.framed with
  | false =>
    have nothing := (framed_eq_false_iff headers).mp framed
    simp only [nothing, cond_false, nil_append, Bool.not_false, Bool.true_and, true_or, iff_true]
    exact ⟨_, rfl, fun writer final written => addedFraming_describes written⟩
  | true =>
    have something : (headers.given.map entryLine).filter framesBody ≠ [] := by
      intro nothing
      rw [(framed_eq_false_iff headers).mpr nothing] at framed
      cases framed
    simp only [something, cond_true, append_nil, Bool.not_true, Bool.false_and, false_or]
    constructor
    · rintro ⟨line, only, right⟩
      refine ⟨line, only, fun content gives => ?_⟩
      obtain ⟨encoded, sent, describes⟩ := right _ _ (sendRequestBody_whole gives)
      obtain rfl : content = encoded := sent
      exact describes
    rintro ⟨line, only, right⟩
    refine ⟨line, only, fun writer final written => ?_⟩
    obtain ⟨content, encoded, gives, sent, plain⟩ := sendRequestBody_ready written
    have unchunked : body.inChunks false = false := by cases body <;> rfl
    rw [unchunked] at plain
    obtain rfl : encoded = content := plain
    exact ⟨encoded, sent, right encoded gives⟩

/-- A head has one host, nothing of the inbound connection and the right framing exactly when
one host is left, the inbound `Connection` header names nothing that is passed on, and the
program leaves the framing alone or gives one header that is right for the body. -/
theorem wellFramed_iff :
    WellFramed headers authority body ↔
      headers.HostOnce ∧ headers.EndToEnd ∧ headers.FramesItself body := by
  rw [← host_length_iff headers authority body.contentLength,
    ← endToEnd_iff headers authority body.contentLength,
    ← framing_iff headers authority body]
  exact ⟨fun framed => ⟨framed.host, framed.endToEnd, framed.framing⟩,
    fun parts => ⟨parts.1, parts.2.1, parts.2.2⟩⟩

/-- A program that sets `content-length: 3` for a body of five bytes has both sent: the head
says three, and the two bytes behind them are left on the connection. -/
theorem override_misframes : ¬ ∀ (headers : OutboundHttp1RequestHeaders)
    (authority : List UInt8) (body : OutboundHttp1RequestBody),
    WellFramed headers authority body := by
  intro all
  let three : HeaderValue := ⟨ascii "3", by decide +kernel⟩
  let headers : OutboundHttp1RequestHeaders := .inheritedFilteredWithOverrides
    (.fromRawHeaderBytes [⟨ascii "Host", ascii "edge"⟩]) (some (ascii "upstream"))
    [(.contentLength, three)]
  let body : Bytes := ⟨ascii "hello", by decide⟩
  have framed := (all headers (ascii "upstream") (.bytes body)).framing
  rcases (framing_iff headers (ascii "upstream") (.bytes body)).mp framed with none | ⟨line, only,
    right⟩
  · exact absurd none (by decide +kernel)
  have alone : [entryLine (.contentLength, three)] = [line] := only
  obtain rfl := (cons.inj alone).1
  rcases right (ascii "hello") .bytes with ⟨-, length⟩ | ⟨coding, -⟩
  · exact absurd length (by decide +kernel)
  · exact absurd coding (by decide +kernel)

end

end PdEdge.Upstream

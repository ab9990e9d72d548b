import PdEdge.Downstream.Classify
import PdEdge.Upstream.Request

/-!
# The head of an outbound request

`serialize_request_head_parts_into` writes the request line and the headers. The headers come
from one of three sources: a map that was built for the request, the inbound headers without
those that belong to the inbound connection, or those with the program's overrides. While
they are written, flags record which of four headers were seen; what is missing is added.
-/

namespace PdEdge.Upstream

open Text Wire
open Downstream (LazyHttpHeaders)

/-- `OutboundHttp1RequestHeaders`; a host header is the bytes of its text. -/
inductive OutboundHttp1RequestHeaders where
  | parsed (headers : HeaderMap)
  | inheritedFiltered (headers : LazyHttpHeaders) (hostHeader : Option (List UInt8))
  | inheritedFilteredWithOverrides (headers : LazyHttpHeaders) (hostHeader : Option (List UInt8))
    (overrides : HeaderMap)

/-- `OutboundHttp1RequestBody::content_length`. -/
def OutboundHttp1RequestBody.contentLength : OutboundHttp1RequestBody → Option Nat
  | .empty => some 0
  | .bytes body => some body.data.length
  | .streaming contentLength _ => contentLength

/-- The headers that flags are kept of. -/
inductive Tracked where
  | host
  | contentLength
  | connection
  | transferEncoding
  deriving DecidableEq, Repr

def Tracked.name : Tracked → HeaderName
  | .host => .host
  | .contentLength => .contentLength
  | .connection => .connection
  | .transferEncoding => .transferEncoding

/-- The tracked header of this name, in whatever case. -/
def tracked? (name : List UInt8) : Option Tracked :=
  [.host, .contentLength, .connection, .transferEncoding].find? fun tracked : Tracked =>
    eqIgnoreAsciiCase name tracked.name.bytes

/-- `has_host`, `has_content_length`, `has_connection` and `has_transfer_encoding`. -/
abbrev HeaderFlags := Tracked → Bool

namespace HeaderFlags

def none : HeaderFlags := fun _ => false

def set (flags : HeaderFlags) (tracked : Tracked) : HeaderFlags :=
  fun other => other = tracked || flags other

/-- The flags after a header of this name. -/
def see (flags : HeaderFlags) (name : List UInt8) : HeaderFlags :=
  match tracked? name with
  | some tracked => flags.set tracked
  | .none => flags

end HeaderFlags

/-- `is_hop_by_hop_header_name`. -/
def isHopByHopHeaderName (name : List UInt8) : Bool :=
  [ascii "connection", ascii "keep-alive", ascii "proxy-authenticate",
    ascii "proxy-authorization", ascii "te", ascii "trailer", ascii "transfer-encoding",
    ascii "upgrade"].any (eqIgnoreAsciiCase name)

/-- The line of a map's entry. -/
def entryLine (entry : HeaderName × HeaderValue) : RawHttpHeader :=
  ⟨entry.1.bytes, entry.2.bytes⟩

def hostLine (host : List UInt8) : RawHttpHeader := ⟨HeaderName.host.bytes, host⟩

/-- What is written of the inbound headers, and the flags behind them. No tracked header is
written; one that is not overridden sets its flag. -/
def inheritHeaders (overridden : HeaderFlags) (drops : List UInt8 → Bool) :
    List RawHttpHeader → HeaderFlags → List RawHttpHeader × HeaderFlags
  | [], flags => ([], flags)
  | header :: headers, flags =>
    match tracked? header.name with
    | some tracked =>
      inheritHeaders overridden drops headers
        (if overridden tracked then flags else flags.set tracked)
    | none =>
      if drops header.name then inheritHeaders overridden drops headers flags
      else
        let (lines, flags) := inheritHeaders overridden drops headers flags
        (header :: lines, flags)

/-- The lines before the host line that is added at the end, and the flags then. -/
def OutboundHttp1RequestHeaders.encodeSource :
    OutboundHttp1RequestHeaders → List RawHttpHeader × HeaderFlags
  | .parsed headers =>
    (headers.map entryLine, headers.foldl (fun flags entry => flags.see entry.1.bytes) .none)
  | .inheritedFiltered headers hostHeader =>
    let (lines, flags) := inheritHeaders .none isHopByHopHeaderName headers.forEachHeader .none
    (lines ++ hostHeader.toList.map hostLine, fun
      | .host => hostHeader.isSome || flags .host
      | _ => false)
  | .inheritedFilteredWithOverrides headers hostHeader overrides =>
    let overridden := overrides.foldl (fun flags entry => flags.see entry.1.bytes) .none
    let drops name := isHopByHopHeaderName name || overrides.any fun entry =>
      eqIgnoreAsciiCase name entry.1.bytes
    let (lines, flags) := inheritHeaders overridden drops headers.forEachHeader overridden
    let hostHeader := if overridden .host then .none else hostHeader
    (lines ++ overrides.map entryLine ++ hostHeader.toList.map hostLine, fun
      | .host => hostHeader.isSome || flags .host
      | tracked => overridden tracked)

/-- `encode_request_headers`. -/
def encodeRequestHeaders (headers : OutboundHttp1RequestHeaders) (authority : List UInt8) :
    List RawHttpHeader × HeaderFlags :=
  let (lines, flags) := headers.encodeSource
  (lines ++ if flags .host then [] else [hostLine authority], flags)

/-- The lines of a head, and whether the body is to be sent in chunks. -/
def requestHeaderLines (headers : OutboundHttp1RequestHeaders) (authority : List UInt8)
    (bodyContentLength : Option Nat) : List RawHttpHeader × Bool :=
  let (lines, flags) := encodeRequestHeaders headers authority
  let framed := flags .contentLength || flags .transferEncoding
  let framing :=
    if framed then []
    else
      match bodyContentLength with
      | some length => [⟨HeaderName.contentLength.bytes, writeDigits 10 (length + 1) length []⟩]
      | none => [⟨HeaderName.transferEncoding.bytes, ascii "chunked"⟩]
  let kept :=
    if flags .connection then [] else [⟨HeaderName.connection.bytes, ascii "keep-alive"⟩]
  (lines ++ framing ++ kept, !framed && bodyContentLength.isNone)

/-- The bytes of a header line. -/
def encodeLine (line : RawHttpHeader) : List UInt8 :=
  line.name ++ ascii ": " ++ line.value ++ crlf

/-- The target of a request line. -/
def requestTarget (requestPath requestQuery : List UInt8) : List UInt8 :=
  (if requestPath = [] then ascii "/" else requestPath) ++
    if requestQuery = [] then [] else ascii "?" ++ requestQuery

/-- `serialize_request_head_parts_into`. -/
def serializeRequestHeadPartsInto (method : Method) (requestPath requestQuery : List UInt8)
    (headers : OutboundHttp1RequestHeaders) (authority : List UInt8)
    (bodyContentLength : Option Nat) : List UInt8 × Bool :=
  let (lines, useChunkedBody) := requestHeaderLines headers authority bodyContentLength
  (method.name ++ ascii " " ++ requestTarget requestPath requestQuery ++ ascii " HTTP/1.1\r\n" ++
    lines.flatMap encodeLine ++ crlf, useChunkedBody)

/-! ## The flags -/

/-- The tracked header of a name is the one whose name it is. -/
theorem tracked?_eq_some {name : List UInt8} {tracked : Tracked} :
    tracked? name = some tracked ↔ eqIgnoreAsciiCase name tracked.name.bytes := by
  constructor
  · intro found
    have holds := List.find?_some found
    exact holds
  intro same
  have lowered : name.map lower = tracked.name.bytes.map lower := by
    simpa [eqIgnoreAsciiCase] using same
  have only (tracked other : Tracked) :
      (tracked.name.bytes.map lower == other.name.bytes.map lower) = decide (tracked = other) := by
    cases tracked <;> cases other <;> decide +kernel
  simp only [tracked?, eqIgnoreAsciiCase, lowered, only]
  cases tracked <;> rfl

/-- Names of a map are compared as they are. -/
theorem eqIgnoreAsciiCase_names {name other : HeaderName} :
    eqIgnoreAsciiCase name.bytes other.bytes = decide (name = other) := by
  rw [Bool.eq_iff_iff, decide_eq_true_iff]
  exact (HeaderName.fromBytes_eq_some name.fromBytes_bytes).symm

theorem see_apply (flags : HeaderFlags) (name : List UInt8) (tracked : Tracked) :
    flags.see name tracked = (flags tracked || eqIgnoreAsciiCase name tracked.name.bytes) := by
  rw [Bool.eq_iff_iff, Bool.or_eq_true, ← tracked?_eq_some, HeaderFlags.see]
  cases tracked? name with
  | none => simp
  | some other =>
    simp only [HeaderFlags.set, Bool.or_eq_true, decide_eq_true_eq, Option.some.injEq]
    tauto

/-- After all entries of a map, the flags of the names in it are set. -/
theorem foldl_see (headers : HeaderMap) (flags : HeaderFlags) (tracked : Tracked) :
    headers.foldl (fun flags entry => flags.see entry.1.bytes) flags tracked =
      (flags tracked || headers.containsKey tracked.name) := by
  induction headers generalizing flags with
  | nil => simp [HeaderMap.containsKey]
  | cons entry headers ih =>
    rw [List.foldl_cons, ih, see_apply, eqIgnoreAsciiCase_names, HeaderMap.containsKey,
      HeaderMap.containsKey, List.any_cons, Bool.or_assoc]

/-- An inbound header is written unless it is tracked or dropped. -/
theorem inheritHeaders_eq (overridden : HeaderFlags) (drops : List UInt8 → Bool)
    (headers : List RawHttpHeader) (flags : HeaderFlags) :
    inheritHeaders overridden drops headers flags =
      (headers.filter fun header => (tracked? header.name).isNone && !drops header.name,
        fun tracked => flags tracked ||
          (!overridden tracked && headers.any fun header => tracked? header.name = some tracked)) := by
  induction headers generalizing flags with
  | nil => simp [inheritHeaders]
  | cons header headers ih =>
    rw [inheritHeaders]
    cases found : tracked? header.name with
    | some first =>
      simp only [ih, List.filter_cons, found, Option.isNone_some, Bool.false_and, List.any_cons,
        Bool.false_eq_true, if_false, Prod.mk.injEq, true_and]
      funext tracked
      by_cases same : first = tracked
      · subst same
        cases overridden first <;> simp [HeaderFlags.set]
      · cases overridden first <;> simp [HeaderFlags.set, same, Ne.symm same]
    | none => cases dropped : drops header.name <;> simp [ih, found, dropped]

end PdEdge.Upstream

import PdEdge.Lib.HeadParser
import PdEdge.Downstream.Classify
import PdEdge.Downstream.Consumption

/-!
# Reading the next request

`read_next_fast_http1_request` runs the head parser on a growing buffer, decides whether the
fast path takes the request, and leases the connection to its body. In front of a head that
it takes, it either finds the request, in whatever reads its bytes arrive, or gives the
connection away untouched because too much is buffered.
-/

namespace PdEdge.Downstream

open Heads Wire List

/-- `httparse::Request` after a parse. -/
structure HttparseRequest where
  method : Option (List UInt8)
  path : Option (List UInt8)
  version : Option Nat
  headers : List RawHttpHeader

/-- What reading a request takes from its libraries: `httparse`, `Method::from_bytes` and the
parser of `Uri`. -/
structure RequestLibraries (υ : Type) where
  requests : HeadParser HttparseRequest
  methodFromBytes : List UInt8 → Option Method
  parseUri : List UInt8 → Option υ

/-- `MAX_HTTP1_HEAD_BYTES`. -/
def maxHttp1HeadBytes : Nat := 64 * 1024

/-- `MAX_DOWNSTREAM_HTTP1_FAST_BODY_BYTES`. -/
def maxDownstreamHttp1FastBodyBytes : Nat := 1024 * 1024

/-- `FastHttp1Request`, apart from its body. -/
structure FastHttp1Request (υ : Type) where
  method : Method
  uri : υ
  version : Version
  headers : LazyHttpHeaders
  keepAlive : Bool

/-- `FastHttp1ParsedRequest`: the request, and the lease that its body reads from. -/
structure FastHttp1ParsedRequest (υ : Type) where
  request : FastHttp1Request υ
  bodyLease : Option FastHttp1RequestBodyState

/-- `FastHttp1Decision`. -/
inductive FastHttp1Decision (υ : Type) where
  | request (parsed : FastHttp1ParsedRequest υ)
  | endOfStream
  | fallbackToHyper

/-- How the writes to a connection end, in order; those that are not listed succeed. -/
abbrev Writes := List (Awaited IoError Unit)

/-- The next write. -/
def takeWrite : Writes → Awaited IoError Unit × Writes
  | [] => (.ready (), [])
  | outcome :: rest => (outcome, rest)

/-- What `read_next_fast_http1_request` leaves: the decision, the connection, the writes to
come and whether it has written the interim response. -/
structure ReadNext (υ : Type) where
  decision : Awaited FastHttp1ReadError (FastHttp1Decision υ)
  connection : FastHttp1ConnectionIo
  writes : Writes
  continued : Bool

section

variable {υ : Type}

/-- `http1_connection_keep_alive_lazy`. -/
def http1ConnectionKeepAlive (version : Version) (headers : LazyHttpHeaders) : Bool :=
  keepAlive version (headers.headerContainsToken .connection "close")
    (headers.headerContainsToken .connection "keep-alive")

/-- The versions of the fast path. -/
def requestVersion : Option Nat → Option Version
  | some 0 => some .http10
  | some 1 => some .http11
  | _ => none

/-- The request of a complete head, unless it is left to hyper. -/
def acceptRequest (libraries : RequestLibraries υ) (raw : HttparseRequest) :
    Option (FastHttp1Request υ) := do
  let method ← raw.method.bind libraries.methodFromBytes
  let version ← requestVersion raw.version
  let uri ← raw.path.bind libraries.parseUri
  let headers := LazyHttpHeaders.fromRawHeaderBytes raw.headers
  if fastPathEligible method headers then
    some ⟨method, uri, version, headers, http1ConnectionKeepAlive version headers⟩
  else none

/-- The lease of a body, and the connection without what was leased. -/
def leaseBody (kind : DownstreamHttp1FastBodyKind) (reader : Reader IoError) :
    Option FastHttp1RequestBodyState × FastHttp1ConnectionIo :=
  match kind with
  | .empty => (none, .ofReader reader)
  | .fixed contentLength =>
    (some (.fromConnection (.ofReader reader) (.fixed contentLength)
      maxDownstreamHttp1FastBodyBytes), ⟨none, []⟩)
  | .chunked =>
    (some (.fromConnection (.ofReader reader) (.chunked .needSize)
      maxDownstreamHttp1FastBodyBytes), ⟨none, []⟩)

/-- The request is taken: its head leaves the buffer and its body is leased. -/
def takeRequest (request : FastHttp1Request υ) (consumed : Nat) (reader : Reader IoError)
    (writes : Writes) (continued : Bool) : ReadNext υ :=
  match classifyFastBody request.headers with
  | none => ⟨.ready .fallbackToHyper, .ofReader reader, writes, continued⟩
  | some kind =>
    let (lease, connection) := leaseBody kind (reader.advance consumed)
    ⟨.ready (.request ⟨request, lease⟩), connection, writes, continued⟩

/-- What follows a complete head. -/
def decideRequest (libraries : RequestLibraries υ) (raw : HttparseRequest) (consumed : Nat)
    (reader : Reader IoError) (writes : Writes) : ReadNext υ :=
  match acceptRequest libraries raw with
  | none => ⟨.ready .fallbackToHyper, .ofReader reader, writes, false⟩
  | some request =>
    if fastPathExpectsContinue request.headers then
      match takeWrite writes with
      | (.ready _, writes) => takeRequest request consumed reader writes true
      | (.failed err, writes) => ⟨.failed (.io err), .ofReader reader, writes, false⟩
      | (.dropped, writes) => ⟨.dropped, .ofReader reader, writes, false⟩
    else takeRequest request consumed reader writes false

/-- `read_next_fast_http1_request`. -/
def readNextFastHttp1Request (libraries : RequestLibraries υ) (writes : Writes) :
    Socket IoError → List UInt8 → ReadNext υ
  | socket, buffered =>
    if maxHttp1HeadBytes < buffered.length then
      ⟨.ready .fallbackToHyper, .ofReader ⟨socket, buffered⟩, writes, false⟩
    else
      match libraries.requests.parse buffered with
      | .complete raw consumed => decideRequest libraries raw consumed ⟨socket, buffered⟩ writes
      | .invalid _ => ⟨.ready .fallbackToHyper, .ofReader ⟨socket, buffered⟩, writes, false⟩
      | .incomplete =>
        match socket with
        | [] =>
          ⟨.ready (if buffered = [] then .endOfStream else .fallbackToHyper),
            .ofReader ⟨[], buffered⟩, writes, false⟩
        | .data segment :: rest =>
          readNextFastHttp1Request libraries writes rest (buffered ++ segment.bytes)
        | .error err :: rest => ⟨.failed (.io err), .ofReader ⟨rest, buffered⟩, writes, false⟩
        | .dropped :: rest => ⟨.dropped, .ofReader ⟨rest, buffered⟩, writes, false⟩

end

section

variable {υ : Type} {libraries : RequestLibraries υ}

/-! ## What a head that was read decides -/

/-- A request that is taken has the headers of its head, is eligible, and keeps the connection
by its version and headers. -/
theorem accepted_spec {raw : HttparseRequest} {request : FastHttp1Request υ}
    (accepted : acceptRequest libraries raw = some request) :
    request.headers = .fromRawHeaderBytes raw.headers ∧
      fastPathEligible request.method request.headers ∧
      request.keepAlive = http1ConnectionKeepAlive request.version request.headers := by
  simp only [acceptRequest, Option.bind_eq_bind, Option.bind_eq_some_iff] at accepted
  obtain ⟨method, -, version, -, uri, -, accepted⟩ := accepted
  split at accepted
  · rename_i eligible
    cases accepted
    exact ⟨rfl, eligible, rfl⟩
  · cases accepted

/-- Everything that can follow a complete head. -/
inductive Decides (libraries : RequestLibraries υ) (raw : HttparseRequest) (consumed : Nat)
    (reader : Reader IoError) (writes : Writes) : ReadNext υ → Prop
  /-- The request is left to hyper, before anything is written. -/
  | left (refused : acceptRequest libraries raw = none) :
    Decides libraries raw consumed reader writes
      ⟨.ready .fallbackToHyper, .ofReader reader, writes, false⟩
  /-- The request is taken. -/
  | taken {request : FastHttp1Request υ} {kind : DownstreamHttp1FastBodyKind} {later : Writes}
    (accepted : acceptRequest libraries raw = some request)
    (framed : classifyFastBody request.headers = some kind) :
    Decides libraries raw consumed reader writes
      ⟨.ready (.request ⟨request, (leaseBody kind (reader.advance consumed)).1⟩),
        (leaseBody kind (reader.advance consumed)).2, later,
        fastPathExpectsContinue request.headers⟩
  /-- The interim response cannot be written. -/
  | failed {err : IoError} {later : Writes} :
    Decides libraries raw consumed reader writes ⟨.failed (.io err), .ofReader reader, later, false⟩
  | dropped {later : Writes} :
    Decides libraries raw consumed reader writes ⟨.dropped, .ofReader reader, later, false⟩

theorem decideRequest_decides (libraries : RequestLibraries υ) (raw : HttparseRequest)
    (consumed : Nat) (reader : Reader IoError) (writes : Writes) :
    Decides libraries raw consumed reader writes
      (decideRequest libraries raw consumed reader writes) := by
  unfold decideRequest
  split
  · rename_i refused
    exact .left refused
  rename_i request accepted
  obtain ⟨-, eligible, -⟩ := accepted_spec accepted
  obtain ⟨kind, framed⟩ := classify_of_eligible eligible
  have taken (later : Writes) (continued : Bool)
      (expects : fastPathExpectsContinue request.headers = continued) :
      Decides libraries raw consumed reader writes
        (takeRequest request consumed reader later continued) := by
    subst expects
    simp only [takeRequest, framed]
    exact .taken accepted framed
  split
  · rename_i expects
    split
    · exact taken _ _ expects
    · exact .failed
    · exact .dropped
  · rename_i quiet
    exact taken _ _ (Bool.not_eq_true _ ▸ quiet)

variable {writes : Writes} {socket : Socket IoError} {buffered : List UInt8}
variable {parsed : FastHttp1ParsedRequest υ}

/-- A request that is read has a complete head at hand, and its body is leased behind that. What
reads keep holds there; the reads do not depend on the writes to come. -/
theorem readNext_request (holds : Reader IoError → Prop)
    (keeps : ∀ {segment socket buffered}, ¬ maxHttp1HeadBytes < buffered.length →
      holds ⟨.data segment :: socket, buffered⟩ → holds ⟨socket, buffered ++ segment.bytes⟩)
    (start : holds ⟨socket, buffered⟩)
    (found : (readNextFastHttp1Request libraries writes socket buffered).decision =
      .ready (.request parsed)) :
    ∃ raw consumed kind after, holds after ∧
      libraries.requests.parse after.buffered = .complete raw consumed ∧
      acceptRequest libraries raw = some parsed.request ∧
      classifyFastBody parsed.request.headers = some kind ∧
      parsed.bodyLease = (leaseBody kind (after.advance consumed)).1 ∧
      (readNextFastHttp1Request libraries writes socket buffered).connection =
        (leaseBody kind (after.advance consumed)).2 ∧
      ∀ writes, readNextFastHttp1Request libraries writes socket buffered =
        decideRequest libraries raw consumed after writes := by
  fun_induction readNextFastHttp1Request libraries writes socket buffered with
  | case1 socket buffered full | case3 socket buffered small message invalid
  | case6 buffered small waits err more | case7 buffered small waits more => cases found
  | case2 socket buffered small raw consumed complete =>
    have reads (writes : Writes) : readNextFastHttp1Request libraries writes socket buffered =
        decideRequest libraries raw consumed ⟨socket, buffered⟩ writes := by
      rw [readNextFastHttp1Request.eq_def]
      simp only [small, ↓reduceIte, complete]
    have decides := decideRequest_decides libraries raw consumed ⟨socket, buffered⟩ writes
    generalize decideRequest libraries raw consumed ⟨socket, buffered⟩ writes = read
      at found decides
    cases decides with
    | taken accepted framed =>
      cases found
      exact ⟨raw, consumed, _, _, start, complete, accepted, framed, rfl, rfl, reads⟩
    | left | failed | dropped => cases found
  | case4 buffered small waits => split at found <;> cases found
  | case5 buffered small waits segment more ih =>
    obtain ⟨raw, consumed, kind, after, held, complete, accepted, framed, lease, rest, reads⟩ :=
      ih (keeps small start) found
    refine ⟨raw, consumed, kind, after, held, complete, accepted, framed, lease, rest,
      fun writes => ?_⟩
    rw [readNextFastHttp1Request.eq_def]
    simp only [small, ↓reduceIte, waits, reads]

end

end PdEdge.Downstream

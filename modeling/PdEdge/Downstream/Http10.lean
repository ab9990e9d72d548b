import PdEdge.Downstream.Serve

/-!
# Clients of HTTP/1.0

A client of HTTP/1.0 knows no transfer coding and no interim response, and it waits for the
connection to close unless the response says how long it is. The writers look at the version
of the response and not at that of the request, so what such a client gets depends on the
response that is resolved.
-/

namespace PdEdge.Downstream

open Text Wire List

/-! ## What a client of HTTP/1.0 can read -/

/-- A response without a transfer coding, and with the content as it is if any follows. -/
def Uncoded (content bytes : List UInt8) : Prop :=
  ∃ head rest, Rfc9112.Message bytes head rest ∧ head.codings = [] ∧ (rest = [] ∨ rest = content)

/-- A response whose length the client knows from its head. -/
def KnownLength (method : Method) (bytes : List UInt8) : Prop :=
  ∃ head rest, Rfc9112.Message bytes head rest ∧
    (Rfc9112.bodiless (method = .head) head.status ∨ head.lengths ≠ [])

variable {head : Rfc9112.Head}

theorem uncoded_iff {content bytes rest : List UInt8} (message : Rfc9112.Message bytes head rest) :
    Uncoded content bytes ↔ head.codings = [] ∧ (rest = [] ∨ rest = content) := by
  constructor
  · rintro ⟨head', rest', message', plain⟩
    obtain ⟨rfl, rfl⟩ := message.unique message'
    exact plain
  · exact fun plain => ⟨head, rest, message, plain⟩

theorem knownLength_iff {method : Method} {bytes rest : List UInt8}
    (message : Rfc9112.Message bytes head rest) :
    KnownLength method bytes ↔
      (Rfc9112.bodiless (method = .head) head.status ∨ head.lengths ≠ []) := by
  constructor
  · rintro ⟨head', rest', message', known⟩
    obtain ⟨rfl, rfl⟩ := message.unique message'
    exact known
  · exact fun known => ⟨head, rest, message, known⟩

/-! ## The writers -/

/-- A response without a transfer coding that has no body, says how long it is, or is ended by
closing. -/
def PlainlyFramed (bodiless : Bool) (lengths codings : List HeaderValue) (closes : Prop) : Prop :=
  codings = [] ∧ (bodiless = false → lengths = [] → closes)

section

variable (canonicalReason : StatusCode → Option ReasonPhrase) {η : Type} (access : HeaderAccess η)
variable (method : Method) (requestKeepAlive : Bool) (version : Version) (status : StatusCode)
variable (headers : η)

/-- Whether the request and the headers of the response keep the connection. -/
def bothKeep : Bool :=
  requestKeepAlive && keepAlive version (access.containsToken headers .connection "close")
    (access.containsToken headers .connection "keep-alive")

variable {hasBody : Bool} {framing : Framing η}

/-- What is decided for headers that the writer leaves as they are keeps the connection if
both sides do. -/
theorem decideFraming_bothKeep {streams : Bool} (framed : hasBody = false ∨ streams = false) :
    (decideFraming access version hasBody streams requestKeepAlive headers).keepAlive =
      bothKeep access requestKeepAlive version headers := by
  have skipped : (hasBody && !access.containsName headers .contentLength &&
      !access.containsToken headers .transferEncoding "chunked" && streams) = false := by
    rcases framed with no | no <;> simp [no]
  simp only [decideFraming, skipped, Bool.false_eq_true, ↓reduceIte, bothKeep]

/-- What follows the head, and whether the connection is kept behind it. -/
def sentBody (hasBody : Bool) (framing : Framing η) : Option (List Frame) → List UInt8 × Bool
  | some frames =>
    if hasBody then writeBody framing.useChunked frames framing.keepAlive
    else ([], framing.keepAlive)
  | none => ([], framing.keepAlive)

theorem writeFramed_eq (body : Option (List Frame)) :
    let hasBody := !http1ResponseHasNoBody status method
    let framing := decideFraming access version hasBody body.isSome requestKeepAlive headers
    let sent := sentBody hasBody framing body
    writeFramed canonicalReason access method requestKeepAlive version status headers body =
      (writeHead canonicalReason version status (headerLines (access.view framing.headers)) ++
        sent.1, sent.2) := by
  intro hasBody framing sent
  rw [← access.lines_view]
  cases body with
  | none => simp [writeFramed, sent, sentBody, framing, hasBody]
  | some frames =>
    cases may : http1ResponseHasNoBody status method <;>
      simp [writeFramed, sent, sentBody, framing, hasBody, may]

/-- A body that is not chunked is sent as it is, if at all. -/
theorem sentBody_plain (body : Option (List Frame)) (plain : framing.useChunked = false) :
    (sentBody hasBody framing body).1 = [] ∨
      (sentBody hasBody framing body).1 = (body.getD []).flatMap Frame.payload := by
  cases body with
  | none => exact Or.inl rfl
  | some frames =>
    cases hasBody with
    | false => exact Or.inl rfl
    | true =>
      refine Or.inr ?_
      simp only [sentBody, ↓reduceIte, plain, writeBody_plain, Option.getD_some]

/-- Behind a streamed body the connection is kept only if that was decided before. -/
theorem sentBody_keeps {body : Option (List Frame)} (kept : (sentBody hasBody framing body).2) :
    framing.keepAlive = true := by
  cases body with
  | none => exact kept
  | some frames =>
    cases hasBody with
    | false => exact kept
    | true => exact writeFrames_keepAlive _ _ _ _ kept

attribute [local simp] PlainlyFramed

/-- What a writer sends is for a client of HTTP/1.0 exactly when the headers it starts from
are framed plainly. -/
theorem writeFramed_plain_iff (body : Option (List Frame)) :
    let written :=
      writeFramed canonicalReason access method requestKeepAlive version status headers body
    Uncoded ((body.getD []).flatMap Frame.payload) written.1 ∧
      (written.2 = true → KnownLength method written.1) ↔
    PlainlyFramed (http1ResponseHasNoBody status method)
      ((access.view headers).getAll .contentLength)
      ((access.view headers).getAll .transferEncoding)
      (if body.isSome then version = .http10
      else bothKeep access requestKeepAlive version headers = false) := by
  rw [writeFramed_eq]
  dsimp only
  generalize decided : decideFraming access version (!http1ResponseHasNoBody status method)
    body.isSome requestKeepAlive headers = framing
  have message := message_writeHead canonicalReason version status (access.view framing.headers)
    (sentBody (!http1ResponseHasNoBody status method) framing body).1
  rw [uncoded_iff message, knownLength_iff message, codings_headOf, lengths_headOf,
    bodiless_headOf, stripped_eq_nil, ne_eq, stripped_eq_nil]
  by_cases streamed : http1ResponseHasNoBody status method = false ∧ body.isSome = true ∧
    (access.view headers).getAll .contentLength = [] ∧
    findsChunked ((access.view headers).getAll .transferEncoding) = false
  · -- the writer has to choose between a coding and the end of the connection
    obtain ⟨may, given, unframed, unfound⟩ := streamed
    rw [may, given, Bool.not_false] at decided
    by_cases old : version = .http10
    · subst old
      obtain ⟨closing, plain, same⟩ :=
        decideFraming_closing access requestKeepAlive headers unframed unfound
      rw [decided] at closing plain same
      have sent := @sentBody_plain _ (!http1ResponseHasNoBody status method) framing body plain
      have closed : (sentBody (!http1ResponseHasNoBody status method) framing body).2 ≠ true := by
        intro kept
        rw [sentBody_keeps kept] at closing
        contradiction
      rw [same _ (by decide)]
      simp [given, sent, closed]
    · obtain ⟨-, -, coded⟩ :=
        decideFraming_chunked access version requestKeepAlive headers old unframed unfound
      rw [decided] at coded
      simp [coded, may, given, unframed, old]
  · have framed : (!http1ResponseHasNoBody status method) = false ∨ body.isSome = false ∨
        (access.view headers).getAll .contentLength ≠ [] ∨
        findsChunked ((access.view headers).getAll .transferEncoding) := by
      by_contra other
      simp only [not_or, Bool.not_eq_false, Bool.not_eq_true, Bool.not_eq_true', ne_eq,
        not_not] at other
      exact streamed ⟨other.1, other.2.1, other.2.2.1, other.2.2.2⟩
    obtain ⟨chunked, same⟩ := decideFraming_kept access version _ _ requestKeepAlive headers framed
    rw [decided] at chunked same
    rw [same _ (by decide), same _ (by decide)]
    by_cases coded : (access.view headers).getAll .transferEncoding = []
    · have plain : framing.useChunked = false := by
        rw [chunked, coded]
        decide
      have sent := @sentBody_plain _ (!http1ResponseHasNoBody status method) framing body plain
      simp only [PlainlyFramed, coded, sent, and_self, true_and]
      by_cases known : http1ResponseHasNoBody status method = true ∨
        (access.view headers).getAll .contentLength ≠ []
      · refine iff_of_true (fun _ => known) fun may absent => ?_
        exact absurd absent (known.resolve_left (by simp [may]))
      -- a head alone, that does not say that nothing follows
      obtain ⟨may, unframed⟩ := not_or.mp known
      rw [Bool.not_eq_true] at may
      have absent : body = none := by
        by_contra given
        refine streamed ⟨may, Option.isSome_iff_ne_none.mpr given, not_not.mp unframed, ?_⟩
        rw [coded]
        decide
      have kept := decideFraming_bothKeep access requestKeepAlive version headers
        (Or.inr (congrArg Option.isSome absent) :
          (!http1ResponseHasNoBody status method) = false ∨ body.isSome = false)
      rw [decided] at kept
      subst absent
      simp only [sentBody, kept]
      simp [may, not_not.mp unframed]
    · simp [coded]

end

namespace Http1DownstreamResolution

/-- The bytes of the body. -/
def content : Http1DownstreamResolution → List UInt8
  | .nativeLocal _ resolved => resolved.body.data
  | .native resolved => resolved.body.frames.flatMap Frame.payload
  | .snapshot resolved => (resolved.body.getD []).flatMap Frame.payload
  | .graph response => response.frames.flatMap Frame.payload

/-- The response has no transfer coding and, where a body may follow, has a length, is streamed
in HTTP/1.0, or is absent and closes the connection. -/
def Plain (method : Method) (requestKeepAlive : Bool) : Http1DownstreamResolution → Prop
  | .nativeLocal _ _ => True
  | .native resolved =>
    PlainlyFramed (http1ResponseHasNoBody resolved.statusCode method) resolved.lengths
      resolved.codings (resolved.version.http1 = .http10)
  | .snapshot resolved =>
    PlainlyFramed (http1ResponseHasNoBody ((StatusCode.fromU16 resolved.status).getD .ok) method)
      (resolved.headers.view.getAll .contentLength)
      (resolved.headers.view.getAll .transferEncoding)
      (if resolved.body.isSome then resolved.version.http1 = .http10
      else bothKeep snapshotAccess requestKeepAlive resolved.version.http1 resolved.headers = false)
  | .graph response =>
    PlainlyFramed (http1ResponseHasNoBody response.status method)
      (response.headers.getAll .contentLength) (response.headers.getAll .transferEncoding)
      (response.version.http1 = .http10)

/-- What is written is for a client of HTTP/1.0 exactly when the response is plain. -/
theorem plain_write_iff {canonicalReason : StatusCode → Option ReasonPhrase} {method : Method}
    {requestKeepAlive : Bool} (resolution : Http1DownstreamResolution) :
    let written := resolution.write canonicalReason method requestKeepAlive
    Uncoded resolution.content written.1 ∧ (written.2 = true → KnownLength method written.1) ↔
    resolution.Plain method requestKeepAlive := by
  cases resolution with
  | nativeLocal requestVersion resolved =>
    obtain ⟨settled, value, message, length, uncoded, -⟩ := nativeLocal_message canonicalReason
    refine iff_of_true ⟨(uncoded_iff message).mpr ⟨?_, ?_⟩, fun _ =>
      (knownLength_iff message).mpr (Or.inr ?_)⟩ trivial
    · rw [codings_headOf, uncoded]
      rfl
    · split
      · exact Or.inl rfl
      · exact Or.inr rfl
    · rw [lengths_headOf, length]
      exact cons_ne_nil _ _
  | native resolved =>
    obtain ⟨lengths, codings⟩ := resolved.getAll_preparedHeaders
    rw [Plain, ← lengths, ← codings]
    exact writeFramed_plain_iff canonicalReason mapAccess method requestKeepAlive
      resolved.version.http1 resolved.statusCode resolved.preparedHeaders
      (some resolved.body.frames)
  | snapshot resolved =>
    exact writeFramed_plain_iff canonicalReason snapshotAccess method requestKeepAlive
      resolved.version.http1 _ resolved.headers resolved.body
  | graph response =>
    exact writeFramed_plain_iff canonicalReason mapAccess method requestKeepAlive
      response.version.http1 response.status response.headers (some response.frames)

end Http1DownstreamResolution

/-! ## Rounds -/

section

variable {υ : Type}

/-- The responses that were written completely. -/
def responses (events : List (ServeEvent υ)) : List (List UInt8) :=
  events.filterMap fun
    | .responded bytes => some bytes
    | _ => none

theorem responses_append (events more : List (ServeEvent υ)) :
    responses (events ++ more) = responses events ++ responses more :=
  filterMap_append

/-- A round is for a client of HTTP/1.0: no interim response is written, no response has a
transfer coding, and the connection is kept only if the client asked for that and knows the
length of the response. -/
structure ServesHttp10 (request : FastHttp1Request υ) (content : List UInt8)
    (round : List (ServeEvent υ) × RoundTurn) : Prop where
  uncontinued : .continued ∉ round.1
  uncoded : ∀ bytes ∈ responses round.1, Uncoded content bytes
  kept : ∀ next, round.2 = .again next →
    request.headers.headerContainsToken .connection "keep-alive" = true ∧
      ∀ bytes ∈ responses round.1, KnownLength request.method bytes

/-- What is handed to a writer, and whether the request keeps the connection. -/
abbrev Answer := Http1DownstreamResolution × Bool

/-- The answer to a body that cannot be read. -/
def rejection : FastHttp1ReadError → Option Answer
  | .io _ => none
  | .badRequest message =>
    some (.graph (fastHttp1ErrorResponse .badRequest message), false)
  | .payloadTooLarge =>
    some (.graph (fastHttp1ErrorResponse .payloadTooLarge
      "request body exceeds fast http/1.1 limit"), false)

/-- The answer once the connection is taken back from the body. -/
def answerBehind (request : FastHttp1Request υ) (lease : Option FastHttp1RequestBodyState)
    (connection : FastHttp1ConnectionIo) (resolution : Http1DownstreamResolution) :
    Option Answer :=
  match finishLease lease connection with
  | .dropped => none
  | .failed (err, connection) => connection.stream.bind fun _ => rejection err
  | .ready connection => connection.stream.map fun _ => (resolution, request.keepAlive)

/-- The answer to a request that was read. -/
def answerTo (snapshots : Snapshots υ) (parsed : FastHttp1ParsedRequest υ)
    (connection : FastHttp1ConnectionIo) : Option Answer :=
  if !snapshots.loaded then
    answerBehind parsed.request parsed.bodyLease connection
      (.nativeLocal parsed.request.version notFound)
  else
    match snapshots.program with
    | none =>
      connection.stream.map fun _ =>
        (.graph (textResponse .notFound "not found"), false)
    | some program =>
      let (_, result, body) := (program parsed.request).play ⟨parsed.bodyLease, false⟩
      answerBehind parsed.request body.lease connection (result.resolution parsed.request.version)

variable (libraries : ServeLibraries υ)

/-- What is written for an answer, and whether the connection is kept. -/
def Answer.written (request : FastHttp1Request υ) (answer : Answer) : List UInt8 × Bool :=
  answer.1.write libraries.canonicalReason request.method answer.2

/-- The answer is written, or nothing is because there is none or the write does not end
well. -/
inductive Answers (request : FastHttp1Request υ) (answer : Option Answer) (writes : Writes) :
    List (ServeEvent υ) × RoundTurn → Prop
  | silent {exit : ServeExit} (unable : writes = [] → answer = none) :
    Answers request answer writes ([], .leave exit)
  | kept {given : Answer} {next : Reader IoError × Writes} (answered : answer = some given)
    (asked : request.keepAlive) (keeps : (given.written libraries request).2 = true) :
    Answers request answer writes ([.responded (given.written libraries request).1], .again next)
  | closed {given : Answer} {exit : ServeExit} (answered : answer = some given)
    (closes : (given.written libraries request).2 = false) :
    Answers request answer writes ([.responded (given.written libraries request).1], .leave exit)

variable (request : FastHttp1Request υ)

theorem writeLast_answers (connection : FastHttp1ConnectionIo) (writes : Writes)
    (response : Response) :
    Answers libraries request (connection.stream.map fun _ => (.graph response, false)) writes
      (writeLast libraries request.method connection writes response) := by
  have closes : (Answer.written libraries request (.graph response, false)).2 = false := by
    rw [Bool.eq_false_iff]
    exact fun kept => Bool.false_ne_true (Http1DownstreamResolution.write_keeps kept)
  unfold writeLast
  cases connection.stream with
  | none => exact .silent fun _ => rfl
  | some socket =>
    cases writes with
    | nil => exact .closed rfl closes
    | cons outcome rest =>
      cases outcome with
      | ready _ => exact .closed rfl closes
      | failed err | dropped => exact .silent fun empty => by cases empty

variable {connection : FastHttp1ConnectionIo} {snapshots : Snapshots υ}

theorem rejectRequest_answers {writes : Writes} {err : FastHttp1ReadError} :
    Answers libraries request (connection.stream.bind fun _ => rejection err) writes
      (rejectRequest libraries request.method connection writes err) := by
  cases err with
  | io err =>
    have none : (connection.stream.bind fun _ => rejection (.io err)) = none := by
      cases connection.stream <;> rfl
    exact .silent fun _ => none
  | badRequest message =>
    have answers := writeLast_answers libraries request connection writes
      (fastHttp1ErrorResponse .badRequest message)
    rwa [Option.map_eq_bind] at answers
  | payloadTooLarge =>
    have answers := writeLast_answers libraries request connection writes
      (fastHttp1ErrorResponse .payloadTooLarge
        "request body exceeds fast http/1.1 limit")
    rwa [Option.map_eq_bind] at answers

theorem respond_answers {lease : Option FastHttp1RequestBodyState} {writes : Writes}
    {resolution : Http1DownstreamResolution} :
    Answers libraries request (answerBehind request lease connection resolution) writes
      (respond libraries request lease connection writes resolution) := by
  unfold answerBehind respond
  cases finishLease lease connection with
  | dropped => exact .silent fun _ => rfl
  | failed failure => exact rejectRequest_answers libraries request
  | ready connection =>
    dsimp only
    cases connection.stream with
    | none => exact .silent fun _ => rfl
    | some socket =>
      generalize written : resolution.write libraries.canonicalReason request.method
        request.keepAlive = bytes
      have written' : Answer.written libraries request (resolution, request.keepAlive) = bytes :=
        written
      have done (later : Writes) : Answers libraries request
          (some (resolution, request.keepAlive)) writes
          ([.responded bytes.1], if bytes.2 then .again (⟨socket, connection.buffered⟩, later)
            else .leave .closed) := by
        rw [← written']
        split
        · rename_i keeps
          exact .kept rfl (Http1DownstreamResolution.write_keeps keeps) keeps
        · rename_i closes
          exact .closed rfl (Bool.not_eq_true _ ▸ closes)
      cases writes with
      | nil => exact done []
      | cons outcome rest =>
        cases outcome with
        | ready _ => exact done rest
        | failed err | dropped => exact .silent fun empty => by cases empty

/-- Serving a request writes its answer behind the run of the program. -/
theorem serveRequest_answers {parsed : FastHttp1ParsedRequest υ} (writes : Writes) :
    ∃ ran round, serveRequest libraries snapshots parsed connection writes =
        (ran ++ round.1, round.2) ∧
      responses ran = [] ∧ .continued ∉ ran ∧
      Answers libraries parsed.request (answerTo snapshots parsed connection) writes round := by
  unfold serveRequest answerTo
  cases snapshots.loaded with
  | false => exact ⟨[], _, rfl, rfl, not_mem_nil, respond_answers libraries _⟩
  | true =>
    cases snapshots.program with
    | none => exact ⟨[], _, rfl, rfl, not_mem_nil, writeLast_answers libraries _ _ _ _⟩
    | some program =>
      refine ⟨[.ran parsed.request _ _], _, rfl, rfl, ?_, respond_answers libraries _⟩
      simp

/-- The bytes of the body of an answer. -/
def answerContent (answer : Option Answer) : List UInt8 :=
  (answer.map fun given => given.1.content).getD []

variable {libraries} {request : FastHttp1Request υ} {answer : Option Answer} {writes : Writes}
variable {round : List (ServeEvent υ) × RoundTurn} {ran : List (ServeEvent υ)}

/-- Plain answers are for a client of HTTP/1.0. -/
theorem Answers.serves (answers : Answers libraries request answer writes round)
    (quiet : responses ran = []) (uncontinued : .continued ∉ ran)
    (asked : request.keepAlive → request.headers.headerContainsToken .connection "keep-alive")
    (plain : ∀ given ∈ answer, given.1.Plain request.method given.2) :
    ServesHttp10 request (answerContent answer) (ran ++ round.1, round.2) := by
  have single (bytes : List UInt8) : responses (ran ++ [.responded bytes]) = [bytes] := by
    rw [responses_append, quiet]
    rfl
  cases answers with
  | silent unable =>
    have none : responses (ran ++ []) = [] := by rw [responses_append, quiet]; rfl
    refine ⟨by simpa using uncontinued, fun bytes member => ?_, fun next again => by cases again⟩
    rw [none] at member
    cases member
  | @kept given next answered keepAlive keeps =>
    obtain ⟨uncoded, known⟩ := (given.1.plain_write_iff).mpr (plain given answered)
    refine ⟨by simpa using uncontinued, fun bytes member => ?_, fun next again =>
      ⟨asked keepAlive, fun bytes member => ?_⟩⟩
    · rw [single, mem_singleton] at member
      rw [member, answered]
      exact uncoded
    · rw [single, mem_singleton] at member
      rw [member]
      exact known keeps
  | @closed given exit answered closes =>
    obtain ⟨uncoded, -⟩ := (given.1.plain_write_iff).mpr (plain given answered)
    refine ⟨by simpa using uncontinued, fun bytes member => ?_, fun next again => by cases again⟩
    rw [single, mem_singleton] at member
    rw [member, answered]
    exact uncoded

/-- Where every write succeeds, only plain answers are for a client of HTTP/1.0. -/
theorem Answers.plain (answers : Answers libraries request answer [] round)
    (serves : ServesHttp10 request (answerContent answer) (ran ++ round.1, round.2)) :
    ∀ given ∈ answer, given.1.Plain request.method given.2 := by
  have last (bytes : List UInt8) : bytes ∈ responses (ran ++ [.responded bytes]) := by
    rw [responses_append]
    exact mem_append_right _ mem_cons_self
  intro given member
  cases answers with
  | silent unable =>
    rw [unable rfl] at member
    cases member
  | kept answered asked keeps =>
    cases answered.symm.trans member
    rw [answered] at serves
    exact (given.1.plain_write_iff).mp
      ⟨serves.uncoded _ (last _), fun _ => (serves.kept _ rfl).2 _ (last _)⟩
  | closed answered closes =>
    cases answered.symm.trans member
    rw [answered] at serves
    refine (given.1.plain_write_iff).mp ⟨serves.uncoded _ (last _), fun kept => ?_⟩
    exact absurd (closes.symm.trans kept) Bool.false_ne_true

variable {reader : Reader IoError} {parsed : FastHttp1ParsedRequest υ}

/-- The round of a request that was read. -/
theorem serveRound_eq {later : Writes} {continued : Bool}
    (read : readNextFastHttp1Request libraries.toRequestLibraries writes reader.socket
      reader.buffered = ⟨.ready (.request parsed), connection, later, continued⟩) :
    serveRound libraries snapshots reader writes = ((if continued then [.continued] else []) ++
        (serveRequest libraries snapshots parsed connection later).1,
      (serveRequest libraries snapshots parsed connection later).2) := by
  simp only [serveRound, read]

/-- The interim response is written exactly where the request asks for it, whatever its
version. -/
theorem readNext_continues
    (found : (readNextFastHttp1Request libraries.toRequestLibraries [] reader.socket
      reader.buffered).decision = .ready (.request parsed)) :
    ∃ connection, readNextFastHttp1Request libraries.toRequestLibraries [] reader.socket
        reader.buffered = ⟨.ready (.request parsed), connection, [],
          fastPathExpectsContinue parsed.request.headers⟩ ∧
      (fastPathExpectsContinue parsed.request.headers = false → ∀ writes,
        readNextFastHttp1Request libraries.toRequestLibraries writes reader.socket
          reader.buffered = ⟨.ready (.request parsed), connection, writes, false⟩) := by
  obtain ⟨raw, consumed, kind, after, -, -, accepted, framed, lease, -, reads⟩ :=
    readNext_request (fun _ => True) (fun _ same => same) trivial found
  have first : decideRequest libraries.toRequestLibraries raw consumed after [] =
      takeRequest parsed.request consumed after []
        (fastPathExpectsContinue parsed.request.headers) := by
    cases expects : fastPathExpectsContinue parsed.request.headers <;>
      simp [decideRequest, accepted, expects, takeWrite]
  have taken (writes : Writes) (continued : Bool) :
      takeRequest parsed.request consumed after writes continued =
        ⟨.ready (.request parsed), (leaseBody kind (after.advance consumed)).2, writes,
          continued⟩ := by
    simp only [takeRequest, framed, ← lease]
  refine ⟨(leaseBody kind (after.advance consumed)).2, ?_, fun plain writes => ?_⟩
  · rw [reads, first, taken]
  · rw [reads]
    simp only [decideRequest, accepted, plain, Bool.false_eq_true, ↓reduceIte, taken]

/-- Exactly when the request does not ask for the interim response and the response is plain,
a request in HTTP/1.0 is served as such, however its writes end. -/
theorem http10_served_iff (libraries : ServeLibraries υ) (snapshots : Snapshots υ)
    (reader : Reader IoError) (parsed : FastHttp1ParsedRequest υ)
    (found : (readNextFastHttp1Request libraries.toRequestLibraries [] reader.socket
      reader.buffered).decision = .ready (.request parsed))
    (old : parsed.request.version = .http10) :
    let answer := answerTo snapshots parsed (readNextFastHttp1Request
      libraries.toRequestLibraries [] reader.socket reader.buffered).connection
    (∀ writes, ServesHttp10 parsed.request (answerContent answer)
      (serveRound libraries snapshots reader writes)) ↔
    fastPathExpectsContinue parsed.request.headers = false ∧
      ∀ given ∈ answer, given.1.Plain parsed.request.method given.2 := by
  have asked : parsed.request.keepAlive →
      parsed.request.headers.headerContainsToken .connection "keep-alive" := by
    obtain ⟨raw, consumed, kind, after, -, -, accepted, -⟩ :=
      readNext_request (fun _ => True) (fun _ same => same) trivial found
    obtain ⟨-, -, keeps⟩ := accepted_spec accepted
    rw [keeps, old]
    exact fun both => (Bool.and_eq_true_iff.mp both).1
  obtain ⟨connection, read, reads⟩ := readNext_continues found
  rw [read]
  cases expects : fastPathExpectsContinue parsed.request.headers with
  | true =>
    refine iff_of_false (fun serves => (serves []).uncontinued ?_) (fun both => by cases both.1)
    rw [serveRound_eq read, expects]
    exact mem_cons_self
  | false =>
    have round (writes : Writes) : serveRound libraries snapshots reader writes =
        serveRequest libraries snapshots parsed connection writes := by
      rw [serveRound_eq (reads expects writes)]
      rfl
    simp only [round, true_and]
    constructor
    · intro serves
      obtain ⟨ran, round, served, -, -, answers⟩ := serveRequest_answers libraries []
      exact answers.plain (served ▸ serves [])
    intro plain writes
    obtain ⟨ran, round, served, quiet, uncontinued, answers⟩ :=
      serveRequest_answers libraries writes
    rw [served]
    exact answers.serves quiet uncontinued asked plain

end

/-- The head of a request in HTTP/1.0 that asks to keep the connection. -/
def oldHead : List UInt8 := ascii "GET / HTTP/1.0\r\nConnection: keep-alive\r\n\r\n"

/-- The request as the parser gives it. -/
def oldRaw : HttparseRequest :=
  ⟨some (ascii "GET"), some (ascii "/"), some 0, [⟨ascii "Connection", ascii "keep-alive"⟩]⟩

/-- Libraries that know this one head. -/
def oldLibraries : ServeLibraries Unit :=
  ⟨⟨.literal oldHead (by decide) oldRaw, fun name => some ⟨name⟩, fun _ => some ()⟩, fun _ => none⟩

/-- The request as it is taken. -/
def oldRequest : FastHttp1Request Unit :=
  ⟨⟨ascii "GET"⟩, (), .http10, .fromRawHeaderBytes oldRaw.headers, true⟩

/-- The head is read in one piece. -/
theorem oldHead_read : readNextFastHttp1Request oldLibraries.toRequestLibraries [] []
    oldHead = ⟨.ready (.request ⟨oldRequest, none⟩), .ofReader ⟨[], []⟩, [], false⟩ := by
  have parsed : oldLibraries.requests.parse oldHead = .complete oldRaw oldHead.length :=
    Heads.HeadParser.literal_self (by decide) oldRaw
  have small : ¬ maxHttp1HeadBytes < oldHead.length := by decide
  have accepted : acceptRequest oldLibraries.toRequestLibraries oldRaw = some oldRequest := rfl
  have expects : fastPathExpectsContinue oldRequest.headers = false := by decide
  have framed : classifyFastBody oldRequest.headers = some .empty := by decide
  rw [readNextFastHttp1Request.eq_def]
  simp only [small, ↓reduceIte, parsed, decideRequest, accepted, expects, Bool.false_eq_true,
    takeRequest, framed, leaseBody, Reader.advance, drop_length]

/-- A program that answers in memory. -/
theorem http10_served_sample :
    let snapshots : Snapshots Unit := ⟨true, some fun _ => .done (.nativeLocal notFound)⟩
    let answer : Option Answer := some (.nativeLocal .http10 notFound, true)
    ∀ writes, ServesHttp10 oldRequest (answerContent answer)
      (serveRound oldLibraries snapshots ⟨[], oldHead⟩ writes) := by
  intro snapshots answer
  have found := congrArg ReadNext.decision oldHead_read
  have served := http10_served_iff oldLibraries snapshots ⟨[], oldHead⟩ ⟨oldRequest, none⟩ found rfl
  exact served.mpr ⟨by decide, fun given member => by cases member; trivial⟩

/-- An upstream response in HTTP/1.1 whose length is not known is sent on chunked. -/
theorem old_client_gets_chunks : ¬ ∀ (libraries : ServeLibraries Unit) (snapshots : Snapshots Unit)
    (reader : Reader IoError) (parsed : FastHttp1ParsedRequest Unit),
    let read := readNextFastHttp1Request libraries.toRequestLibraries [] reader.socket
      reader.buffered
    read.decision = .ready (.request parsed) → parsed.request.version = .http10 →
    ∀ writes, ServesHttp10 parsed.request
      (answerContent (answerTo snapshots parsed read.connection))
      (serveRound libraries snapshots reader writes) := by
  intro all
  let upstream : ResolvedNativeHttp1DownstreamResponse :=
    ⟨200, [], .http11, .raw [⟨⟨ascii "ab", by decide⟩, by decide⟩] none none, [], none⟩
  let snapshots : Snapshots Unit := ⟨true, some fun _ => .done (.native (.ok upstream))⟩
  have serves := all oldLibraries snapshots ⟨[], oldHead⟩ ⟨oldRequest, none⟩
    (congrArg ReadNext.decision oldHead_read) rfl []
  rw [oldHead_read, serveRound_eq oldHead_read] at serves
  obtain ⟨ran, round, served, -, -, answers⟩ := serveRequest_answers oldLibraries []
  rw [served] at serves
  have plain := answers.plain serves (.native upstream, true) rfl
  have old := plain.2 (by decide +kernel) (by decide +kernel)
  cases old

end PdEdge.Downstream

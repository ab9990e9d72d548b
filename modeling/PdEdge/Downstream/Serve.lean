import PdEdge.Downstream.Delimiting
import PdEdge.Downstream.Request

/-!
# Serving a connection

The loop of `serve_http1_fast_connection`: read the next request, run the loaded program on
it, take the connection back from the body, write the response, and go round again while the
connection is kept. A program is anything that pulls the body as often as it likes and then
gives a result; what it does may differ from request to request.
-/

namespace PdEdge.Downstream

open Iteration Text Wire

/-- What running a program gives: the resolved response, or the response for an execution
that failed. -/
inductive ProgramResult where
  | nativeLocal (resolved : ResolvedNativeLocalHttp1DownstreamResponse)
  | native (result : Except Response ResolvedNativeHttp1DownstreamResponse)
  | snapshot (result : Except Response ResolvedSnapshotHttp1DownstreamResponse)
  | graph (response : Response)
  | failed (response : Response)

/-- What is written for a result; a response in place of a resolution is written as it is. -/
def ProgramResult.resolution (requestVersion : Version) :
    ProgramResult → Http1DownstreamResolution
  | .nativeLocal resolved => .nativeLocal requestVersion resolved
  | .native (.ok resolved) => .native resolved
  | .native (.error response) => .graph response
  | .snapshot (.ok resolved) => .snapshot resolved
  | .snapshot (.error response) => .graph response
  | .graph response => .graph response
  | .failed response => .graph response

/-- A program at work on a request: it pulls the body, or it is done. -/
inductive Interaction where
  | done (result : ProgramResult)
  | pull (next : Pulled → Interaction)

/-- The body stream of a request: the lease it reads from, and whether it has ended. -/
structure RequestBody where
  lease : Option FastHttp1RequestBodyState
  ended : Bool

/-- Poll the stream; after its end, an error or a drop it gives nothing more. -/
def RequestBody.poll (body : RequestBody) : Pulled × RequestBody :=
  match body.lease, body.ended with
  | some state, false =>
    match state.pullNext with
    | (.ready (some data), next) => (.ready (some data), ⟨some next, false⟩)
    | (pulled, next) => (pulled, ⟨some next, true⟩)
  | _, _ => (.ready none, body)

/-- Let a program work: what its pulls gave, its result and the body it leaves. -/
def Interaction.play : Interaction → RequestBody → List Pulled × ProgramResult × RequestBody
  | .done result, body => ([], result, body)
  | .pull next, body =>
    let (pulled, body) := body.poll
    let (pulls, result, body) := (next pulled).play body
    (pulled :: pulls, result, body)

/-- What two looks at the loaded program show while a request is served. -/
structure Snapshots (υ : Type) where
  loaded : Bool
  program : Option (FastHttp1Request υ → Interaction)

/-- What serving takes from its libraries. -/
structure ServeLibraries (υ : Type) extends RequestLibraries υ where
  canonicalReason : StatusCode → Option ReasonPhrase

/-- What is seen of the loop: the interim response, a run of a program with what its pulls
gave, and a response that was written completely. -/
inductive ServeEvent (υ : Type) where
  | continued
  | ran (request : FastHttp1Request υ) (pulls : List Pulled) (result : ProgramResult)
  | responded (bytes : List UInt8)

/-- How the loop ends; it has not ended yet when its rounds are used up. -/
inductive ServeExit where
  | endOfStream
  | hyper (connection : FastHttp1ConnectionIo)
  | closed
  | failed (err : IoError)
  | dropped
  | unfinished

/-- A text as a body; no text is longer than memory. -/
def textBytes (text : String) : Bytes :=
  ⟨(toUtf8 text.toList).take (usizeLimit - 1), by
    rw [List.length_take]
    have positive : 0 < usizeLimit := by decide
    omega⟩

/-- `fast_http1_error_response`. -/
def fastHttp1ErrorResponse (status : StatusCode) (body : String) : Response where
  version := .http11
  status := status
  headers := (HeaderValue.ofNumber (toUtf8 body.toList).length).toList.map
    (fun length => (.contentLength, length)) ++ [(.connection, .close)]
  frames := [.data (textBytes body)]

/-- `text_response`. -/
def textResponse (status : StatusCode) (text : String) : Response :=
  ⟨.http11, status, [], [.data (textBytes text)]⟩

/-- The response without a loaded program. -/
def notFound : ResolvedNativeLocalHttp1DownstreamResponse :=
  ⟨404, [], textBytes "not found", false⟩

section

variable {υ : Type} (libraries : ServeLibraries υ)

/-- How a round ends: with the connection and its writes, or for good. -/
abbrev RoundTurn := Turn (Reader IoError × Writes) ServeExit

/-- Write a last response; whether that works makes no difference. -/
def writeLast (method : Method) (connection : FastHttp1ConnectionIo) (writes : Writes)
    (response : Response) : List (ServeEvent υ) × RoundTurn :=
  let written := writeHttp1Response libraries.canonicalReason method false response
  match connection.stream, takeWrite writes with
  | some _, (.ready _, _) => ([.responded written.1], .leave .closed)
  | some _, (.dropped, _) => ([], .leave .dropped)
  | _, _ => ([], .leave .closed)

/-- The end of a request that cannot be read. -/
def rejectRequest (method : Method) (connection : FastHttp1ConnectionIo) (writes : Writes) :
    FastHttp1ReadError → List (ServeEvent υ) × RoundTurn
  | .io err => ([], .leave (.failed err))
  | .badRequest message =>
    writeLast libraries method connection writes (fastHttp1ErrorResponse .badRequest message)
  | .payloadTooLarge =>
    writeLast libraries method connection writes
      (fastHttp1ErrorResponse .payloadTooLarge "request body exceeds fast http/1.1 limit")

/-- Take the connection back from the body, if it was leased. -/
def finishLease (lease : Option FastHttp1RequestBodyState) (connection : FastHttp1ConnectionIo) :
    Awaited (FastHttp1ReadError × FastHttp1ConnectionIo) FastHttp1ConnectionIo :=
  match lease with
  | none => .ready connection
  | some state => state.finish

/-- Take the connection back and write the response. -/
def respond (request : FastHttp1Request υ) (lease : Option FastHttp1RequestBodyState)
    (connection : FastHttp1ConnectionIo) (writes : Writes)
    (resolution : Http1DownstreamResolution) : List (ServeEvent υ) × RoundTurn :=
  match finishLease lease connection with
  | .dropped => ([], .leave .dropped)
  | .failed (err, connection) => rejectRequest libraries request.method connection writes err
  | .ready connection =>
    let written := resolution.write libraries.canonicalReason request.method request.keepAlive
    match connection.stream with
    | none => ([], .leave (.failed streamUnavailable))
    | some socket =>
      match takeWrite writes with
      | (.failed err, _) => ([], .leave (.failed err))
      | (.dropped, _) => ([], .leave .dropped)
      | (.ready _, writes) =>
        ([.responded written.1],
          if written.2 then .again (⟨socket, connection.buffered⟩, writes) else .leave .closed)

/-- A request that was read is answered. -/
def serveRequest (snapshots : Snapshots υ) (parsed : FastHttp1ParsedRequest υ)
    (connection : FastHttp1ConnectionIo) (writes : Writes) :
    List (ServeEvent υ) × RoundTurn :=
  if !snapshots.loaded then
    respond libraries parsed.request parsed.bodyLease connection writes
      (.nativeLocal parsed.request.version notFound)
  else
    match snapshots.program with
    -- the program was unloaded in between; the socket is still with the lease, if there is one
    | none =>
      writeLast libraries parsed.request.method connection writes
        (textResponse .notFound "not found")
    | some program =>
      let (pulls, result, body) := (program parsed.request).play ⟨parsed.bodyLease, false⟩
      let (events, turn) := respond libraries parsed.request body.lease connection writes
        (result.resolution parsed.request.version)
      (.ran parsed.request pulls result :: events, turn)

/-- One round of the loop. -/
def serveRound (snapshots : Snapshots υ) (reader : Reader IoError) (writes : Writes) :
    List (ServeEvent υ) × RoundTurn :=
  let read := readNextFastHttp1Request libraries.toRequestLibraries writes reader.socket
    reader.buffered
  let start : List (ServeEvent υ) := if read.continued then [.continued] else []
  match read.decision with
  | .dropped => (start, .leave .dropped)
  | .failed err =>
    let (events, turn) := rejectRequest libraries ⟨ascii "GET"⟩ read.connection read.writes err
    (start ++ events, turn)
  | .ready .endOfStream => (start, .leave .endOfStream)
  | .ready .fallbackToHyper => (start, .leave (.hyper read.connection))
  | .ready (.request parsed) =>
    let (events, turn) := serveRequest libraries snapshots parsed read.connection read.writes
    (start ++ events, turn)

end

end PdEdge.Downstream

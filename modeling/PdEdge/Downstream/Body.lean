import PdEdge.Lib.Loop
import PdEdge.Http1.ChunkSize

/-!
# The leased request body of the HTTP/1.1 fast path

While a request with a body runs, its connection is owned by the body: a state machine
that hands out the body in chunks (`pullNext`) and gives the connection back when the
request is over (`finish`). One turn of the loop of `pull_next` is one definition for each
state of the machine. A turn first swaps the state for the placeholder `fixed 0` and puts
a state back where the source does, so every exit shows what it leaves behind.

Suspension is explicit. A socket event may say that the task awaiting the read is dropped;
the turn then ends in `Awaited.dropped` with the state as it is at that await.
-/

namespace PdEdge.Downstream

open Iteration Wire

/-- `FastHttp1ConnectionIo`, without the scratch buffer the writers reuse. -/
structure FastHttp1ConnectionIo where
  /-- The socket, unless it is leased to a body. -/
  stream : Option (Socket IoError)
  /-- Bytes read ahead. -/
  buffered : List UInt8

/-- The connection of a reader whose socket is present. -/
def FastHttp1ConnectionIo.ofReader (reader : Reader IoError) : FastHttp1ConnectionIo :=
  ⟨some reader.socket, reader.buffered⟩

/-- The error of a connection whose socket is leased. -/
def streamUnavailable : IoError :=
  ⟨.brokenPipe, "downstream http/1.1 connection stream is unavailable"⟩

/-- `parts_mut`: the socket and the buffer, to read one into the other. -/
def FastHttp1ConnectionIo.partsMut (connection : FastHttp1ConnectionIo) :
    Except IoError (Reader IoError) :=
  match connection.stream with
  | some socket => .ok ⟨socket, connection.buffered⟩
  | none => .error streamUnavailable

/-- `FastHttp1ReadError`. -/
inductive FastHttp1ReadError where
  | io (err : IoError)
  | badRequest (message : String)
  | payloadTooLarge
  deriving DecidableEq, Repr

/-- `StoredFastHttp1ReadError`: what is kept of an error, so that it can be returned again. -/
inductive StoredFastHttp1ReadError where
  | io (message : String)
  | badRequest (message : String)
  | payloadTooLarge
  deriving DecidableEq, Repr

/-- `FastHttp1ReadError::to_stored`. -/
def FastHttp1ReadError.toStored : FastHttp1ReadError → StoredFastHttp1ReadError
  | .io err => .io err.message
  | .badRequest message => .badRequest message
  | .payloadTooLarge => .payloadTooLarge

/-- `StoredFastHttp1ReadError::to_read_error`. -/
def StoredFastHttp1ReadError.toReadError : StoredFastHttp1ReadError → FastHttp1ReadError
  | .io message => .io ⟨.other, message⟩
  | .badRequest message => .badRequest message
  | .payloadTooLarge => .payloadTooLarge

/-- `FastHttp1ChunkedState`. -/
inductive FastHttp1ChunkedState where
  | needSize
  | readData (remaining : Nat)
  | expectChunkTerminator
  | readTrailers
  deriving DecidableEq, Repr

/-- `FastHttp1StreamingBodyKind`. -/
inductive FastHttp1StreamingBodyKind where
  | fixed (remaining : Nat)
  | chunked (state : FastHttp1ChunkedState)
  deriving DecidableEq, Repr

/-- `FastHttp1RequestBodyState`. -/
structure FastHttp1RequestBodyState where
  connection : Option FastHttp1ConnectionIo
  kind : FastHttp1StreamingBodyKind
  remainingBudget : Nat
  terminalError : Option StoredFastHttp1ReadError

/-- What one call of `pull_next` gives: a chunk, the end of the body, an error, or nothing
because the call was dropped. -/
abbrev Pulled := Awaited FastHttp1ReadError (Option (List UInt8))

/-- The end of one turn of the loop of `pull_next`. -/
abbrev PullTurn := Turn FastHttp1RequestBodyState (Pulled × FastHttp1RequestBodyState)

namespace FastHttp1RequestBodyState

/-- `from_connection`. -/
def fromConnection (connection : FastHttp1ConnectionIo) (kind : FastHttp1StreamingBodyKind)
    (remainingBudget : Nat) : FastHttp1RequestBodyState :=
  ⟨some connection, kind, remainingBudget, none⟩

/-- `remember_error`, and the error it passes on. -/
def rememberError (state : FastHttp1RequestBodyState) (err : FastHttp1ReadError) :
    Pulled × FastHttp1RequestBodyState :=
  (.failed err, { state with terminalError := some err.toStored })

/-- Leave with a remembered `BadRequest`. -/
def refuse (state : FastHttp1RequestBodyState) (message : String) : PullTurn :=
  .leave (state.rememberError (.badRequest message))

/-- The error of a body whose connection was taken back. -/
def connectionUnavailable : FastHttp1ReadError :=
  .io ⟨.brokenPipe, "downstream http/1.1 request body connection is unavailable"⟩

/-- `connection_mut`. -/
def connectionMut (state : FastHttp1RequestBodyState) :
    Except FastHttp1ReadError FastHttp1ConnectionIo :=
  match state.connection with
  | some connection => .ok connection
  | none => .error connectionUnavailable

/-- `connection_mut()?.parts_mut()?`. -/
def reader (state : FastHttp1RequestBodyState) : Except FastHttp1ReadError (Reader IoError) :=
  match state.connectionMut with
  | .error err => .error err
  | .ok connection =>
    match connection.partsMut with
    | .ok reader => .ok reader
    | .error err => .error (.io err)

/-- The state after reading through its connection. -/
def withReader (state : FastHttp1RequestBodyState) (reader : Reader IoError) :
    FastHttp1RequestBodyState :=
  { state with connection := some (.ofReader reader) }

/-- The part of the turn that `Fixed` and `ReadData` share while bytes remain: read when
nothing is buffered, else hand out what is buffered of the remaining bytes. -/
def pullBytes (state : FastHttp1RequestBodyState) (remaining : Nat)
    (resume : Nat → FastHttp1StreamingBodyKind) (closed : String) : PullTurn :=
  match state.connectionMut with
  | .error err => .leave (.failed err, state)
  | .ok connection =>
    if connection.buffered.length = 0 then
      match state.reader with
      | .error err => .leave (.failed err, state)
      | .ok reader =>
        match reader.readBuf with
        | (.ready 0, reader) => (state.withReader reader).refuse closed
        | (.ready (_ + 1), reader) =>
          .again { state.withReader reader with kind := resume remaining }
        -- the `?` on the read returns the error without remembering it
        | (.failed err, reader) => .leave (.failed (.io err), state.withReader reader)
        | (.dropped, reader) => .leave (.dropped, state.withReader reader)
    else
      let take := min connection.buffered.length remaining
      .leave (.ready (some (connection.buffered.take take)), { state with
          connection := some { connection with buffered := connection.buffered.drop take }
          kind := resume (remaining - take) })

/-- The turn of `Fixed`. -/
def pullFixed (state : FastHttp1RequestBodyState) (remaining : Nat) : PullTurn :=
  if remaining = 0 then .leave (.ready none, state)
  else state.pullBytes remaining .fixed
    "downstream http/1.1 request body closed before content-length completed"

/-- The text of a refused chunk size line. -/
def sizeMessage : ChunkSizeError → String
  | .invalidUtf8 err => s!"invalid utf-8 in downstream http/1.1 chunk size: {err.describe}"
  | .missing => "missing downstream http/1.1 chunk size"
  | .invalid value err =>
    s!"invalid downstream http/1.1 chunk size \x60{String.ofList value}\x60: {err.describe}"

/-- The turn of `NeedSize`. -/
def pullSize (state : FastHttp1RequestBodyState) : PullTurn :=
  match state.reader with
  | .error err => .leave (.failed err, state)
  | .ok reader =>
    match reader.readLine with
    | (.failed err, reader) => .leave (.failed (.io err), state.withReader reader)
    | (.dropped, reader) => .leave (.dropped, state.withReader reader)
    | (.ready none, reader) =>
      (state.withReader reader).refuse
        "chunked downstream http/1.1 request closed before chunk size"
    | (.ready (some line), reader) =>
      match chunkSize line with
      | .error err => (state.withReader reader).refuse (sizeMessage err)
      | .ok size =>
        if size = 0 then
          .again { state.withReader reader with kind := .chunked .readTrailers }
        -- the one refusal of the decoder that does not go through `remember_error`
        else if state.remainingBudget < size then
          .leave (.failed .payloadTooLarge, state.withReader reader)
        else
          .again { state.withReader reader with
            remainingBudget := state.remainingBudget - size
            kind := .chunked (.readData size) }

/-- The state after some of a chunk was handed out. -/
def afterData (remaining : Nat) : FastHttp1StreamingBodyKind :=
  if remaining = 0 then .chunked .expectChunkTerminator else .chunked (.readData remaining)

/-- The turn of `ReadData`. -/
def pullData (state : FastHttp1RequestBodyState) (remaining : Nat) : PullTurn :=
  if remaining = 0 then .again { state with kind := .chunked .expectChunkTerminator }
  else state.pullBytes remaining afterData
    "chunked downstream http/1.1 request closed before chunk data completed"

/-- The turn of `ExpectChunkTerminator`. -/
def pullTerminator (state : FastHttp1RequestBodyState) : PullTurn :=
  match state.reader with
  | .error err => .leave (.failed err, state)
  | .ok reader =>
    match reader.ensure 2 with
    | (.failed err, reader) => .leave (.failed (.io err), state.withReader reader)
    | (.dropped, reader) => .leave (.dropped, state.withReader reader)
    | (.ready false, reader) =>
      (state.withReader reader).refuse
        "chunked downstream http/1.1 request closed before chunk terminator"
    | (.ready true, reader) =>
      if reader.buffered.take 2 = crlf then
        .again { state.withReader (reader.advance 2) with kind := .chunked .needSize }
      else
        (state.withReader (reader.advance 2)).refuse "invalid downstream http/1.1 chunk terminator"

/-- The turn of `ReadTrailers`. -/
def pullTrailer (state : FastHttp1RequestBodyState) : PullTurn :=
  match state.reader with
  | .error err => .leave (.failed err, state)
  | .ok reader =>
    match reader.readLine with
    | (.failed err, reader) => .leave (.failed (.io err), state.withReader reader)
    | (.dropped, reader) => .leave (.dropped, state.withReader reader)
    | (.ready none, reader) =>
      (state.withReader reader).refuse
        "chunked downstream http/1.1 request closed before trailers completed"
    | (.ready (some trailer), reader) =>
      if trailer = [] then .leave (.ready none, state.withReader reader)
      else .again { state.withReader reader with kind := .chunked .readTrailers }

/-- One turn of the loop of `pull_next`. -/
def pullTurn (state : FastHttp1RequestBodyState) : PullTurn :=
  let held := { state with kind := .fixed 0 }
  match state.kind with
  | .fixed remaining => held.pullFixed remaining
  | .chunked .needSize => held.pullSize
  | .chunked (.readData remaining) => held.pullData remaining
  | .chunked .expectChunkTerminator => held.pullTerminator
  | .chunked .readTrailers => held.pullTrailer

/-- What every turn that goes round again or hands out bytes lowers: the reads and bytes of
the connection, and the step from `ReadData` to the chunk's end, which uses neither. -/
def weight (state : FastHttp1RequestBodyState) : Nat :=
  (match state.connection with
    | some ⟨stream, buffered⟩ => (Reader.mk (stream.getD []) buffered).weight
    | none => 0) +
  match state.kind with
  | .chunked (.readData _) => 1
  | _ => 0

end FastHttp1RequestBodyState

end PdEdge.Downstream

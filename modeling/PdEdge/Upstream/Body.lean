import PdEdge.Lib.Decoding
import PdEdge.Lib.Loop
import PdEdge.Http1.ChunkSize
import PdEdge.Http1.Headers
import PdEdge.Upstream.Pool

/-!
# The response body of the HTTP/1.1 client

`PlainHttp1ResponseBody` reads a response body from a leased connection and releases the
connection where the body ends. One turn of the loop of `pull_next` is one definition for
each kind of body and each state of the chunked decoder; the pool is passed along.
-/

namespace PdEdge.Upstream

open Iteration Wire

/-- `ChunkedState`. -/
inductive ChunkedState where
  | needSize
  | readData (remaining : Nat)
  | expectChunkTerminator
  | readTrailers
  deriving DecidableEq, Repr

/-- `PlainHttp1BodyKind`. -/
inductive PlainHttp1BodyKind where
  | done
  | fixed (remaining : Nat)
  | chunked (state : ChunkedState)
  | closeDelimited
  deriving DecidableEq, Repr

/-- `PlainHttp1ResponseBody`. -/
structure PlainHttp1ResponseBody (κ : Type) where
  lease : PlainHttp1SenderLease κ
  kind : PlainHttp1BodyKind
  trailers : Option HeaderMap

variable {κ : Type} [DecidableEq κ]

/-- What one call of `pull_next` gives. -/
abbrev Pulled := Awaited VmError (Option (List UInt8))

/-- The end of one turn of the loop of `pull_next`. -/
abbrev PullTurn (κ : Type) :=
  Turn (PlainHttp1SenderPool κ × PlainHttp1ResponseBody κ)
    (Pulled × PlainHttp1SenderPool κ × PlainHttp1ResponseBody κ)

/-- The error of a failed read. -/
def readError (err : IoError) : VmError :=
  .hostError s!"failed to read outbound http/1.1 upstream response: {err.message}"

/-- `<[u8]>::trim_ascii_start`. -/
def trimAsciiStart (bytes : List UInt8) : List UInt8 :=
  bytes.dropWhile fun byte => [9, 10, 12, 13, 32].contains byte

/-- The name and value of a trailer line, or the text of the error. -/
def trailerEntry (line : List UInt8) : Except String (HeaderName × HeaderValue) :=
  if (58 : UInt8) ∉ line then .error "invalid plain http/1.1 trailer line"
  else
    let separator := line.idxOf 58
    match HeaderName.fromBytes (line.take separator) with
    | none => .error "invalid plain http/1.1 trailer name: invalid HTTP header name"
    | some name =>
      match HeaderValue.fromBytes (trimAsciiStart (line.drop (separator + 1))) with
      | none => .error (s!"invalid plain http/1.1 trailer value for \x60" ++
          String.ofList (name.bytes.map Text.byteChar) ++ "\x60: failed to parse header value")
      | some value => .ok (name, value)

/-- The text of a refused chunk size line. -/
def sizeMessage : ChunkSizeError → String
  | .invalidUtf8 err => s!"invalid utf-8 in plain http/1.1 chunk size line: {err.describe}"
  | .missing => "missing plain http/1.1 chunk size line"
  | .invalid value err =>
    s!"invalid plain http/1.1 chunk size \x60{String.ofList value}\x60: {err.describe}"

namespace PlainHttp1ResponseBody

/-- `PlainHttp1ResponseBody::new`. -/
def new (lease : PlainHttp1SenderLease κ) (kind : PlainHttp1BodyKind) :
    PlainHttp1ResponseBody κ :=
  ⟨lease, kind, none⟩

/-- `connection_mut` of the lease. -/
def connectionMut (body : PlainHttp1ResponseBody κ) :
    Except VmError PlainHttp1PooledConnection :=
  match body.lease.connection with
  | some connection => .ok connection
  | none => .error (.hostError "plain http/1.1 upstream connection lease is unavailable")

/-- The body after its connection was read from. -/
def withConnection (body : PlainHttp1ResponseBody κ) (connection : PlainHttp1PooledConnection) :
    PlainHttp1ResponseBody κ :=
  { body with lease := { body.lease with connection := some connection } }

/-- Leave with an error; the connection stays where it is. -/
def fail (body : PlainHttp1ResponseBody κ) (pool : PlainHttp1SenderPool κ) (err : VmError) :
    PullTurn κ :=
  .leave (.failed err, pool, body)

/-- Leave with an error after `mark_dirty`. -/
def failDirty (body : PlainHttp1ResponseBody κ) (pool : PlainHttp1SenderPool κ)
    (message : String) : PullTurn κ :=
  .leave (.failed (.hostError message), pool, { body with lease := body.lease.markDirty })

/-- Release the connection and leave. -/
def finish (body : PlainHttp1ResponseBody κ) (pool : PlainHttp1SenderPool κ)
    (chunk : Option (List UInt8)) : PullTurn κ :=
  let (pool, lease) := body.lease.release pool
  .leave (.ready chunk, pool, { body with lease := lease, kind := .done })

/-- Read more into the empty buffer and go round again, or see the stream end. -/
def readMore (body : PlainHttp1ResponseBody κ) (pool : PlainHttp1SenderPool κ)
    (connection : PlainHttp1PooledConnection) (kind : PlainHttp1BodyKind)
    (ended : PlainHttp1ResponseBody κ → PullTurn κ) : PullTurn κ :=
  match connection.readBuf with
  | (.ready 0, connection) => ended (body.withConnection connection)
  | (.ready (_ + 1), connection) =>
    .again (pool, { body.withConnection connection with kind := kind })
  | (.failed err, connection) => (body.withConnection connection).fail pool (readError err)
  | (.dropped, connection) => .leave (.dropped, pool, body.withConnection connection)

/-- The turn of `Fixed`. -/
def pullFixed (body : PlainHttp1ResponseBody κ) (pool : PlainHttp1SenderPool κ)
    (remaining : Nat) : PullTurn κ :=
  if remaining = 0 then body.finish pool none
  else
    match body.connectionMut with
    | .error err => body.fail pool err
    | .ok connection =>
      if connection.buffered.length = 0 then
        body.readMore pool connection (.fixed remaining) fun body => body.failDirty pool
          "plain http/1.1 upstream connection closed before fixed-length body completed"
      else
        let take := min connection.buffered.length remaining
        let chunk := connection.buffered.take take
        let body := body.withConnection (connection.advance take)
        if remaining - take = 0 then body.finish pool (some chunk)
        else .leave (.ready (some chunk), pool, { body with kind := .fixed (remaining - take) })

/-- The turn of `CloseDelimited`. -/
def pullCloseDelimited (body : PlainHttp1ResponseBody κ) (pool : PlainHttp1SenderPool κ) :
    PullTurn κ :=
  match body.connectionMut with
  | .error err => body.fail pool err
  | .ok connection =>
    if connection.buffered.length = 0 then
      body.readMore pool connection .closeDelimited fun body => body.finish pool none
    else
      .leave (.ready (some connection.buffered), pool,
        { body.withConnection (connection.advance connection.buffered.length) with
          kind := .closeDelimited })

/-- The turn of `NeedSize`. -/
def pullSize (body : PlainHttp1ResponseBody κ) (pool : PlainHttp1SenderPool κ) : PullTurn κ :=
  match body.connectionMut with
  | .error err => body.fail pool err
  | .ok connection =>
    match connection.readLine with
    | (.failed err, connection) => (body.withConnection connection).fail pool (readError err)
    | (.dropped, connection) => .leave (.dropped, pool, body.withConnection connection)
    | (.ready none, connection) =>
      (body.withConnection connection).failDirty pool
        "plain http/1.1 upstream connection closed while reading chunk size"
    | (.ready (some line), connection) =>
      match chunkSize line with
      -- a refused size line does not mark the lease
      | .error err => (body.withConnection connection).fail pool (.hostError (sizeMessage err))
      | .ok size =>
        .again (pool, { body.withConnection connection with
          kind := .chunked (if size = 0 then .readTrailers else .readData size) })

/-- The state after some of a chunk was handed out. -/
def afterData (remaining : Nat) : ChunkedState :=
  if remaining = 0 then .expectChunkTerminator else .readData remaining

/-- The turn of `ReadData`. -/
def pullData (body : PlainHttp1ResponseBody κ) (pool : PlainHttp1SenderPool κ)
    (remaining : Nat) : PullTurn κ :=
  if remaining = 0 then .again (pool, { body with kind := .chunked .expectChunkTerminator })
  else
    match body.connectionMut with
    | .error err => body.fail pool err
    | .ok connection =>
      if connection.buffered.length = 0 then
        body.readMore pool connection (.chunked (.readData remaining)) fun body =>
          body.failDirty pool
            "plain http/1.1 upstream connection closed before chunked body completed"
      else
        let take := min connection.buffered.length remaining
        .leave (.ready (some (connection.buffered.take take)), pool,
          { body.withConnection (connection.advance take) with
            kind := .chunked (afterData (remaining - take)) })

/-- The turn of `ExpectChunkTerminator`. -/
def pullTerminator (body : PlainHttp1ResponseBody κ) (pool : PlainHttp1SenderPool κ) :
    PullTurn κ :=
  match body.connectionMut with
  | .error err => body.fail pool err
  | .ok connection =>
    match connection.ensure 2 with
    | (.failed err, connection) => (body.withConnection connection).fail pool (readError err)
    | (.dropped, connection) => .leave (.dropped, pool, body.withConnection connection)
    | (.ready false, connection) =>
      (body.withConnection connection).failDirty pool
        "plain http/1.1 upstream connection closed before chunk terminator"
    | (.ready true, connection) =>
      if connection.buffered.take 2 = crlf then
        .again (pool, { body.withConnection (connection.advance 2) with
          kind := .chunked .needSize })
      else
        (body.withConnection (connection.advance 2)).failDirty pool
          "invalid plain http/1.1 chunk terminator"

/-- The turn of `ReadTrailers`. -/
def pullTrailer (body : PlainHttp1ResponseBody κ) (pool : PlainHttp1SenderPool κ) :
    PullTurn κ :=
  match body.connectionMut with
  | .error err => body.fail pool err
  | .ok connection =>
    match connection.readLine with
    | (.failed err, connection) => (body.withConnection connection).fail pool (readError err)
    | (.dropped, connection) => .leave (.dropped, pool, body.withConnection connection)
    | (.ready none, connection) =>
      (body.withConnection connection).failDirty pool
        "plain http/1.1 upstream connection closed while reading trailers"
    | (.ready (some line), connection) =>
      if line = [] then (body.withConnection connection).finish pool none
      else
        match trailerEntry line with
        | .error message => (body.withConnection connection).failDirty pool message
        | .ok (name, value) =>
          .again (pool, { body.withConnection connection with
            trailers := some ((body.trailers.getD []).add name value)
            kind := .chunked .readTrailers })

/-- One turn of the loop of `pull_next`. -/
def pullTurn (state : PlainHttp1SenderPool κ × PlainHttp1ResponseBody κ) : PullTurn κ :=
  let (pool, body) := state
  let held := { body with kind := .done }
  match body.kind with
  | .done => .leave (.ready none, pool, held)
  | .fixed remaining => held.pullFixed pool remaining
  | .closeDelimited => held.pullCloseDelimited pool
  | .chunked .needSize => held.pullSize pool
  | .chunked (.readData remaining) => held.pullData pool remaining
  | .chunked .expectChunkTerminator => held.pullTerminator pool
  | .chunked .readTrailers => held.pullTrailer pool

/-- What every turn that goes round again lowers. -/
def weight (body : PlainHttp1ResponseBody κ) : Nat :=
  (match body.lease.connection with
    | some connection => connection.weight
    | none => 0) +
  match body.kind with
  | .chunked (.readData _) => 1
  | _ => 0

end PlainHttp1ResponseBody

end PdEdge.Upstream

import PdEdge.Lib.AsyncRead
import PdEdge.Output.Calls

/-!
# Proxy byte streams

A proxy stream handle stands for one of seven endpoints, with two marks on its write side: that
it was written to, and that it is closed. Reading, writing and closing a handle act on what the
endpoint stands for: the request body, the response output, the body and the response of an
exchange, a transport or the binary messages of a WebSocket. The operations of other libraries
are given by what awaiting them brings.
-/

namespace PdEdge.Proxy

open Output State Streams Wire

/-- The transports that a handle can stand for. -/
inductive Carrier where
  | tcp
  | tls
  deriving DecidableEq

/-- `ProxyByteStreamEndpoint`; `DynamicTcp` and `DynamicTls` are one constructor. -/
inductive ProxyByteStreamEndpoint where
  | httpDownstream
  | downstreamConnect
  | downstreamWebSocketBinary
  | httpExchange (exchange : Int)
  | dynamic (carrier : Carrier) (handle : Int)
  | webSocketBinary (connection : Int)
  deriving DecidableEq

/-- `ProxyByteStreamState`. -/
structure ProxyByteStreamState where
  endpoint : ProxyByteStreamEndpoint
  writeObserved : Bool
  writeClosed : Bool

/-- `ProxyByteStreamState::new`. -/
def ProxyByteStreamState.new (endpoint : ProxyByteStreamEndpoint) : ProxyByteStreamState :=
  ⟨endpoint, false, false⟩

/-- `ProxyReadStep`. -/
inductive ProxyReadStep where
  | data (bytes : List UInt8)
  | eof
  | waitingForWriteClose
  | blocked

/-! ## What the endpoints stand for -/

/-- How awaiting one operation on a write side ends; of a write that does not return well, only
some bytes may have gone out. -/
inductive WriteEvent where
  | done
  | fails (count : Nat) (err : String)
  | dropped (count : Nat)

/-- The write side of a transport: the bytes that went out, how often it was shut down, and what
awaiting the next operations brings; behind those every one returns well. -/
structure Sink where
  sent : List UInt8
  shutdowns : Nat
  events : List WriteEvent

namespace Sink

/-- An operation that adds bytes. -/
def perform (sink : Sink) (bytes : List UInt8) : Awaited String Unit × Sink :=
  match sink.events with
  | [] => (.ready (), { sink with sent := sink.sent ++ bytes })
  | .done :: rest => (.ready (), { sink with sent := sink.sent ++ bytes, events := rest })
  | .fails count err :: rest =>
    (.failed err, { sink with sent := sink.sent ++ bytes.take count, events := rest })
  | .dropped count :: rest =>
    (.dropped, { sink with sent := sink.sent ++ bytes.take count, events := rest })

/-- `write_all`. -/
def writeAll (sink : Sink) (bytes : List UInt8) : Awaited String Unit × Sink := sink.perform bytes

/-- `flush`. -/
def flush (sink : Sink) : Awaited String Unit × Sink := sink.perform []

/-- `shutdown`. -/
def shutdown (sink : Sink) : Awaited String Unit × Sink :=
  { sink with shutdowns := sink.shutdowns + 1 }.perform []

end Sink

/-- A transport; one that has failed is not active any more. -/
structure Transport where
  socket : Socket String
  sink : Sink
  active : Bool

/-- An outbound exchange: whether it was turned into a WebSocket and has a target, the body set for
its request, the body of its response if that is ready, and what the upstream answers to the
request. -/
structure Exchange where
  isWebsocketMode : Bool
  hasTarget : Bool
  bodyOverride : Option (List UInt8)
  response : Option (Socket VmError)
  answer : Awaited VmError (Socket VmError)

/-- A WebSocket connection by its binary messages; behind the listed ones it has ended. -/
structure WebSocketIo where
  messages : List (Awaited VmError (List UInt8))
  sink : Sink

/-- What proxy streams act on. -/
structure ProxyIo where
  /-- `proxy_stream_handles`. -/
  streams : Int → Option ProxyByteStreamState
  request : Socket VmError
  output : HttpResponseOutputNode
  sound : output.Sound
  exchanges : Int → Option Exchange
  transports : Carrier → Int → Option Transport
  websockets : Int → WebSocketIo

/-! ## Handles -/

/-- `reserved_proxy_stream_endpoint`. -/
def reservedProxyStreamEndpoint (handle : Int) : Option ProxyByteStreamEndpoint :=
  if handle = -1 then some .httpDownstream
  else if handle = -2 then some .downstreamConnect
  else if handle = -3 then some (.httpExchange defaultUpstreamExchangeHandle)
  else none

/-- `unknown_proxy_stream_handle`. -/
def unknownProxyStreamHandle (handle : Int) : VmError :=
  .hostError s!"unknown proxy byte-stream handle {handle}"

namespace ProxyIo

variable (io : ProxyIo)

/-- The state of a handle; a reserved one has a state before it is used. -/
def stream? (handle : Int) : Option ProxyByteStreamState :=
  match io.streams handle with
  | some stream => some stream
  | none => (reservedProxyStreamEndpoint handle).map .new

/-- `proxy_stream_state`. -/
def proxyStreamState (handle : Int) : Except VmError ProxyByteStreamState :=
  match io.stream? handle with
  | some stream => .ok stream
  | none => .error (unknownProxyStreamHandle handle)

/-- Replace the state of a handle. -/
def setStream (handle : Int) (stream : ProxyByteStreamState) : ProxyIo :=
  { io with streams := fun other => if other = handle then some stream else io.streams other }

/-- `prepare_proxy_stream_write`. -/
def prepareProxyStreamWrite (handle : Int) : Except VmError ProxyByteStreamEndpoint × ProxyIo :=
  match io.stream? handle with
  | none => (.error (unknownProxyStreamHandle handle), io)
  | some stream =>
    if stream.writeClosed then
      (.error (.hostError s!"proxy byte-stream handle {handle} is write-closed"),
        io.setStream handle stream)
    else (.ok stream.endpoint, io.setStream handle { stream with writeObserved := true })

/-- `mark_proxy_stream_write_closed`. -/
def markProxyStreamWriteClosed (handle : Int) :
    Except VmError ProxyByteStreamEndpoint × ProxyIo :=
  match io.stream? handle with
  | none => (.error (unknownProxyStreamHandle handle), io)
  | some stream => (.ok stream.endpoint, io.setStream handle { stream with writeClosed := true })

/-! ## Transports -/

/-- Replace a transport. -/
def setTransport (carrier : Carrier) (handle : Int) (transport : Transport) : ProxyIo :=
  { io with transports := fun other number =>
      if other = carrier ∧ number = handle then some transport else io.transports other number }

end ProxyIo

/-- The name of a carrier in messages. -/
def Carrier.label : Carrier → String
  | tcp => "tcp"
  | tls => "tls plaintext"

/-- `dynamic_tcp_proxy_io` and `dynamic_tls_proxy_io`: the error without a transport. -/
def Carrier.missing (handle : Int) : Carrier → VmError
  | tcp => .hostError s!"dynamic tcp stream handle {handle} has no active transport"
  | tls => .hostError s!"dynamic tls session handle {handle} has no active plaintext transport"

/-- The result of an operation on a transport, and all that proxy streams act on behind it. -/
abbrev Acted (α : Type) := Awaited VmError α × ProxyIo

namespace ProxyIo

variable (io : ProxyIo)

/-- Await an operation on a transport; an error ends it. -/
def onTransport {α : Type} (carrier : Carrier) (handle : Int) (verb : String)
    (operation : Transport → Awaited String α × Transport) : Acted α :=
  match io.transports carrier handle with
  | none => (.failed (carrier.missing handle), io)
  | some transport =>
    if transport.active then
      let operated := operation transport
      match operated.1 with
      | .ready value => (.ready value, io.setTransport carrier handle operated.2)
      | .dropped => (.dropped, io.setTransport carrier handle operated.2)
      | .failed err =>
        let label := carrier.label
        (.failed (.hostError s!"proxy {label} {verb} failed: {err}"),
          io.setTransport carrier handle { operated.2 with active := false })
    else (.failed (carrier.missing handle), io)

/-! ## Reading -/

/-- Await a read of a socket with room for so many bytes. -/
def awaitSocket {ε : Type} (socket : Socket ε) (maxBytes : Nat) :
    Awaited ε (List UInt8) × Socket ε :=
  let polled := pollSocket socket maxBytes
  match polled.1 with
  | .ready bytes => (.ready bytes, polled.2)
  | .failed err => (.failed err, polled.2)
  | .pending => (.dropped, polled.2)

/-- `BufferedByteStream::eof` of a body that comes in these reads. -/
def socketEof {ε : Type} : Socket ε → Awaited ε Bool × Socket ε
  | [] => (.ready true, [])
  | .data segment :: rest => (.ready false, .data segment :: rest)
  | .error err :: rest => (.failed err, rest)
  | .dropped :: rest => (.dropped, rest)

/-- A chunk that was read; none at all is the end. -/
def stepOf (bytes : List UInt8) : ProxyReadStep := if bytes.isEmpty then .eof else .data bytes

/-- Go on with what was awaited. -/
def Acted.map {α β : Type} (acted : Acted α) (next : α → β) : Acted β :=
  (match acted.1 with
    | .ready value => .ready (next value)
    | .failed err => .failed err
    | .dropped => .dropped, acted.2)

/-- Replace an exchange. -/
def setExchange (handle : Int) (exchange : Exchange) : ProxyIo :=
  { io with exchanges := fun other =>
      if other = handle then some exchange else io.exchanges other }

/-- `outbound_exchange_response_available`. -/
def responseAvailable (handle : Int) : Bool :=
  (io.exchanges handle).any fun exchange => exchange.response.isSome

/-- `prepared_outbound_exchange_request`, as far as it fails. -/
def preparedOutboundExchangeRequest (handle : Int) (exchange : Exchange) :
    Except UpstreamResponseStartError Unit :=
  if exchange.isWebsocketMode then
    .error (.protocol (if handle = defaultUpstreamExchangeHandle then
      "default upstream exchange is already owned by the websocket DAG"
    else s!"outbound exchange handle {handle} is already owned by the websocket DAG"))
  else if !exchange.hasTarget then .error .missingTarget
  else .ok ()

/-- `ensure_outbound_exchange_response_started`: the body of the response. -/
def ensureResponseStarted (handle : Int) : Acted (Exchange × Socket VmError) :=
  match io.exchanges handle with
  | none => (.failed (asVmError (.unknownExchangeHandle handle)), io)
  | some exchange =>
    match exchange.response with
    | some socket => (.ready (exchange, socket), io)
    | none =>
      match preparedOutboundExchangeRequest handle exchange, exchange.answer with
      | .error err, _ => (.failed (asVmError err), io)
      | .ok (), .ready socket =>
        (.ready (exchange, socket), io.setExchange handle { exchange with response := some socket })
      | .ok (), .failed err => (.failed err, io)
      | .ok (), .dropped => (.dropped, io)

/-- Await an operation on the body of a response. -/
def onResponse {α : Type} (handle : Int)
    (operation : Socket VmError → Awaited VmError α × Socket VmError) : Acted α :=
  match io.ensureResponseStarted handle with
  | (.ready (exchange, socket), io) =>
    let operated := operation socket
    (operated.1, io.setExchange handle { exchange with response := some operated.2 })
  | (.failed err, io) => (.failed err, io)
  | (.dropped, io) => (.dropped, io)

/-- The read of an exchange, which starts it. -/
def readExchange (exchange : Int) (maxBytes : Nat) : Acted ProxyReadStep :=
  match io.onResponse exchange (awaitSocket · maxBytes) with
  | (.ready chunk, io) =>
    if chunk.isEmpty then
      Acted.map (io.onResponse exchange socketEof) fun ended => if ended then .eof else .blocked
    else (.ready (.data chunk), io)
  | (.failed err, io) => (.failed err, io)
  | (.dropped, io) => (.dropped, io)

/-- `read_websocket_binary_bytes`. -/
def readWebSocket (connection : Int) : Acted ProxyReadStep :=
  let websocket := io.websockets connection
  let after (rest : List (Awaited VmError (List UInt8))) : ProxyIo :=
    { io with websockets := fun other =>
        if other = connection then { websocket with messages := rest } else io.websockets other }
  match websocket.messages with
  | [] => (.ready .eof, io)
  | .ready bytes :: rest => (.ready (.data bytes), after rest)
  | .failed err :: rest => (.failed err, after rest)
  | .dropped :: rest => (.dropped, after rest)

/-- The error of an endpoint that only `proxy::forward` serves. -/
def tunnelOnly (kind : String) : VmError :=
  .hostError s!"downstream {kind} tunnels are only available through proxy::forward"

/-- `proxy_stream_read_step`. -/
def readStep (handle : Int) (maxBytes : Nat) : Acted ProxyReadStep :=
  match io.proxyStreamState handle with
  | .error err => (.failed err, io)
  | .ok stream =>
    match stream.endpoint with
    | .httpDownstream =>
      let awaited := awaitSocket io.request maxBytes
      Acted.map (awaited.1, { io with request := awaited.2 }) stepOf
    | .downstreamConnect => (.failed (tunnelOnly "connect"), io)
    | .downstreamWebSocketBinary => (.failed (tunnelOnly "websocket"), io)
    | .httpExchange exchange =>
      if !io.responseAvailable exchange && stream.writeObserved && !stream.writeClosed then
        (.ready .waitingForWriteClose, io)
      else io.readExchange exchange maxBytes
    | .dynamic carrier handle =>
      Acted.map (io.onTransport carrier handle "read" fun transport =>
        let awaited := awaitSocket transport.socket maxBytes
        (awaited.1, { transport with socket := awaited.2 })) stepOf
    | .webSocketBinary connection => io.readWebSocket connection

/-! ## Writing and closing -/

/-- `append_response_output_body_bytes`. -/
def appendResponseOutput (bytes : List UInt8) : Acted Unit :=
  let called := io.output.writeStreamBytes bytes .implicitBuffered
  let io := { io with
    output := called.2
    sound := HttpResponseOutputNode.Sound.writeStreamBytes io.sound bytes .implicitBuffered }
  match called.1 with
  | .ok () => (.ready (), io)
  | .error err => (.failed err, io)

/-- `append_outbound_exchange_body_bytes`. -/
def appendExchangeBody (handle : Int) (bytes : List UInt8) : Acted Unit :=
  match io.exchanges handle with
  | none => (.failed (.hostError s!"unknown outbound exchange handle {handle}"), io)
  | some exchange =>
    if exchange.response.isSome then
      (.failed (.hostError (if handle = defaultUpstreamExchangeHandle then
        "default upstream stream is read-only after the upstream exchange has started"
      else
        s!"outbound exchange handle {handle} is read-only after the exchange has started")), io)
    else
      (.ready (), io.setExchange handle
        { exchange with bodyOverride := some (exchange.bodyOverride.getD [] ++ bytes) })

/-- An operation on the write side of a transport. -/
def onSink (operation : Sink → Awaited String Unit × Sink) (transport : Transport) :
    Awaited String Unit × Transport :=
  let operated := operation transport.sink
  (operated.1, { transport with sink := operated.2 })

/-- The write of a transport, and the flush behind it. -/
def writeTransport (carrier : Carrier) (handle : Int) (bytes : List UInt8) : Acted Unit :=
  match io.onTransport carrier handle "write" (onSink (·.writeAll bytes)) with
  | (.ready (), io) => io.onTransport carrier handle "flush" (onSink Sink.flush)
  | other => other

/-- Await an operation on a WebSocket. -/
def onWebSocket (connection : Int) (operation : Sink → Awaited String Unit × Sink) : Acted Unit :=
  let websocket := io.websockets connection
  let operated := operation websocket.sink
  let io := { io with websockets := fun other =>
    if other = connection then { websocket with sink := operated.2 } else io.websockets other }
  match operated.1 with
  | .ready () => (.ready (), io)
  | .failed err => (.failed (.hostError err), io)
  | .dropped => (.dropped, io)

/-- The write of an endpoint. -/
def writeEndpoint (bytes : List UInt8) : ProxyByteStreamEndpoint → Acted Unit
  | .httpDownstream => io.appendResponseOutput bytes
  | .downstreamConnect => (.failed (tunnelOnly "connect"), io)
  | .downstreamWebSocketBinary => (.failed (tunnelOnly "websocket"), io)
  | .httpExchange exchange => io.appendExchangeBody exchange bytes
  | .dynamic carrier handle => io.writeTransport carrier handle bytes
  | .webSocketBinary connection => io.onWebSocket connection (·.writeAll bytes)

/-- `proxy_stream_write_bytes`. -/
def writeBytes (handle : Int) (bytes : List UInt8) : Acted Unit :=
  if bytes.isEmpty then (.ready (), io)
  else
    match io.prepareProxyStreamWrite handle with
    | (.error err, io) => (.failed err, io)
    | (.ok endpoint, io) => io.writeEndpoint bytes endpoint

/-- The end of the write side of an endpoint. -/
def closeEndpoint : ProxyByteStreamEndpoint → Acted Unit
  | .dynamic carrier handle => io.onTransport carrier handle "shutdown" (onSink Sink.shutdown)
  | .webSocketBinary connection => io.onWebSocket connection Sink.shutdown
  | .httpDownstream => (.ready (), io)
  | .downstreamConnect => (.ready (), io)
  | .downstreamWebSocketBinary => (.ready (), io)
  | .httpExchange _ => (.ready (), io)

/-- `proxy_stream_close_write`. -/
def closeWrite (handle : Int) : Acted Unit :=
  match io.markProxyStreamWriteClosed handle with
  | (.error err, io) => (.failed err, io)
  | (.ok endpoint, io) => io.closeEndpoint endpoint

end ProxyIo

end PdEdge.Proxy

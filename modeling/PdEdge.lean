import PdEdge.Debug
import PdEdge.Downstream.Buffering
import PdEdge.Downstream.Detection
import PdEdge.Mqtt.Delivery
import PdEdge.Mqtt.Reading
import PdEdge.Output.Agreement
import PdEdge.Output.Commit
import PdEdge.Output.CommitWait
import PdEdge.Proxy.Forward
import PdEdge.Proxy.Pipe
import PdEdge.Proxy.Relay
import PdEdge.Proxy.WriteClose
import PdEdge.RateLimiter
import PdEdge.State.BodyMarks
import PdEdge.State.BodyText
import PdEdge.State.Delivery
import PdEdge.State.Given
import PdEdge.State.Replay
import PdEdge.Strictness
import PdEdge.Transport.Isolation
import PdEdge.Transport.Preread
import PdEdge.Upstream.Http3Session
import PdEdge.Upstream.SingleFlight
import PdEdge.Upstream.Synchrony
import PdEdge.WebRtc.Waiting
import PdEdge.WebSocket.Delivery
import PdEdge.WebSocket.Phases

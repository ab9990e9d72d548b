import PdEdge.State.Outbound

/-!
# TLS settings of an upstream flow

A program configures the TLS flow of an exchange by calls, and setting a target gives the flow
the name of its host. What is negotiated for one exchange may be used for another if both have the
same cache key, which is made of the origin and the settings; the texts of certificates and keys
enter it by a fingerprint. The key needs the host in a form that is read back as an authority.
-/

namespace PdEdge.Transport

open Text State

/-- `to_ascii_lowercase`. -/
def toAsciiLowercase (text : List Char) : List Char := text.map Char.toLower

/-- `TlsProtocolVersion`. -/
inductive TlsProtocolVersion where
  | tls10
  | tls11
  | tls12
  | tls13
  deriving DecidableEq, Repr

/-- `TlsFlowState`, as far as it enters a connection to an upstream. -/
structure TlsFlowState where
  present : Bool
  peerName : Option (List Char)
  serverName : Option (List Char)
  desiredAlpn : List (List Char)
  verifyPeer : Bool
  verifyHostname : Bool
  sniEnabled : Bool
  trustedCertificatePem : Option (List Char)
  clientCertificatePem : Option (List Char)
  clientPrivateKeyPem : Option (List Char)
  minVersion : Option TlsProtocolVersion
  maxVersion : Option TlsProtocolVersion

namespace TlsFlowState

/-- `Default`. -/
def default : TlsFlowState :=
  ⟨false, none, none, [], true, true, true, none, none, none, none, none⟩

/-- `observe_target_parts`. -/
def observeTargetParts (flow : TlsFlowState) (tlsPresent : Bool) (peerName : Option (List Char)) :
    TlsFlowState :=
  { flow with
    present := tlsPresent
    peerName := peerName
    serverName := if tlsPresent && flow.sniEnabled then peerName else none }

end TlsFlowState

/-- An empty text takes a certificate or a key away. -/
def pemText (text : List Char) : Option (List Char) := if text = [] then none else some text

/-- The calls that configure a flow. -/
inductive TlsSetting where
  | desiredAlpn (protocols : List (List Char))
  | verifyPeer (verify : Bool)
  | verifyHostname (verify : Bool)
  | sniEnabled (enabled : Bool)
  | trustedCertificatePem (text : List Char)
  | clientCertificatePem (text : List Char)
  | clientPrivateKeyPem (text : List Char)
  | minVersion (version : Option TlsProtocolVersion)
  | maxVersion (version : Option TlsProtocolVersion)

/-- `set_desired_alpn`, `set_verify_peer` and the others of their kind. -/
def TlsSetting.apply (flow : TlsFlowState) : TlsSetting → TlsFlowState
  | .desiredAlpn protocols => { flow with desiredAlpn := protocols }
  | .verifyPeer verify => { flow with verifyPeer := verify }
  | .verifyHostname verify => { flow with verifyHostname := verify }
  | .sniEnabled enabled =>
    { flow with
      sniEnabled := enabled
      serverName :=
        if enabled then if flow.present then flow.peerName else flow.serverName else none }
  | .trustedCertificatePem text => { flow with trustedCertificatePem := pemText text }
  | .clientCertificatePem text => { flow with clientCertificatePem := pemText text }
  | .clientPrivateKeyPem text => { flow with clientPrivateKeyPem := pemText text }
  | .minVersion version => { flow with minVersion := version }
  | .maxVersion version => { flow with maxVersion := version }

/-- `CachedTlsSession`, by its names. -/
structure CachedTlsSession where
  peerName : Option (List Char)
  serverName : Option (List Char)

/-- What `cache_outbound_tls_session` keeps of a flow. -/
def TlsFlowState.cached (flow : TlsFlowState) : CachedTlsSession :=
  ⟨flow.peerName.filter (· ≠ []), flow.serverName.filter (· ≠ [])⟩

/-- `mark_session_reused`. -/
def TlsFlowState.markSessionReused (flow : TlsFlowState) (cached : CachedTlsSession) :
    TlsFlowState :=
  if flow.present then
    let peerName := cached.peerName.or flow.peerName
    { flow with
      peerName := peerName
      serverName := if flow.sniEnabled then cached.serverName.or peerName else none }
  else flow

/-! ## Keys -/

section

variable (libraries : UrlLibraries)

/-- `normalize_authority_host`. -/
def normalizeAuthorityHost (value : List Char) : Option (List Char) :=
  match libraries.authorityHost value with
  | none => none
  | some host =>
    let bracket (char : Char) : Bool := char == '[' || char == ']'
    let host := (host.dropWhile bracket).rdropWhile bracket
    if host = [] then none else some host

/-- The text of an origin. -/
def originText (scheme host : List Char) (port : Nat) : List Char :=
  scheme ++ "://".toList ++ host ++ ':' :: Nat.toDigits 10 port

/-- `tls_session_origin`. -/
def tlsSessionOrigin (scheme host : List Char) (port : Nat) : Option (List Char) :=
  (normalizeAuthorityHost libraries host).map fun host =>
    originText (toAsciiLowercase scheme) (toAsciiLowercase host) port

/-- `TlsSessionCacheKey`, with fingerprints of any type. -/
structure TlsSessionCacheKey (φ : Type) where
  origin : List Char
  desiredAlpn : List (List Char)
  verifyPeer : Bool
  verifyHostname : Bool
  sniEnabled : Bool
  trustedCertificateFingerprint : Option φ
  clientCertificateFingerprint : Option φ
  clientPrivateKeyFingerprint : Option φ
  minVersion : Option TlsProtocolVersion
  maxVersion : Option TlsProtocolVersion
  deriving DecidableEq

variable {φ : Type} (fingerprint : List Char → φ)

/-- `tls_session_cache_key`. -/
def tlsSessionCacheKey (scheme host : List Char) (port : Nat) (flow : TlsFlowState) :
    Option (TlsSessionCacheKey φ) :=
  if flow.present then
    (tlsSessionOrigin libraries scheme host port).map fun origin =>
      { origin
        desiredAlpn := flow.desiredAlpn
        verifyPeer := flow.verifyPeer
        verifyHostname := flow.verifyHostname
        sniEnabled := flow.sniEnabled
        trustedCertificateFingerprint := flow.trustedCertificatePem.map fingerprint
        clientCertificateFingerprint := flow.clientCertificatePem.map fingerprint
        clientPrivateKeyFingerprint := flow.clientPrivateKeyPem.map fingerprint
        minVersion := flow.minVersion
        maxVersion := flow.maxVersion }
  else none

/-- `Http2UpstreamMode`. -/
inductive Http2UpstreamMode where
  | disabled
  | automaticTls
  | priorKnowledge
  deriving DecidableEq, Repr

/-- `Http3UpstreamMode`. -/
inductive Http3UpstreamMode where
  | disabled
  | preferred
  | required
  deriving DecidableEq, Repr

/-- Some wanted protocol has this name, in whatever case. -/
def TlsFlowState.offers (flow : TlsFlowState) (protocol : String) : Bool :=
  flow.desiredAlpn.any fun wanted => strEqIgnoreAsciiCase wanted protocol.toList

/-- `http2::select_upstream_mode`. -/
def selectHttp2Mode (scheme : HttpUpstreamScheme) (flow : TlsFlowState)
    (preference : HttpVersionPreference) : Http2UpstreamMode :=
  match preference with
  | .http1 | .http3 => .disabled
  | .http2 => if scheme = .https then .automaticTls else .priorKnowledge
  | .auto =>
    if flow.desiredAlpn ≠ [] ∧ flow.offers "http/1.1" ∧ ¬ flow.offers "h2" then .disabled
    else
      match scheme with
      | .https => .automaticTls
      | .http => if flow.offers "h2" then .priorKnowledge else .disabled

/-- `http3::select_upstream_mode`. -/
def selectHttp3Mode (scheme : HttpUpstreamScheme) (flow : TlsFlowState)
    (preference : HttpVersionPreference) : Http3UpstreamMode :=
  match preference with
  | .http1 | .http2 => .disabled
  | .http3 => if scheme = .https then .required else .disabled
  | .auto => if scheme = .https ∧ flow.offers "h3" then .preferred else .disabled

/-- `session_origin`. -/
def sessionOrigin (scheme : HttpUpstreamScheme) (host : List Char) (port : Nat) :
    Option (List Char) :=
  if host = [] ∨ port = 0 then none
  else some (originText scheme.asStr (toAsciiLowercase host) port)

/-- `Http2SessionKey`. -/
structure Http2SessionKey (φ : Type) where
  origin : List Char
  mode : Http2UpstreamMode
  tlsKey : Option (TlsSessionCacheKey φ)
  deriving DecidableEq

/-- `http2::upstream::session_key`. -/
def http2SessionKey (scheme : HttpUpstreamScheme) (host : List Char) (port : Nat)
    (mode : Http2UpstreamMode) (flow : TlsFlowState) : Option (Http2SessionKey φ) :=
  (sessionOrigin scheme host port).map fun origin =>
    { origin
      mode
      tlsKey :=
        if flow.present then tlsSessionCacheKey libraries fingerprint scheme.asStr host port flow
        else none }

/-- `Http3SessionKey`. -/
structure Http3SessionKey (φ : Type) where
  origin : List Char
  tlsKey : Option (TlsSessionCacheKey φ)
  deriving DecidableEq

/-- `http3::upstream::session_key`. -/
def http3SessionKey (scheme : HttpUpstreamScheme) (host : List Char) (port : Nat)
    (flow : TlsFlowState) : Option (Http3SessionKey φ) :=
  (sessionOrigin scheme host port).map fun origin =>
    ⟨origin, tlsSessionCacheKey libraries fingerprint scheme.asStr host port flow⟩

/-- `target_pool_key` for an HTTPS target; without a key there is an error and no connection. -/
def http1PoolKey (host : List Char) (port : Nat) (flow : TlsFlowState) :
    Option (TlsSessionCacheKey φ) :=
  tlsSessionCacheKey libraries fingerprint "https".toList host port flow

end

end PdEdge.Transport

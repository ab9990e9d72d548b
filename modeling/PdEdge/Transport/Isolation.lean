import PdEdge.Lib.KeyedPool
import PdEdge.Transport.Tls

/-!
# Which exchanges share an upstream session

Connections of HTTP/1.1 and sessions of HTTP/2 and HTTP/3 are kept by key, so two HTTPS exchanges
can be served by one only if they have the same key. For a target that is a name or an IPv4
address the key has the origin and every setting. A target that is an IPv6 address is kept without
its brackets, and such a host is read back as no authority: there is no key for HTTP/1.1, and
those for HTTP/2 and HTTP/3 have the origin alone.
-/

namespace PdEdge.Transport

open State List

/-! ## Hosts -/

/-- A name or an IPv4 address. -/
def PlainHost (host : List Char) : Prop := ':' ∉ host ∧ '[' ∉ host ∧ ']' ∉ host

/-- An IPv6 address without brackets. -/
def Ipv6Host (host : List Char) : Prop := 2 ≤ host.count ':' ∧ '[' ∉ host ∧ ']' ∉ host

instance (host : List Char) : Decidable (PlainHost host) :=
  inferInstanceAs (Decidable (_ ∧ _ ∧ _))

instance (host : List Char) : Decidable (Ipv6Host host) :=
  inferInstanceAs (Decidable (_ ∧ _ ∧ _))

/-- The ways a program writes a host. -/
inductive Spelled : List Char → Prop where
  | plain {host : List Char} : PlainHost host → Spelled host
  | bare {host : List Char} : Ipv6Host host → Spelled host
  | bracketed {host : List Char} : Ipv6Host host → Spelled ('[' :: host ++ [']'])

/-- What the authority parser of the `http` crate does with the texts it is given here. -/
structure AuthorityLaws (libraries : UrlLibraries) : Prop where
  /-- More than one colon outside of brackets is refused. -/
  colons : ∀ text,
    '[' ∉ text → '@' ∉ text → 2 ≤ text.count ':' → libraries.authorityHost text = none
  /-- A name that is accepted with a port is its host, and is accepted alone unless empty. -/
  named : ∀ name port host, PlainHost name → '@' ∉ name →
    libraries.authorityHost (name ++ ':' :: Nat.toDigits 10 port) = some host →
    host = name ∧ (name ≠ [] → libraries.authorityHost name = some name)
  /-- The host of a bracketed address has the brackets. -/
  bracketed : ∀ inner port host, '[' ∉ inner → ']' ∉ inner →
    libraries.authorityHost ('[' :: inner ++ "]:".toList ++ Nat.toDigits 10 port) = some host →
    host = '[' :: inner ++ [']']

/-- The host and port of a target that a program has set. -/
def Target (libraries : UrlLibraries) (host : List Char) (port : Nat) : Prop :=
  ∃ given target, Spelled given ∧ buildUpstreamOrigin libraries .https given port = .ok target ∧
    target.host = host

/-! ## Exchanges -/

section

variable (libraries : UrlLibraries) {φ : Type} (fingerprint : List Char → φ)

/-- The flows of an exchange with a target: the target was observed, whatever the flow was, and
settings were made; or a session was found in the cache that an exchange with the same key had
left there. -/
inductive Configured : List Char → Nat → TlsFlowState → Prop where
  | observed (host : List Char) (port : Nat) (flow : TlsFlowState) :
    Configured host port (flow.observeTargetParts true (some host))
  | set {host : List Char} {port : Nat} {flow : TlsFlowState} (setting : TlsSetting) :
    Configured host port flow → Configured host port (setting.apply flow)
  | reused {host other : List Char} {port otherPort : Nat} {flow earlier : TlsFlowState}
    {key : TlsSessionCacheKey φ} :
    Configured host port flow → Configured other otherPort earlier →
    Target libraries other otherPort →
    tlsSessionCacheKey libraries fingerprint "https".toList host port flow = some key →
    tlsSessionCacheKey libraries fingerprint "https".toList other otherPort earlier = some key →
    Configured host port (flow.markSessionReused earlier.cached)

/-- An exchange with an HTTPS target. -/
structure HttpsExchange where
  host : List Char
  port : Nat
  preference : HttpVersionPreference
  flow : TlsFlowState
  target : Target libraries host port
  configured : Configured libraries fingerprint host port flow

/-- The protocols an exchange can be sent by. -/
inductive Protocol where
  | http1
  | http2
  | http3
  deriving DecidableEq, Repr

/-- The keys of the three stores. -/
inductive SessionKey (φ : Type) where
  | http1 (key : TlsSessionCacheKey φ)
  | http2 (key : Http2SessionKey φ)
  | http3 (key : Http3SessionKey φ)
  deriving DecidableEq

namespace HttpsExchange

variable {libraries fingerprint}

/-- The session mode of an exchange over HTTP/2. -/
def mode (exchange : HttpsExchange libraries fingerprint) : Http2UpstreamMode :=
  selectHttp2Mode .https exchange.flow exchange.preference

/-- The protocol is not disabled for the exchange. -/
def uses (exchange : HttpsExchange libraries fingerprint) : Protocol → Bool
  | .http1 => true
  | .http2 => exchange.mode ≠ .disabled
  | .http3 => selectHttp3Mode .https exchange.flow exchange.preference ≠ .disabled

/-- The key an exchange asks the store of a protocol with. -/
def sessionKey (protocol : Protocol) (exchange : HttpsExchange libraries fingerprint) :
    Option (SessionKey φ) :=
  if exchange.uses protocol then
    match protocol with
    | .http1 => (http1PoolKey libraries fingerprint exchange.host exchange.port exchange.flow).map
      .http1
    | .http2 => (http2SessionKey libraries fingerprint .https exchange.host exchange.port
      exchange.mode exchange.flow).map .http2
    | .http3 => (http3SessionKey libraries fingerprint .https exchange.host exchange.port
      exchange.flow).map .http3
  else none

/-- The same host, whatever the case of its letters, the same port, and over HTTP/2 the same
session mode. -/
structure SameTarget (first : HttpsExchange libraries fingerprint) (protocol : Protocol)
    (second : HttpsExchange libraries fingerprint) : Prop where
  host : toAsciiLowercase first.host = toAsciiLowercase second.host
  port : first.port = second.port
  mode : protocol = .http2 → first.mode = second.mode

/-- The same settings for authentication and negotiation. -/
structure SameSettings (first second : HttpsExchange libraries fingerprint) : Prop where
  verifyPeer : first.flow.verifyPeer = second.flow.verifyPeer
  verifyHostname : first.flow.verifyHostname = second.flow.verifyHostname
  trustedCertificate : first.flow.trustedCertificatePem = second.flow.trustedCertificatePem
  clientCertificate : first.flow.clientCertificatePem = second.flow.clientCertificatePem
  clientPrivateKey : first.flow.clientPrivateKeyPem = second.flow.clientPrivateKeyPem
  alpn : first.flow.desiredAlpn = second.flow.desiredAlpn
  serverName : first.flow.serverName.map toAsciiLowercase =
    second.flow.serverName.map toAsciiLowercase
  minVersion : first.flow.minVersion = second.flow.minVersion
  maxVersion : first.flow.maxVersion = second.flow.maxVersion

end HttpsExchange

end

/-! ## Origins and hosts -/

theorem colon_notMem_toDigits {port : Nat} : ':' ∉ Nat.toDigits 10 port := by
  intro member
  have digit := Nat.isDigit_of_mem_toDigits (by decide) (by decide) member
  exact absurd digit (by decide)

/-- An origin is read back from its text: the port stands behind the last colon. -/
theorem originText_inj {scheme host host' : List Char} {port port' : Nat}
    (same : originText scheme host port = originText scheme host' port') :
    host = host' ∧ port = port' := by
  have rest : host ++ ':' :: Nat.toDigits 10 port = host' ++ ':' :: Nat.toDigits 10 port' := by
    simpa [originText] using same
  have digits (port : Nat) (host : List Char) :
      (host ++ ':' :: Nat.toDigits 10 port).reverse.takeWhile (· ≠ ':') =
        (Nat.toDigits 10 port).reverse := by
    have solid : ∀ char ∈ (Nat.toDigits 10 port).reverse, decide (char ≠ ':') := by
      intro char member
      have apart : char ≠ ':' := by
        rintro rfl
        exact colon_notMem_toDigits (mem_reverse.mp member)
      simpa using apart
    rw [reverse_append, reverse_cons, append_assoc, takeWhile_append_of_pos solid]
    simp
  have ports : Nat.toDigits 10 port = Nat.toDigits 10 port' := by
    have taken := congrArg (fun text : List Char => text.reverse.takeWhile (· ≠ ':')) rest
    simp only [digits] at taken
    exact reverse_injective taken
  refine ⟨append_cancel_right (ports ▸ rest), ?_⟩
  have read := congrArg (fun digits => Nat.ofDigitChars 10 digits 0) ports
  simpa using read

/-- Brackets around a text without any are taken off. -/
theorem trim_brackets {inner : List Char} (opens : '[' ∉ inner) (closes : ']' ∉ inner) :
    let bracket (char : Char) : Bool := char == '[' || char == ']'
    (inner.dropWhile bracket).rdropWhile bracket = inner ∧
    (('[' :: inner ++ [']']).dropWhile bracket).rdropWhile bracket = inner := by
  intro bracket
  have solid : ∀ char ∈ inner, bracket char = false := by
    intro char member
    have apart : char ≠ '[' ∧ char ≠ ']' :=
      ⟨fun same => opens (same ▸ member), fun same => closes (same ▸ member)⟩
    simp [bracket, apart]
  have front : inner.dropWhile bracket = inner := by
    rw [dropWhile_eq_self_iff]
    intro some
    simp [solid _ (getElem_mem some)]
  have back : inner.rdropWhile bracket = inner := by
    rw [rdropWhile_eq_self_iff]
    intro some
    simp [solid _ (getLast_mem some)]
  refine ⟨by rw [front, back], ?_⟩
  cases inner with
  | nil => rfl
  | cons first inner =>
    have kept : ('[' :: first :: inner ++ [']']).dropWhile bracket = first :: inner ++ [']'] := by
      have hard := solid first mem_cons_self
      simp [bracket, hard]
    rw [kept, rdropWhile_concat_pos _ _ _ (by decide), back]

section

variable {libraries : UrlLibraries} (laws : AuthorityLaws libraries)

/-- A host as it is kept of a target: one that is read back as itself, or an IPv6 address that is
not read back. -/
structure KeptHost (libraries : UrlLibraries) (host : List Char) : Prop where
  nonempty : host ≠ []
  read : (':' ∉ host ∧ normalizeAuthorityHost libraries host = some host) ∨
    (':' ∈ host ∧ normalizeAuthorityHost libraries host = none)

variable {given authority : List Char} {port : Nat}

theorem format_plain (plain : PlainHost given) (port : Nat) :
    formatUpstreamAuthority given port = given ++ ':' :: Nat.toDigits 10 port := by
  unfold formatUpstreamAuthority
  split
  · exact absurd mem_cons_self plain.2.1
  · simp only [if_neg plain.1]

variable {host : List Char}

theorem Ipv6Host.colon (address : Ipv6Host host) : ':' ∈ host :=
  count_pos_iff.mp (Nat.lt_of_lt_of_le Nat.zero_lt_two address.1)

/-- An IPv6 address is written with brackets, whichever way it is given. -/
theorem format_ipv6 (address : Ipv6Host host) {port : Nat} :
    formatUpstreamAuthority host port = '[' :: host ++ "]:".toList ++ Nat.toDigits 10 port ∧
    formatUpstreamAuthority ('[' :: host ++ [']']) port =
      '[' :: host ++ "]:".toList ++ Nat.toDigits 10 port := by
  constructor
  · unfold formatUpstreamAuthority
    split
    · exact absurd mem_cons_self address.2.1
    · simp only [if_pos address.colon]
  · simp [formatUpstreamAuthority, address.colon]

include laws

theorem kept_plain (plain : PlainHost given)
    (anonymous : '@' ∉ formatUpstreamAuthority given port)
    (found : libraries.authorityHost (formatUpstreamAuthority given port) = some authority)
    (nonempty : authority ≠ []) :
    authority = given ∧ normalizeAuthorityHost libraries given = some given := by
  rw [format_plain plain] at anonymous found
  have anonymous : '@' ∉ given := fun member => anonymous (mem_append_left _ member)
  obtain ⟨rfl, alone⟩ := laws.named given port authority plain anonymous found
  refine ⟨rfl, ?_⟩
  simp only [normalizeAuthorityHost, alone nonempty]
  rw [(trim_brackets plain.2.1 plain.2.2).1, if_neg nonempty]

theorem kept_ipv6 (address : Ipv6Host host)
    (anonymous : '@' ∉ '[' :: host ++ "]:".toList ++ Nat.toDigits 10 port)
    (found : libraries.authorityHost ('[' :: host ++ "]:".toList ++ Nat.toDigits 10 port) =
      some authority) :
    authority = '[' :: host ++ [']'] ∧ normalizeAuthorityHost libraries host = none := by
  have inside : '@' ∉ host := by
    intro member
    apply anonymous
    simp [member]
  refine ⟨laws.bracketed host port authority address.2.1 address.2.2 found, ?_⟩
  simp only [normalizeAuthorityHost, laws.colons host address.2.1 inside address.1]

/-- The host of a target is a name that is read back, or an IPv6 address that is not. -/
theorem Target.kept (target : Target libraries host port) : KeptHost libraries host ∧ port ≠ 0 := by
  obtain ⟨given, parsed, spelled, built, rfl⟩ := target
  unfold buildUpstreamOrigin at built
  split_ifs at built with zero
  dsimp only at built
  split_ifs at built with user
  cases found : libraries.authorityHost (formatUpstreamAuthority given port) with
  | none => simp [found] at built
  | some authority =>
    simp only [found] at built
    split_ifs at built with empty
    cases built
    refine ⟨⟨empty, ?_⟩, zero⟩
    have nonempty : authority ≠ [] := by
      rintro rfl
      exact empty rfl
    -- an address is kept without the brackets that were put around it
    have address {host : List Char} (address : Ipv6Host host)
        (formatted : formatUpstreamAuthority given port =
          '[' :: host ++ "]:".toList ++ Nat.toDigits 10 port) :
        authority = '[' :: host ++ [']'] ∧ ':' ∈ host ∧
          normalizeAuthorityHost libraries host = none := by
      rw [formatted] at found user
      obtain ⟨same, unread⟩ := kept_ipv6 laws address user found
      exact ⟨same, address.colon, unread⟩
    cases spelled with
    | plain plain =>
      obtain ⟨rfl, read⟩ := kept_plain laws plain user found nonempty
      left
      rw [(trim_brackets plain.2.1 plain.2.2).1]
      exact ⟨plain.1, read⟩
    | bare ipv6 =>
      obtain ⟨rfl, colon, unread⟩ := address ipv6 (format_ipv6 ipv6).1
      right
      rw [(trim_brackets ipv6.2.1 ipv6.2.2).2]
      exact ⟨colon, unread⟩
    | bracketed ipv6 =>
      obtain ⟨rfl, colon, unread⟩ := address ipv6 (format_ipv6 ipv6).2
      right
      rw [(trim_brackets ipv6.2.1 ipv6.2.2).2]
      exact ⟨colon, unread⟩

end

/-! ## Keys -/

section

variable {libraries : UrlLibraries} {φ : Type} {fingerprint : List Char → φ}

/-- The key of a flow for an origin. -/
def TlsFlowState.keyFor (fingerprint : List Char → φ) (flow : TlsFlowState)
    (origin : List Char) : TlsSessionCacheKey φ :=
  { origin
    desiredAlpn := flow.desiredAlpn
    verifyPeer := flow.verifyPeer
    verifyHostname := flow.verifyHostname
    sniEnabled := flow.sniEnabled
    trustedCertificateFingerprint := flow.trustedCertificatePem.map fingerprint
    clientCertificateFingerprint := flow.clientCertificatePem.map fingerprint
    clientPrivateKeyFingerprint := flow.clientPrivateKeyPem.map fingerprint
    minVersion := flow.minVersion
    maxVersion := flow.maxVersion }

variable {host : List Char} {flow : TlsFlowState}

/-- A kept host with no colon gives a key with the origin and the settings, one with a colon gives
no key. -/
theorem tlsSessionCacheKey_kept (kept : KeptHost libraries host) {port : Nat}
    (present : flow.present) :
    tlsSessionCacheKey libraries fingerprint "https".toList host port flow = if ':' ∈ host then none
      else some (flow.keyFor fingerprint
        (originText "https".toList (toAsciiLowercase host) port)) := by
  have scheme : toAsciiLowercase "https".toList = "https".toList := by decide
  rcases kept.read with ⟨plain, read⟩ | ⟨colon, unread⟩
  · rw [tlsSessionCacheKey, if_pos present, tlsSessionOrigin, read, if_neg plain, scheme]
    rfl
  · simp [tlsSessionCacheKey, tlsSessionOrigin, present, unread, colon]

/-- A flow that has the name of its host. -/
structure Named (host : List Char) (flow : TlsFlowState) : Prop where
  present : flow.present
  peer : flow.peerName.map toAsciiLowercase = some (toAsciiLowercase host)
  server : flow.serverName.map toAsciiLowercase =
    if flow.sniEnabled then some (toAsciiLowercase host) else none

theorem Named.set (named : Named host flow) (setting : TlsSetting) :
    Named host (setting.apply flow) := by
  cases setting with
  | sniEnabled enabled =>
    refine ⟨named.present, named.peer, ?_⟩
    cases enabled with
    | true => simp [TlsSetting.apply, named.present, named.peer]
    | false => rfl
  | _ => exact ⟨named.present, named.peer, named.server⟩

/-- Names that agree in lower case stay so where one is preferred to the other. -/
theorem map_or_filter {first second : Option (List Char)}
    (left : ∀ name ∈ first, toAsciiLowercase name = toAsciiLowercase host)
    (right : second.map toAsciiLowercase = some (toAsciiLowercase host)) :
    ((first.filter (· ≠ [])).or second).map toAsciiLowercase = some (toAsciiLowercase host) := by
  cases found : first.filter (· ≠ []) with
  | none => exact right
  | some name =>
    have member := (Option.filter_eq_some_iff.mp found).1
    exact congrArg some (left name member)

theorem Named.reused {other : List Char} {earlier : TlsFlowState} (named : Named host flow)
    (before : Named other earlier) (hosts : toAsciiLowercase other = toAsciiLowercase host) :
    Named host (flow.markSessionReused earlier.cached) := by
  have peers : ∀ name ∈ earlier.peerName, toAsciiLowercase name = toAsciiLowercase host := by
    intro name member
    have peer := before.peer
    rw [member] at peer
    exact (Option.some.inj peer).trans hosts
  have servers : ∀ name ∈ earlier.serverName, toAsciiLowercase name = toAsciiLowercase host := by
    intro name member
    have server := before.server
    rw [member] at server
    cases enabled : earlier.sniEnabled with
    | false => simp [enabled] at server
    | true =>
      rw [enabled] at server
      exact (Option.some.inj server).trans hosts
  have peer := map_or_filter peers named.peer
  rw [TlsFlowState.markSessionReused, if_pos named.present]
  refine ⟨named.present, peer, ?_⟩
  cases enabled : flow.sniEnabled with
  | true => exact map_or_filter servers peer
  | false => rfl

variable (laws : AuthorityLaws libraries)
include laws

/-- A configured flow has the name of its host. -/
theorem Configured.named {port : Nat}
    (configured : Configured libraries fingerprint host port flow)
    (target : Target libraries host port) : Named host flow := by
  induction configured with
  | observed host port flow =>
    refine ⟨rfl, rfl, ?_⟩
    cases enabled : flow.sniEnabled <;> simp [TlsFlowState.observeTargetParts, enabled]
  | set setting _ ih => exact (ih target).set setting
  | @reused host other port otherPort flow earlier key _ _ otherTarget keyed otherKeyed ih otherIh =>
    have named := ih target
    have before := otherIh otherTarget
    apply named.reused before
    rw [tlsSessionCacheKey_kept (target.kept laws).1 named.present] at keyed
    rw [tlsSessionCacheKey_kept (otherTarget.kept laws).1 before.present] at otherKeyed
    split_ifs at keyed otherKeyed
    have keys := Option.some.inj (otherKeyed.trans keyed.symm)
    have origins := congrArg TlsSessionCacheKey.origin keys
    exact (originText_inj origins).1

end

/-! ## Sharing -/

theorem toLower_eq_colon {char : Char} (lower : char.toLower = ':') : char = ':' := by
  unfold Char.toLower at lower
  split at lower
  · rename_i upper
    have code : char.val + 32 = 58 := congrArg Char.val lower
    have range : 65 ≤ char.val.toNat ∧ char.val.toNat ≤ 90 := upper
    have sum := congrArg UInt32.toNat code
    change (char.val.toNat + 32) % 4294967296 = 58 at sum
    omega
  · exact lower

/-- The case of its letters has no part in whether a host has a colon. -/
theorem colon_toAsciiLowercase (host : List Char) :
    ':' ∈ toAsciiLowercase host ↔ ':' ∈ host := by
  constructor
  · intro member
    obtain ⟨char, inside, lower⟩ := mem_map.mp member
    exact toLower_eq_colon lower ▸ inside
  · intro member
    exact mem_map.mpr ⟨':', member, rfl⟩

section

variable {libraries : UrlLibraries} {φ : Type} {fingerprint : List Char → φ}
variable (laws : AuthorityLaws libraries) (injective : Function.Injective fingerprint)
variable (first second : HttpsExchange libraries fingerprint)

include laws injective in
/-- For one origin the keys of two exchanges are the same exactly when their settings are. -/
theorem keyFor_eq_iff (hosts : toAsciiLowercase first.host = toAsciiLowercase second.host)
    (origin : List Char) :
    first.flow.keyFor fingerprint origin = second.flow.keyFor fingerprint origin ↔
      first.SameSettings second := by
  have named := first.configured.named laws first.target
  have alsoNamed := second.configured.named laws second.target
  have texts : Function.Injective (Option.map fingerprint) := Option.map_injective injective
  have servers : first.flow.serverName.map toAsciiLowercase =
      second.flow.serverName.map toAsciiLowercase ↔
        first.flow.sniEnabled = second.flow.sniEnabled := by
    rw [named.server, alsoNamed.server, hosts]
    cases first.flow.sniEnabled <;> cases second.flow.sniEnabled <;> simp
  simp only [TlsFlowState.keyFor, TlsSessionCacheKey.mk.injEq, true_and, texts.eq_iff]
  constructor
  · rintro ⟨alpn, peer, hostname, sni, trusted, certificate, privateKey, minVersion, maxVersion⟩
    exact ⟨peer, hostname, trusted, certificate, privateKey, alpn, servers.mpr sni, minVersion,
      maxVersion⟩
  intro same
  exact ⟨same.alpn, same.verifyPeer, same.verifyHostname, servers.mp same.serverName,
    same.trustedCertificate, same.clientCertificate, same.clientPrivateKey, same.minVersion,
    same.maxVersion⟩

/-- The part of a key that has the settings. -/
def HttpsExchange.tlsKey (exchange : HttpsExchange libraries fingerprint) :
    Option (TlsSessionCacheKey φ) :=
  if ':' ∈ exchange.host then none
  else some (exchange.flow.keyFor fingerprint
    (originText "https".toList (toAsciiLowercase exchange.host) exchange.port))

include laws in
/-- The keys of the three stores. -/
theorem sessionKey_eq (protocol : Protocol) :
    HttpsExchange.sessionKey protocol first = if first.uses protocol then
        let origin := originText "https".toList (toAsciiLowercase first.host) first.port
        match protocol with
        | .http1 => first.tlsKey.map .http1
        | .http2 => some (.http2 ⟨origin, first.mode, first.tlsKey⟩)
        | .http3 => some (.http3 ⟨origin, first.tlsKey⟩)
      else none := by
  obtain ⟨kept, nonzero⟩ := first.target.kept laws
  have present := (first.configured.named laws first.target).present
  have keyed : tlsSessionCacheKey libraries fingerprint "https".toList first.host first.port
      first.flow = first.tlsKey := tlsSessionCacheKey_kept kept present
  have origin : sessionOrigin .https first.host first.port =
      some (originText "https".toList (toAsciiLowercase first.host) first.port) := by
    rw [sessionOrigin, if_neg (by simp [kept.nonempty, nonzero])]
    rfl
  unfold HttpsExchange.sessionKey
  congr 1
  cases protocol with
  | http1 => rw [http1PoolKey, keyed]
  | http2 =>
    rw [http2SessionKey, origin, if_pos present]
    show some (SessionKey.http2 ⟨_, _, tlsSessionCacheKey _ _ "https".toList _ _ _⟩) = _
    rw [keyed]
  | http3 =>
    rw [http3SessionKey, origin]
    show some (SessionKey.http3 ⟨_, tlsSessionCacheKey _ _ "https".toList _ _ _⟩) = _
    rw [keyed]

include laws injective in
/-- Keys with settings say that the settings are the same, unless the target is an IPv6 address. -/
theorem tlsKey_eq_iff (hosts : toAsciiLowercase first.host = toAsciiLowercase second.host)
    (ports : first.port = second.port) :
    first.tlsKey = second.tlsKey ↔ ':' ∈ first.host ∨ first.SameSettings second := by
  have colons : ':' ∈ second.host ↔ ':' ∈ first.host := by
    rw [← colon_toAsciiLowercase, ← hosts, colon_toAsciiLowercase]
  simp only [HttpsExchange.tlsKey, colons, hosts, ports]
  split_ifs with colon
  · simp [colon]
  · simp [colon, keyFor_eq_iff laws injective first second hosts]

include laws injective in
/-- A key of HTTP/1.1 has all of the target and the settings. -/
theorem same_of_tlsKey {key : TlsSessionCacheKey φ} (keyed : first.tlsKey = some key)
    (alsoKeyed : second.tlsKey = some key) :
    toAsciiLowercase first.host = toAsciiLowercase second.host ∧ first.port = second.port ∧
      first.SameSettings second := by
  have same := keyed.trans alsoKeyed.symm
  simp only [HttpsExchange.tlsKey] at keyed alsoKeyed
  split_ifs at keyed alsoKeyed with colon
  have keys := Option.some.inj (keyed.trans alsoKeyed.symm)
  obtain ⟨hosts, ports⟩ := originText_inj (congrArg TlsSessionCacheKey.origin keys)
  have settings := (tlsKey_eq_iff laws injective first second hosts ports).mp same
  exact ⟨hosts, ports, settings.resolve_left colon⟩

end

/-- Two HTTPS exchanges share a connection or a session only if they have the same target and the
same settings, exactly when this holds of the two over HTTP/2 and HTTP/3 where the target is an
IPv6 address: such exchanges share whatever their settings. -/
theorem tls_isolation_iff {libraries : UrlLibraries} {φ : Type} [DecidableEq φ]
    {fingerprint : List Char → φ} (laws : AuthorityLaws libraries)
    (injective : Function.Injective fingerprint) (protocol : Protocol)
    (first second : HttpsExchange libraries fingerprint) :
    (KeyedPool.Shares (HttpsExchange.sessionKey protocol) first second →
      first.SameTarget protocol second ∧ first.SameSettings second) ↔
    (protocol ≠ .http1 → ':' ∈ first.host → first.uses protocol → second.uses protocol →
      first.SameTarget protocol second → first.SameSettings second) := by
  rw [KeyedPool.shares_iff, sessionKey_eq laws, sessionKey_eq laws]
  constructor
  · intro isolated notHttp1 colon used alsoUsed same
    -- the two keys have the origin and no settings
    have tlsKeys := (tlsKey_eq_iff laws injective first second same.host same.port).mpr (Or.inl colon)
    apply (isolated _).2
    rw [if_pos used, if_pos alsoUsed, same.host, same.port, tlsKeys]
    cases protocol with
    | http1 => exact absurd rfl notHttp1
    | http2 => exact ⟨_, rfl, by rw [same.mode rfl]⟩
    | http3 => exact ⟨_, rfl, rfl⟩
  · rintro ipv6 ⟨key, keyed, alsoKeyed⟩
    split_ifs at keyed alsoKeyed with used alsoUsed
    -- a store that keeps the origin beside the settings
    have isolated (http : protocol ≠ .http1)
        (origins : originText "https".toList (toAsciiLowercase first.host) first.port =
          originText "https".toList (toAsciiLowercase second.host) second.port)
        (modes : protocol = .http2 → first.mode = second.mode)
        (tlsKeys : first.tlsKey = second.tlsKey) :
        first.SameTarget protocol second ∧ first.SameSettings second := by
      obtain ⟨hosts, ports⟩ := originText_inj origins
      have target : first.SameTarget protocol second := ⟨hosts, ports, modes⟩
      refine ⟨target, ?_⟩
      rcases (tlsKey_eq_iff laws injective first second hosts ports).mp tlsKeys with colon | same
      · exact ipv6 http colon used alsoUsed target
      · exact same
    cases protocol with
    | http1 =>
      obtain ⟨tlsKey, found, rfl⟩ := Option.map_eq_some_iff.mp keyed
      obtain ⟨other, alsoFound, same⟩ := Option.map_eq_some_iff.mp alsoKeyed
      cases same
      obtain ⟨hosts, ports, settings⟩ := same_of_tlsKey laws injective first second found alsoFound
      exact ⟨⟨hosts, ports, fun absurd => by cases absurd⟩, settings⟩
    | http2 =>
      have keys := keyed.trans alsoKeyed.symm
      simp only [Option.some.injEq, SessionKey.http2.injEq, Http2SessionKey.mk.injEq] at keys
      exact isolated (by decide) keys.1 (fun _ => keys.2.1) keys.2.2
    | http3 =>
      have keys := keyed.trans alsoKeyed.symm
      simp only [Option.some.injEq, SessionKey.http3.injEq, Http3SessionKey.mk.injEq] at keys
      exact isolated (by decide) keys.1 (fun absurd => by cases absurd) keys.2

/-! ## Samples -/

theorem nothing_encoded (_ : List (List Char × List Char)) (char : Char)
    (member : char ∈ ([] : List Char)) : char.isAlphanum ∨ char ∈ "*-._+%&=".toList :=
  absurd member not_mem_nil

/-- Libraries that read an authority of visible characters up to its closing bracket or its one
colon. -/
def bracketUrls : UrlLibraries where
  authorityHost text :=
    if text.all fun char => decide (33 ≤ char.toNat ∧ char.toNat ≤ 126) then
      match text with
      | '[' :: rest =>
        if ']' ∈ rest then some ('[' :: rest.takeWhile (· ≠ ']') ++ [']']) else none
      | _ => if text.count ':' ≤ 1 then some (text.takeWhile (· ≠ ':')) else none
    else none
  formParse _ := []
  formSerialize _ := []
  visible text host accepted := by
    split at accepted
    · rename_i visible
      intro char member
      exact of_decide_eq_true (List.all_eq_true.mp visible char member)
    · cases accepted
  encoded := nothing_encoded

/-- A text without brackets is read up to its colon. -/
theorem bracketUrls_plain {text : List Char} (opens : '[' ∉ text) :
    bracketUrls.authorityHost text =
      if (text.all fun char => decide (33 ≤ char.toNat ∧ char.toNat ≤ 126)) ∧ text.count ':' ≤ 1
      then some (text.takeWhile (· ≠ ':')) else none := by
  cases text with
  | nil => rfl
  | cons first rest =>
    have apart : first ≠ '[' := fun same => opens (same ▸ mem_cons_self)
    simp only [bracketUrls]
    split
    · rename_i visible
      split
      · rename_i same
        exact absurd (cons.inj same).1 apart
      · simp only [visible, true_and]
    · rename_i hidden
      simp only [hidden, Bool.false_eq_true, false_and, ↓reduceIte]

/-- A text without the character is taken whole. -/
theorem takeWhile_absent {text : List Char} {stop : Char} (absent : stop ∉ text)
    (rest : List Char) :
    (text ++ rest).takeWhile (· ≠ stop) = text ++ rest.takeWhile (· ≠ stop) := by
  apply takeWhile_append_of_pos
  intro char member
  have apart : char ≠ stop := fun same => absent (same ▸ member)
  simpa using apart

theorem bracketUrls_laws : AuthorityLaws bracketUrls where
  colons text opens _ many := by
    rw [bracketUrls_plain opens, if_neg]
    omega
  named name port host plain _ found := by
    have opens : '[' ∉ name ++ ':' :: Nat.toDigits 10 port := by
      intro member
      rcases mem_append.mp member with inside | behind
      · exact plain.2.1 inside
      · rcases mem_cons.mp behind with colon | digit
        · exact absurd colon (by decide)
        · exact absurd (Nat.isDigit_of_mem_toDigits (by decide) (by decide) digit) (by decide)
    rw [bracketUrls_plain opens] at found
    split_ifs at found with accepted
    obtain rfl := Option.some.inj found
    have whole : name.takeWhile (· ≠ ':') = name := by simpa using takeWhile_absent plain.1 []
    have visible : name.all fun char => decide (33 ≤ char.toNat ∧ char.toNat ≤ 126) := by
      have both := accepted.1
      rw [all_append, Bool.and_eq_true] at both
      exact both.1
    have read : (name ++ ':' :: Nat.toDigits 10 port).takeWhile (· ≠ ':') = name := by
      rw [takeWhile_absent plain.1]
      simp
    refine ⟨read, fun _ => ?_⟩
    have uncounted : name.count ':' ≤ 1 := by
      rw [count_eq_zero_of_not_mem plain.1]
      decide
    rw [bracketUrls_plain plain.2.1, if_pos ⟨visible, uncounted⟩, whole]
  bracketed inner port host opens closes found := by
    have text : '[' :: inner ++ "]:".toList ++ Nat.toDigits 10 port =
        '[' :: (inner ++ (']' :: ':' :: Nat.toDigits 10 port)) := by simp
    rw [text] at found
    simp only [bracketUrls] at found
    split_ifs at found
    rw [← Option.some.inj found, takeWhile_absent closes]
    simp

/-- A target of the sample libraries, by the host that is kept of it. -/
theorem target_of_kept {given host : List Char} {port : Nat} (spelled : Spelled given)
    (kept : (buildUpstreamOrigin bracketUrls .https given port).toOption.map
      ParsedHttpUpstreamTarget.host = some host) : Target bracketUrls host port := by
  cases built : buildUpstreamOrigin bracketUrls .https given port with
  | error err =>
    rw [built] at kept
    cases kept
  | ok target =>
    rw [built] at kept
    exact ⟨given, target, spelled, built, Option.some.inj kept⟩

/-- A flow to a host that was configured by these calls. -/
def configuredFlow (host : List Char) (settings : List TlsSetting) : TlsFlowState :=
  settings.foldl TlsSetting.apply (TlsFlowState.default.observeTargetParts true (some host))

theorem configured_flow {host : List Char} {port : Nat} {settings : List TlsSetting} :
    Configured bracketUrls id host port (configuredFlow host settings) := by
  have all {flow : TlsFlowState} (configured : Configured bracketUrls id host port flow) :
      Configured bracketUrls id host port (settings.foldl TlsSetting.apply flow) := by
    induction settings generalizing flow with
    | nil => exact configured
    | cons setting settings ih => exact ih (.set setting configured)
  exact all (.observed host port .default)

/-- An exchange over HTTP/2 with the port of HTTPS. -/
def http2Exchange {given : List Char} (host : List Char) (spelled : Spelled given)
    (kept : (buildUpstreamOrigin bracketUrls .https given 443).toOption.map
      ParsedHttpUpstreamTarget.host = some host) (settings : List TlsSetting) :
    HttpsExchange bracketUrls id where
  host
  port := 443
  preference := .http2
  flow := configuredFlow host settings
  target := target_of_kept spelled kept
  configured := configured_flow

/-- An exchange with a name, written in two ways. -/
def upperExchange : HttpsExchange bracketUrls id :=
  @http2Exchange "Upstream".toList "Upstream".toList (.plain (by decide)) (by decide +kernel)
    [.verifyPeer false]

def lowerExchange : HttpsExchange bracketUrls id :=
  @http2Exchange "upstream".toList "upstream".toList (.plain (by decide)) (by decide +kernel)
    [.verifyPeer false]

/-- Two exchanges with one name and the same settings share a session and have these in common. -/
theorem tls_isolation_sample :
    KeyedPool.Shares (HttpsExchange.sessionKey .http2) upperExchange lowerExchange ∧
    upperExchange.SameTarget .http2 lowerExchange ∧ upperExchange.SameSettings lowerExchange := by
  have shares : KeyedPool.Shares (HttpsExchange.sessionKey .http2) upperExchange lowerExchange := by
    rw [KeyedPool.shares_iff]
    have some : (upperExchange.sessionKey .http2).isSome := by decide +kernel
    obtain ⟨key, keyed⟩ := Option.isSome_iff_exists.mp some
    have same : lowerExchange.sessionKey .http2 = upperExchange.sessionKey .http2 := by
      decide +kernel
    exact ⟨key, keyed, same.trans keyed⟩
  refine ⟨shares, (tls_isolation_iff bracketUrls_laws Function.injective_id .http2 upperExchange
    lowerExchange).mpr ?_ shares⟩
  intro _ colon
  exact absurd colon (by decide +kernel)

/-- An exchange with an IPv6 address that checks its peer. -/
def checkedExchange : HttpsExchange bracketUrls id :=
  @http2Exchange "::1".toList "::1".toList (.bare (by decide)) (by decide +kernel) []

/-- An exchange with the same address that does not. -/
def uncheckedExchange : HttpsExchange bracketUrls id :=
  @http2Exchange "::1".toList "::1".toList (.bare (by decide)) (by decide +kernel)
    [.verifyPeer false]

/-- An exchange that checks its peer can be served by a session that was opened by one that does
not. -/
theorem ipv6_sessions_shared : ¬ ∀ (libraries : UrlLibraries) (φ : Type) [DecidableEq φ]
    (fingerprint : List Char → φ), AuthorityLaws libraries → Function.Injective fingerprint →
    ∀ (protocol : Protocol) (first second : HttpsExchange libraries fingerprint),
      KeyedPool.Shares (HttpsExchange.sessionKey protocol) first second →
      first.SameTarget protocol second ∧ first.SameSettings second := by
  intro isolated
  have shares : KeyedPool.Shares (HttpsExchange.sessionKey .http2) checkedExchange
      uncheckedExchange := by
    rw [KeyedPool.shares_iff]
    have some : (checkedExchange.sessionKey .http2).isSome := by decide +kernel
    obtain ⟨key, keyed⟩ := Option.isSome_iff_exists.mp some
    have same : uncheckedExchange.sessionKey .http2 = checkedExchange.sessionKey .http2 := by
      decide +kernel
    exact ⟨key, keyed, same.trans keyed⟩
  have settings := (isolated bracketUrls (List Char) id bracketUrls_laws
    Function.injective_id .http2 _ _ shares).2
  exact absurd settings.verifyPeer (by decide +kernel)

end PdEdge.Transport

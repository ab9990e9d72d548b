import PdEdge.State.Outbound
import PdEdge.Upstream.RequestFraming

/-!
# What the calls on an exchange make of its headers

Each call says what it wants done to the values of a name. The node keeps them in one of two
forms: the inbound headers as they came in, with overrides, or a map. Taking the inbound headers
into the map is invisible to every later call, and the map then has what the calls ask for.
-/

namespace PdEdge.State

open Text HttpOutboundRequestNode ExchangeCall List
open Upstream
open Downstream (LazyHttpHeaders)

/-! ## What the calls ask for -/

/-- All values of each name, in order. -/
abbrev Multimap := HeaderName → List (List UInt8)

/-- All values of each name in a map. -/
def HeaderMap.values (headers : HeaderMap) : Multimap :=
  fun name => (headers.getAll name).map HeaderValue.bytes

/-- What is to be done to the headers. -/
inductive HeaderEdit where
  | set (name : HeaderName) (value : HeaderValue)
  | add (name : HeaderName) (value : HeaderValue)
  | clear (name : HeaderName)

def HeaderEdit.apply (values : Multimap) : HeaderEdit → Multimap
  | .set name value => Function.update values name [value.bytes]
  | .add name value => Function.update values name (values name ++ [value.bytes])
  | .clear name => Function.update values name []

/-- The headers of a batch, if the call that brings it is accepted; the scheme of the target has
no part in that. -/
def acceptedBatch (libraries : UrlLibraries) (host : List Char) (port : Int)
    (version : List Char) (headers : HeaderBatch) : Except VmError HeaderMap := do
  let _ ← parseVersionPreference version
  let port ← parseUpstreamPort port
  let _ ← buildUpstreamOrigin libraries .http host port
  parseStringHeaderBatch headers

def setEdit (entry : HeaderName × HeaderValue) : HeaderEdit := .set entry.1 entry.2

def addEdit (entry : HeaderName × HeaderValue) : HeaderEdit := .add entry.1 entry.2

section

variable (libraries : UrlLibraries) (inbound : Option HttpRequestHead)

/-- What a call asks for; a call that is refused asks for nothing. -/
def ExchangeCall.edits : ExchangeCall → List HeaderEdit
  | .setHeader name value => (parseHeader name value).toOption.toList.map setEdit
  | .addHeader name value => (parseHeader name value).toOption.toList.map addEdit
  | .clearHeader name => (parseHeaderName name).toOption.toList.map .clear
  | .prepareDefaultUpstream host port version headers =>
    if inbound.isSome then
      ((acceptedBatch libraries host port version headers).toOption.getD []).map setEdit
    else []
  | _ => []

/-- The method that a call gives. -/
def ExchangeCall.method? : ExchangeCall → Option Method
  | .setMethod method => Method.fromBytes (toUtf8 method)
  | _ => none

/-- The path that a call gives. -/
def ExchangeCall.path? : ExchangeCall → Option (List Char)
  | .setPath path => if isValidRequestPath path then some path else none
  | _ => none

/-- The query that a call makes of the one before it. -/
def ExchangeCall.queryBehind (query : List Char) : ExchangeCall → List Char
  | .setQuery given =>
    let normalized := stripQuestionMark given
    if normalized.contains '#' || normalized.any isWhitespace then query else normalized
  | .setQueryArg key value => queryWithArg libraries query key value
  | _ => query

/-- The authority of an origin that can be built. -/
def ExchangeCall.givenAuthority (host : List Char) (port : Int) : Option (List Char) :=
  (do
    let port ← parseUpstreamPort port
    let _ ← buildUpstreamOrigin libraries .http host port
    return formatUpstreamAuthority host port : Except VmError (List Char)).toOption

/-- The authority that a call gives. -/
def ExchangeCall.authority? :
    ExchangeCall → Option (List Char)
  | .setTarget host port => givenAuthority libraries host port
  | .prepareDefaultUpstream host port version _ =>
    if inbound.isSome ∧ (parseVersionPreference version).isOk then
      givenAuthority libraries host port
    else none
  | _ => none

/-- The call formats the authority again. -/
def ExchangeCall.setsScheme : ExchangeCall → Bool
  | .setScheme _ => true
  | _ => false

/-- The headers a request starts with: those that came in, on the default exchange. -/
def inboundValues : Multimap := fun name =>
  rawValues ((inbound.map fun head => head.headers.forEachHeader).getD []) name

/-- The headers that some calls make of those that came in. -/
def askedFor (calls : List ExchangeCall) : Multimap :=
  (calls.flatMap (ExchangeCall.edits libraries inbound)).foldl HeaderEdit.apply
    (inboundValues inbound)

/-- The node an exchange starts with. -/
def exchangeNode : HttpOutboundRequestNode :=
  if inbound.isSome then .defaultUpstream else .new

end

/-! ## What a call makes of a node -/

open HeaderEdit

section

variable (headers : HeaderMap) (name : HeaderName) (value : HeaderValue)

theorem values_insert :
    HeaderMap.values (headers.insert name value) =
      apply (HeaderMap.values headers) (.set name value) := by
  funext other
  simp only [HeaderMap.values, HeaderMap.getAll_insert, apply, Function.update_apply]
  split_ifs <;> rfl

theorem values_add :
    HeaderMap.values (headers.add name value) =
      apply (HeaderMap.values headers) (.add name value) := by
  funext other
  simp only [HeaderMap.values, HeaderMap.add, HeaderMap.getAll_append, HeaderMap.getAll_cons,
    HeaderMap.getAll_nil, apply, Function.update_apply, eq_comm (a := name)]
  split_ifs with same
  · simp [same]
  · simp

theorem values_remove :
    HeaderMap.values (headers.remove name) = apply (HeaderMap.values headers) (.clear name) := by
  funext other
  simp only [HeaderMap.values, HeaderMap.getAll_remove, apply, Function.update_apply]
  split_ifs <;> rfl

end

section

variable (libraries : UrlLibraries) (inbound : Option HttpRequestHead)

/-- An authority of visible characters. -/
def Visible (authority : List Char) : Prop :=
  ∀ char ∈ authority, 33 ≤ char.toNat ∧ char.toNat ≤ 126

/-- What a call makes of a node that inherits nothing, or has nothing to inherit. -/
structure ExchangeCall.Follows (call : ExchangeCall) (node after : HttpOutboundRequestNode) :
    Prop where
  inherits : after.inheritsRequestHead = node.inheritsRequestHead
  overrides : after.inheritedHeaderOverrides = node.inheritedHeaderOverrides
  method : after.method = call.method?.getD node.method
  path : after.path = call.path?.getD node.path
  query : after.query = call.queryBehind libraries node.query
  authority : call.setsScheme = false → after.target.map ParsedHttpUpstreamTarget.authority =
    (call.authority? libraries inbound).or (node.target.map ParsedHttpUpstreamTarget.authority)
  visible : ∀ target ∈ after.target, target ∈ node.target ∨ Visible target.authority
  values : HeaderMap.values after.headers =
    (call.edits libraries inbound).foldl apply (HeaderMap.values node.headers)

/-- An origin is built for every scheme or for none, and has the authority of its host and port. -/
theorem buildUpstreamOrigin_cases (host : List Char) (port : Nat) :
    (∃ err, ∀ scheme, buildUpstreamOrigin libraries scheme host port = .error err) ∨
    (∀ scheme, ∃ parsed, buildUpstreamOrigin libraries scheme host port = .ok parsed ∧
      parsed.authority = formatUpstreamAuthority host port) ∧
      Visible (formatUpstreamAuthority host port) := by
  unfold buildUpstreamOrigin
  by_cases zero : port = 0
  · exact .inl ⟨_, fun _ => if_pos zero⟩
  simp only [if_neg zero]
  by_cases user : '@' ∈ formatUpstreamAuthority host port
  · exact .inl ⟨_, fun _ => if_pos user⟩
  simp only [if_neg user]
  cases accepted : libraries.authorityHost (formatUpstreamAuthority host port) with
  | none => exact .inl ⟨_, fun _ => rfl⟩
  | some parsed =>
    dsimp only
    split_ifs
    · exact .inl ⟨_, fun _ => rfl⟩
    · exact .inr ⟨fun _ => ⟨_, rfl, rfl⟩, libraries.visible _ _ accepted⟩

variable {libraries inbound} {node : HttpOutboundRequestNode}

/-- A new target has the authority that was given. -/
theorem givenAuthority_eq (scheme : HttpUpstreamScheme) (host : List Char) {given : Int}
    {port : Nat} (parsed : parseUpstreamPort given = .ok port) :
    givenAuthority libraries host given = ((buildUpstreamOrigin libraries scheme host port).map
      ParsedHttpUpstreamTarget.authority).toOption := by
  simp only [givenAuthority, parsed, bind, Except.bind]
  obtain ⟨err, refused⟩ | ⟨built, -⟩ := buildUpstreamOrigin_cases libraries host port
  · rw [refused, refused]
    rfl
  · obtain ⟨plain, plainly, -⟩ := built .http
    obtain ⟨target, built, same⟩ := built scheme
    rw [plainly, built]
    exact congrArg some same.symm

/-- An origin that is built is visible. -/
theorem buildUpstreamOrigin_visible {scheme : HttpUpstreamScheme} {host : List Char} {port : Nat}
    {parsed : ParsedHttpUpstreamTarget}
    (built : buildUpstreamOrigin libraries scheme host port = .ok parsed) :
    Visible parsed.authority := by
  obtain ⟨err, refused⟩ | ⟨build, visible⟩ := buildUpstreamOrigin_cases libraries host port
  · cases (refused scheme).symm.trans built
  · obtain ⟨target, same, authority⟩ := build scheme
    cases same.symm.trans built
    exact authority ▸ visible

attribute [local simp] method? path? authority? edits Except.toOption setEdit addEdit checked

/-- A call sets what it gives, where there is no inbound head. -/
theorem run_none_follows (call : ExchangeCall) (node : HttpOutboundRequestNode)
    (other : ∀ host port version headers,
      call ≠ .prepareDefaultUpstream host port version headers) :
    call.Follows libraries inbound node (call.run libraries none node).2 := by
  cases call with
  | setMethod method =>
    simp only [run, exchangeRequestMut]
    cases given : Method.fromBytes (toUtf8 method) with
    | none | some =>
      exact ⟨rfl, rfl, by simp [given], rfl, rfl, fun _ => rfl, fun _ => .inl, rfl⟩
  | setPath path =>
    simp only [run, exchangeRequestMut]
    split_ifs with valid <;>
      exact ⟨rfl, rfl, rfl, by simp [valid], rfl, fun _ => rfl, fun _ => .inl, rfl⟩
  | setQuery query =>
    simp only [run, exchangeRequestMut]
    split_ifs with invalid
    · exact ⟨rfl, rfl, rfl, rfl, (if_pos invalid).symm, fun _ => rfl, fun _ => .inl, rfl⟩
    · exact ⟨rfl, rfl, rfl, rfl, (if_neg invalid).symm, fun _ => rfl, fun _ => .inl, rfl⟩
  | setQueryArg key value | setBody body =>
    exact ⟨rfl, rfl, rfl, rfl, rfl, fun _ => rfl, fun _ => .inl, rfl⟩
  | setHeader name value | addHeader name value =>
    simp only [run, exchangeRequestMut]
    cases parsed : parseHeader name value with
    | error err | ok entry =>
      refine ⟨rfl, rfl, rfl, rfl, rfl, fun _ => rfl, fun _ => .inl, ?_⟩
      simp [parsed, values_insert, values_add]
  | clearHeader name =>
    simp only [run, exchangeRequestMut]
    cases parsed : parseHeaderName name with
    | error err | ok entry =>
      refine ⟨rfl, rfl, rfl, rfl, rfl, fun _ => rfl, fun _ => .inl, ?_⟩
      simp [parsed, values_remove]
  | setTarget host port =>
    simp only [run, exchangeRequestMut]
    cases numbered : parseUpstreamPort port with
    | error err =>
      refine ⟨rfl, rfl, rfl, rfl, rfl, fun _ => ?_, fun _ => .inl, rfl⟩
      simp [givenAuthority, numbered, bind, Except.bind]
    | ok number =>
      have given : authority? libraries inbound (setTarget host port) = _ :=
        givenAuthority_eq node.targetScheme host numbered
      simp only [checked, setTargetHostPort]
      cases built : buildUpstreamOrigin libraries node.targetScheme host number with
      | error err =>
        refine ⟨rfl, rfl, rfl, rfl, rfl, fun _ => ?_, fun _ => .inl, rfl⟩
        rw [given, built]
        rfl
      | ok parsed =>
        refine ⟨rfl, rfl, rfl, rfl, rfl, fun _ => ?_, ?_, rfl⟩
        · rw [given, built]
          rfl
        · rintro target ⟨⟩
          exact .inr (buildUpstreamOrigin_visible built)
  | setScheme scheme =>
    simp only [run, exchangeRequestMut]
    cases HttpUpstreamScheme.parse scheme with
    | error err => exact ⟨rfl, rfl, rfl, rfl, rfl, nofun, fun _ => .inl, rfl⟩
    | ok scheme =>
      simp only [checked, setTargetScheme]
      split
      · exact ⟨rfl, rfl, rfl, rfl, rfl, nofun, fun _ => .inl, rfl⟩
      · split
        · exact ⟨rfl, rfl, rfl, rfl, rfl, nofun, fun _ => .inl, rfl⟩
        · rename_i built
          refine ⟨rfl, rfl, rfl, rfl, rfl, nofun, ?_, rfl⟩
          rintro target ⟨⟩
          have visible := buildUpstreamOrigin_visible built
          exact .inr visible
  | setVersion version =>
    simp only [run, exchangeRequestMut]
    cases parseVersionPreference version <;>
      exact ⟨rfl, rfl, rfl, rfl, rfl, fun _ => rfl, fun _ => .inl, rfl⟩
  | prepareDefaultUpstream host port version headers => exact (other _ _ _ _ rfl).elim

/-- Only a prepared request works on the node as it is. -/
theorem ExchangeCall.prepares_or (call : ExchangeCall) :
    (∃ host port version headers, call = .prepareDefaultUpstream host port version headers) ∨
      ∀ host port version headers, call ≠ .prepareDefaultUpstream host port version headers := by
  cases call with
  | prepareDefaultUpstream host port version headers => exact .inl ⟨_, _, _, _, rfl⟩
  | _ => exact .inr nofun

/-- A call is refused, or changes the node that the inbound head was taken into. -/
theorem run_eq (call : ExchangeCall) (node : HttpOutboundRequestNode)
    (other : ∀ host port version headers,
      call ≠ .prepareDefaultUpstream host port version headers) :
    (call.run libraries inbound node).2 =
      (call.run libraries none (exchangeRequestMut inbound node)).2 ∨
    (call.run libraries inbound node).2 = node ∧
      ∀ base, (call.run libraries none base).2 = base := by
  cases call with
  | setQueryArg key value | setBody body => exact .inl rfl
  | prepareDefaultUpstream host port version headers => exact (other _ _ _ _ rfl).elim
  | _ =>
    -- every other call checks what it is given before it looks at the node
    simp only [run, checked]
    split
    all_goals first | exact .inl rfl | exact .inr ⟨rfl, fun _ => rfl⟩

/-! ## A prepared request -/

/-- A node with another target and version. -/
def HttpOutboundRequestNode.retargeted (node : HttpOutboundRequestNode)
    (preference : HttpVersionPreference) (parsed : ParsedHttpUpstreamTarget) :
    HttpOutboundRequestNode :=
  { node with target := some parsed, versionPreference := preference }

/-- The version, the target and the headers of a prepared request; a batch that is refused has no
headers. -/
def prepared (libraries : UrlLibraries) (scheme : HttpUpstreamScheme) (host : List Char)
    (port : Int) (version : List Char) (headers : HeaderBatch) :
    Option (HttpVersionPreference × ParsedHttpUpstreamTarget × HeaderMap) :=
  (do
    let preference ← parseVersionPreference version
    let port ← parseUpstreamPort port
    let parsed ← buildUpstreamOrigin libraries scheme host port
    return (preference, parsed, (parseStringHeaderBatch headers).toOption.getD []) :
      Except VmError (HttpVersionPreference × ParsedHttpUpstreamTarget × HeaderMap)).toOption

variable (host : List Char) (port : Int) (version : List Char) (headers : HeaderBatch)

attribute [local simp] bind Except.bind Except.map pure Except.pure Except.isOk Except.toBool

/-- A prepared request changes its node, or is refused. -/
theorem prepare_eq :
    (prepareDefaultUpstreamRequest libraries node host port version headers).2 =
      (prepared libraries node.targetScheme host port version headers).elim node fun change =>
        change.2.2.foldl insertHeader (node.retargeted change.1 change.2.1) := by
  simp only [prepared, prepareDefaultUpstreamRequest, setTargetHostPort]
  cases parseVersionPreference version with
  | error err => rfl
  | ok preference =>
    cases parseUpstreamPort port with
    | error err => rfl
    | ok number =>
      cases built : buildUpstreamOrigin libraries node.targetScheme host number with
      | error err => simp [built]
      | ok parsed => cases parseStringHeaderBatch headers <;> simp [built, retargeted]

/-- What the call of a prepared request gives, whatever the scheme. -/
theorem prepared_gives (head : HttpRequestHead) (scheme : HttpUpstreamScheme) :
    let call := prepareDefaultUpstream host port version headers
    let made := prepared libraries scheme host port version headers
    call.authority? libraries (some head) = made.map (·.2.1.authority) ∧
      call.edits libraries (some head) = (made.elim [] (·.2.2)).map setEdit ∧
      ∀ change ∈ made, Visible change.2.1.authority := by
  simp only [prepared, authority?, edits, acceptedBatch]
  cases parseVersionPreference version with
  | error err => simp
  | ok preference =>
    cases numbered : parseUpstreamPort port with
    | error err => simp [givenAuthority, numbered]
    | ok number =>
      simp only [givenAuthority_eq scheme host numbered]
      obtain ⟨err, refused⟩ | ⟨build, visible⟩ := buildUpstreamOrigin_cases libraries host number
      · simp [refused]
      · obtain ⟨plain, plainly, -⟩ := build .http
        obtain ⟨parsed, built, same⟩ := build scheme
        cases parseStringHeaderBatch headers <;> simp [plainly, built, same, visible]

end

/-! ## Taking the inbound head into the map -/

section

variable {libraries : UrlLibraries} {inbound : Option HttpRequestHead}
variable {node : HttpOutboundRequestNode}

attribute [local simp] materializeInheritedRequestHead

/-- A node with headers of its own stays as it is. -/
theorem exchangeRequestMut_of_own (own : inbound.isSome → node.inheritsRequestHead = false) :
    exchangeRequestMut inbound node = node := by
  cases inbound with
  | none => rfl
  | some head => simp [exchangeRequestMut, own rfl]

/-- A node that the inbound head was taken into has headers of its own. -/
theorem exchangeRequestMut_own (node : HttpOutboundRequestNode) (present : inbound.isSome) :
    (exchangeRequestMut inbound node).inheritsRequestHead = false := by
  obtain ⟨head, rfl⟩ := Option.isSome_iff_exists.mp present
  cases own : node.inheritsRequestHead with
  | false => rw [exchangeRequestMut_of_own fun _ => own, own]
  | true => simp [exchangeRequestMut, own]

/-- The inbound head is taken into a node once. -/
theorem exchangeRequestMut_fixed : exchangeRequestMut inbound (exchangeRequestMut inbound node) =
    exchangeRequestMut inbound node :=
  exchangeRequestMut_of_own (exchangeRequestMut_own node)

theorem insertHeaders_materialize {headers : HeaderMap} :
    exchangeRequestMut inbound (headers.foldl insertHeader node) =
      headers.foldl insertHeader (exchangeRequestMut inbound node) := by
  induction headers generalizing node with
  | nil => rfl
  | cons entry headers ih =>
    have first : exchangeRequestMut inbound (node.insertHeader entry) =
        (exchangeRequestMut inbound node).insertHeader entry := by
      cases inbound with
      | none => rfl
      | some head =>
        cases own : node.inheritsRequestHead <;>
          simp [exchangeRequestMut, insertHeader, own, HeaderMap.mergeHeaders_insert]
    rw [foldl_cons, ih, first, foldl_cons]

/-- The target has no part in what is inherited. -/
theorem materialize_fields : (exchangeRequestMut inbound node).targetScheme = node.targetScheme ∧
    (exchangeRequestMut inbound node).target = node.target := by
  cases inbound with
  | none => exact ⟨rfl, rfl⟩
  | some head => cases own : node.inheritsRequestHead <;> simp [exchangeRequestMut, own]

theorem materialize_retargeted (preference : HttpVersionPreference)
    (parsed : ParsedHttpUpstreamTarget) :
    exchangeRequestMut inbound (node.retargeted preference parsed) =
      (exchangeRequestMut inbound node).retargeted preference parsed := by
  cases inbound with
  | none => rfl
  | some head =>
    cases own : node.inheritsRequestHead <;> simp [exchangeRequestMut, own, retargeted]

/-- A call does the same before and after the inbound head is taken into the map. -/
theorem run_materialize (call : ExchangeCall) :
    exchangeRequestMut inbound (call.run libraries inbound node).2 =
      (call.run libraries inbound (exchangeRequestMut inbound node)).2 := by
  rcases call.prepares_or with ⟨host, port, version, headers, rfl⟩ | other
  · cases inbound with
    | none => rfl
    | some head =>
      simp only [run, prepare_eq, materialize_fields.1]
      cases prepared libraries node.targetScheme host port version headers with
      | none => rfl
      | some change =>
        rw [Option.elim_some, insertHeaders_materialize, materialize_retargeted, Option.elim_some]
  have kept : exchangeRequestMut inbound
      (call.run libraries none (exchangeRequestMut inbound node)).2 =
        (call.run libraries none (exchangeRequestMut inbound node)).2 :=
    exchangeRequestMut_of_own fun present => ((@run_none_follows libraries inbound call
      (exchangeRequestMut inbound node) other).inherits).trans (exchangeRequestMut_own node present)
  rcases @run_eq libraries inbound call node other with changed | ⟨same, refused⟩
  · rcases @run_eq libraries inbound call (exchangeRequestMut inbound node) other with
      again | ⟨again, refused⟩
    · rw [changed, again, exchangeRequestMut_fixed, kept]
    · rw [changed, again, kept, refused]
  · rcases @run_eq libraries inbound call (exchangeRequestMut inbound node) other with
      again | ⟨again, -⟩
    · rw [same, again, refused, exchangeRequestMut_fixed]
    · rw [same, again]

theorem runCalls_materialize (calls : List ExchangeCall) :
    exchangeRequestMut inbound (runCalls libraries inbound calls node) =
      runCalls libraries inbound calls (exchangeRequestMut inbound node) := by
  induction calls generalizing node with
  | nil => rfl
  | cons call calls ih =>
    show exchangeRequestMut inbound (runCalls libraries inbound calls _) = _
    rw [ih, run_materialize]
    rfl

end

/-! ## What some calls make of a node -/

section

variable {libraries : UrlLibraries} {inbound : Option HttpRequestHead}
variable {node : HttpOutboundRequestNode}

/-- Headers that are inserted into a node of its own touch nothing else. -/
theorem insertHeaders_own {headers : HeaderMap} (own : node.inheritsRequestHead = false) :
    ∃ after, headers.foldl insertHeader node = { node with headers := after } ∧
      HeaderMap.values after = (headers.map setEdit).foldl apply (HeaderMap.values node.headers) := by
  induction headers generalizing node with
  | nil => exact ⟨node.headers, rfl, rfl⟩
  | cons entry headers ih =>
    have inserted : node.insertHeader entry =
        { node with headers := node.headers.insert entry.1 entry.2 } := by
      simp [insertHeader, own]
    obtain ⟨after, same, values⟩ := @ih (node.insertHeader entry) (by rw [inserted, own])
    refine ⟨after, by rw [foldl_cons, same, inserted], values.trans ?_⟩
    rw [inserted, values_insert]
    rfl

/-- A call sets what it gives, on a node that inherits nothing. -/
theorem run_follows (own : inbound.isSome → node.inheritsRequestHead = false)
    (call : ExchangeCall) :
    call.Follows libraries inbound node (call.run libraries inbound node).2 := by
  rcases call.prepares_or with ⟨host, port, version, headers, rfl⟩ | other
  · cases inbound with
    | none => exact ⟨rfl, rfl, rfl, rfl, rfl, fun _ => by simp [authority?, run], fun _ => .inl, rfl⟩
    | some head =>
      obtain ⟨authority, edits, visible⟩ :=
        @prepared_gives libraries host port version headers head node.targetScheme
      simp only [run, prepare_eq]
      cases made : prepared libraries node.targetScheme host port version headers with
      | none =>
        rw [made] at authority edits
        exact ⟨rfl, rfl, rfl, rfl, rfl, fun _ => by rw [authority]; rfl, fun _ => .inl, by rw [edits]; rfl⟩
      | some change =>
        rw [made] at authority edits visible
        obtain ⟨after, same, values⟩ :=
          @insertHeaders_own (node.retargeted change.1 change.2.1) change.2.2 (own rfl)
        rw [Option.elim_some, same]
        refine ⟨rfl, rfl, rfl, rfl, rfl, fun _ => by rw [authority]; rfl, ?_, ?_⟩
        · rintro target ⟨⟩
          exact .inr (visible change rfl)
        · rw [edits]
          exact values
  have follows := @run_none_follows libraries inbound call node other
  rcases @run_eq libraries inbound call node other with changed | ⟨same, refused⟩
  · rw [changed, exchangeRequestMut_of_own own]
    exact follows
  · rw [same]
    rw [refused] at follows
    exact follows

/-- What the calls keep, if taking the inbound head in, setting a target and inserting a header
keep it. -/
theorem runCalls_keeps {motive : HttpOutboundRequestNode → Prop}
    (takes : ∀ {node}, motive node → motive (exchangeRequestMut inbound node))
    (follows : ∀ {call : ExchangeCall} {node after}, motive node →
      call.Follows libraries inbound node after → motive after)
    (retargets : ∀ {node preference parsed}, Visible parsed.authority → motive node →
      motive (node.retargeted preference parsed))
    (inserts : ∀ {node entry}, motive node → motive (node.insertHeader entry))
    (start : motive node) (calls : List ExchangeCall) :
    motive (runCalls libraries inbound calls node) := by
  induction calls generalizing node with
  | nil => exact start
  | cons call calls ih =>
    refine @ih (call.run libraries inbound node).2 ?_
    rcases call.prepares_or with ⟨host, port, version, headers, rfl⟩ | other
    · cases inbound with
      | none => exact start
      | some head =>
        have visible := (@prepared_gives libraries host port version headers head
          node.targetScheme).2.2
        simp only [run, prepare_eq]
        cases made : prepared libraries node.targetScheme host port version headers with
        | none => exact start
        | some change =>
          have set := @retargets _ change.1 _ (visible change made) start
          exact foldlRecOn _ _ set fun _ kept _ _ => inserts kept
    rcases @run_eq libraries inbound call node other with changed | ⟨same, -⟩
    · rw [changed]
      exact follows (takes start) (run_none_follows call _ other)
    · rw [same]
      exact start

/-- The last of what some calls gave. -/
theorem getLast?_filterMap_cons {α β : Type} (given : α → Option β) (first : α) (rest : List α) :
    (filterMap given (first :: rest)).getLast? =
      (filterMap given rest).getLast?.or (given first) := by
  cases set : given first with
  | none => rw [filterMap_cons_none set, Option.or_none]
  | some value =>
    rw [filterMap_cons_some set, getLast?_cons]
    cases (filterMap given rest).getLast? <;> rfl

variable (own : inbound.isSome → node.inheritsRequestHead = false) {calls : List ExchangeCall}
include own

/-- The node behind some calls, its target apart. -/
theorem runCalls_follows :
    (runCalls libraries inbound calls node).inheritsRequestHead = node.inheritsRequestHead ∧
    (runCalls libraries inbound calls node).method =
      (calls.filterMap method?).getLast?.getD node.method ∧
    (runCalls libraries inbound calls node).path =
      (calls.filterMap path?).getLast?.getD node.path ∧
    (runCalls libraries inbound calls node).query =
      calls.foldl (queryBehind libraries) node.query ∧
    HeaderMap.values (runCalls libraries inbound calls node).headers =
      (calls.flatMap (edits libraries inbound)).foldl apply (HeaderMap.values node.headers) := by
  induction calls generalizing node with
  | nil => exact ⟨rfl, rfl, rfl, rfl, rfl⟩
  | cons call calls ih =>
    have follows : call.Follows libraries inbound node _ := run_follows own call
    obtain ⟨inherits, method, path, query, values⟩ := ih fun some => follows.inherits.trans (own some)
    rw [follows.inherits] at inherits
    rw [follows.method] at method
    rw [follows.path] at path
    rw [follows.query] at query
    rw [follows.values, ← foldl_append] at values
    simp only [getLast?_filterMap_cons, Option.getD_or]
    exact ⟨inherits, method, path, query, values⟩

/-- The target behind calls that set no scheme. -/
theorem runCalls_authority (same : ∀ call ∈ calls, call.setsScheme = false) :
    (runCalls libraries inbound calls node).target.map ParsedHttpUpstreamTarget.authority =
      (calls.filterMap (authority? libraries inbound)).getLast?.or
        (node.target.map ParsedHttpUpstreamTarget.authority) := by
  induction calls generalizing node with
  | nil => rfl
  | cons call calls ih =>
    have follows : call.Follows libraries inbound node _ := run_follows own call
    have rest := ih (fun some => follows.inherits.trans (own some))
      fun later member => same later (mem_cons_of_mem call member)
    rw [follows.authority (same call mem_cons_self), ← Option.or_assoc] at rest
    rw [getLast?_filterMap_cons]
    exact rest

end

/-! ## Where a request starts -/

attribute [local simp] HeaderMap.values

theorem values_append (front behind : HeaderMap) (name : HeaderName) :
    HeaderMap.values (front ++ behind) name =
      HeaderMap.values front name ++ HeaderMap.values behind name := by
  simp [HeaderMap.getAll_append]

/-- A token is text. -/
theorem fromUtf8_token {bytes : List UInt8} (token : Rfc9112.Token bytes) :
    (fromUtf8 bytes).isSome := by
  have small : ∀ byte ∈ bytes, byte < 128 := by
    intro byte member
    exact forall_byte (motive := fun byte => Rfc9112.isTchar byte → byte < 128)
      (by decide +kernel) byte (token.2 byte member)
  rw [fromUtf8_ascii bytes small]
  rfl

attribute [local simp] rawValues

/-- A header that is passed on if it is text, and then is checked, is one entry of the map. -/
theorem values_header {header : RawHttpHeader} (name : HeaderName)
    (checked : (fromUtf8 header.name).isSome →
      Rfc9112.Token header.name ∧ ∀ byte ∈ header.value, Rfc9112.isFieldByte byte) :
    HeaderMap.values (do
        let name ← HeaderName.fromBytes header.name
        let value ← HeaderValue.fromBytes header.value
        some (name, value) : Option (HeaderName × HeaderValue)).toList name =
      rawValues ([header].filter fun header => (fromUtf8 header.name).isSome) name := by
  by_cases token : Rfc9112.Token header.name
  · have text := fromUtf8_token token
    have valued : HeaderValue.fromBytes header.value = some ⟨header.value, (checked text).2⟩ :=
      dif_pos (all_eq_true.mpr (checked text).2)
    have kept : [header].filter (fun header => (fromUtf8 header.name).isSome) = [header] :=
      filter_cons_of_pos text
    rw [kept]
    cases made : HeaderName.fromBytes header.name with
    | some named =>
      have same : named = name ↔ eqIgnoreAsciiCase header.name name.bytes :=
        HeaderName.fromBytes_eq_some made
      by_cases equal : named = name
      · simp [valued, HeaderMap.getAll_cons, equal, same.mp equal]
      · simp [valued, HeaderMap.getAll_cons, equal, (not_congr same).mp equal]
    | none =>
      -- the name is longer than those of a map
      have other : eqIgnoreAsciiCase header.name name.bytes = false := by
        rw [Bool.eq_false_iff]
        intro same
        have lengths := congrArg length (eq_of_beq same)
        rw [length_map, length_map] at lengths
        rw [HeaderName.fromBytes, dif_pos ⟨token, lengths ▸ name.short⟩] at made
        cases made
      simp [other]
  · have binary : (fromUtf8 header.name).isSome = false := by
      rw [Bool.eq_false_iff]
      exact fun text => token (checked text).1
    have unnamed : HeaderName.fromBytes header.name = none := dif_neg fun both => token both.1
    simp [unnamed, binary]

/-- Checked headers keep their values when the map is built of them. -/
theorem values_lazy {lazy : LazyHttpHeaders} (checked : ∀ header ∈ lazy.forEachHeader,
      Rfc9112.Token header.name ∧ ∀ byte ∈ header.value, Rfc9112.isFieldByte byte) :
    HeaderMap.values lazy.headers = rawValues lazy.forEachHeader := by
  obtain ⟨raw, parsed⟩ := lazy
  funext name
  cases parsed with
  | some parsed => exact (rawValues_entryLine).symm
  | none =>
    simp only [LazyHttpHeaders.headers, LazyHttpHeaders.forEachHeader] at checked ⊢
    generalize raw.getD [] = raw at checked ⊢
    induction raw with
    | nil => rfl
    | cons header raw ih =>
      have rest := ih fun other member => checked other (by
        obtain ⟨inside, text⟩ := mem_filter.mp member
        exact mem_filter.mpr ⟨mem_cons_of_mem _ inside, text⟩)
      have first := values_header name fun text =>
        checked header (mem_filter.mpr ⟨mem_cons_self, text⟩)
      rw [← singleton_append, filter_append, rawValues_append, ← first, ← rest,
        filterMap_append, values_append, filterMap_cons, filterMap_nil]
      congr 1

/-- The map that the inbound head is taken into has what the calls ask for. -/
theorem runCalls_asked (libraries : UrlLibraries) (inbound : Option HttpRequestHead)
    (calls : List ExchangeCall) :
    (exchangeRequestMut inbound
        (runCalls libraries inbound calls (exchangeNode inbound))).inheritsRequestHead = false ∧
      HeaderMap.values (exchangeRequestMut inbound
        (runCalls libraries inbound calls (exchangeNode inbound))).headers =
      askedFor libraries inbound calls := by
  have start : (exchangeRequestMut inbound (exchangeNode inbound)).inheritsRequestHead = false ∧
      HeaderMap.values (exchangeRequestMut inbound (exchangeNode inbound)).headers =
        inboundValues inbound := by
    cases inbound with
    | none => exact ⟨rfl, rfl⟩
    | some head => exact ⟨rfl, values_lazy head.headersChecked⟩
  obtain ⟨inherits, -, -, -, values⟩ := @runCalls_follows libraries inbound
    (exchangeRequestMut inbound (exchangeNode inbound)) (fun _ => start.1) calls
  rw [runCalls_materialize, inherits, values, start.2]
  exact ⟨start.1, rfl⟩

/-! ## Overrides -/

/-- No name has more than one value. -/
def Single (headers : HeaderMap) : Prop := ∀ name, (headers.getAll name).length ≤ 1

/-- The overrides are inserted, so no name has two. -/
theorem single_runCalls {libraries : UrlLibraries} {inbound : Option HttpRequestHead}
    {node : HttpOutboundRequestNode} (single : Single node.inheritedHeaderOverrides)
    {calls : List ExchangeCall} :
    Single (runCalls libraries inbound calls node).inheritedHeaderOverrides := by
  refine runCalls_keeps (motive := fun node => Single node.inheritedHeaderOverrides) ?_ ?_ ?_ ?_
    single calls
  · intro node single
    unfold exchangeRequestMut materializeInheritedRequestHead
    split
    · split_ifs
      · exact fun _ => Nat.zero_le 1
      · exact single
    · exact single
  · intro call node after single follows
    rw [follows.overrides]
    exact single
  · exact fun _ single => single
  · intro node entry single
    unfold insertHeader
    split_ifs
    · intro other
      rw [HeaderMap.getAll_insert]
      split_ifs
      · exact Nat.le_refl 1
      · exact single other
    · exact single

end PdEdge.State

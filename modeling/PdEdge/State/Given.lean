import PdEdge.State.HeaderFidelity

/-!
# What a request has of its calls

A method, a path, a query, a target or a header that a call gives is in the head that is
serialized, as it was given, unless a later call of the same kind is accepted. A call that is
refused leaves nothing there, but for the target of a prepared request whose headers are refused.
-/

namespace PdEdge.State

open Text HttpOutboundRequestNode HeaderEdit ExchangeCall List
open Upstream (requestHeaderLines requestTarget)

/-- The head has what the last accepted call of each kind gave, or else what the request started
with. A scheme that is set formats the authority again, from the host that was parsed. -/
structure OutboundHead.Given (libraries : UrlLibraries) (inbound : Option HttpRequestHead)
    (start : HttpOutboundRequestNode) (calls : List ExchangeCall) (head : OutboundHead) :
    Prop where
  method : head.method = (calls.filterMap ExchangeCall.method?).getLast?.getD start.method
  path : head.path = (calls.filterMap ExchangeCall.path?).getLast?.getD start.path
  query : head.query = calls.foldl (ExchangeCall.queryBehind libraries) start.query
  authority : ∀ before behind authority, calls = before ++ behind →
    (behind.filterMap (ExchangeCall.authority? libraries inbound)).getLast? = some authority →
    (∀ call ∈ behind, call.setsScheme = false) → head.authority = authority
  headers : ∀ name, endToEnd name → ∀ bodyContentLength,
    (head.values bodyContentLength name).getLast? =
      ((calls.flatMap (ExchangeCall.edits libraries inbound)).foldl apply
        (HeaderMap.values start.headers) name).getLast?

section

variable {libraries : UrlLibraries} {inbound : Option HttpRequestHead}
variable {node : HttpOutboundRequestNode} {calls : List ExchangeCall} {head : OutboundHead}

/-- A head is that of the node with the inbound head taken into it, but for further values of a
header. -/
theorem outboundHead_line (sound : node.Sound) (single : Single node.inheritedHeaderOverrides)
    (asked : node.outboundHead inbound = some head) :
    head.method = (exchangeRequestMut inbound node).method ∧
    head.path = (exchangeRequestMut inbound node).path ∧
    head.query = (exchangeRequestMut inbound node).query ∧
    node.target.map ParsedHttpUpstreamTarget.authority = some head.authority ∧
    ∀ name, endToEnd name → ∀ bodyContentLength, (head.values bodyContentLength name).getLast? =
      (HeaderMap.values (exchangeRequestMut inbound node).headers name).getLast? := by
  obtain ⟨target, present, -⟩ := Option.map_eq_some_iff.mp asked
  have visible := sound.authority target present
  by_cases own : inbound.isSome → node.inheritsRequestHead = false
  · have same := exchangeRequestMut_of_own own
    obtain rfl : node.ownHead target = head :=
      Option.some.inj ((outboundHead_own own present).symm.trans asked)
    rw [same, present]
    refine ⟨rfl, rfl, rfl, rfl, fun name kept bodyContentLength => ?_⟩
    have sent := own_endToEnd visible node.headers bodyContentLength kept
    rw [show (node.ownHead target).values bodyContentLength name = _ from sent]
    cases (HeaderMap.values node.headers name).getLast? <;> rfl
  · cases inbound with
    | none => exact absurd nofun own
    | some inbound =>
      have inherits : node.inheritsRequestHead := by simpa using own
      obtain ⟨method, path, query, authority, hosted, given, inherited⟩ :=
        outboundHead_inheriting inherits present asked
      have merges := merges_overrides single given inherited inherits
      have line : (exchangeRequestMut (some inbound) node).method = inbound.method ∧
          (exchangeRequestMut (some inbound) node).path = inbound.path ∧
          (exchangeRequestMut (some inbound) node).query = inbound.query := by
        simp [exchangeRequestMut, materializeInheritedRequestHead, inherits]
      rw [line.1, line.2.1, line.2.2, present, authority]
      refine ⟨method, path, query, rfl, fun name kept bodyContentLength => ?_⟩
      rw [OutboundHead.values, authority, inheriting_endToEnd merges hosted kept]

/-- The head that is asked for behind some calls has what they gave. -/
theorem outboundHead_given (sound : node.Sound) (single : Single node.inheritedHeaderOverrides)
    (asked : (runCalls libraries inbound calls node).outboundHead inbound = some head) :
    head.Given libraries inbound (exchangeRequestMut inbound node) calls := by
  obtain ⟨method, path, query, authority, headers⟩ :=
    outboundHead_line (runCalls_sound sound) (single_runCalls single) asked
  rw [runCalls_materialize] at method path query headers
  obtain ⟨-, ran, ranPath, ranQuery, values⟩ := @runCalls_follows libraries inbound _
    (exchangeRequestMut_own node) calls
  refine ⟨method.trans ran, path.trans ranPath, query.trans ranQuery, ?_, ?_⟩
  · rintro before behind given rfl last same
    have split : exchangeRequestMut inbound (runCalls libraries inbound (before ++ behind) node) =
        runCalls libraries inbound behind
          (exchangeRequestMut inbound (runCalls libraries inbound before node)) := by
      rw [← runCalls_materialize]
      simp [runCalls]
    have set := @runCalls_authority libraries inbound
      (exchangeRequestMut inbound (runCalls libraries inbound before node))
      (exchangeRequestMut_own _) behind same
    rw [← split, materialize_fields.2, authority, last, Option.some_or] at set
    exact Option.some.inj set
  · intro name kept bodyContentLength
    rw [headers name kept bodyContentLength, values]

end

/-- Whatever calls a program makes on an exchange, from a new one or the default one, whatever
they return: the head that is serialized for it is read as its method, its target and its
headers, in one way, and no value of a call adds a line to it; and what the last accepted call of
each kind gave is there as it was given. -/
theorem no_request_splitting (libraries : UrlLibraries) (inbound : Option HttpRequestHead)
    (node : HttpOutboundRequestNode) (calls : List ExchangeCall) (head : OutboundHead)
    (start : node = .new ∨ node = .defaultUpstream)
    (asked : (runCalls libraries inbound calls node).outboundHead inbound = some head) :
    (∀ bodyContentLength, Unsplit (head.serialize bodyContentLength) head.method.name
        (requestTarget (toUtf8 head.path) (toUtf8 head.query))
        (requestHeaderLines head.headers (toUtf8 head.authority) bodyContentLength).1) ∧
    head.Given libraries inbound (exchangeRequestMut inbound node) calls := by
  have clean : node.Sound ∧ Single node.inheritedHeaderOverrides := by
    rcases start with rfl | rfl
    · exact ⟨sound_new, fun _ => Nat.zero_le 1⟩
    · exact ⟨sound_defaultUpstream, fun _ => Nat.zero_le 1⟩
  have after : (runCalls libraries inbound calls node).Sound := runCalls_sound clean.1
  exact ⟨(outboundHead_checked after asked).unsplit, outboundHead_given clean.1 clean.2 asked⟩

/-- A request with a query and a header; a path with a line break in it is refused, and what was
given before it is sent. -/
theorem no_request_splitting_sample :
    let calls : List ExchangeCall := [.setTarget "upstream".toList 80, .setPath "/a".toList,
      .setHeader "X-Tag".toList "a b".toList,
      .setPath "/x HTTP/1.1\r\nHost: evil\r\n\r\n".toList, .setQuery "?q=1".toList,
      .setHeader "X-Tag".toList "c".toList]
    ∃ head, (runCalls visibleUrls none calls .new).outboundHead none = some head ∧
      Unsplit (head.serialize none) head.method.name
        (requestTarget (toUtf8 head.path) (toUtf8 head.query))
        (requestHeaderLines head.headers (toUtf8 head.authority) none).1 ∧
      head.path = "/a".toList ∧ head.query = "q=1".toList ∧
      head.authority = "upstream:80".toList ∧
      (head.values none xTag).getLast? = some (ascii "c") := by
  intro calls
  have present : ((runCalls visibleUrls none calls .new).outboundHead none).isSome := by
    decide +kernel
  obtain ⟨head, asked⟩ := Option.isSome_iff_exists.mp present
  obtain ⟨unsplit, given⟩ :=
    no_request_splitting visibleUrls none .new calls head (Or.inl rfl) asked
  refine ⟨head, asked, unsplit none, given.path.trans ?_, given.query.trans ?_,
    given.authority [] calls _ rfl ?_ ?_, (given.headers xTag ?_ none).trans ?_⟩
  all_goals decide +kernel

end PdEdge.State

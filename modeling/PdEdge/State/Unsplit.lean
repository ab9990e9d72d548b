import PdEdge.State.HeaderCalls

/-!
# No request can be split

Whatever a program passes to the host functions, the head that is serialized for its request
is read as one head: its method, its target and its headers, and nothing behind them. The
checks of the host functions are an invariant of the node, kept by every call; the serializer
adds nothing that breaks a line.
-/

namespace PdEdge.State

open Text Wire HttpOutboundRequestNode Rfc9112 ExchangeCall List
open Upstream (OutboundHttp1RequestHeaders requestHeaderLines requestTarget encodeLine)

/-- A header that a line can hold. -/
def LineSafe (header : RawHttpHeader) : Prop :=
  Rfc9112.Token header.name ∧ ∀ byte ∈ header.value, Rfc9112.isFieldByte byte

/-- The field that a header line is read as. -/
def fieldOf (header : RawHttpHeader) : List UInt8 × List UInt8 :=
  (header.name.map lower, Rfc9112.stripBlanks header.value)

/-- Every reader finds this method, this target and these headers, and nothing of what follows
in the head; there is no line break but those that end the lines. -/
structure Unsplit (head method target : List UInt8) (headers : List RawHttpHeader) : Prop where
  reads : ∀ rest, Rfc9112.RequestMessage (head ++ rest) method target (headers.map fieldOf) rest
  only : ∀ rest method' target' fields rest',
    Rfc9112.RequestMessage (head ++ rest) method' target' fields rest' →
    method' = method ∧ target' = target ∧ fields = headers.map fieldOf ∧ rest' = rest
  feeds : head.count 10 = headers.length + 2
  returns : head.count 13 = headers.length + 2

/-! ## The lines of a head -/

section

theorem token_unbroken {bytes : List UInt8} (token : Rfc9112.Token bytes) :
    ∀ byte ∈ bytes, breaks byte = false := by
  intro byte member
  have tchar := token.2 byte member
  exact forall_byte (motive := fun byte => isTchar byte → breaks byte = false)
    (by decide +kernel) byte tchar

/-- No byte of a checked header ends a line. -/
theorem lineSafe_breaks {header : RawHttpHeader} (safe : LineSafe header) :
    (10 : UInt8) ∉ header.name ++ ascii ": " ++ header.value ∧
      (13 : UInt8) ∉ header.name ++ ascii ": " ++ header.value := by
  have free {byte : UInt8} (broken : breaks byte) (control : ¬ isFieldByte byte)
      (colon : byte ∉ ascii ": ") : byte ∉ header.name ++ ascii ": " ++ header.value := by
    intro member
    rcases mem_append.mp member with member | member
    · rcases mem_append.mp member with member | member
      · have unbroken := token_unbroken safe.1 byte member
        rw [broken] at unbroken
        cases unbroken
      · exact colon member
    · exact control (safe.2 byte member)
  exact ⟨free (by decide) (by decide) (by decide), free (by decide) (by decide) (by decide)⟩

variable {headers : List RawHttpHeader} (safe : ∀ header ∈ headers, LineSafe header)
include safe

/-- The lines of checked headers are read back as the headers. -/
theorem parseFields_safe :
    (headers.map fun header => header.name ++ ascii ": " ++ header.value).mapM
      parseFieldLine = some (headers.map fieldOf) := by
  induction headers with
  | nil => rfl
  | cons header headers ih =>
    have first := safe header mem_cons_self
    have rest := ih fun header member => safe header (mem_cons_of_mem _ member)
    rw [map_cons, mapM_cons, parseFieldLine_field first.1 first.2, rest]
    rfl

/-- One line break for each header. -/
theorem count_lines {byte : UInt8} (ends : crlf.count byte = 1)
    (free : ∀ header : RawHttpHeader, LineSafe header →
      byte ∉ header.name ++ ascii ": " ++ header.value) :
    (headers.flatMap encodeLine).count byte = headers.length := by
  induction headers with
  | nil => rfl
  | cons header headers ih =>
    have first := free header (safe header mem_cons_self)
    have rest := ih fun header member => safe header (mem_cons_of_mem _ member)
    rw [flatMap_cons, count_append, rest, encodeLine, count_append, ends,
      count_eq_zero_of_not_mem first, length_cons]
    omega

end

variable {method target : List UInt8}

/-- A request line splits at its two spaces. -/
theorem splitOn_requestLine (methodUnbroken : ∀ byte ∈ method, breaks byte = false)
    (targetUnbroken : ∀ byte ∈ target, breaks byte = false) :
    (method ++ ascii " " ++ target ++ ascii " HTTP/1.1").splitOn 32 =
      [method, target, ascii "HTTP/1.1"] := by
  have solid {bytes : List UInt8} (unbroken : ∀ byte ∈ bytes, breaks byte = false) :
      (32 : UInt8) ∉ bytes := by
    intro member
    exact absurd (unbroken 32 member) (by decide)
  have line : method ++ ascii " " ++ target ++ ascii " HTTP/1.1" =
      method ++ 32 :: (target ++ 32 :: ascii "HTTP/1.1") := by simp [ascii]
  rw [line, splitOn_append_cons_self_of_not_mem (solid methodUnbroken),
    splitOn_append_cons_self_of_not_mem (solid targetUnbroken)]
  rfl

/-- A head of a token, an unbroken target and checked headers is not split. -/
theorem unsplit_of_safe {headers : List RawHttpHeader} (token : Rfc9112.Token method)
    (unbroken : ∀ byte ∈ target, breaks byte = false) (safe : ∀ header ∈ headers, LineSafe header) :
    Unsplit (method ++ ascii " " ++ target ++ ascii " HTTP/1.1\r\n" ++
      headers.flatMap encodeLine ++ crlf) method target headers := by
  have methodUnbroken := token_unbroken token
  let start := method ++ ascii " " ++ target ++ ascii " HTTP/1.1"
  let lines := headers.map fun header => header.name ++ ascii ": " ++ header.value
  have clear {byte : UInt8} (broken : breaks byte)
      (fixed : byte ∉ ascii " " ∧ byte ∉ ascii " HTTP/1.1") : byte ∉ start := by
    have notMethod : byte ∉ method := fun member => by simp [methodUnbroken byte member] at broken
    have notTarget : byte ∉ target := fun member => by simp [unbroken byte member] at broken
    simp only [start, mem_append]
    tauto
  have shape (rest : List UInt8) : method ++ ascii " " ++ target ++ ascii " HTTP/1.1\r\n" ++
      headers.flatMap encodeLine ++ crlf ++ rest =
      start ++ crlf ++ (Chunked.encodeTrailers lines ++ rest) := by
    have version : ascii " HTTP/1.1\r\n" = ascii " HTTP/1.1" ++ crlf := by decide
    have encoded : headers.flatMap encodeLine ++ crlf = Chunked.encodeTrailers lines := by
      simp only [Chunked.encodeTrailers, lines, flatMap_map]
      rfl
    simp only [start, version, ← encoded, append_assoc]
  have single : findCrlf start = none := findCrlf_none (clear (by decide) (by decide))
  have each : ∀ line ∈ lines, findCrlf line = none ∧ line ≠ [] := by
    refine forall_mem_map.mpr fun header listed => ?_
    have checked := safe header listed
    refine ⟨findCrlf_none (lineSafe_breaks checked).2, ?_⟩
    simp [checked.1.1]
  have reads (rest : List UInt8) := @Rfc9112.RequestMessage.intro start method target lines _ rest
    single (splitOn_requestLine methodUnbroken unbroken) each (parseFields_safe safe)
  have counts {byte : UInt8} (broken : breaks byte) (ends : crlf.count byte = 1)
      (fixed : byte ∉ ascii " " ∧ byte ∉ ascii " HTTP/1.1")
      (free : ∀ header : RawHttpHeader, LineSafe header →
        byte ∉ header.name ++ ascii ": " ++ header.value) :
      (method ++ ascii " " ++ target ++ ascii " HTTP/1.1\r\n" ++
        headers.flatMap encodeLine ++ crlf).count byte = headers.length + 2 := by
    have version : ascii " HTTP/1.1\r\n" = ascii " HTTP/1.1" ++ crlf := by decide
    have front := count_eq_zero_of_not_mem (clear broken fixed)
    rw [version, ← append_assoc, count_append, count_append, count_append,
      count_lines safe ends free, ends, front]
    omega
  refine ⟨?_, ?_, ?_, ?_⟩
  · intro rest
    rw [shape]
    exact reads rest
  · intro rest method' target' fields rest' read
    rw [shape] at read
    exact (reads rest).unique read
  · exact counts (by decide) (by decide) (by decide) fun _ checked => (lineSafe_breaks checked).1
  · exact counts (by decide) (by decide) (by decide) fun _ checked => (lineSafe_breaks checked).2

/-- The lines of a head are safe where the inherited headers, the host and the authority are. -/
theorem lines_safe {headers : OutboundHttp1RequestHeaders} {authority : List UInt8}
    (inherited : ∀ header ∈ headers.inherited, LineSafe header)
    (host : ∀ host ∈ headers.hostHeader, ∀ byte ∈ host, isFieldByte byte)
    (visible : ∀ byte ∈ authority, isFieldByte byte) (bodyContentLength : Option Nat) :
    ∀ line ∈ (requestHeaderLines headers authority bodyContentLength).1, LineSafe line := by
  have named (name : HeaderName) {value : List UInt8}
      (visible : ∀ byte ∈ value, isFieldByte byte) : LineSafe ⟨name.bytes, value⟩ :=
    ⟨name.token, visible⟩
  have framing : LineSafe (Upstream.addedFraming bodyContentLength) := by
    cases bodyContentLength with
    | none => exact named .transferEncoding (by decide +kernel)
    | some length => exact named .contentLength (decimal_writeDigits length).2
  intro line member
  rcases (Upstream.mem_requestHeaderLines headers authority bodyContentLength).mp member with
    ⟨passed, -⟩ | given | added
  · exact inherited line passed
  · obtain ⟨entry, -, rfl⟩ := mem_map.mp given
    exact named entry.1 entry.2.visible
  rcases Upstream.mem_added headers authority bodyContentLength added with
    ⟨value, listed, rfl⟩ | rfl | ⟨-, rfl⟩ | ⟨-, rfl⟩
  · exact named .host (host value listed)
  · exact named .host visible
  · exact framing
  · exact named .connection (by decide +kernel)

/-! ## What the host functions let through -/

variable {text : List Char}

/-- Text without the characters that break a line has no byte that does. -/
theorem unbroken_of_codes
    (free : ∀ char ∈ text, char.toNat ≠ 10 ∧ char.toNat ≠ 13 ∧ char.toNat ≠ 32) :
    ∀ byte ∈ toUtf8 text, breaks byte = false := by
  intro byte member
  obtain ⟨char, listed, inside⟩ := mem_flatMap.mp member
  have code := free char listed
  have apart : byte.toNat ≠ 10 ∧ byte.toNat ≠ 13 ∧ byte.toNat ≠ 32 := by
    rcases mem_utf8EncodeChar inside with same | ⟨large, -⟩ <;> omega
  have other {number : UInt8} (differs : byte.toNat ≠ number.toNat) : (byte == number) = false :=
    beq_false_of_ne fun same => differs (congrArg UInt8.toNat same)
  have feed : (byte == 10) = false := other apart.1
  have ret : (byte == 13) = false := other apart.2.1
  have space : (byte == 32) = false := other apart.2.2
  simp only [breaks, feed, ret, space, Bool.or_false]

theorem unbroken_of_whitespace (none : text.any isWhitespace = false) :
    ∀ byte ∈ toUtf8 text, breaks byte = false := by
  apply unbroken_of_codes
  intro char member
  have black : isWhitespace char = false := by simpa using any_eq_false.mp none char member
  refine ⟨?_, ?_, ?_⟩ <;> intro code <;> simp [isWhitespace, code] at black

/-- Visible ASCII is visible in bytes. -/
theorem visible_of_codes (each : ∀ char ∈ text, 33 ≤ char.toNat ∧ char.toNat ≤ 126) :
    ∀ byte ∈ toUtf8 text, isFieldByte byte := by
  intro byte member
  obtain ⟨char, listed, inside⟩ := mem_flatMap.mp member
  have code := each char listed
  have range : 33 ≤ byte.toNat ∧ byte.toNat ≤ 126 := by
    rcases mem_utf8EncodeChar inside with same | ⟨-, large⟩ <;> omega
  exact forall_byte (motive := fun byte => 33 ≤ byte.toNat ∧ byte.toNat ≤ 126 →
    isFieldByte byte) (by decide +kernel) byte range

/-- What the checks of the host functions leave in a node. -/
structure HttpOutboundRequestNode.Sound (node : HttpOutboundRequestNode) : Prop where
  token : Rfc9112.Token node.method.name
  path : ∀ byte ∈ toUtf8 node.path, breaks byte = false
  query : ∀ byte ∈ toUtf8 node.query, breaks byte = false
  authority : ∀ target ∈ node.target, ∀ byte ∈ toUtf8 target.authority, Rfc9112.isFieldByte byte

section

variable {libraries : UrlLibraries} {inbound : Option HttpRequestHead}
variable {node : HttpOutboundRequestNode}

theorem sound_new : new.Sound :=
  ⟨by decide +kernel, by decide +kernel, by decide +kernel, nofun⟩

theorem sound_defaultUpstream : defaultUpstream.Sound :=
  ⟨by decide +kernel, by decide +kernel, by decide +kernel, nofun⟩

/-- Form pairs are written without line breaks. -/
theorem queryWithArg_unbroken {query key value : List Char} :
    ∀ byte ∈ toUtf8 (queryWithArg libraries query key value), breaks byte = false := by
  apply unbroken_of_codes
  intro char member
  have written := libraries.encoded _ char member
  refine ⟨?_, ?_, ?_⟩ <;> intro code
  all_goals
    have same := Char.ofNat_toNat char
    rw [code] at same
    rw [← same] at written
    exact absurd written (by decide)

section

variable {call : ExchangeCall} {after : HttpOutboundRequestNode}

/-- What a call gives is checked. -/
theorem ExchangeCall.Follows.sound (follows : call.Follows libraries inbound node after)
    (sound : node.Sound) : after.Sound := by
  obtain ⟨-, -, method, path, query, -, visible, -⟩ := follows
  refine ⟨?_, ?_, ?_, ?_⟩
  · rw [method]
    cases call with
    | setMethod given =>
      simp only [method?, Method.fromBytes]
      split_ifs with token
      · exact token
      · exact sound.token
    | _ => exact sound.token
  · rw [path]
    cases call with
    | setPath given =>
      simp only [path?]
      split_ifs with valid
      · simp only [isValidRequestPath, Bool.and_eq_true, Bool.not_eq_true'] at valid
        exact unbroken_of_whitespace valid.2
      · exact sound.path
    | _ => exact sound.path
  · rw [query]
    cases call with
    | setQuery given =>
      simp only [queryBehind]
      split_ifs with invalid
      · exact sound.query
      · simp only [Bool.or_eq_true, not_or, Bool.not_eq_true] at invalid
        exact unbroken_of_whitespace invalid.2
    | setQueryArg key value => exact queryWithArg_unbroken
    | _ => exact sound.query
  · intro target present
    rcases visible target present with old | visible
    · exact sound.authority target old
    · exact visible_of_codes visible

end

/-- Every call keeps what the checks established, whether it is accepted or not. -/
theorem runCalls_sound (sound : node.Sound) {calls : List ExchangeCall} :
    (runCalls libraries inbound calls node).Sound := by
  refine runCalls_keeps ?_ (fun sound follows => follows.sound sound) ?_ ?_ sound calls
  · intro node sound
    unfold exchangeRequestMut materializeInheritedRequestHead
    cases inbound with
    | none => exact sound
    | some head =>
      dsimp only
      split
      · exact ⟨head.token, head.pathUnbroken, head.queryUnbroken, sound.authority⟩
      · exact sound
  · intro node preference parsed visible sound
    refine ⟨sound.token, sound.path, sound.query, ?_⟩
    rintro target ⟨⟩
    exact visible_of_codes visible
  · intro node entry sound
    unfold insertHeader
    split
    all_goals exact ⟨sound.token, sound.path, sound.query, sound.authority⟩

/-- A head whose parts are checked. -/
structure OutboundHead.Checked (head : OutboundHead) : Prop where
  token : Rfc9112.Token head.method.name
  path : ∀ byte ∈ toUtf8 head.path, breaks byte = false
  query : ∀ byte ∈ toUtf8 head.query, breaks byte = false
  inherited : ∀ header ∈ head.headers.inherited, LineSafe header
  host : ∀ host ∈ head.headers.hostHeader, ∀ byte ∈ host, Rfc9112.isFieldByte byte
  authority : ∀ byte ∈ toUtf8 head.authority, Rfc9112.isFieldByte byte

variable {head : OutboundHead}

/-- A sound node asks for a checked head. -/
theorem outboundHead_checked (sound : node.Sound) (asked : node.outboundHead inbound = some head) :
    head.Checked := by
  obtain ⟨target, present, rfl⟩ := Option.map_eq_some_iff.mp asked
  have visible := sound.authority target present
  have own : OutboundHead.Checked ⟨node.method, node.path, node.query,
      .parsed (filteredUpstreamHeaders node.headers (some target.authority)), target.authority⟩ :=
    ⟨sound.token, sound.path, sound.query, nofun, nofun, visible⟩
  have host : ∀ host ∈ some (toUtf8 target.authority), ∀ byte ∈ host, isFieldByte byte := by
    rintro _ ⟨⟩
    exact visible
  cases node.inheritsRequestHead with
  | false => exact own
  | true =>
    cases inbound with
    | none => exact own
    | some request =>
      dsimp only
      split
      all_goals
        exact ⟨request.token, request.pathUnbroken, request.queryUnbroken, request.headersChecked,
          host, visible⟩

theorem requestTarget_unbroken {path query : List UInt8}
    (pathUnbroken : ∀ byte ∈ path, breaks byte = false)
    (queryUnbroken : ∀ byte ∈ query, breaks byte = false) :
    ∀ byte ∈ requestTarget path query, breaks byte = false := by
  have root : ∀ byte ∈ ascii "/", breaks byte = false := by decide +kernel
  have mark : ∀ byte ∈ ascii "?", breaks byte = false := by decide +kernel
  intro byte member
  rcases mem_append.mp member with member | member
  · split at member
    · exact root byte member
    · exact pathUnbroken byte member
  · split at member
    · cases member
    · exact (mem_append.mp member).elim (mark byte) (queryUnbroken byte)

theorem OutboundHead.Checked.unsplit (checked : head.Checked) (bodyContentLength : Option Nat) :
    Unsplit (head.serialize bodyContentLength) head.method.name
      (requestTarget (toUtf8 head.path) (toUtf8 head.query))
      (requestHeaderLines head.headers (toUtf8 head.authority) bodyContentLength).1 := by
  have safe := lines_safe checked.inherited checked.host checked.authority bodyContentLength
  have unbroken := requestTarget_unbroken checked.path checked.query
  exact unsplit_of_safe checked.token unbroken safe

end

/-- Libraries that take visible text for an authority and know no form pairs. -/
def visibleUrls : UrlLibraries where
  authorityHost text :=
    if text.all fun char => decide (33 ≤ char.toNat ∧ char.toNat ≤ 126) then
      some (text.takeWhile (· ≠ ':'))
    else none
  formParse _ := []
  formSerialize _ := []
  visible text host accepted := by
    split at accepted
    · rename_i visible
      intro char member
      exact of_decide_eq_true (List.all_eq_true.mp visible char member)
    · cases accepted
  encoded _ _ member := absurd member List.not_mem_nil

end PdEdge.State

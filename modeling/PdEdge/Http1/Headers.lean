import PdEdge.Lib.Rfc9112
import PdEdge.Http1.Basic

/-!
# Header names, values and maps

What the program uses of the `http` crate's header types. Names and values carry what their
checked constructors guarantee. A map is its entries in the order it iterates them: the
library fixes the order of the values of one name and leaves that of the names open.
-/

namespace PdEdge

open Text Rfc9112 List

/-- The longest name the library takes. -/
def maxHeaderNameLength : Nat := 65535

/-- `HeaderName`: a token in lower case. -/
@[ext] structure HeaderName where
  bytes : List UInt8
  token : Rfc9112.Token bytes
  lowered : bytes.map lower = bytes
  short : bytes.length ≤ maxHeaderNameLength
  deriving DecidableEq

/-- `HeaderValue`: visible, blank and opaque bytes. -/
@[ext] structure HeaderValue where
  bytes : List UInt8
  visible : ∀ byte ∈ bytes, Rfc9112.isFieldByte byte
  deriving DecidableEq

/-- Lower case keeps token characters and is reached in one step. -/
theorem lower_tchar {byte : UInt8} (tchar : isTchar byte) :
    isTchar (lower byte) ∧ lower (lower byte) = lower byte := by
  exact forall_byte (motive := fun byte => isTchar byte →
    isTchar (lower byte) ∧ lower (lower byte) = lower byte) (by decide +kernel) byte tchar

namespace HeaderName

/-- `HeaderName::from_bytes`. -/
def fromBytes (bytes : List UInt8) : Option HeaderName :=
  if checked : Rfc9112.Token bytes ∧ bytes.length ≤ maxHeaderNameLength then
    some {
      bytes := bytes.map lower
      token := by
        obtain ⟨⟨nonempty, tchars⟩, -⟩ := checked
        refine ⟨by simpa using nonempty, ?_⟩
        intro byte member
        obtain ⟨original, inside, rfl⟩ := List.mem_map.mp member
        exact (lower_tchar (tchars original inside)).1
      lowered := by
        rw [List.map_map]
        apply List.map_congr_left
        intro byte member
        exact (lower_tchar (checked.1.2 byte member)).2
      short := by simpa using checked.2 }
  else none

def connection : HeaderName :=
  ⟨ascii "connection", by decide +kernel, by decide +kernel, by decide⟩

def contentLength : HeaderName :=
  ⟨ascii "content-length", by decide +kernel, by decide +kernel, by decide⟩

def transferEncoding : HeaderName :=
  ⟨ascii "transfer-encoding", by decide +kernel, by decide +kernel, by decide⟩

def contentType : HeaderName :=
  ⟨ascii "content-type", by decide +kernel, by decide +kernel, by decide⟩

def host : HeaderName := ⟨ascii "host", by decide +kernel, by decide +kernel, by decide⟩

def expect : HeaderName := ⟨ascii "expect", by decide +kernel, by decide +kernel, by decide⟩

def upgrade : HeaderName := ⟨ascii "upgrade", by decide +kernel, by decide +kernel, by decide⟩

/-- Every name is one that `from_bytes` takes. -/
theorem fromBytes_bytes (name : HeaderName) : fromBytes name.bytes = some name := by
  unfold fromBytes
  rw [dif_pos ⟨name.token, name.short⟩]
  simp only [lowered]

end HeaderName

namespace HeaderValue

/-- `HeaderValue::from_bytes`, and `from_str` of the bytes of a text. -/
def fromBytes (bytes : List UInt8) : Option HeaderValue :=
  if visible : bytes.all Rfc9112.isFieldByte then some ⟨bytes, List.all_eq_true.mp visible⟩
  else none

/-- The text of bytes that are all visible ASCII or a tab. -/
def visibleText (bytes : List UInt8) : Option (List Char) :=
  if bytes.all fun byte => byte < 127 && (32 ≤ byte || byte == 9) then
    some (bytes.map byteChar)
  else none

def chunked : HeaderValue := ⟨ascii "chunked", by decide +kernel⟩

def close : HeaderValue := ⟨ascii "close", by decide +kernel⟩

def keepAlive : HeaderValue := ⟨ascii "keep-alive", by decide +kernel⟩

def textPlain : HeaderValue := ⟨ascii "text/plain", by decide +kernel⟩

/-- `HeaderValue::from_str` of a number's `to_string`. -/
def ofNumber (number : Nat) : Option HeaderValue :=
  fromBytes (writeDigits 10 (number + 1) number [])

/-- `HeaderValue::to_str`. -/
def toStr (value : HeaderValue) : Option (List Char) := visibleText value.bytes

end HeaderValue

/-- `HeaderMap` by its entries. -/
abbrev HeaderMap := List (HeaderName × HeaderValue)

namespace HeaderMap

/-- The values of a name in order. -/
def getAll (headers : HeaderMap) (name : HeaderName) : List HeaderValue :=
  (headers.filter fun entry => entry.1 = name).map Prod.snd

/-- The first value of a name. -/
def get (headers : HeaderMap) (name : HeaderName) : Option HeaderValue :=
  (headers.getAll name).head?

def containsKey (headers : HeaderMap) (name : HeaderName) : Bool :=
  headers.any fun entry => entry.1 = name

/-- Add a value to those the name has. -/
def add (headers : HeaderMap) (name : HeaderName) (value : HeaderValue) : HeaderMap :=
  headers ++ [(name, value)]

/-- Remove the values of a name. -/
def remove (headers : HeaderMap) (name : HeaderName) : HeaderMap :=
  headers.filter fun entry => entry.1 ≠ name

/-- Make this the only value of the name, in the place of the first it has. -/
def insert (headers : HeaderMap) (name : HeaderName) (value : HeaderValue) : HeaderMap :=
  match headers with
  | [] => [(name, value)]
  | entry :: headers =>
    if entry.1 = name then (name, value) :: remove headers name
    else entry :: insert headers name value

/-- `merge_headers`: each entry of the overlay in turn becomes the only value of its name. -/
def mergeHeaders (target overlay : HeaderMap) : HeaderMap :=
  overlay.foldl (fun target entry => target.insert entry.1 entry.2) target

variable (headers : HeaderMap) (name other : HeaderName) (value : HeaderValue)

@[simp] theorem getAll_nil : getAll [] name = [] := rfl

theorem getAll_append (more : HeaderMap) :
    getAll (headers ++ more) name = headers.getAll name ++ getAll more name := by
  simp [getAll]

theorem getAll_cons : getAll ((other, value) :: headers) name =
    if other = name then value :: headers.getAll name else headers.getAll name := by
  unfold getAll
  split <;> rename_i same <;> simp [same]

theorem containsKey_iff : headers.containsKey name ↔ headers.getAll name ≠ [] := by
  simp [containsKey, getAll]

theorem getAll_absent {headers : HeaderMap} {name : HeaderName}
    (absent : headers.containsKey name = false) : headers.getAll name = [] := by
  by_contra given
  simp [(headers.containsKey_iff name).mpr given] at absent

/-- Keeping the entries of some names keeps all values of those names. -/
theorem getAll_filter (keep : HeaderName → Bool) :
    getAll (headers.filter fun entry => keep entry.1) name =
      if keep name then headers.getAll name else [] := by
  induction headers with
  | nil => simp
  | cons entry headers ih =>
    obtain ⟨first, value⟩ := entry
    rw [filter_cons, getAll_cons]
    by_cases same : first = name
    · subst same
      cases kept : keep first <;> simp [getAll_cons, ih, kept]
    · cases kept : keep first <;> simp [getAll_cons, ih, same]

theorem getAll_remove : (headers.remove name).getAll other =
    if other = name then [] else headers.getAll other := by
  rw [remove, getAll_filter headers other fun entry => entry ≠ name]
  by_cases same : other = name <;> simp [same]

theorem getAll_insert : (headers.insert name value).getAll other =
    if other = name then [value] else headers.getAll other := by
  induction headers with
  | nil => simp [insert, getAll_cons, eq_comm]
  | cons entry headers ih =>
    obtain ⟨first, old⟩ := entry
    rw [insert]
    by_cases found : first = name
    · rw [if_pos found, getAll_cons, getAll_remove, getAll_cons, found]
      by_cases same : other = name
      · simp [same]
      · simp [same, Ne.symm same]
    · rw [if_neg found, getAll_cons, ih, getAll_cons]
      by_cases same : other = name <;> simp [same, found]

/-- Merging leaves the last value of the overlay, or the values of the target. -/
theorem getAll_mergeHeaders {target overlay : HeaderMap} :
    (mergeHeaders target overlay).getAll name =
      ((overlay.getAll name).getLast?.map fun value => [value]).getD (target.getAll name) := by
  unfold mergeHeaders
  induction overlay generalizing target with
  | nil => rfl
  | cons entry overlay ih =>
    obtain ⟨first, value⟩ := entry
    rw [foldl_cons, ih, getAll_insert, getAll_cons]
    by_cases same : first = name
    · rw [if_pos same.symm, if_pos same, getLast?_cons]
      cases (getAll overlay name).getLast? <;> rfl
    · rw [if_neg (Ne.symm same), if_neg same]

theorem remove_absent {headers : HeaderMap} {name : HeaderName}
    (absent : headers.containsKey name = false) : headers.remove name = headers := by
  rw [remove, filter_eq_self]
  intro entry member
  rw [containsKey, any_eq_false] at absent
  simpa using absent entry member

variable (headers : HeaderMap)

theorem containsKey_remove (name other : HeaderName) :
    (headers.remove name).containsKey other =
      (decide (other ≠ name) && headers.containsKey other) := by
  rw [Bool.eq_iff_iff, containsKey_iff, getAll_remove]
  by_cases same : other = name <;> simp [same, containsKey_iff]

theorem containsKey_insert (name other : HeaderName) (value : HeaderValue) :
    (headers.insert name value).containsKey other =
      (decide (other = name) || headers.containsKey other) := by
  rw [Bool.eq_iff_iff, containsKey_iff, getAll_insert]
  by_cases same : other = name <;> simp [same, containsKey_iff]

/-- Merging keeps the headers exactly if no name is repeated. -/
theorem getAll_merge_nil_iff {name : HeaderName} :
    (mergeHeaders [] headers).getAll name = headers.getAll name ↔
      (headers.getAll name).length ≤ 1 := by
  rw [getAll_mergeHeaders, getAll_nil]
  generalize headers.getAll name = values
  rcases values with - | ⟨first, - | ⟨second, rest⟩⟩
  · simp
  · simp
  · refine iff_of_false (fun same => ?_) (by simp)
    have lengths := congrArg length same
    simp [getLast?_cons] at lengths

theorem containsKey_merge_nil (name : HeaderName) :
    (mergeHeaders [] headers).containsKey name = headers.containsKey name := by
  rw [Bool.eq_iff_iff, containsKey_iff, containsKey_iff, getAll_mergeHeaders, getAll_nil]
  generalize headers.getAll name = values
  cases values <;> simp [getLast?_cons]

section

variable {target : HeaderMap} {name other : HeaderName} {value set : HeaderValue}

/-- The value that is set last counts. -/
theorem insert_insert (old : HeaderValue) :
    (target.insert name old).insert name value = target.insert name value := by
  induction target with
  | nil => simp [insert, remove]
  | cons entry target ih => by_cases found : entry.1 = name <;> simp [insert, found, ih, remove]

theorem remove_cons (entry : HeaderName × HeaderValue) :
    remove (entry :: target) name =
      if entry.1 = name then target.remove name else entry :: target.remove name := by
  by_cases named : entry.1 = name <;> simp [remove, named]

variable (differs : other ≠ name)
include differs

/-- Setting a value leaves those of another name to be removed. -/
theorem remove_insert :
    (target.insert other set).remove name = (target.remove name).insert other set := by
  induction target with
  | nil => simp [insert, remove, differs]
  | cons entry target ih =>
    by_cases found : entry.1 = other
    · have kept : remove (remove target other) name = remove (remove target name) other := by
        simp [remove, Bool.and_comm]
      simp [insert, remove_cons, found, differs, kept]
    · by_cases named : entry.1 = name
      · rw [insert, if_neg found, remove_cons, if_pos named, ih, remove_cons, if_pos named]
      · simp [insert, remove_cons, found, named, ih]

/-- A value that takes the place of another can be set before or after one of another name. -/
theorem insert_comm (present : target.containsKey name) :
    (target.insert other set).insert name value = (target.insert name value).insert other set := by
  induction target with
  | nil => cases present
  | cons entry target ih =>
    by_cases named : entry.1 = name
    · simp [insert, named, differs.symm, remove_insert differs]
    have there : HeaderMap.containsKey target name := by simpa [containsKey, named] using present
    by_cases found : entry.1 = other
    · simp [insert, found, differs, remove_insert differs.symm]
    · simp [insert, named, found, ih there]

omit differs in
/-- Behind a value that is there, the overrides of its name do not count. -/
theorem insert_mergeHeaders {overlay : HeaderMap} (present : target.containsKey name) :
    (target.mergeHeaders overlay).insert name value =
      (target.insert name value).mergeHeaders (overlay.remove name) := by
  induction overlay generalizing target with
  | nil => rfl
  | cons entry overlay ih =>
    obtain ⟨first, old⟩ := entry
    have there : (target.insert first old).containsKey name := by
      rw [containsKey_insert, present, Bool.or_true]
    change ((target.insert first old).mergeHeaders overlay).insert name value = _
    rw [ih there]
    by_cases same : first = name
    · subst same
      rw [insert_insert]
      simp [remove]
    · rw [insert_comm same present]
      simp [remove, same, mergeHeaders]

omit differs in
/-- An override can be set before or after the overrides are merged. -/
theorem mergeHeaders_insert (overlay : HeaderMap) :
    target.mergeHeaders (overlay.insert name value) =
      (target.mergeHeaders overlay).insert name value := by
  induction overlay generalizing target with
  | nil => rfl
  | cons entry overlay ih =>
    obtain ⟨first, old⟩ := entry
    rw [insert]
    split
    · rename_i same
      obtain rfl : first = name := same
      have there : (target.insert first old).containsKey first := by
        rw [containsKey_insert, decide_eq_true rfl, Bool.true_or]
      change (target.insert first value).mergeHeaders (remove overlay first) =
        ((target.insert first old).mergeHeaders overlay).insert first value
      rw [insert_mergeHeaders there, insert_insert]
    · exact ih

end

end HeaderMap

/-! ## Headers as they were received -/

/-- A header by the bytes of its name and value: `RawHttpHeader`, `httparse::Header`. -/
structure RawHttpHeader where
  name : List UInt8
  value : List UInt8
  deriving DecidableEq

/-- The values of a name in a raw list. -/
def rawValues (raw : List RawHttpHeader) (name : HeaderName) : List (List UInt8) :=
  (raw.filter fun header => eqIgnoreAsciiCase header.name name.bytes).map RawHttpHeader.value

variable {bytes value : List UInt8} {length : Nat}

theorem HeaderName.fromBytes_eq_some {name other : HeaderName}
    (made : HeaderName.fromBytes bytes = some name) :
    name = other ↔ eqIgnoreAsciiCase bytes other.bytes := by
  unfold HeaderName.fromBytes at made
  split at made
  · cases made
    obtain ⟨otherBytes, token, lowered, short⟩ := other
    simp [eqIgnoreAsciiCase, lowered]
  · contradiction

theorem HeaderValue.fromBytes_eq_some {value : HeaderValue}
    (made : HeaderValue.fromBytes bytes = some value) : value.bytes = bytes := by
  unfold HeaderValue.fromBytes at made
  split at made
  · cases made
    rfl
  · contradiction

/-! ## Reading values -/

/-- The members of a comma-separated list. -/
def members (text : List Char) : List (List Char) := (text.splitOn ',').map trim

/-- Some member of the lists is the token, in whatever case. -/
def anyToken (texts : List (List Char)) (token : String) : Bool :=
  (texts.flatMap members).any fun member => strEqIgnoreAsciiCase member token.toList

/-- `header_contains_token`. -/
def headerContainsToken (headers : HeaderMap) (name : HeaderName) (token : String) : Bool :=
  anyToken ((headers.getAll name).filterMap HeaderValue.toStr) token

/-- The number of values of `u64`. -/
def u64Limit : Nat := 18446744073709551616

/-- `str::parse::<u64>`. -/
def parseU64 (text : List Char) : Option Nat := (fromStrRadix 10 u64Limit text).toOption

theorem decimal_byte {byte : UInt8} (digit : (toDigit 10 (byteChar byte)).isSome) :
    byte < 127 ∧ 32 ≤ byte := by
  exact forall_byte (motive := fun byte => (toDigit 10 (byteChar byte)).isSome →
    byte < 127 ∧ 32 ≤ byte) (by decide +kernel) byte digit

/-- A value in digits alone is text whichever way it is decoded. -/
theorem text_of_decimal (written : decimal value = some length) :
    fromUtf8 value = some (value.map byteChar) ∧
    HeaderValue.visibleText value = some (value.map byteChar) := by
  have digits := (digits_of_digitsValue written).2
  have each : ∀ byte ∈ value, byte < 127 ∧ 32 ≤ byte := fun byte member =>
    decimal_byte (digits _ (mem_map_of_mem member))
  constructor
  · apply fromUtf8_ascii
    intro byte member
    have small := (each byte member).1
    exact UInt8.lt_trans small (by decide)
  · refine if_pos (all_eq_true.mpr fun byte member => ?_)
    simp [each byte member]

/-- A value in digits alone is parsed as its number. -/
theorem parseU64_of_decimal (written : decimal value = some length) (fits : length < u64Limit) :
    parseU64 (value.map byteChar) = some length := by
  rw [parseU64, fromStrRadix_of_digits (by decide) written fits]
  rfl

/-- What is read as a number fits its type. -/
theorem parseU64_lt {text : List Char} (read : parseU64 text = some length) :
    length < u64Limit := by
  unfold parseU64 at read
  cases parsed : fromStrRadix 10 u64Limit text with
  | error err => rw [parsed] at read; cases read
  | ok number =>
    rw [parsed] at read
    cases read
    exact (fromStrRadix_eq_ok (by decide) (by decide) parsed).1

theorem toDigit_decimal : ∀ digit < 10, toDigit 10 (byteChar (digitByte digit)) = some digit := by
  decide +kernel

/-- A value in digits alone has no blanks around it. -/
theorem stripBlanks_digits {number : Nat} (written : decimal bytes = some number) :
    stripBlanks bytes = bytes := by
  have digits := (digits_of_digitsValue written).2
  have solid : ∀ byte ∈ bytes, isBlank byte = false := by
    intro byte member
    have digit := digits _ (mem_map_of_mem member)
    exact forall_byte (motive := fun byte => (toDigit 10 (byteChar byte)).isSome →
      isBlank byte = false) (by decide +kernel) byte digit
  have front : bytes.dropWhile isBlank = bytes := by
    rw [dropWhile_eq_self_iff]
    intro some
    simp [solid _ (getElem_mem some)]
  rw [stripBlanks, front, rdropWhile_eq_self_iff]
  intro some
  simp [solid _ (getLast_mem some)]

/-- A number is read back from its decimal digits, which are visible. -/
theorem decimal_writeDigits (number : Nat) :
    decimal (writeDigits 10 (number + 1) number []) = some number ∧
      ∀ byte ∈ writeDigits 10 (number + 1) number [], isFieldByte byte := by
  have fits : number < 10 ^ (number + 1) :=
    Nat.lt_trans (Nat.lt_succ_self number) (Nat.lt_pow_self (by decide))
  have written : decimal (writeDigits 10 (number + 1) number []) = some number :=
    digitsValue_writeDigits toDigit_decimal (by decide) fits
  have digits := (digits_of_digitsValue written).2
  refine ⟨written, ?_⟩
  intro byte member
  have digit := digits _ (mem_map_of_mem member)
  exact forall_byte (motive := fun byte => (toDigit 10 (byteChar byte)).isSome →
    isFieldByte byte) (by decide +kernel) byte digit

/-- A number makes a header value that is read back as it. -/
theorem ofNumber_spec (number : Nat) : ∃ value, HeaderValue.ofNumber number = some value ∧
    decimal (stripBlanks value.bytes) = some number := by
  obtain ⟨written, visible⟩ := decimal_writeDigits number
  refine ⟨⟨_, visible⟩, dif_pos (all_eq_true.mpr visible), ?_⟩
  rw [stripBlanks_digits written, written]

/-- `Version`: the two of HTTP/1, and the others together. -/
inductive Version where
  | http10
  | http11
  | other
  deriving DecidableEq, Repr

/-- The version of HTTP/1 that a message is written in. -/
def Version.http1 : Version → Version
  | .http10 => .http10
  | _ => .http11

/-- Whether a message keeps its connection open, by its version and `Connection` tokens. -/
def keepAlive (version : Version) (close keep : Bool) : Bool :=
  match version with
  | .http10 => keep && !close
  | _ => !close

/-- `is_hop_by_hop_header`. -/
def isHopByHopHeader (name : HeaderName) : Bool :=
  [ascii "connection", ascii "keep-alive", ascii "proxy-authenticate",
    ascii "proxy-authorization", ascii "te", ascii "trailer", ascii "transfer-encoding",
    ascii "upgrade"].contains name.bytes

/-- `StatusCode`: three digits. -/
structure StatusCode where
  code : Nat
  range : 100 ≤ code ∧ code < 1000

/-- `StatusCode::from_u16`. -/
def StatusCode.fromU16 (code : Nat) : Option StatusCode :=
  if range : 100 ≤ code ∧ code < 1000 then some ⟨code, range⟩ else none

def StatusCode.ok : StatusCode := ⟨200, by decide⟩

def StatusCode.switchingProtocols : StatusCode := ⟨101, by decide⟩

def StatusCode.badRequest : StatusCode := ⟨400, by decide⟩

def StatusCode.notFound : StatusCode := ⟨404, by decide⟩

def StatusCode.payloadTooLarge : StatusCode := ⟨413, by decide⟩

def StatusCode.internalServerError : StatusCode := ⟨500, by decide⟩

def StatusCode.badGateway : StatusCode := ⟨502, by decide⟩

/-- `StatusCode::as_str`. -/
def StatusCode.asStr (status : StatusCode) : List UInt8 :=
  [digitByte (status.code / 100), digitByte (status.code / 10 % 10), digitByte (status.code % 10)]

/-- `Method` by its name. -/
structure Method where
  name : List UInt8
  deriving DecidableEq, Repr

/-- `Method::from_bytes`. -/
def Method.fromBytes (bytes : List UInt8) : Option Method :=
  if Rfc9112.Token bytes then some ⟨bytes⟩ else none

def Method.get : Method := ⟨ascii "GET"⟩

def Method.head : Method := ⟨ascii "HEAD"⟩

def Method.connect : Method := ⟨ascii "CONNECT"⟩

end PdEdge

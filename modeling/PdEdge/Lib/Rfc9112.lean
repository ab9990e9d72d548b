import PdEdge.Lib.Chunked
import PdEdge.Lib.Text

/-!
# The chunked grammar of RFC 9112

The lines of a chunked body as the standard writes them: a size line is one or more
hexadecimal digits and an optional extension list, a trailer line is a field line. The
grammar is stated on bytes and gives `rules` for the layout of `Chunked`. It is an
independent statement: no program's parser appears in it.
-/

namespace Rfc9112

open Text

/-- A character of a token. -/
def isTchar (byte : UInt8) : Bool :=
  (48 ≤ byte && byte ≤ 57) || (65 ≤ byte && byte ≤ 90) || (97 ≤ byte && byte ≤ 122) ||
    [33, 35, 36, 37, 38, 39, 42, 43, 45, 46, 94, 95, 96, 124, 126].contains byte

/-- One or more token characters. -/
def Token (bytes : List UInt8) : Prop := bytes ≠ [] ∧ ∀ byte ∈ bytes, isTchar byte

instance (bytes : List UInt8) : Decidable (Token bytes) := inferInstanceAs (Decidable (_ ∧ _))

/-- Optional blanks: spaces and horizontal tabs. -/
def Blank (bytes : List UInt8) : Prop := ∀ byte ∈ bytes, byte = 32 ∨ byte = 9

/-- A byte that stands for itself inside a quoted string. -/
def isQdtext (byte : UInt8) : Bool :=
  byte == 9 || byte == 32 || byte == 33 || (35 ≤ byte && byte ≤ 91) ||
    (93 ≤ byte && byte ≤ 126) || 128 ≤ byte

/-- A byte of a field value: visible, blank or opaque. -/
def isFieldByte (byte : UInt8) : Bool := byte == 9 || (32 ≤ byte && byte ≤ 126) || 128 ≤ byte

/-- The inside of a quoted string: plain bytes and escaped ones. -/
inductive Quoted : List UInt8 → Prop
  | nil : Quoted []
  | plain {byte : UInt8} {rest : List UInt8} (text : isQdtext byte) (inner : Quoted rest) :
    Quoted (byte :: rest)
  | escaped {byte : UInt8} {rest : List UInt8} (text : isFieldByte byte) (inner : Quoted rest) :
    Quoted (92 :: byte :: rest)

/-- A value of a chunk extension. -/
inductive ExtValue : List UInt8 → Prop
  | token {bytes : List UInt8} (name : Token bytes) : ExtValue bytes
  | quoted {inner : List UInt8} (text : Quoted inner) : ExtValue (34 :: inner ++ [34])

/-- A list of chunk extensions, each a semicolon, a name and perhaps a value. -/
inductive ChunkExt : List UInt8 → Prop
  | nil : ChunkExt []
  | named {before after name rest : List UInt8} (beforeBlank : Blank before)
    (afterBlank : Blank after) (token : Token name) (more : ChunkExt rest) :
    ChunkExt (before ++ 59 :: (after ++ name ++ rest))
  | valued {before after name left right value rest : List UInt8} (beforeBlank : Blank before)
    (afterBlank : Blank after) (token : Token name) (leftBlank : Blank left)
    (rightBlank : Blank right) (assigned : ExtValue value) (more : ChunkExt rest) :
    ChunkExt (before ++ 59 :: (after ++ name ++ left ++ 61 :: (right ++ value ++ rest)))

/-- The number written by bytes that are hexadecimal digits. -/
def hexValue (digits : List UInt8) : Option Nat := digitsValue 16 (digits.map byteChar)

/-- A size line: hexadecimal digits and nothing else but extensions. -/
def StrictLine (line : List UInt8) : Prop :=
  ∃ digits extension, line = digits ++ extension ∧ (hexValue digits).isSome ∧ ChunkExt extension

/-- A size line that announces a number. -/
def SizeLine (line : List UInt8) (number : Nat) : Prop :=
  ∃ digits extension, line = digits ++ extension ∧ hexValue digits = some number ∧
    ChunkExt extension

/-- A field line: a name, a colon and a value between blanks. -/
def FieldLine (line : List UInt8) : Prop :=
  ∃ name value, line = name ++ 58 :: value ∧ Token name ∧ ∀ byte ∈ value, isFieldByte byte

/-- The lines of a chunked body as the standard has them. -/
def rules : Chunked.Rules := ⟨SizeLine, FieldLine⟩

/-- The bytes are one chunked body, whole. -/
def ChunkedBody (bytes : List UInt8) : Prop :=
  ∃ body, rules.Accepts body ∧ bytes = body.encode

/-! ## Lists and numbers in field values -/

/-- The number written by bytes that are decimal digits and nothing else. -/
def decimal (bytes : List UInt8) : Option Nat := digitsValue 10 (bytes.map byteChar)

def isBlank (byte : UInt8) : Bool := byte == 32 || byte == 9

/-- A value without the blanks around it. -/
def stripBlanks (bytes : List UInt8) : List UInt8 :=
  (bytes.dropWhile isBlank).rdropWhile isBlank

/-- The members of a comma-separated list in one or more field values, in lower case; empty
members do not count. -/
def listMembers (values : List (List UInt8)) : List (List UInt8) :=
  (values.flatMap fun value => (value.splitOn 44).map fun member =>
    (stripBlanks member).map lower).filter (· ≠ [])

/-- The transfer coding that delimits its own content. -/
def chunkedCoding : List UInt8 := ascii "chunked"

/-- The last transfer coding is chunked. -/
def finalChunked (codings : List (List UInt8)) : Bool :=
  (listMembers codings).getLast? = some chunkedCoding

/-- The number that all length values write, in digits alone. -/
def agreedLength : List (List UInt8) → Option Nat
  | [] => none
  | first :: rest =>
    (decimal first).filter fun length => rest.all fun value => decimal value = some length

theorem agreedLength_eq_some {values : List (List UInt8)} {length : Nat} (given : values ≠ []) :
    agreedLength values = some length ↔ ∀ value ∈ values, decimal value = some length := by
  cases values with
  | nil => contradiction
  | cons first rest =>
    simp only [agreedLength, Option.filter_eq_some_iff, List.all_eq_true, decide_eq_true_eq,
      List.forall_mem_cons]

/-! ## Response bodies -/

/-- Responses that have no body whatever their headers say. -/
def bodiless (headRequest : Bool) (status : Nat) : Bool :=
  headRequest || (100 ≤ status && status < 200) || status == 204 || status == 304

/-- How the body of a response is delimited. -/
inductive BodyRule where
  | noBody
  | chunked
  | fixed (length : Nat)
  | malformed
  | untilClose
  deriving DecidableEq, Repr

/-- The body of a response, in the order of precedence: no body by method or status, chunked
as the final coding, one agreed length, an error for other lengths, the end of the
connection. -/
def responseBody (bodiless : Bool) (lengths codings : List (List UInt8)) : BodyRule :=
  if bodiless then .noBody
  else if finalChunked codings then .chunked
  else if lengths = [] then .untilClose
  else
    match agreedLength lengths with
    | some length => .fixed length
    | none => .malformed

/-! ## Size lines -/

/-- A line that announces a number is strict, and a strict line announces one. -/
theorem strictLine_iff {line : List UInt8} : StrictLine line ↔ ∃ number, SizeLine line number := by
  constructor
  · rintro ⟨digits, extension, rfl, written, extended⟩
    obtain ⟨number, written⟩ := Option.isSome_iff_exists.mp written
    exact ⟨number, digits, extension, rfl, written, extended⟩
  · rintro ⟨number, digits, extension, rfl, written, extended⟩
    exact ⟨digits, extension, rfl, by simp [written], extended⟩

/-- Extensions are absent or start, after blanks, with a semicolon. -/
theorem ChunkExt.start {extension : List UInt8} (extended : ChunkExt extension) :
    extension = [] ∨ ∃ blank rest, Blank blank ∧ extension = blank ++ 59 :: rest := by
  cases extended with
  | nil => exact Or.inl rfl
  | named beforeBlank | valued beforeBlank => exact Or.inr ⟨_, _, beforeBlank, rfl⟩

end Rfc9112

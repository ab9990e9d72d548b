import PdEdge.Lib.Rfc9112
import PdEdge.Http1.Basic

/-!
# Chunk size lines

The downstream request decoder and the upstream response decoder read a chunk size from
its line by the same expression: decode UTF-8, cut at the first semicolon, trim, refuse
the empty text, and read a hexadecimal `usize`. `chunkSize` is that expression. It is
compared here with the size lines of the standard: every such line that is valid UTF-8
and whose size fits is read as its size, and no line of the standard is read as another.
-/

namespace PdEdge

open Text Wire List Rfc9112

/-- Why a chunk size line is refused. -/
inductive ChunkSizeError where
  /-- The line is not UTF-8. -/
  | invalidUtf8 (err : Utf8Error)
  /-- Nothing but blanks stands before the extension. -/
  | missing
  /-- The text is no hexadecimal number or does not fit. -/
  | invalid (value : List Char) (err : ParseIntError)
  deriving DecidableEq, Repr

/-- The part of a chunk size line the size is read from. -/
def sizeText (line : List Char) : List Char := trim (line.takeWhile (· ≠ ';'))

/-- The size a chunk size line announces. -/
def chunkSize (line : List UInt8) : Except ChunkSizeError Nat :=
  match fromUtf8 line with
  | none => .error (.invalidUtf8 (utf8Error line))
  | some line =>
    if sizeText line = [] then .error .missing
    else
      match fromStrRadix 16 usizeLimit (sizeText line) with
      | .ok size => .ok size
      | .error err => .error (.invalid (sizeText line) err)

/-- The lines of a chunked body as a decoder of this program reads them, given which
trailer lines it lets pass. -/
def decoderRules (trailer : List UInt8 → Prop) : Chunked.Rules where
  size line number := chunkSize line = .ok number
  trailer := trailer

variable {line digits : List UInt8} {number : Nat}

/-- A line that is read as a size is UTF-8 with a readable number before its extension. -/
theorem chunkSize_eq_ok {size : Nat} :
    chunkSize line = .ok size ↔ ∃ text, fromUtf8 line = some text ∧
      fromStrRadix 16 usizeLimit (sizeText text) = .ok size := by
  unfold chunkSize
  cases decoded : fromUtf8 line with
  | none => simp
  | some text =>
    simp only [Option.some.injEq, exists_eq_left']
    by_cases blank : sizeText text = []
    · simp [blank, fromStrRadix]
    · rw [if_neg blank]
      cases read : fromStrRadix 16 usizeLimit (sizeText text) <;> simp

/-- A hexadecimal digit is an ASCII byte that is neither blank nor a semicolon. -/
theorem hexDigit_byte {byte : UInt8} (digit : (toDigit 16 (byteChar byte)).isSome) :
    byte < 128 ∧ isWhitespace (byteChar byte) = false ∧ byteChar byte ≠ ';' := by
  exact forall_byte (motive := fun byte => (toDigit 16 (byteChar byte)).isSome → byte < 128 ∧
    isWhitespace (byteChar byte) = false ∧ byteChar byte ≠ ';') (by decide +kernel) byte digit

/-- The digits of a size line of the standard. -/
theorem hexDigits_of_hexValue (written : hexValue digits = some number) :
    digits ≠ [] ∧ ∀ byte ∈ digits, (toDigit 16 (byteChar byte)).isSome := by
  obtain ⟨some, digits⟩ := digits_of_digitsValue written
  exact ⟨by simpa using some, by simpa using digits⟩

/-- Blanks are ASCII white space and no semicolon. -/
theorem blank_byte {byte : UInt8} (blank : byte = 32 ∨ byte = 9) :
    byte < 128 ∧ isWhitespace (byteChar byte) = true ∧ byteChar byte ≠ ';' := by
  rcases blank with rfl | rfl <;> decide

/-- Trimming digits followed by blanks leaves the digits. -/
theorem trim_digits_blanks {digits : List Char} (blanks : List Char) (some : digits ≠ [])
    (solid : ∀ char ∈ digits, isWhitespace char = false)
    (white : ∀ char ∈ blanks, isWhitespace char = true) : trim (digits ++ blanks) = digits := by
  have front : (digits ++ blanks).dropWhile isWhitespace = digits ++ blanks := by
    cases digits with
    | nil => contradiction
    | cons first digits => simp [solid first mem_cons_self]
  have last := solid _ (getLast_mem some)
  rw [trim, front]
  induction blanks using reverseRecOn with
  | nil => simpa using fun _ => last
  | append_singleton blanks char ih =>
    rw [← append_assoc, rdropWhile_concat_pos _ _ _ (white char (by simp))]
    refine ih (fun other member => white other (by simp [member])) ?_
    cases digits with
    | nil => contradiction
    | cons first digits => simp [solid first mem_cons_self]

/-- The text a size line of the standard is read from is exactly its digits. -/
theorem sizeText_of_sizeLine {extension : List UInt8} {text : List Char}
    (written : hexValue digits = some number) (extended : Rfc9112.ChunkExt extension)
    (decoded : fromUtf8 (digits ++ extension) = some text) :
    sizeText text = digits.map byteChar := by
  obtain ⟨some, hex⟩ := hexDigits_of_hexValue written
  have small : ∀ byte ∈ digits, byte < 128 := fun byte member =>
    (hexDigit_byte (hex byte member)).1
  have solid : ∀ char ∈ digits.map byteChar, isWhitespace char = false :=
    forall_mem_map.mpr fun byte member => (hexDigit_byte (hex byte member)).2.1
  have digitKept : ∀ char ∈ digits.map byteChar, decide (char ≠ ';') = true :=
    forall_mem_map.mpr fun byte member => decide_eq_true (hexDigit_byte (hex byte member)).2.2
  rw [fromUtf8_ascii_append digits extension small] at decoded
  obtain rfl | ⟨blank, rest, white, rfl⟩ := extended.start
  · rw [fromUtf8_nil] at decoded
    simp only [Option.map_some, append_nil, Option.some.injEq] at decoded
    rw [sizeText, ← decoded, takeWhile_eq_self_iff.mpr digitKept]
    have kept := trim_digits_blanks [] (by simpa using some) solid (by simp)
    rwa [append_nil] at kept
  have blankSmall : ∀ byte ∈ blank, byte < 128 := fun byte member =>
    (blank_byte (white byte member)).1
  have blankKept : ∀ char ∈ blank.map byteChar, decide (char ≠ ';') = true :=
    forall_mem_map.mpr fun byte member => decide_eq_true (blank_byte (white byte member)).2.2
  have blankWhite : ∀ char ∈ blank.map byteChar, isWhitespace char = true :=
    forall_mem_map.mpr fun byte member => (blank_byte (white byte member)).2.1
  rw [fromUtf8_ascii_append blank _ blankSmall, fromUtf8_cons (by decide)] at decoded
  simp only [Option.map_map, Option.map_eq_some_iff, Function.comp_apply] at decoded
  obtain ⟨after, -, rfl⟩ := decoded
  have semicolon : byteChar 59 = ';' := by decide
  rw [sizeText, semicolon, takeWhile_append_of_pos digitKept, takeWhile_append_of_pos blankKept]
  simpa using trim_digits_blanks _ (by simpa using some) solid blankWhite

/-- A size line of the standard that is UTF-8 and whose size fits is read as its size. -/
theorem chunkSize_of_sizeLine (strict : Rfc9112.SizeLine line number)
    (utf8 : (fromUtf8 line).isSome) (fits : number < usizeLimit) : chunkSize line = .ok number := by
  obtain ⟨digits, extension, rfl, written, extended⟩ := strict
  obtain ⟨text, decoded⟩ := Option.isSome_iff_exists.mp utf8
  refine chunkSize_eq_ok.mpr ⟨text, decoded, ?_⟩
  rw [sizeText_of_sizeLine written extended decoded]
  exact fromStrRadix_of_digits (by decide) written fits

/-- A line is read as one size. -/
theorem decoderRules_agree {trailer other : List UInt8 → Prop} :
    Chunked.Rules.Agree (decoderRules trailer) (decoderRules other) := by
  intro line first second left right
  exact Except.ok.inj (left.symm.trans right)

/-- A size line of the standard is never read as another size. -/
theorem chunkSize_agrees (trailer : List UInt8 → Prop) :
    Chunked.Rules.Agree (decoderRules trailer) rules := by
  rintro line size number read ⟨digits, extension, rfl, written, extended⟩
  obtain ⟨text, decoded, read⟩ := chunkSize_eq_ok.mp read
  rw [sizeText_of_sizeLine written extended decoded] at read
  obtain ⟨-, shown, shownValue, same⟩ := fromStrRadix_eq_ok (by decide) (by decide) read
  obtain rfl | signed := same
  · exact Option.some.inj (shownValue.symm.trans written)
  · simp only [hexValue, signed, digitsValue, reduceCtorEq, ↓reduceIte, digitsFrom,
      toDigit_plus] at written

/-- A line that starts with a byte that is no hexadecimal digit is no size line. -/
theorem not_strictLine {first : UInt8} {rest : List UInt8}
    (other : toDigit 16 (byteChar first) = none) : ¬ Rfc9112.StrictLine (first :: rest) := by
  rintro ⟨digits, extension, split, written, -⟩
  obtain ⟨number, written⟩ := Option.isSome_iff_exists.mp written
  obtain ⟨some, hex⟩ := hexDigits_of_hexValue written
  cases digits with
  | nil => contradiction
  | cons digit digits =>
    have same : first = digit := (cons.inj split).1
    have digit := hex digit mem_cons_self
    rw [← same, other] at digit
    contradiction

/-- What a decoder takes for a body is one by the standard exactly when its size lines and
its trailer lines are. -/
theorem chunkedBody_iff {trailer : List UInt8 → Prop} {body : Chunked.Body}
    (accepted : (decoderRules trailer).Accepts body) :
    Rfc9112.ChunkedBody body.encode ↔
      (∀ line ∈ body.sizeLines, Rfc9112.StrictLine line) ∧
      ∀ line ∈ body.trailers, Rfc9112.FieldLine line := by
  constructor
  · rintro ⟨other, standard, same⟩
    have equal : body = other := by
      apply (Chunked.Rules.unique (chunkSize_agrees trailer) accepted standard ?_).1
      · exact []
      · exact []
      · rw [same]
    subst equal
    refine ⟨forall_mem_append.mpr ⟨forall_mem_map.mpr fun chunk listed => ?_, ?_⟩,
      fun line member => (standard.trailers line member).admitted⟩
    · exact (strictLine_iff).mpr ⟨_, (standard.chunks chunk listed).sized⟩
    · exact forall_mem_singleton.mpr ((strictLine_iff).mpr ⟨_, standard.lastSized⟩)
  · rintro ⟨sizes, trailers⟩
    have announced : ∀ line size, line ∈ body.sizeLines → chunkSize line = .ok size →
        Rfc9112.SizeLine line size := by
      intro line size member read
      obtain ⟨number, strict⟩ := (strictLine_iff).mp (sizes line member)
      rw [chunkSize_agrees trailer line size number read strict]
      exact strict
    refine ⟨body, ⟨?_, accepted.lastSingle, ?_, ?_⟩, rfl⟩
    · intro chunk member
      have front := accepted.chunks chunk member
      have line : chunk.line ∈ body.sizeLines :=
        mem_append_left _ (mem_map.mpr ⟨chunk, member, rfl⟩)
      exact ⟨front.single, announced _ _ line front.sized, front.nonempty⟩
    · exact announced _ _ (mem_append_right _ mem_cons_self) accepted.lastSized
    · intro line member
      have trailer := accepted.trailers line member
      exact ⟨trailer.single, trailers line member, trailer.nonempty⟩

/-! ## Writing sizes -/

/-- The digits `append_chunk_prefix` writes: an array for the sixteen digits of a `usize`,
filled from its end. -/
def chunkDigits (len : Nat) : List UInt8 := writeDigits 16 16 len []

/-- `append_chunk_prefix`. -/
def appendChunkPrefix (len : Nat) : List UInt8 := chunkDigits len ++ crlf

theorem toDigit_digitByte : ∀ digit < 16, toDigit 16 (byteChar (digitByte digit)) = some digit := by
  decide +kernel

/-- The digits of a chunk are the hexadecimal number of its bytes. -/
theorem hexValue_chunkDigits (bytes : Bytes) :
    hexValue (chunkDigits bytes.data.length) = some bytes.data.length :=
  digitsValue_writeDigits toDigit_digitByte (by decide) bytes.fits

end PdEdge

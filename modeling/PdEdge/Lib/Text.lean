import Mathlib.Data.List.DropRight

/-!
# Text inside byte strings

The string operations a Rust program applies to bytes it has read: decoding UTF-8,
trimming Unicode white space, splitting at a character, comparing without regard to
ASCII case, and reading an unsigned integer in a radix. Text is a list of characters;
decoding and encoding are Lean's own, whose laws are used by name. The digits a number is
read from are related to the number in both directions. The last section says when a text
that is decoded in pieces comes out as it was.
-/

namespace Text

open List

/-- The text of a byte string that is well-formed UTF-8. -/
def fromUtf8 (bytes : List UInt8) : Option (List Char) :=
  bytes.toByteArray.utf8Decode?.map Array.toList

/-- The UTF-8 bytes of a text. -/
def toUtf8 (text : List Char) : List UInt8 := text.flatMap String.utf8EncodeChar

/-- `std::str::Utf8Error`. -/
structure Utf8Error where
  validUpTo : Nat
  errorLen : Option Nat
  deriving DecidableEq, Repr

/-- The text `Utf8Error` displays as. -/
def Utf8Error.describe : Utf8Error → String
  | ⟨index, some length⟩ => s!"invalid utf-8 sequence of {length} bytes from index {index}"
  | ⟨index, none⟩ => s!"incomplete utf-8 byte sequence from index {index}"

/-- The range of the second byte of a character, and how many come behind that, by the first. -/
def secondByte (first : UInt8) : Option (UInt8 × UInt8 × Nat) :=
  if 0xc2 ≤ first ∧ first ≤ 0xdf then some (0x80, 0xbf, 0)
  else if first = 0xe0 then some (0xa0, 0xbf, 1)
  else if first = 0xed then some (0x80, 0x9f, 1)
  else if 0xe1 ≤ first ∧ first ≤ 0xef then some (0x80, 0xbf, 1)
  else if first = 0xf0 then some (0x90, 0xbf, 2)
  else if 0xf1 ≤ first ∧ first ≤ 0xf3 then some (0x80, 0xbf, 2)
  else if first = 0xf4 then some (0x80, 0x8f, 2)
  else none

/-- Where the check of `str::from_utf8` stops, from the start of a character at an index, or
inside one behind so many of its bytes. -/
def utf8Stop (index : Nat) : Option (Nat × UInt8 × UInt8 × Nat) → List UInt8 → Utf8Error
  | _, [] => ⟨index, none⟩
  | none, first :: rest =>
    if first < 128 then utf8Stop (index + 1) none rest
    else
      match secondByte first with
      | none => ⟨index, some 1⟩
      | some range => utf8Stop index (some (1, range)) rest
  | some (seen, low, high, more), byte :: rest =>
    if byte < low ∨ high < byte then ⟨index, some seen⟩
    else
      match more with
      | 0 => utf8Stop (index + seen + 1) none rest
      | more + 1 => utf8Stop index (some (seen + 1, 0x80, 0xbf, more)) rest

/-- The error of `str::from_utf8` for bytes that are not UTF-8. -/
def utf8Error (bytes : List UInt8) : Utf8Error := utf8Stop 0 none bytes

/-- The bytes of a literal whose characters are all ASCII. -/
def ascii (literal : String) : List UInt8 := literal.toList.map fun char => char.toNat.toUInt8

/-- The character an ASCII byte stands for. -/
def byteChar (byte : UInt8) : Char := Char.ofNat byte.toNat

/-- A property of bytes checked on all 256 codes. -/
theorem forall_byte {motive : UInt8 → Prop} (table : ∀ code < 256, motive (UInt8.ofNat code))
    (byte : UInt8) : motive byte := by
  have row := table byte.toNat byte.toNat_lt
  rwa [UInt8.ofNat_toNat] at row

/-- Encoding a text gives the bytes it is decoded from. -/
theorem fromUtf8_toUtf8 (text : List Char) : fromUtf8 (toUtf8 text) = some text := by
  have decoded := utf8Decode?_utf8Encode (l := text)
  simp only [utf8Encode] at decoded
  simp [fromUtf8, toUtf8, decoded]

/-- No bytes are no text. -/
theorem fromUtf8_nil : fromUtf8 [] = some [] := fromUtf8_toUtf8 []

variable {byte : UInt8} {radix value number limit : Nat} {text : List Char}

/-- An ASCII byte is a one-byte character. -/
theorem byteChar_val (small : byte < 128) : (byteChar byte).val.toNat = byte.toNat := by
  have bound : byte.toNat < 128 := UInt8.lt_iff_toNat_lt.mp small
  have scalar : byte.toNat.isValidChar := Or.inl (by omega)
  rw [byteChar, Char.ofNat, dif_pos scalar]
  exact BitVec.toNat_ofNatLT ..

/-- An ASCII character encodes as its byte. -/
theorem utf8EncodeChar_byteChar (small : byte < 128) :
    String.utf8EncodeChar (byteChar byte) = [byte] := by
  have bound : byte.toNat < 128 := UInt8.lt_iff_toNat_lt.mp small
  have value := byteChar_val small
  have single : (byteChar byte).utf8Size = 1 :=
    Char.utf8Size_eq_one_iff.mpr
      (UInt32.le_iff_toNat_le.mpr (by rw [value]; exact Nat.le_of_lt_succ bound))
  rw [String.utf8EncodeChar_eq_singleton single]
  congr 1
  apply UInt8.toNat_inj.mp
  rw [UInt32.toNat_toUInt8, value]
  omega

/-- Decoding reads an ASCII byte as its character and goes on with the rest. -/
theorem fromUtf8_cons (small : byte < 128) (rest : List UInt8) :
    fromUtf8 (byte :: rest) = (fromUtf8 rest).map (byteChar byte :: ·) := by
  have first : (byte :: rest).toByteArray = [byteChar byte].utf8Encode ++ rest.toByteArray := by
    simp only [utf8Encode, flatMap_cons, flatMap_nil,
      utf8EncodeChar_byteChar small, ← toByteArray_append, append_nil,
      singleton_append]
  simp only [fromUtf8, first, ByteArray.utf8Decode?_utf8Encode_singleton_append, Option.map_map]
  congr 1
  funext chars
  simp

/-- Decoding reads ASCII bytes one by one and goes on with the rest. -/
theorem fromUtf8_ascii_append (front rest : List UInt8) (small : ∀ byte ∈ front, byte < 128) :
    fromUtf8 (front ++ rest) = (fromUtf8 rest).map (front.map byteChar ++ ·) := by
  induction front with
  | nil => simp
  | cons byte front ih =>
    have tail := ih fun other member => small other (mem_cons_of_mem _ member)
    rw [cons_append, fromUtf8_cons (small byte mem_cons_self), tail, Option.map_map]
    congr 1

/-- ASCII bytes decode to their characters. -/
theorem fromUtf8_ascii (bytes : List UInt8) (small : ∀ byte ∈ bytes, byte < 128) :
    fromUtf8 bytes = some (bytes.map byteChar) := by
  have whole := fromUtf8_ascii_append bytes [] small
  simpa [fromUtf8_nil] using whole

/-- A byte of a character is its code, or both are beyond ASCII. -/
theorem mem_utf8EncodeChar {char : Char} (member : byte ∈ String.utf8EncodeChar char) :
    byte.toNat = char.toNat ∨ (128 ≤ byte.toNat ∧ 128 ≤ char.toNat) := by
  -- the bytes of a longer encoding all have their highest bit set
  have marked {number : Nat} (low : 128 ≤ number) (high : number < 256) (big : 128 ≤ char.toNat)
      (same : byte = UInt8.ofNat number) :
      byte.toNat = char.toNat ∨ (128 ≤ byte.toNat ∧ 128 ≤ char.toNat) := by
    have size : byte.toNat = number := by rw [same, UInt8.toNat_ofNat_of_lt' high]
    exact Or.inr ⟨by omega, big⟩
  change byte ∈ if char.toNat ≤ 127 then [UInt8.ofNat char.toNat] else _ at member
  split at member
  · have high : char.toNat < 256 := by omega
    rw [mem_singleton.mp member, UInt8.toNat_ofNat_of_lt' high]
    exact Or.inl rfl
  have big : 128 ≤ char.toNat := by omega
  split at member
  · simp only [mem_cons, not_mem_nil, or_false] at member
    rcases member with same | same <;> exact marked (by omega) (by omega) big same
  split at member
  · simp only [mem_cons, not_mem_nil, or_false] at member
    rcases member with same | same | same <;> exact marked (by omega) (by omega) big same
  · simp only [mem_cons, not_mem_nil, or_false] at member
    rcases member with same | same | same | same <;>
      exact marked (by omega) (by omega) big same

/-- `char::is_whitespace`: the Unicode property White_Space. -/
def isWhitespace (char : Char) : Bool :=
  let code := char.toNat
  (9 ≤ code && code ≤ 13) || code == 0x20 || code == 0x85 || code == 0xa0 || code == 0x1680 ||
    (0x2000 ≤ code && code ≤ 0x200a) || code == 0x2028 || code == 0x2029 || code == 0x202f ||
    code == 0x205f || code == 0x3000

/-- `str::trim`: drop white space from both ends. -/
def trim (text : List Char) : List Char := (text.dropWhile isWhitespace).rdropWhile isWhitespace

/-- `u8::to_ascii_lowercase`. -/
def lower (byte : UInt8) : UInt8 := if 65 ≤ byte ∧ byte ≤ 90 then byte + 32 else byte

/-- `[u8]::eq_ignore_ascii_case`. -/
def eqIgnoreAsciiCase (left right : List UInt8) : Bool := left.map lower == right.map lower

/-- `str::eq_ignore_ascii_case`, which compares the UTF-8 bytes. -/
def strEqIgnoreAsciiCase (left right : List Char) : Bool :=
  eqIgnoreAsciiCase (toUtf8 left) (toUtf8 right)

/-- `char::to_digit` for a radix of at most 36. -/
def toDigit (radix : Nat) (char : Char) : Option Nat :=
  let code := char.toNat
  let digit :=
    if 48 ≤ code ∧ code ≤ 57 then some (code - 48)
    else if 97 ≤ code ∧ code ≤ 122 then some (code - 97 + 10)
    else if 65 ≤ code ∧ code ≤ 90 then some (code - 65 + 10)
    else none
  digit.filter (· < radix)

/-- `std::num::ParseIntError`, as far as an unsigned integer can produce it. -/
inductive ParseIntError where
  /-- No character at all. -/
  | empty
  /-- A character that is no digit, or a sign alone. -/
  | invalidDigit
  /-- The number does not fit its type. -/
  | posOverflow
  deriving DecidableEq, Repr

/-- The text `ParseIntError` displays as. -/
def ParseIntError.describe : ParseIntError → String
  | .empty => "cannot parse integer from empty string"
  | .invalidDigit => "invalid digit found in string"
  | .posOverflow => "number too large to fit in target type"

/-- The accumulating loop of `from_str_radix` for an unsigned type with `limit` values. -/
def accumulate (radix limit : Nat) : Nat → List Char → Except ParseIntError Nat
  | value, [] => .ok value
  | value, char :: rest =>
    match toDigit radix char with
    | none => .error .invalidDigit
    | some digit =>
      if value * radix + digit < limit then accumulate radix limit (value * radix + digit) rest
      else .error .posOverflow

/-- `from_str_radix` of an unsigned type with `limit` values: one leading plus sign is
accepted, a minus sign is not. -/
def fromStrRadix (radix limit : Nat) : List Char → Except ParseIntError Nat
  | [] => .error .empty
  | ['+'] => .error .invalidDigit
  | ['-'] => .error .invalidDigit
  | '+' :: rest => accumulate radix limit 0 rest
  | text => accumulate radix limit 0 text

/-! ## Digits and their value -/

/-- The number written by digits after those already read. -/
def digitsFrom (radix : Nat) : Nat → List Char → Option Nat
  | value, [] => some value
  | value, char :: rest =>
    match toDigit radix char with
    | none => none
    | some digit => digitsFrom radix (value * radix + digit) rest

/-- The number a non-empty string of digits writes, of any size. -/
def digitsValue (radix : Nat) (text : List Char) : Option Nat :=
  if text = [] then none else digitsFrom radix 0 text

/-- Reading further digits never makes the number smaller. -/
theorem digitsFrom_le (positive : 0 < radix) {result : Nat}
    (read : digitsFrom radix value text = some result) : value ≤ result := by
  induction text generalizing value with
  | nil => simp only [digitsFrom, Option.some.injEq] at read; omega
  | cons char rest ih =>
    simp only [digitsFrom] at read
    split at read
    · contradiction
    · have further := ih read
      have grown : value ≤ value * radix := Nat.le_mul_of_pos_right _ positive
      omega

/-- Whatever writes a number is made of digits. -/
theorem digits_of_digitsFrom (written : digitsFrom radix value text = some number) :
    ∀ char ∈ text, (toDigit radix char).isSome := by
  induction text generalizing value with
  | nil => simp
  | cons first text ih =>
    simp only [digitsFrom] at written
    split at written
    · contradiction
    rename_i digit found
    exact forall_mem_cons.mpr ⟨by simp [found], ih written⟩

/-- A number is written by one digit or more. -/
theorem digits_of_digitsValue (written : digitsValue radix text = some number) :
    text ≠ [] ∧ ∀ char ∈ text, (toDigit radix char).isSome := by
  simp only [digitsValue] at written
  split at written
  · contradiction
  · rename_i nonempty
    exact ⟨nonempty, digits_of_digitsFrom written⟩

/-- The accumulating loop succeeds exactly on digits whose number fits. -/
theorem accumulate_eq_ok (positive : 0 < radix) {result : Nat} (fits : value < limit) :
    accumulate radix limit value text = .ok result ↔
      digitsFrom radix value text = some result ∧ result < limit := by
  induction text generalizing value with
  | nil =>
    simp only [accumulate, digitsFrom, Except.ok.injEq, Option.some.injEq]
    constructor
    · rintro rfl; exact ⟨rfl, fits⟩
    · exact And.left
  | cons char rest ih =>
    simp only [accumulate, digitsFrom]
    cases toDigit radix char with
    | none => simp
    | some digit =>
      by_cases below : value * radix + digit < limit
      · simp only [below, ↓reduceIte]
        exact ih below
      simp only [below, ↓reduceIte, reduceCtorEq, false_iff, not_and]
      intro read
      have further := digitsFrom_le positive read
      omega

/-- A sign is no digit. -/
theorem toDigit_plus (radix : Nat) : toDigit radix '+' = none := by simp [toDigit]

/-- A minus sign is no digit. -/
theorem toDigit_minus (radix : Nat) : toDigit radix '-' = none := by simp [toDigit]

attribute [local simp] digitsFrom

/-- A number written in digits alone is read as itself when it fits. -/
theorem fromStrRadix_of_digits (positive : 0 < radix)
    (written : digitsValue radix text = some number) (fits : number < limit) :
    fromStrRadix radix limit text = .ok number := by
  simp only [digitsValue] at written
  split at written
  · contradiction
  have accumulated := (accumulate_eq_ok positive (by omega)).mpr ⟨written, fits⟩
  unfold fromStrRadix
  split
  · contradiction
  · simp [toDigit_plus] at written
  · simp [toDigit_minus] at written
  · simp [toDigit_plus] at written
  · exact accumulated

/-- Whatever is read as a number is its digits, after at most one plus sign, and fits. -/
theorem fromStrRadix_eq_ok (positive : 0 < radix) (room : 0 < limit)
    (read : fromStrRadix radix limit text = .ok number) :
    number < limit ∧ ∃ digits, digitsValue radix digits = some number ∧
      (text = digits ∨ text = '+' :: digits) := by
  unfold fromStrRadix at read
  split at read
  · contradiction
  · contradiction
  · contradiction
  · rename_i rest notAlone
    obtain ⟨written, fits⟩ := (accumulate_eq_ok positive room).mp read
    have some : rest ≠ [] := fun none => notAlone (by rw [none])
    exact ⟨fits, rest, by simp [digitsValue, some, written], Or.inr rfl⟩
  rename_i notEmpty _ _ _
  obtain ⟨written, fits⟩ := (accumulate_eq_ok positive room).mp read
  have some : text ≠ [] := fun none => notEmpty none
  exact ⟨fits, text, by simp [digitsValue, some, written], Or.inl rfl⟩

/-! ## Writing digits -/

/-- The byte of a digit, in upper case. -/
def digitByte (digit : Nat) : UInt8 :=
  if digit < 10 then 48 + digit.toUInt8 else 65 + (digit - 10).toUInt8

/-- Write a number in front of digits already written, the lowest digit first, into an array
with room for so many digits. -/
def writeDigits (radix : Nat) : Nat → Nat → List UInt8 → List UInt8
  | 0, _, digits => digits
  | room + 1, value, digits =>
    let digits := digitByte (value % radix) :: digits
    if value / radix = 0 then digits else writeDigits radix room (value / radix) digits

/-- Something was written. -/
theorem writeDigits_ne_nil (radix room value : Nat) (digits : List UInt8) :
    writeDigits radix (room + 1) value digits ≠ [] := by
  induction room generalizing value digits with
  | zero => simp [writeDigits]
  | succ room ih =>
    rw [writeDigits]
    split
    · exact cons_ne_nil _ _
    · exact ih _ _

section

variable {radix : Nat}
variable (reads : ∀ digit < radix, toDigit radix (byteChar (digitByte digit)) = some digit)
variable (positive : 0 < radix)
include reads positive

/-- The digit written first is the lowest of the number. -/
theorem digitsFrom_lowest (front value : Nat) (digits : List UInt8) :
    digitsFrom radix front ((digitByte (value % radix) :: digits).map byteChar) =
      digitsFrom radix (front * radix + value % radix) (digits.map byteChar) := by
  rw [map_cons, digitsFrom, reads _ (Nat.mod_lt value positive)]

/-- What was written is read back, if the array had room for it. -/
theorem digitsFrom_writeDigits {room value : Nat} (fits : value < Nat.pow radix (room + 1))
    (digits : List UInt8) :
    digitsFrom radix 0 ((writeDigits radix (room + 1) value digits).map byteChar) =
      digitsFrom radix value (digits.map byteChar) := by
  have split (number : Nat) : number / radix * radix + number % radix = number :=
    Nat.div_add_mod' number radix
  induction room generalizing value digits with
  | zero =>
    have small : value / radix = 0 := Nat.div_eq_of_lt (by simpa using fits)
    rw [writeDigits, if_pos small, digitsFrom_lowest reads positive, ← small, split]
  | succ room ih =>
    rw [writeDigits]
    by_cases small : value / radix = 0
    · rw [if_pos small, digitsFrom_lowest reads positive, ← small, split]
    have fewer : value / radix < Nat.pow radix (room + 1) := by
      rw [Nat.div_lt_iff_lt_mul positive]
      exact fits
    rw [if_neg small, ih fewer, digitsFrom_lowest reads positive, split]

/-- A number is read back from the digits it is written in. -/
theorem digitsValue_writeDigits {room value : Nat} (fits : value < Nat.pow radix (room + 1)) :
    digitsValue radix ((writeDigits radix (room + 1) value []).map byteChar) = some value := by
  rw [digitsValue, if_neg (by simpa using writeDigits_ne_nil radix room value []),
    digitsFrom_writeDigits reads positive fits]
  rfl

end

/-! ## Decoding in pieces -/

/-- Bytes that decode are those of their text. -/
theorem toUtf8_of_fromUtf8 {bytes : List UInt8} {text : List Char}
    (decoded : fromUtf8 bytes = some text) : toUtf8 text = bytes := by
  obtain ⟨chars, found, rfl⟩ := Option.map_eq_some_iff.mp decoded
  obtain ⟨text, same⟩ := ByteArray.isSome_utf8Decode?_iff.mp (Option.isSome_of_eq_some found)
  obtain rfl : bytes = toUtf8 text := by
    have data := congrArg (·.data.toList) same
    simpa [utf8Encode, toUtf8] using data
  rw [fromUtf8_toUtf8] at decoded
  cases decoded
  rfl

/-- The first byte of a character, and no other of its bytes, can begin one. -/
theorem utf8EncodeChar_eq_cons (char : Char) : ∃ first rest,
    String.utf8EncodeChar char = first :: rest ∧ first.IsUTF8FirstByte ∧
      ∀ byte ∈ rest, ¬ byte.IsUTF8FirstByte := by
  obtain ⟨first, rest, same⟩ := exists_cons_of_ne_nil
    (ne_nil_of_length_pos (String.length_utf8EncodeChar char ▸ char.utf8Size_pos))
  have begins (index : Nat) (within : index < (first :: rest).length) :
      (first :: rest)[index].IsUTF8FirstByte ↔ index = 0 := by
    simp only [← same] at within ⊢
    exact UInt8.isUTF8FirstByte_getElem_utf8EncodeChar
  refine ⟨first, rest, same, (begins 0 (by simp)).mpr rfl, fun byte member can => ?_⟩
  obtain ⟨index, within, rfl⟩ := getElem_of_mem member
  exact absurd ((begins (index + 1) (by simpa using within)).mp can) (by simp)

/-- A text has as many characters as bytes that can begin one. -/
theorem countP_toUtf8 (text : List Char) :
    (toUtf8 text).countP (·.IsUTF8FirstByte) = text.length := by
  induction text with
  | nil => rfl
  | cons char text ih =>
    obtain ⟨first, rest, same, begins, others⟩ := utf8EncodeChar_eq_cons char
    have none : rest.countP (·.IsUTF8FirstByte) = 0 := by simpa [countP_eq_zero] using others
    change ((String.utf8EncodeChar char) ++ toUtf8 text).countP _ = _
    rw [countP_append, ih, same, countP_cons, none]
    simp [begins, Nat.add_comm]

/-- The bytes begin like a character. -/
def Begins (bytes : List UInt8) : Prop := ∀ byte ∈ bytes.head?, byte.IsUTF8FirstByte

theorem begins_toUtf8 (text : List Char) : Begins (toUtf8 text) := by
  cases text with
  | nil => simp [Begins, toUtf8]
  | cons char text =>
    obtain ⟨first, rest, same, begins, -⟩ := utf8EncodeChar_eq_cons char
    simpa [Begins, toUtf8, same] using begins

/-- A text that is cut where the rest begins like a character is cut between two. -/
theorem toUtf8_cut {front back : List UInt8} {text : List Char}
    (same : front ++ back = toUtf8 text) (begins : Begins back) :
    ∃ left right, front = toUtf8 left ∧ back = toUtf8 right := by
  induction text generalizing front with
  | nil =>
    obtain ⟨rfl, rfl⟩ := append_eq_nil_iff.mp same
    exact ⟨[], [], rfl, rfl⟩
  | cons char text ih =>
    obtain ⟨first, rest, encoded, -, others⟩ := utf8EncodeChar_eq_cons char
    cases front with
    | nil => exact ⟨[], char :: text, rfl, same⟩
    | cons byte front =>
      change byte :: front ++ back = String.utf8EncodeChar char ++ toUtf8 text at same
      rcases append_eq_append_iff.mp same with ⟨more, split, behind⟩ | ⟨more, split, behind⟩
      · -- the cut is inside this character, or at its end
        cases more with
        | nil => exact ⟨[char], text, by simpa [toUtf8] using split.symm, behind⟩
        | cons next more =>
          rw [encoded, cons_append] at split
          obtain ⟨-, rfl⟩ := cons.inj split
          exact absurd (begins next (by simp [behind])) (others next (by simp))
      · obtain ⟨left, right, rfl, tail⟩ := ih behind.symm
        exact ⟨char :: left, right, split, tail⟩

section

variable (replace : List UInt8 → List Char)

/-- `String::from_utf8_lossy`, with what it makes of bytes that are not UTF-8. -/
def fromUtf8Lossy (bytes : List UInt8) : List Char := (fromUtf8 bytes).getD (replace bytes)

/-- In the text of bytes that are not UTF-8, each byte that can begin a character stands for one
at least, and so does what comes before the first of them. -/
def Replaces : Prop := ∀ first rest, fromUtf8 (first :: rest) = none →
  rest.countP (·.IsUTF8FirstByte) < (replace (first :: rest)).length

variable {replace} (replaces : Replaces replace)
include replaces

/-- A piece that begins inside a character has more characters than begin in it. -/
theorem countP_le_fromUtf8Lossy (bytes : List UInt8) :
    bytes.countP (·.IsUTF8FirstByte) ≤ (fromUtf8Lossy replace bytes).length ∧
      (bytes.countP (·.IsUTF8FirstByte) = (fromUtf8Lossy replace bytes).length →
        Begins bytes) := by
  unfold fromUtf8Lossy
  cases decoded : fromUtf8 bytes with
  | some text =>
    obtain rfl := toUtf8_of_fromUtf8 decoded
    exact ⟨(countP_toUtf8 text).le, fun _ => begins_toUtf8 text⟩
  | none =>
    cases bytes with
    | nil => cases fromUtf8_nil.symm.trans decoded
    | cons first rest =>
      have more := replaces first rest decoded
      rw [Option.getD_none, countP_cons]
      by_cases begins : first.IsUTF8FirstByte
      · exact ⟨by simpa [begins] using Nat.succ_le_of_lt more,
          fun _ => by simpa [Begins] using begins⟩
      · simp only [begins, decide_false, Bool.false_eq_true, ↓reduceIte, Nat.add_zero]
        exact ⟨more.le, fun same => absurd same more.ne⟩

/-- No more characters come out than begin in the pieces only if no piece begins inside one. -/
theorem countP_flatten (pieces : List (List UInt8)) :
    pieces.flatten.countP (·.IsUTF8FirstByte) ≤
        (pieces.flatMap (fromUtf8Lossy replace)).length ∧
      (pieces.flatten.countP (·.IsUTF8FirstByte) =
        (pieces.flatMap (fromUtf8Lossy replace)).length → ∀ piece ∈ pieces, Begins piece) := by
  induction pieces with
  | nil => simp
  | cons piece pieces ih =>
    obtain ⟨least, exact'⟩ := countP_le_fromUtf8Lossy replaces piece
    rw [flatten_cons, countP_append, flatMap_cons, length_append]
    exact ⟨Nat.add_le_add least ih.1, fun same =>
      forall_mem_cons.mpr ⟨exact' (by omega), ih.2 (by omega)⟩⟩

omit replaces in
/-- Pieces that all begin like characters begin so together. -/
theorem begins_flatten {pieces : List (List UInt8)} (begin : ∀ piece ∈ pieces, Begins piece) :
    Begins pieces.flatten := by
  induction pieces with
  | nil => simp [Begins]
  | cons piece pieces ih =>
    rw [forall_mem_cons] at begin
    cases piece with
    | nil => exact ih begin.2
    | cons first rest => exact begin.1

omit replaces in
/-- Pieces of a text that all begin like characters are texts. -/
theorem fromUtf8_pieces {pieces : List (List UInt8)} {text : List Char}
    (same : pieces.flatten = toUtf8 text) (begin : ∀ piece ∈ pieces, Begins piece) :
    ∀ piece ∈ pieces, (fromUtf8 piece).isSome := by
  induction pieces generalizing text with
  | nil => simp
  | cons piece pieces ih =>
    rw [forall_mem_cons] at begin
    obtain ⟨left, right, rfl, behind⟩ := toUtf8_cut same (begins_flatten begin.2)
    exact forall_mem_cons.mpr ⟨by simp [fromUtf8_toUtf8], ih behind begin.2⟩

/-- Decoded in pieces, a text comes out as it was exactly when each piece is text of its own. -/
theorem flatMap_fromUtf8Lossy_iff {pieces : List (List UInt8)} {text : List Char}
    (same : pieces.flatten = toUtf8 text) :
    pieces.flatMap (fromUtf8Lossy replace) = text ↔ ∀ piece ∈ pieces, (fromUtf8 piece).isSome := by
  constructor
  · rintro rfl
    refine fromUtf8_pieces same ((countP_flatten replaces pieces).2 ?_)
    rw [same, countP_toUtf8]
  · intro texts
    have encoded : toUtf8 (pieces.flatMap (fromUtf8Lossy replace)) = pieces.flatten := by
      rw [toUtf8, flatMap_assoc, ← flatMap_id]
      refine flatMap_congr fun piece member => ?_
      obtain ⟨part, decoded⟩ := Option.isSome_iff_exists.mp (texts piece member)
      rw [fromUtf8Lossy, decoded]
      exact toUtf8_of_fromUtf8 decoded
    exact Option.some.inj (by rw [← fromUtf8_toUtf8, encoded, same, fromUtf8_toUtf8])

end

end Text

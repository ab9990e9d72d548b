import Mathlib.Tactic.Ring

/-!
# Numbers as bytes

A number of variable length is written as bytes of seven bits each, lowest first, every byte
but the last with its high bit set. The codes are prefix-free: bytes start with at most one
code, whatever follows it, and bytes without a last byte start with none. Words of sixteen bits
are written high byte first.
-/

namespace Numerals

/-! ## Seven bits of a byte -/

theorem low_toNat (byte : UInt8) : (byte &&& 0x7f).toNat = byte.toNat % 128 := by
  exact Nat.and_two_pow_sub_one_eq_mod byte.toNat 7

theorem high_eq_zero_iff {byte : UInt8} : byte &&& 0x80 = 0 ↔ byte.toNat < 128 := by
  have table : ∀ code : Fin 256, code.val &&& 128 = 0 ↔ code.val < 128 := by decide +kernel
  rw [← UInt8.toNat_inj, UInt8.toNat_and]
  exact table ⟨byte.toNat, byte.toNat_lt⟩

variable {value : Nat} {bytes : List UInt8}

theorem group_toNat (small : value < 128) : (UInt8.ofNat value).toNat = value := by
  rw [UInt8.toNat_ofNat']
  omega

theorem marked_toNat (small : value < 128) : (UInt8.ofNat value ||| 0x80).toNat = value + 128 := by
  have joined := Nat.two_pow_add_eq_or_of_lt (i := 7) small 1
  rw [UInt8.toNat_or, group_toNat small, Nat.or_comm]
  exact joined.symm.trans (Nat.add_comm _ _)

/-! ## Codes of variable length -/

/-- The bytes are a code of the number. -/
inductive Code : List UInt8 → Nat → Prop where
  | last {byte : UInt8} (final : byte.toNat < 128) : Code [byte] (byte.toNat % 128)
  | more {byte : UInt8} {rest : List UInt8} {value : Nat} (marked : ¬byte.toNat < 128)
      (code : Code rest value) : Code (byte :: rest) (byte.toNat % 128 + value * 128)

section

variable (code : Code bytes value)
include code

theorem Code.length_pos : 0 < bytes.length := by cases code <;> simp

theorem Code.lt_pow : value < 128 ^ bytes.length := by
  induction code with
  | @last byte final =>
    simp only [List.length_singleton, Nat.pow_one]
    omega
  | @more byte rest value marked code ih =>
    rw [List.length_cons, Nat.pow_succ]
    omega

/-- What stands before the end of a code is marked throughout. -/
theorem Code.marked_take {count : Nat} (before : count < bytes.length) :
    ∀ byte ∈ bytes.take count, ¬byte.toNat < 128 := by
  induction code generalizing count with
  | last final =>
    obtain rfl : count = 0 := by simpa using before
    simp
  | @more byte rest value marked code ih =>
    cases count with
    | zero => simp
    | succ count =>
      exact List.forall_mem_cons.mpr ⟨marked, ih (by simpa using before)⟩

end

/-- Read the code in front, behind so many bytes that brought so much of the number. -/
def readCode : List UInt8 → (index multiplier value : Nat) → Option (Nat × Nat)
  | [], _, _, _ => none
  | byte :: rest, index, multiplier, value =>
    let value := value + (byte &&& 0x7f).toNat * multiplier
    if byte &&& 0x80 = 0 then some (value, index + 1)
    else readCode rest (index + 1) (multiplier * 128) value

theorem readCode_of_code {code : List UInt8} {number : Nat} (is : Code code number)
    (rest : List UInt8) (index multiplier value : Nat) :
    readCode (code ++ rest) index multiplier value =
      some (value + number * multiplier, index + code.length) := by
  induction is generalizing index multiplier value with
  | @last byte final =>
    rw [List.singleton_append, readCode, if_pos ((high_eq_zero_iff).mpr final), low_toNat]
    rfl
  | @more byte tail number marked code ih =>
    rw [List.cons_append, readCode, if_neg (mt (high_eq_zero_iff).mp marked), ih, low_toNat,
      List.length_cons]
    refine congrArg some (Prod.ext ?_ ?_)
    · ring
    · omega

theorem readCode_marked (marked : ∀ byte ∈ bytes, ¬byte.toNat < 128)
    (index multiplier value : Nat) : readCode bytes index multiplier value = none := by
  induction bytes generalizing index multiplier value with
  | nil => rfl
  | cons byte rest ih =>
    have first := marked byte List.mem_cons_self
    rw [readCode, if_neg (mt (high_eq_zero_iff).mp first)]
    exact ih (fun other inside => marked other (List.mem_cons_of_mem _ inside)) _ _ _

/-- Bytes start with a code, or every one of them is marked. -/
theorem code_or_marked {bytes : List UInt8} :
    (∃ code number rest, bytes = code ++ rest ∧ Code code number) ∨
      ∀ byte ∈ bytes, ¬byte.toNat < 128 := by
  induction bytes with
  | nil => exact Or.inr (by simp)
  | cons byte rest ih =>
    by_cases final : byte.toNat < 128
    · exact Or.inl ⟨[byte], _, rest, rfl, Code.last final⟩
    rcases ih with ⟨code, number, behind, rfl, is⟩ | marked
    · exact Or.inl ⟨byte :: code, _, behind, rfl, Code.more final is⟩
    exact Or.inr (List.forall_mem_cons.mpr ⟨final, marked⟩)

/-! ## Words of sixteen bits -/

/-- `u16::to_be_bytes`. -/
def toBeBytes (word : UInt16) : List UInt8 := [(word >>> 8).toUInt8, word.toUInt8]

/-- `u16::from_be_bytes`. -/
def fromBeBytes (high low : UInt8) : UInt16 := (high.toUInt16 <<< 8) ||| low.toUInt16

theorem fromBeBytes_toNat (high low : UInt8) :
    (fromBeBytes high low).toNat = high.toNat * 256 + low.toNat := by
  have fits := high.toNat_lt
  have joined := Nat.two_pow_add_eq_or_of_lt (i := 8) low.toNat_lt high.toNat
  have shifted : high.toNat <<< 8 % 2 ^ 16 = 2 ^ 8 * high.toNat := by omega
  show high.toNat <<< 8 % 2 ^ 16 ||| low.toNat = _
  rw [shifted, ← joined]
  omega

theorem fromBeBytes_toBeBytes (word : UInt16) :
    fromBeBytes (word >>> 8).toUInt8 word.toUInt8 = word := by
  have fits := word.toNat_lt
  have high : (word >>> 8).toUInt8.toNat = word.toNat / 256 := by
    show word.toNat >>> 8 % 256 = _
    omega
  rw [← UInt16.toNat_inj, fromBeBytes_toNat, high, UInt16.toNat_toUInt8]
  omega

end Numerals

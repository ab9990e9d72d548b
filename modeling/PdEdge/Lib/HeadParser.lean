import Mathlib.Data.List.Basic

/-!
# Incremental parsers of message heads

A head parser is run again on a growing buffer until it finds a complete head. Its laws say
that it reads from the left: what follows a complete head does not matter, and before the
end of the head it asks for more.
-/

namespace Heads

/-- What a parser finds at the front of a buffer. -/
inductive HeadStatus (α : Type) where
  /-- A head that takes so many bytes. -/
  | complete (head : α) (consumed : Nat)
  /-- The beginning of a head. -/
  | incomplete
  /-- No head begins like this. -/
  | invalid (message : String)

/-- An incremental parser of heads. -/
structure HeadParser (α : Type) where
  /-- Run it on a buffer. -/
  parse : List UInt8 → HeadStatus α
  /-- A complete head lies in the buffer. -/
  within : ∀ bytes head consumed, parse bytes = .complete head consumed →
    0 < consumed ∧ consumed ≤ bytes.length
  /-- What follows a complete head does not matter. -/
  extend : ∀ bytes head consumed, parse bytes = .complete head consumed →
    ∀ more, parse (bytes.take consumed ++ more) = .complete head consumed
  /-- Before the end of a head it asks for more. -/
  awaits : ∀ bytes head consumed, parse bytes = .complete head consumed →
    ∀ count < consumed, parse (bytes.take count) = .incomplete

namespace HeadParser

variable {α : Type}

/-- What follows the head at the front of a buffer. -/
def behind (parser : HeadParser α) (bytes : List UInt8) : List UInt8 :=
  match parser.parse bytes with
  | .complete _ consumed => bytes.drop consumed
  | _ => []

variable {parser : HeadParser α} {bytes : List UInt8} {head : α} {consumed : Nat}
variable {text buffered more : List UInt8}

section

variable (parsed : parser.parse bytes = .complete head consumed)
include parsed

theorem behind_complete : parser.behind bytes = bytes.drop consumed := by rw [behind, parsed]

/-- More bytes do not change the head that was found. -/
theorem parse_append {more : List UInt8} :
    parser.parse (bytes ++ more) = .complete head consumed := by
  have whole := parser.extend bytes head consumed parsed (bytes.drop consumed ++ more)
  rwa [← List.append_assoc, List.take_append_drop] at whole

theorem behind_append (more : List UInt8) :
    parser.behind (bytes ++ more) = parser.behind bytes ++ more := by
  have fits := (parser.within bytes head consumed parsed).2
  rw [behind_complete (parse_append parsed), behind_complete parsed,
    List.drop_append_of_le_length fits]

end

/-- What has arrived of bytes that start with a head holds the head, or is to be read on. -/
theorem parse_front {rest : List UInt8} (parsed : parser.parse text = .complete head text.length)
    (same : buffered ++ more = text ++ rest) :
    (∃ behind, buffered = text ++ behind ∧ behind ++ more = rest ∧
      parser.parse buffered = .complete head text.length) ∨
    buffered.length < text.length ∧ parser.parse buffered = .incomplete := by
  by_cases whole : text.length ≤ buffered.length
  · have front : text <+: buffered :=
      List.prefix_of_prefix_length_le ⟨rest, same.symm⟩ ⟨more, rfl⟩ whole
    obtain ⟨behind, rfl⟩ := front
    rw [List.append_assoc] at same
    exact Or.inl ⟨behind, rfl, List.append_cancel_left same, parse_append parsed⟩
  have short : buffered.length < text.length := by omega
  have front : buffered <+: text :=
    List.prefix_of_prefix_length_le ⟨more, same⟩ ⟨rest, rfl⟩ (Nat.le_of_lt short)
  have waits := parser.awaits text head text.length parsed buffered.length short
  rw [← List.prefix_iff_eq_take.mp front] at waits
  exact Or.inr ⟨short, waits⟩

/-- The bytes are a part of a head: whatever has arrived of them, more is asked for. -/
def Waits (parser : HeadParser α) (bytes : List UInt8) : Prop :=
  ∀ count, parser.parse (bytes.take count) = .incomplete

theorem Waits.front (waits : parser.Waits (buffered ++ more)) :
    parser.parse buffered = .incomplete := by
  have asked := waits buffered.length
  rwa [List.take_left] at asked

/-- The parser that knows a single head. -/
def literal (text : List UInt8) (nonempty : text ≠ []) (head : α) : HeadParser α where
  parse bytes :=
    if text.isPrefixOf bytes then .complete head text.length
    else if bytes.isPrefixOf text then .incomplete
    else .invalid "unknown head"
  within bytes found consumed parsed := by
    split at parsed
    · rename_i start
      cases parsed
      exact ⟨List.length_pos_of_ne_nil nonempty, (List.isPrefixOf_iff_prefix.mp start).length_le⟩
    · split at parsed <;> cases parsed
  extend bytes found consumed parsed more := by
    split at parsed
    · rename_i start
      cases parsed
      obtain ⟨rest, rfl⟩ := List.isPrefixOf_iff_prefix.mp start
      rw [List.take_left, if_pos (List.isPrefixOf_iff_prefix.mpr ⟨more, rfl⟩)]
    · split at parsed <;> cases parsed
  awaits bytes found consumed parsed count short := by
    split at parsed
    · rename_i start
      cases parsed
      obtain ⟨rest, rfl⟩ := List.isPrefixOf_iff_prefix.mp start
      rw [List.take_append_of_le_length (Nat.le_of_lt short)]
      have longer : ¬ text.isPrefixOf (text.take count) := by
        intro whole
        have length := (List.isPrefixOf_iff_prefix.mp whole).length_le
        rw [List.length_take] at length
        omega
      rw [if_neg longer, if_pos (List.isPrefixOf_iff_prefix.mpr (List.take_prefix _ _))]
    · split at parsed <;> cases parsed

theorem literal_parse (nonempty : text ≠ []) (head : α) {rest : List UInt8} :
    (literal text nonempty head).parse (text ++ rest) = .complete head text.length :=
  if_pos (List.isPrefixOf_iff_prefix.mpr ⟨rest, rfl⟩)

theorem literal_self (nonempty : text ≠ []) (head : α) :
    (literal text nonempty head).parse text = .complete head text.length := by
  have whole := @literal_parse _ text nonempty head []
  rwa [List.append_nil] at whole

section

variable (ending : List UInt8) (decode : List UInt8 → α)

/-- Where the first ending in a buffer stops. -/
def stop (bytes : List UInt8) : Option Nat :=
  (List.range (bytes.length + 1)).find? fun count => ending <:+ bytes.take count

variable {bytes : List UInt8}

theorem stop_eq_some {count : Nat} :
    stop ending bytes = some count ↔ ending <:+ bytes.take count ∧ count ≤ bytes.length ∧
      ∀ shorter < count, ¬ ending <:+ bytes.take shorter := by
  simp only [stop, List.find?_range_eq_some, decide_eq_true_eq, decide_eq_false_iff_not,
    Bool.not_eq_eq_eq_not, Bool.not_true, List.mem_range, Nat.lt_succ_iff]

theorem stop_eq_none :
    stop ending bytes = none ↔ ∀ count ≤ bytes.length, ¬ ending <:+ bytes.take count := by
  simp only [stop, List.find?_eq_none, List.mem_range, decide_eq_true_eq, Nat.lt_succ_iff]

/-- The parser of heads that go on to an ending. -/
def terminated (nonempty : ending ≠ []) : HeadParser α where
  parse bytes :=
    match stop ending bytes with
    | some count => .complete (decode (bytes.take count)) count
    | none => .incomplete
  within bytes found consumed parsed := by
    split at parsed
    · rename_i count stopped
      cases parsed
      obtain ⟨suffix, fits, -⟩ := (stop_eq_some ending).mp stopped
      refine ⟨Nat.pos_of_ne_zero fun zero => nonempty ?_, fits⟩
      rw [zero, List.take_zero] at suffix
      exact List.suffix_nil.mp suffix
    · cases parsed
  extend bytes found consumed parsed more := by
    split at parsed
    · rename_i count stopped
      cases parsed
      obtain ⟨suffix, fits, first⟩ := (stop_eq_some ending).mp stopped
      have same (shorter : Nat) (less : shorter ≤ consumed) :
          (bytes.take consumed ++ more).take shorter = bytes.take shorter := by
        rw [List.take_append_of_le_length (by rw [List.length_take]; omega), List.take_take,
          Nat.min_eq_left less]
      have again : stop ending (bytes.take consumed ++ more) = some consumed := by
        refine (stop_eq_some ending).mpr ⟨?_, ?_, ?_⟩
        · rw [same consumed (Nat.le_refl _)]
          exact suffix
        · rw [List.length_append, List.length_take]
          omega
        · intro shorter less
          rw [same shorter (Nat.le_of_lt less)]
          exact first shorter less
      simp only [again, same consumed (Nat.le_refl _)]
    · cases parsed
  awaits bytes found consumed parsed count short := by
    split at parsed
    · rename_i length stopped
      cases parsed
      obtain ⟨-, fits, first⟩ := (stop_eq_some ending).mp stopped
      have nowhere : stop ending (bytes.take count) = none := by
        refine (stop_eq_none ending).mpr fun shorter within => ?_
        rw [List.take_take]
        exact first _ (by rw [List.length_take] at within; omega)
      rw [nowhere]
    · cases parsed

theorem terminated_parse {count : Nat} (nonempty : ending ≠ [])
    (stopped : stop ending bytes = some count) :
    (terminated ending decode nonempty).parse bytes =
      .complete (decode (bytes.take count)) count := by
  simp only [terminated, stopped]

end

end HeadParser

end Heads

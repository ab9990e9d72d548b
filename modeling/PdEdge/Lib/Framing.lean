import Mathlib.Data.List.Basic

/-!
# Decoders of framed streams

A decoder looks at the bytes that have arrived and finds a frame in front, asks for more, or
fails. Its laws say that it reads from the left: bytes behind a frame or behind a mistake do not
matter, and before the end of a frame it asks for more. The frames of a stream are then a
function of its bytes. A loop that decodes the bytes it has and reads on only when the decoder
asks for more finds these frames, however the bytes arrive: the rules for that are
`frames_frame`, `frames_mistake` and `frames_end`.
-/

namespace Framing

/-- A decoder of the frame in front. -/
structure Decoder (ε α : Type) where
  /-- The frame with the number of its bytes, or nothing as long as bytes are missing. -/
  decode : List UInt8 → Except ε (Option (α × Nat))
  /-- A frame lies within the bytes. -/
  within : ∀ bytes frame used, decode bytes = .ok (some (frame, used)) →
    0 < used ∧ used ≤ bytes.length
  /-- What follows a frame does not matter. -/
  extend : ∀ bytes frame used, decode bytes = .ok (some (frame, used)) →
    ∀ more, decode (bytes ++ more) = .ok (some (frame, used))
  /-- Before the end of a frame bytes are missing. -/
  awaits : ∀ bytes frame used, decode bytes = .ok (some (frame, used)) →
    ∀ count < used, decode (bytes.take count) = .ok none
  /-- What follows a mistake does not matter. -/
  persists : ∀ bytes err, decode bytes = .error err → ∀ more, decode (bytes ++ more) = .error err

namespace Decoder

variable {ε α : Type} (decoder : Decoder ε α)

/-- The frames of a stream, and the mistake that ends them. -/
def frames (bytes : List UInt8) : List α × Option ε :=
  match _decoded : decoder.decode bytes with
  | .ok (some (frame, used)) =>
    let rest := frames (bytes.drop used)
    (frame :: rest.1, rest.2)
  | .ok none => ([], none)
  | .error err => ([], some err)
termination_by bytes.length
decreasing_by
  have inside := decoder.within bytes frame used _decoded
  rw [List.length_drop]
  omega

variable {buffer : List UInt8}

/-- The frame in front of what has arrived is the first of the stream. -/
theorem frames_frame {frame : α} {used : Nat}
    (decoded : decoder.decode buffer = .ok (some (frame, used))) (more : List UInt8) :
    decoder.frames (buffer ++ more) = (frame :: (decoder.frames (buffer.drop used ++ more)).1,
        (decoder.frames (buffer.drop used ++ more)).2) := by
  have inside := decoder.within buffer frame used decoded
  have whole := decoder.extend buffer frame used decoded more
  rw [frames]
  split
  · rename_i found count same
    obtain ⟨rfl, rfl⟩ : frame = found ∧ used = count := by simpa using whole.symm.trans same
    rw [List.drop_append_of_le_length inside.2]
  · rename_i same
    cases whole.symm.trans same
  · rename_i err same
    cases whole.symm.trans same

/-- A mistake in what has arrived is the first of the stream. -/
theorem frames_mistake {err : ε} (failed : decoder.decode buffer = .error err) (more : List UInt8) :
    decoder.frames (buffer ++ more) = ([], some err) := by
  have whole := decoder.persists buffer err failed more
  rw [frames]
  split
  · rename_i same
    cases whole.symm.trans same
  · rename_i same
    cases whole.symm.trans same
  · rename_i found same
    cases whole.symm.trans same
    rfl

/-- A stream that ends where bytes are missing holds no further frame. -/
theorem frames_end (missing : decoder.decode buffer = .ok none) :
    decoder.frames buffer = ([], none) := by
  rw [frames]
  split
  · rename_i same
    cases missing.symm.trans same
  · rfl
  · rename_i same
    cases missing.symm.trans same

end Decoder

end Framing

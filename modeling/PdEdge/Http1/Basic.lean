import PdEdge.Lib.Wire

/-!
# What both HTTP/1.1 sides share

The width of `usize` and the errors the readers pass on.
-/

namespace PdEdge

/-- The number of values of `usize` on the 64-bit targets the program is built for. -/
def usizeLimit : Nat := 18446744073709551616

/-- `Bytes`: a buffer, whose length is a `usize`. -/
structure Bytes where
  data : List UInt8
  fits : data.length < usizeLimit

/-- `io::ErrorKind`: the kinds the program makes itself, and those a socket reports. -/
inductive IoErrorKind where
  | brokenPipe
  | invalidData
  | other
  | socket (code : Nat)
  deriving DecidableEq, Repr

/-- `io::Error` by its kind and the text it displays as. -/
structure IoError where
  /-- What went wrong. -/
  kind : IoErrorKind
  /-- The text of `to_string`. -/
  message : String
  deriving DecidableEq, Repr

/-- `VmError`, as far as the HTTP client makes it. -/
inductive VmError where
  | hostError (message : String)
  deriving DecidableEq, Repr

end PdEdge

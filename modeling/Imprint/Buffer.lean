import Imprint.Text.Utf8

/-!
# Buffer — writing into a bounded room

A report is written piece after piece.  A `Buffer` takes each piece as far as it fits; the first
piece that does not fit ends the writing, and what fitted of it stays in the buffer.

A `Sink` is what a report is written to where nobody knows how much it takes: it may take all of the
report, or act as a buffer does and then say why it refuses the rest.
-/

namespace Imprint

/-- What was written, and how many octets still fit. -/
structure Buffer where
  written : Bytes
  room    : Nat
  deriving DecidableEq, Repr

namespace Buffer

/-- An empty buffer of so many octets. -/
def empty (limit : Nat) : Buffer := ⟨[], limit⟩

/-- Writes one piece.  The error is the buffer filled with what fits of a piece that is too
long. -/
def write (b : Buffer) (piece : Bytes) : Except Buffer Buffer :=
  if piece.length ≤ b.room then .ok ⟨b.written ++ piece, b.room - piece.length⟩
  else .error ⟨b.written ++ piece.take b.room, 0⟩

/-- Writes the pieces in order, up to the first that does not fit. -/
def writeAll (b : Buffer) : List Text → Except Buffer Buffer
  | []      => .ok b
  | p :: ps =>
    match b.write p.encode with
    | .ok b    => b.writeAll ps
    | .error b => .error b

end Buffer

/-- Where a report is written to. -/
inductive Sink where
  /-- It takes whatever comes. -/
  | endless
  /-- It takes so many octets, and refuses what comes after them for the reason given. -/
  | bounded (room : Nat) (reason : Text)
  deriving DecidableEq, Repr

namespace Sink

/-- The octets of a report that arrive. -/
def received : Sink → List Text → Bytes
  | .endless,        ps => Text.encode ps.flatten
  | .bounded room _, ps =>
    match (Buffer.empty room).writeAll ps with
    | .ok b | .error b => b.written

/-- Why a report cannot be written, if it cannot. -/
def refusal? : Sink → List Text → Option Text
  | .endless,             _  => none
  | .bounded room reason, ps =>
    match (Buffer.empty room).writeAll ps with
    | .ok _    => none
    | .error _ => some reason

end Sink

end Imprint

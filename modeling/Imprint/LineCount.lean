import Imprint.Text

/-!
# Line count — how many lines a run of octets has

The octets arrive in chunks, and asking for the next chunk may fail.  An empty chunk means that
the end is reached.  `Tally` holds what has to be remembered between chunks: the newlines seen,
and whether the last octet seen was something else, so that an unfinished line counts as one.
-/

namespace Imprint

/-- The octet that ends a line. -/
def newline : UInt8 := 0x0a

namespace LineCount

/-- The count so far. -/
structure Tally where
  newlines   : UInt64
  unfinished : Bool
  deriving DecidableEq, Repr

namespace Tally

/-- Nothing seen yet. -/
def zero : Tally := ⟨0, false⟩

/-- The count after one more chunk, which is not empty. -/
def add (t : Tally) (chunk : Bytes) : Tally where
  newlines   := t.newlines + (chunk.count newline).toUInt64
  unfinished := chunk.getLast? ≠ some newline

/-- The number of lines if nothing follows. -/
def total (t : Tally) : UInt64 :=
  if t.unfinished then t.newlines + 1 else t.newlines

end Tally

/-- The lines of the chunks after those in the tally, or the first failure on the way. -/
def countFrom {ε : Type} (t : Tally) : List (Except ε Bytes) → Except ε UInt64
  | []                    => .ok t.total
  | .error e :: _         => .error e
  | .ok [] :: _           => .ok t.total
  | .ok (b :: bs) :: rest => countFrom (t.add (b :: bs)) rest

/-- The lines of octets that arrive in chunks, or the first failure on the way. -/
def ofChunks {ε : Type} (chunks : List (Except ε Bytes)) : Except ε UInt64 :=
  countFrom .zero chunks

/-- The lines of octets that are all there. -/
def ofBytes (bs : Bytes) : UInt64 :=
  match bs with
  | []      => 0
  | b :: bs => (Tally.zero.add (b :: bs)).total

/-- Octets that are all there are one chunk. -/
theorem ofChunks_singleton {ε : Type} (bs : Bytes) :
    ofChunks [(.ok bs : Except ε Bytes)] = .ok (ofBytes bs) := by
  cases bs <;> rfl

end LineCount

end Imprint

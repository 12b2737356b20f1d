import Imprint.Metadata

/-!
# Imprinting — writing the facts of a build into its source

`Metadata.imprintLine` rewrites one line and `Metadata.imprint` a whole text.  The fields are
tried in the order of `Field.all`, each on the line *as it stands by then*: a field whose opening
occurs there, and which the metadata has, replaces the whole line by its own declaration.  A field
the metadata lacks leaves the line alone.
-/

namespace Imprint

namespace Metadata

/-- One field tried on a line, where `now` is its replacement by earlier fields, if any. -/
def declare (m : Metadata) (line : Text) (now : Option Text) (f : Field) : Option Text :=
  match m.value? f with
  | some value => if Text.occursIn f.opening (now.getD line) then some (f.line value) else now
  | none       => now

/-- The line with the facts written into it, or `none` where it declares none of them. -/
def imprintLine (m : Metadata) (line : Text) : Option Text :=
  Field.all.foldl (m.declare line) none

end Metadata

/-- A text after imprinting, and how many of its lines were replaced. -/
structure Imprinted where
  text     : Text
  replaced : Nat
  deriving DecidableEq, Repr

namespace Metadata

/-- The text with the facts written into each of its lines. -/
def imprint (m : Metadata) (t : Text) : Imprinted where
  text     := t.pieces.flatMap fun line => (m.imprintLine line).getD line
  replaced := t.pieces.countP fun line => (m.imprintLine line).isSome

end Metadata

end Imprint

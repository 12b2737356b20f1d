import Imprint.Document.Printer

/-!
# Summary — metadata for a reader

Five lines: a header, then the version, the build string, the build date and the toolchain, each
after its label.  An absent version is shown as unchanged.

The summary is one `Report` on the metadata, the document is the other.
-/

namespace Imprint

/-- What stands in front of a field's value. -/
def Field.label : Field → Text
  | .buildString => "\tbuild string:      ".toList
  | .toolchain   => "\ttoolchain version: ".toList
  | .buildDate   => "\tbuild date:        ".toList
  | .version     => "\tsemantic version:  ".toList

namespace Summary

/-- The order of the lines. -/
def order : List Field := [.version, .buildString, .buildDate, .toolchain]

/-- What is shown for an absent value. -/
def unchanged : Text := "(unchanged)".toList

/-- The summary in the pieces in which it is written. -/
def pieces (m : Metadata) : List Text :=
  "Updated:\n".toList ::
    order.flatMap fun f => [f.label, (m.value? f).getD unchanged, ['\n']]

end Summary

/-- The summary of the metadata. -/
def Metadata.summary (m : Metadata) : Text :=
  (Summary.pieces m).flatten

/-! ### Reports -/

/-- A report on metadata. -/
inductive Report where
  | summary
  | document
  deriving DecidableEq, Repr

namespace Report

/-- What a report says. -/
def text : Report → Metadata → Text
  | .summary,  m => m.summary
  | .document, m => Document.print m

/-- The pieces in which a report is delivered. -/
def pieces : Report → Metadata → List Text
  | .summary,  m => Summary.pieces m
  | .document, m => Document.pieces m

theorem flatten_pieces (r : Report) (m : Metadata) : (r.pieces m).flatten = r.text m := by
  cases r <;> rfl

end Report

end Imprint

import Imprint.Metadata
import Imprint.Decimal
import Imprint.Text.Shown

/-!
# Document — why one is refused

A document is refused for the first problem met in reading it.  It may be cut short or malformed;
or it is well formed as far as it was read but does not hold metadata, and then the problem has a
message.
-/

namespace Imprint.Document

/-- A value found where another kind of value is expected. -/
inductive Found where
  | integer (n : Int)
  | real (written : Text)
  | boolean (b : Bool)
  | null
  | sequence
  | map
  | text (t : Text)
  deriving DecidableEq, Repr

/-- What is expected of a value. -/
inductive Expected where
  | metadata
  | text
  deriving DecidableEq, Repr

/-- Why a document is refused. -/
inductive Problem where
  /-- It ends too early. -/
  | truncated
  /-- What was read cannot begin any document. -/
  | malformed
  | duplicate (f : Field)
  | missing (f : Field)
  /-- The array form has only so many elements. -/
  | tooShort (elements : Nat)
  | wrongKind (found : Found) (expected : Expected)
  deriving DecidableEq, Repr

/-- A value as it is shown. -/
def Found.shown : Found → Text
  | .integer n => "integer `".toList ++ signed n ++ ['\x60']
  | .real t    => "floating point `".toList ++ t ++ ['\x60']
  | .boolean b => "boolean `".toList ++ (if b then "true" else "false").toList ++ ['\x60']
  | .null      => "null".toList
  | .sequence  => "sequence".toList
  | .map       => "map".toList
  | .text t    => "string ".toList ++ t.shown

/-- An expectation as it is shown. -/
def Expected.shown : Expected → Text
  | .metadata => "struct BuildMetadata".toList
  | .text     => "a string".toList

/-- The message of a problem; a document that is cut short or malformed has none. -/
def Problem.message? : Problem → Option Text
  | .truncated      => none
  | .malformed      => none
  | .duplicate f    => some ("duplicate field `".toList ++ f.key ++ ['\x60'])
  | .missing f      => some ("missing field `".toList ++ f.key ++ ['\x60'])
  | .tooShort n     =>
    some ("invalid length ".toList ++ digits n ++ ", expected ".toList ++ Expected.metadata.shown
      ++ " with 4 elements".toList)
  | .wrongKind x e  =>
    some ("invalid type: ".toList ++ x.shown ++ ", expected ".toList ++ e.shown)

end Imprint.Document

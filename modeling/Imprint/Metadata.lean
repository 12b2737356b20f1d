import Imprint.Text

/-!
# Metadata — the facts of a build, and the lines that declare them

A source file declares up to four facts about its build, each on a line of its own.  A `Field`
is one of the four kinds of fact; its `opening` is the phrase by which a line that declares it is
known, and its `line` is that declaration as it is written.  `Metadata` holds the facts of one
build; only the version may be absent.
-/

namespace Imprint

/-- A kind of fact about a build. -/
inductive Field where
  | buildString
  | toolchain
  | buildDate
  | version
  deriving DecidableEq, Repr

namespace Field

/-- The four fields, in the order in which they are looked for and listed. -/
def all : List Field := [.buildString, .toolchain, .buildDate, .version]

theorem mem_all (f : Field) : f ∈ all := by cases f <;> decide

/-- The name of the declared constant. -/
def identifier : Field → Text
  | .buildString => "buildString".toList
  | .toolchain   => "goVersion".toList
  | .buildDate   => "buildDate".toList
  | .version     => "version".toList

/-- The member of a JSON document that holds the field. -/
def key : Field → Text
  | .buildString => "build_string".toList
  | .toolchain   => "toolchain_version".toList
  | .buildDate   => "build_date".toList
  | .version     => "semantic_version".toList

/-- The field a member of a JSON document holds. -/
def ofKey? (k : Text) : Option Field :=
  all.find? (·.key = k)

theorem ofKey?_key (f : Field) : ofKey? f.key = some f := by cases f <;> decide

/-- Identifiers stand in a column of eleven characters, an equals sign and a quote after it. -/
def opening (f : Field) : Text :=
  f.identifier ++ List.replicate (11 - f.identifier.length) ' ' ++ [' ', '=', ' ', '"']

/-- The line that declares the value. -/
def line (f : Field) (value : Text) : Text :=
  '\t' :: (f.opening ++ value ++ ['"', '\n'])

end Field

/-- The facts of a build. -/
structure Metadata where
  buildString : Text
  toolchain   : Text
  buildDate   : Text
  version     : Option Text
  deriving DecidableEq, Repr

namespace Metadata

/-- The value of a field, if the metadata has one. -/
def value? (m : Metadata) : Field → Option Text
  | .buildString => some m.buildString
  | .toolchain   => some m.toolchain
  | .buildDate   => some m.buildDate
  | .version     => m.version

end Metadata

end Imprint

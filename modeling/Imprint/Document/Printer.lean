import Imprint.Metadata

/-!
# Document — metadata as JSON, written

A document is one JSON object with a member for each field, one to a line and indented by two
spaces; an absent version is `null`.  In a quoted text the quote, the backslash and the characters
below U+0020 are escaped, by a letter where JSON has one, and all others stand for themselves.
-/

namespace Imprint.Document

/-- A character as it stands between quotes. -/
def escaped (c : Char) : Text :=
  match c with
  | '"'    => ['\\', '"']
  | '\\'   => ['\\', '\\']
  | '\x08' => ['\\', 'b']
  | '\x0c' => ['\\', 'f']
  | '\n'   => ['\\', 'n']
  | '\r'   => ['\\', 'r']
  | '\t'   => ['\\', 't']
  | c      =>
    if c.toNat < 0x20 then
      ['\\', 'u', '0', '0', (c.toNat / 16).digitChar, (c.toNat % 16).digitChar]
    else [c]

/-- A text between quotes. -/
def quoted (t : Text) : Text :=
  '"' :: (t.flatMap escaped ++ ['"'])

/-- The value of a member. -/
def value : Option Text → Text
  | some t => quoted t
  | none   => "null".toList

/-- What leads from the brace, or from the member before, to a field's member. -/
def lead : Field → Text
  | .buildString => "\n  ".toList
  | _            => ",\n  ".toList

/-- The object, part by part. -/
def objectParts (m : Metadata) : List Text :=
  ['\x7b'] :: Field.all.flatMap (fun f => [lead f, quoted f.key, [':', ' '], value (m.value? f)])
    ++ [['\n', '\x7d']]

/-- The object. -/
def object (m : Metadata) : Text :=
  (objectParts m).flatten

/-- The document in the pieces in which it is written: the object and a newline. -/
def pieces (m : Metadata) : List Text :=
  [object m, ['\n']]

/-- The document. -/
def print (m : Metadata) : Text :=
  (pieces m).flatten

end Imprint.Document

import Imprint.Text

/-!
# Text — blanks and words

A blank is a character of Unicode's `White_Space` class, twenty-five characters in all.  The
words of a text are its longest runs of characters that are not blank; `joined` writes words
with one space between neighbours, and `trimmed` drops the blanks at both ends.
-/

namespace Imprint.Text

/-- A character of the class `White_Space`. -/
def isBlank (c : Char) : Bool :=
  (0x09 ≤ c.toNat && c.toNat ≤ 0x0d) || c.toNat == 0x20 || c.toNat == 0x85 || c.toNat == 0xa0 ||
  c.toNat == 0x1680 || (0x2000 ≤ c.toNat && c.toNat ≤ 0x200a) || c.toNat == 0x2028 ||
  c.toNat == 0x2029 || c.toNat == 0x202f || c.toNat == 0x205f || c.toNat == 0x3000

/-- The longest runs of characters that are not blank, in order. -/
def words (t : Text) : List Text :=
  (t.splitOnP isBlank).filter (! ·.isEmpty)

/-- Words in a row with one space between neighbours. -/
def joined (ws : List Text) : Text :=
  [' '].intercalate ws

/-- A text without the blanks at its ends. -/
def trimmed (t : Text) : Text :=
  ((t.dropWhile isBlank).reverse.dropWhile isBlank).reverse

end Imprint.Text

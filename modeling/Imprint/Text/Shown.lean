import Imprint.Text.Unseen

/-!
# Text — a text shown between quotes

For a reader, a text is shown between quotes with the quote and the backslash escaped, the usual
letters for NUL, tab, line feed and carriage return, and the code point in hexadecimal for any
other character that cannot be seen.  A list of texts is shown between square brackets.
-/

namespace Imprint.Text

/-- One character as it is shown. -/
def shownChar (c : Char) : Text :=
  match c with
  | '\x00' => ['\\', '0']
  | '\t'   => ['\\', 't']
  | '\n'   => ['\\', 'n']
  | '\r'   => ['\\', 'r']
  | '"'    => ['\\', '"']
  | '\\'   => ['\\', '\\']
  | c      =>
    if isUnseen c then ['\\', 'u', '\x7b'] ++ Nat.toDigits 16 c.toNat ++ ['\x7d'] else [c]

/-- A text as it is shown. -/
def shown (t : Text) : Text :=
  '"' :: (t.flatMap shownChar ++ ['"'])

/-- Several texts as they are shown. -/
def shownAll (ts : List Text) : Text :=
  '[' :: ([',', ' '].intercalate (ts.map shown) ++ [']'])

end Imprint.Text

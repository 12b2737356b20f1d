import Imprint.Log.Pattern.Expression

/-!
# Log — the patterns of values

A rule that is narrowed to a value gives a pattern for it: a number, or a regular expression.  No
event is judged by its values, so a pattern is never matched, but a rule with a malformed one
cannot be read.

A number is decimal and may have a sign, a point with digits at one side of it at least, and an
exponent; infinity and what is no number are numbers as well.
-/

namespace Imprint.Log.Pattern

/-- A text without the sign in front of it. -/
def unsigned : Text → Text
  | c :: t => if c = '+' || c = '-' then t else c :: t
  | []     => []

/-- The text is one digit or more. -/
def isDigits (t : Text) : Bool := ! t.isEmpty && t.all Char.isDigit

/-- The text is nothing, or the exponent of a number. -/
def isExponent : Text → Bool
  | []     => true
  | c :: t => (c = 'e' || c = 'E') && isDigits (unsigned t)

/-- The text is a number in digits, without its sign. -/
def isDecimal (t : Text) : Bool :=
  let whole := t.takeWhile Char.isDigit
  match t.dropWhile Char.isDigit with
  | '.' :: t =>
    ! (whole.isEmpty && (t.takeWhile Char.isDigit).isEmpty) && isExponent (t.dropWhile Char.isDigit)
  | t        => ! whole.isEmpty && isExponent t

/-- The names of the numbers that have no digits. -/
def numberNames : List Text := ["inf", "infinity", "nan"].map String.toList

/-- The text is a number. -/
def isNumber (t : Text) : Bool :=
  numberNames.contains ((unsigned t).map Char.toLower) || isDecimal (unsigned t)

/-- The text is a pattern. -/
def isPattern (t : Text) : Bool := isNumber t || isExpression t

example : ["+.5e-1", "+1.", "-Infinity"].all (isNumber ·.toList) := by decide
example : ["", ".", "e1", "1e", "++1"].all (! isNumber ·.toList) := by decide

end Imprint.Log.Pattern

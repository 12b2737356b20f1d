import Imprint.LineCount

/-!
# Toolchain — the first line of a script

A file that begins with `#!` is run by the program that its first line names: after blanks comes
the program's path, and after more blanks one argument for it, which may hold blanks but does not
end with any.

* No more than the first 256 octets of a file are looked at.  If the line does not end there, its
  argument is cut off; but a path is never cut off, so it has to end before.
* A zero, which also stands behind the end of a short file, ends the path or the argument.  An
  argument that a zero ends at once is empty, but is there.
-/

namespace Imprint.Toolchain

/-- The program that runs a script, and an argument for it. -/
structure Interpreter where
  path     : Bytes
  argument : Option Bytes
  deriving DecidableEq, Repr

namespace Interpreter

/-- A blank of a script's first line. -/
def isSeparator (b : UInt8) : Bool :=
  b = octet ' ' || b = octet '\t'

/-- An octet that ends a path: a blank or a zero. -/
def endsPath (b : UInt8) : Bool := isSeparator b || b = 0

/-- The octets without the blanks at both ends. -/
def trimmed (bs : Bytes) : Bytes :=
  ((bs.reverse.dropWhile isSeparator).reverse).dropWhile isSeparator

/-- What a first line names. -/
def ofLine? (line : Bytes) : Option Interpreter :=
  let line := trimmed line
  let path := line.takeWhile (! endsPath ·)
  match line, line.dropWhile (! endsPath ·) with
  | [], _        => none
  | _, []        => some ⟨path, none⟩
  | _, b :: rest =>
    if b = 0 then some ⟨path, none⟩
    else some ⟨path, some ((rest.dropWhile isSeparator).takeWhile (· ≠ 0))⟩

/-- The first line of a script, of which `body` is what follows `#!`; a zero stands for what is
behind the end of the file. -/
def line? (body : Bytes) : Option Bytes :=
  let body := (body.take 254 ++ [0]).take 254
  let line := body.takeWhile fun b => b ≠ newline ∧ b ≠ 0
  if body[line.length]? = some newline then some line
  else if (body.dropWhile isSeparator).any endsPath then some (body.take 253)
  else none

/-- The program that runs the file, if the file is a script. -/
def ofScript? : Bytes → Option Interpreter
  | a :: b :: body => if a = octet '#' ∧ b = octet '!' then (line? body).bind ofLine? else none
  | _              => none

end Interpreter

end Imprint.Toolchain

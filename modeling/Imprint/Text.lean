/-!
# Text — characters, octets, and where a phrase occurs

A `Text` is a list of characters and `Bytes` a list of octets; files, paths, arguments and
outputs are `Bytes`, and whatever the library reads *in* them is a `Text`.

* `Text.occursIn`: the phrase stands somewhere in the text, as consecutive characters
  (`occursIn_iff`).
* `Text.pieces`: the lines of a text, each with the newline that ends it; joining the pieces
  gives the text back (`flatten_pieces`), and a piece holds a newline only at its end.
-/

namespace Imprint

/-- A sequence of characters. -/
abbrev Text := List Char

/-- A sequence of octets. -/
abbrev Bytes := List UInt8

/-- The octet of a character of ASCII. -/
def octet (c : Char) : UInt8 := c.toNat.toUInt8

namespace Text

/-! ### Phrases -/

/-- `phrase` stands in the text as consecutive characters. -/
def occursIn (phrase : Text) : Text → Bool
  | []     => phrase.isEmpty
  | c :: t => phrase.isPrefixOf (c :: t) || occursIn phrase t

theorem occursIn_iff {phrase : Text} : ∀ {t : Text}, occursIn phrase t = true ↔ phrase <:+: t
  | []     => by simp [occursIn]
  | c :: t => by
      rw [occursIn, Bool.or_eq_true, List.isPrefixOf_iff_prefix, occursIn_iff, List.infix_cons_iff]

/-! ### Lines -/

/-- Puts a character in front of the pieces that follow it: a newline is a piece of its own
there, and any other character belongs to the piece that comes next. -/
def consPiece (c : Char) (ps : List Text) : List Text :=
  if c = '\n' then [c] :: ps
  else match ps with
    | []      => [[c]]
    | p :: ps => (c :: p) :: ps

/-- The lines of a text, each with its newline; the last one may lack it, and an empty text has
no lines. -/
def pieces (t : Text) : List Text :=
  t.foldr consPiece []

@[simp] theorem pieces_nil : pieces [] = [] := rfl

theorem pieces_cons (c : Char) (t : Text) : pieces (c :: t) = consPiece c (pieces t) := rfl

theorem flatten_consPiece (c : Char) (ps : List Text) :
    (consPiece c ps).flatten = c :: ps.flatten := by
  unfold consPiece
  split
  · rfl
  · cases ps <;> rfl

/-- The pieces of a text make up the text. -/
@[simp] theorem flatten_pieces : ∀ t : Text, (pieces t).flatten = t
  | []     => rfl
  | c :: t => by rw [pieces_cons, flatten_consPiece, flatten_pieces t]

/-! ### Paragraphs -/

/-- The text before its first blank line, without the newline that ends it. -/
def paragraph : Text → Text
  | '\n' :: '\n' :: _ => []
  | c :: t            => c :: paragraph t
  | []                => []

end Text

end Imprint

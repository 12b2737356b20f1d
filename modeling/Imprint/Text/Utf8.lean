import Imprint.Text

/-!
# Text — UTF-8

`encode` writes a text in UTF-8.  Reading runs an automaton over the octets: `Owed` is what the
octets read so far still owe, and each octet moves it on and may bring out *pieces*, a character
or, for octets that begin no character, `none`.

* An octet that cannot continue an unfinished character ends it: what was read of it comes out as
  one `none`, and the octet is read afresh.  So one `none` stands for each longest run of octets
  that begins a character without finishing one.
* `decode?` accepts octets whose pieces are all characters; `lossy` shows each `none` as U+FFFD.
-/

namespace Imprint

namespace Text

/-- The octets of a text. -/
def encode (t : Text) : Bytes :=
  t.flatMap String.utf8EncodeChar

@[simp] theorem encode_nil : encode [] = [] := rfl

@[simp] theorem encode_append (s t : Text) : encode (s ++ t) = encode s ++ encode t :=
  List.flatMap_append ..

end Text

namespace Utf8

/-- What the octets read so far still owe. -/
inductive Owed where
  /-- They are whole characters. -/
  | nothing
  /-- A character is begun: `value` holds its bits so far, `left + 1` octets are missing, and the
  next of them lies between `low` and `high`. -/
  | more (value : Nat) (left : Nat) (low high : UInt8)
  deriving DecidableEq, Repr

/-- A piece of the octets: a character, or `none` for octets that are none. -/
abbrev Piece := Option Char

/-- An octet where a character begins.  The bounds on the second octet exclude overlong forms,
surrogates and values beyond U+10FFFF. -/
def first (b : UInt8) : List Piece × Owed :=
  if b < 0x80 then ([some (Char.ofNat b.toNat)], .nothing)
  else if b < 0xc2 then ([none], .nothing)
  else if b < 0xe0 then ([], .more (b.toNat - 0xc0) 0 0x80 0xbf)
  else if b = 0xe0 then ([], .more 0 1 0xa0 0xbf)
  else if b = 0xed then ([], .more 0xd 1 0x80 0x9f)
  else if b < 0xf0 then ([], .more (b.toNat - 0xe0) 1 0x80 0xbf)
  else if b = 0xf0 then ([], .more 0 2 0x90 0xbf)
  else if b < 0xf4 then ([], .more (b.toNat - 0xf0) 2 0x80 0xbf)
  else if b = 0xf4 then ([], .more 4 2 0x80 0x8f)
  else ([none], .nothing)

/-- One octet: the pieces it brings out, and what is owed then. -/
def next : Owed → UInt8 → List Piece × Owed
  | .nothing, b => first b
  | .more value left low high, b =>
    if low ≤ b ∧ b ≤ high then
      let value := 64 * value + (b.toNat - 0x80)
      match left with
      | 0        => ([some (Char.ofNat value)], .nothing)
      | left + 1 => ([], .more value left 0x80 0xbf)
    else
      (none :: (first b).1, (first b).2)

/-- What comes out where the octets end. -/
def close : Owed → List Piece
  | .nothing  => []
  | .more ..  => [none]

/-- The pieces of the octets, after those in `done` (last first). -/
def piecesFrom (done : List Piece) (owed : Owed) : Bytes → List Piece
  | []      => (close owed ++ done).reverse
  | b :: bs =>
    let r := next owed b
    piecesFrom (r.1.reverse ++ done) r.2 bs

/-- The pieces of the octets, from their beginning. -/
def pieces (bs : Bytes) : List Piece :=
  piecesFrom [] .nothing bs

/-- What was brought out before stands in front. -/
theorem piecesFrom_eq : ∀ (bs : Bytes) (done : List Piece) (owed : Owed),
    piecesFrom done owed bs = done.reverse ++ piecesFrom [] owed bs
  | [], done, owed => by cases owed <;> simp [piecesFrom, close]
  | b :: bs, done, owed => by
      simp only [piecesFrom]
      rw [piecesFrom_eq bs (_ ++ done), piecesFrom_eq bs (_ ++ [])]
      simp

theorem piecesFrom_cons (owed : Owed) (b : UInt8) (bs : Bytes) :
    piecesFrom [] owed (b :: bs) = (next owed b).1 ++ piecesFrom [] (next owed b).2 bs := by
  simp only [piecesFrom]
  rw [piecesFrom_eq]
  simp

/-- The pieces as a text, U+FFFD standing for what is no character. -/
def shown (ps : List Piece) : Text :=
  ps.map (·.getD '\uFFFD')

end Utf8

namespace Bytes

/-- The text whose octets these are. -/
def decode? (bs : Bytes) : Option Text :=
  (Utf8.pieces bs).foldr (fun p t => do return (← p) :: (← t)) (some [])

/-- The octets as a text, U+FFFD standing for what is no character. -/
def lossy (bs : Bytes) : Text :=
  Utf8.shown (Utf8.pieces bs)

end Bytes

end Imprint

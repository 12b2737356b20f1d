import Imprint.Log.Pattern.Mode

/-!
# Log — Pattern — signs

A sign is what one character stands for, or a backslash with what belongs to it.

No tables of Unicode's properties are at hand, so a sign that needs one is refused wherever a
pattern is about characters: one for digits, blanks or words, one for the end of a word, and any
letter that stands for both of its cases.  Properties themselves can never be named.  Where a
pattern is about octets, a sign is refused that may match a part of a character.
-/

namespace Imprint.Log.Pattern

/-- What a sign stands for. -/
inductive Sign where
  /-- One character; `octet` says that it is given as an octet, by two hexadecimal digits. -/
  | literal (c : Char) (octet : Bool)
  /-- Any digit, blank or letter of a word, or anything else. -/
  | kind (negated : Bool)
  /-- An end of the text. -/
  | bound
  /-- An end of a word, or any other place. -/
  | wordBound
  deriving DecidableEq, Repr

namespace Mode

/-- The sign may stand outside a set. -/
def admits (m : Mode) : Sign → Bool
  | .literal c octet => if m.unicode then ! m.caseless else ! octet || c.toNat < 0x80
  | .kind negated    => ! m.unicode && ! negated
  | .bound           => true
  | .wordBound       => ! m.unicode

/-- The sign may stand in a set. -/
def admitsMember (m : Mode) : Sign → Bool
  | .literal c _         => if m.unicode then ! m.caseless else c.toNat < 0x80
  | .kind negated        => ! m.unicode && ! negated
  | .bound | .wordBound  => false

end Mode

/-- The value of a hexadecimal digit, in either case. -/
def hexDigit? (c : Char) : Option Nat :=
  if c.isDigit then some (c.toNat - '0'.toNat)
  else if 'a' ≤ c && c ≤ 'f' then some (c.toNat - 'a'.toNat + 10)
  else if 'A' ≤ c && c ≤ 'F' then some (c.toNat - 'A'.toNat + 10)
  else none

/-- The number that so many hexadecimal digits add to the value of those before them. -/
def hexNumber? (m : Mode) : Nat → Nat → Text → Option (Nat × Text)
  | 0,     value, t      => some (value, t)
  | n + 1, value, c :: t => do hexNumber? m n (16 * value + (← hexDigit? c)) (m.skipped t)
  | _,     _,     []     => none

theorem suffix_of_hexNumber? {m : Mode} : ∀ {n value v : Nat} {t r : Text},
    hexNumber? m n value t = some (v, r) → r <:+ t
  | 0,     _, _, _,      _, h => by cases h; exact List.suffix_refl _
  | _ + 1, _, _, [],     _, h => by simp [hexNumber?] at h
  | _ + 1, _, _, c :: t, _, h => by
      rw [hexNumber?, Option.bind_eq_bind, Option.bind_eq_some_iff] at h
      obtain ⟨_, -, h⟩ := h
      exact ((suffix_of_hexNumber? h).trans Mode.skipped_suffix).trans (List.suffix_cons c t)

/-- The character with so many hexadecimal digits. -/
def hexSign? (m : Mode) (n : Nat) (t : Text) : Option (Sign × Text) :=
  match hexNumber? m n 0 (m.skipped t) with
  | some (value, r) =>
    if value.isValidChar then some (.literal (Char.ofNat value) (n == 2), r) else none
  | none            => none

theorem suffix_of_hexSign? {m : Mode} {n : Nat} {t r : Text} {s : Sign}
    (h : hexSign? m n t = some (s, r)) : r <:+ t := by
  unfold hexSign? at h
  split at h
  · split at h
    · cases h
      exact (suffix_of_hexNumber? ‹_›).trans Mode.skipped_suffix
    · cases h
  · cases h

/-- What a letter stands for after a backslash, if no digits belong to it. -/
def lettered? : Char → Option Sign
  | 'a'                   => some (.literal '\x07' false)
  | 'f'                   => some (.literal '\x0c' false)
  | 't'                   => some (.literal '\t' false)
  | 'n'                   => some (.literal '\n' false)
  | 'r'                   => some (.literal '\r' false)
  | 'v'                   => some (.literal '\x0b' false)
  | 'd' | 's' | 'w'       => some (.kind false)
  | 'D' | 'S' | 'W'       => some (.kind true)
  | 'A' | 'z'             => some .bound
  | 'b' | 'B' | '<' | '>' => some .wordBound
  | _                     => none

/-- What a backslash stands for in front of a text.  Any other character of ASCII that is neither
a letter nor a digit stands for itself there. -/
def escaped? (m : Mode) : Text → Option (Sign × Text)
  | []       => none
  | 'x' :: t => hexSign? m 2 t
  | 'u' :: t => hexSign? m 4 t
  | 'U' :: t => hexSign? m 8 t
  | c :: t   =>
    match lettered? c with
    | some s => some (s, t)
    | none   => if c.toNat < 0x80 && ! c.isAlphanum then some (.literal c false, t) else none

theorem suffix_of_escaped? {m : Mode} {t r : Text} {s : Sign} (h : escaped? m t = some (s, r)) :
    r <:+ t := by
  unfold escaped? at h
  split at h
  · cases h
  · exact (suffix_of_hexSign? h).trans (List.suffix_cons ..)
  · exact (suffix_of_hexSign? h).trans (List.suffix_cons ..)
  · exact (suffix_of_hexSign? h).trans (List.suffix_cons ..)
  · split at h
    · cases h
      exact List.suffix_cons ..
    · split at h
      · cases h
        exact List.suffix_cons ..
      · cases h

/-- What a character stands for in front of a text. -/
def sign? (m : Mode) (c : Char) (t : Text) : Option (Sign × Text) :=
  if c = '\\' then escaped? m t else some (.literal c false, t)

theorem suffix_of_sign? {m : Mode} {c : Char} {t r : Text} {s : Sign}
    (h : sign? m c t = some (s, r)) : r <:+ t := by
  unfold sign? at h
  split at h
  · exact suffix_of_escaped? h
  · cases h
    exact List.suffix_refl _

example : sign? .plain '\\' "x41z".toList = some (.literal 'A' true, ['z']) := by decide
example : sign? .plain '\\' "ud800".toList = none := by decide

end Imprint.Log.Pattern

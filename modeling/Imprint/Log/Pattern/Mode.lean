import Imprint.Text.Words

/-!
# Log — Pattern — how a part of a pattern is read

Flags say how the part of a pattern that follows them is read, up to the end of the group in which
they stand.  Three of them decide whether that part is well formed, and make up its `Mode`.

What has been read of a pattern is gone from the front of it, so what a reader leaves is an end of
what it was given (`skipped_suffix`, `suffix_of_readFlags?`).
-/

namespace Imprint.Log.Pattern

/-- How a part of a pattern is read. -/
structure Mode where
  /-- Blanks mean nothing, and a number sign begins a comment. -/
  spaced : Bool
  /-- A letter stands for itself in either case. -/
  caseless : Bool
  /-- The part is about characters, and not about octets. -/
  unicode : Bool
  deriving DecidableEq, Repr

/-- How a pattern is read as long as no flag says otherwise. -/
def Mode.plain : Mode := ⟨false, false, true⟩

/-! ### Blanks and comments -/

/-- A text without the blanks and the comments in front of it; `comment` says that it begins
within a comment, which ends with its line. -/
def unspaced : Bool → Text → Text
  | _,     []     => []
  | true,  c :: t => unspaced (c != '\n') t
  | false, c :: t =>
    if c = '#' then unspaced true t
    else if Text.isBlank c then unspaced false t
    else c :: t

theorem unspaced_suffix : ∀ {t : Text} {comment : Bool}, unspaced comment t <:+ t
  | [],     true  => List.suffix_refl []
  | [],     false => List.suffix_refl []
  | c :: t, true  => by
      rw [unspaced]
      exact unspaced_suffix.trans (List.suffix_cons c t)
  | c :: t, false => by
      rw [unspaced]
      split
      · exact unspaced_suffix.trans (List.suffix_cons c t)
      · split
        · exact unspaced_suffix.trans (List.suffix_cons c t)
        · exact List.suffix_refl _

namespace Mode

/-- A text without what means nothing in front of it. -/
def skipped (m : Mode) (t : Text) : Text :=
  if m.spaced then unspaced false t else t

theorem skipped_suffix {m : Mode} {t : Text} : m.skipped t <:+ t := by
  unfold skipped
  split
  · exact unspaced_suffix
  · exact List.suffix_refl t

/-- The character that decides what a dash means in front of a text.  Of a comment it is the first
character that is not blank. -/
def ahead? (m : Mode) (t : Text) : Option Char :=
  if m.spaced then
    match t.dropWhile Text.isBlank with
    | '#' :: comment => (comment.dropWhile Text.isBlank).head?
    | t              => t.head?
  else t.head?

end Mode

/-! ### Flags -/

/-- Flags, as they are written: those that are set, and those that are cleared, if there is a
minus sign. -/
structure Flags where
  set     : List Char
  cleared : Option (List Char)
  deriving DecidableEq, Repr

namespace Flags

/-- No flags. -/
def empty : Flags := ⟨[], none⟩

/-- The flags with one more letter. -/
def adding (f : Flags) (c : Char) : Flags :=
  match f.cleared with
  | none    => ⟨c :: f.set, none⟩
  | some cs => ⟨f.set, some (c :: cs)⟩

/-- The letter is among the flags. -/
def mentions (f : Flags) (c : Char) : Bool :=
  f.set.contains c || f.cleared.any (·.contains c)

/-- A switch with a letter, after the flags. -/
def turned (f : Flags) (c : Char) (on : Bool) : Bool :=
  f.set.contains c || (on && ! f.cleared.any (·.contains c))

end Flags

/-- The letters of the flags: for caseless reading, for lines, for a dot that stands for newlines,
for greed, for characters, for spaced reading and for carriage returns. -/
def flagLetters : List Char := "imsUuxR".toList

/-- The flags in front of a colon or a closing bracket, after those that have been read.  No
letter stands there twice, and a minus sign at most once and not at the end. -/
def readFlags? (f : Flags) : Text → Option (Flags × Text)
  | []     => none
  | c :: t =>
    if c = ':' || c = ')' then if f.cleared = some [] then none else some (f, c :: t)
    else if c = '-' then if f.cleared.isSome then none else readFlags? ⟨f.set, some []⟩ t
    else if flagLetters.contains c && ! f.mentions c then readFlags? (f.adding c) t
    else none

theorem suffix_of_readFlags? :
    ∀ {f g : Flags} {t r : Text}, readFlags? f t = some (g, r) → r <:+ t
  | _, _, [],     _, h => by simp [readFlags?] at h
  | _, _, c :: t, _, h => by
      rw [readFlags?] at h
      split at h
      · split at h
        · cases h
        · cases h
          exact List.suffix_refl _
      · split at h
        · split at h
          · cases h
          · exact (suffix_of_readFlags? h).trans (List.suffix_cons c t)
        · split at h
          · exact (suffix_of_readFlags? h).trans (List.suffix_cons c t)
          · cases h

/-- How a part is read after flags. -/
def Mode.after (m : Mode) (f : Flags) : Mode :=
  ⟨f.turned 'x' m.spaced, f.turned 'i' m.caseless, f.turned 'u' m.unicode⟩

example : (readFlags? .empty "i-u:a".toList).map (Mode.plain.after ·.1) =
    some ⟨false, true, false⟩ := by decide

end Imprint.Log.Pattern

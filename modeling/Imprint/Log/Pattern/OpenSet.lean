import Imprint.Log.Pattern.Sign

/-!
# Log — Pattern — sets in square brackets

A set holds characters, ranges, other sets and named classes; two ampersands, dashes or tildes
join what is before them with what follows, and either side may be empty.  A dash at its beginning
stands for itself, and so does a bracket that would close a set in which nothing stands yet.

All that is kept of a set is how deep it nests: `nesting` of the depths of the parts that stand in
a row.  A set is read in steps, each of which begins at a character and leaves an end of the text
after it (`suffix_of_step?`).
-/

namespace Imprint.Log.Pattern

/-- How deep a row of parts nests, from their depths: a row of one part is that part. -/
def nesting : List Nat → Nat
  | []  => 0
  | [d] => d
  | ds  => 1 + ds.foldl max 0

/-! ### Named classes -/

/-- The names of classes of characters of ASCII. -/
def classNames : List Text :=
  ["alnum", "alpha", "ascii", "blank", "cntrl", "digit", "graph", "lower", "print", "punct",
   "space", "upper", "word", "xdigit"].map String.toList

/-- What follows the name of a class, a colon and a bracket. -/
def afterClassName? (t : Text) : Option Text :=
  match t.dropWhile (· ≠ ':') with
  | ':' :: ']' :: r => if classNames.contains (t.takeWhile (· ≠ ':')) then some r else none
  | _               => none

theorem suffix_of_afterClassName? {t r : Text} (h : afterClassName? t = some r) : r <:+ t := by
  unfold afterClassName? at h
  split at h
  · rename_i r' hr
    split at h
    · cases h
      have := List.dropWhile_suffix (l := t) (fun c => decide (c ≠ ':'))
      rw [hr] at this
      exact (List.suffix_append [':', ']'] _).trans this
    · cases h
  · cases h

/-- The named class in front of a text, after the bracket that opens it: whether it is negated,
and what follows it. -/
def namedClass? : Text → Option (Bool × Text)
  | ':' :: '^' :: t => (afterClassName? t).map (true, ·)
  | ':' :: t        => (afterClassName? t).map (false, ·)
  | _               => none

theorem suffix_of_namedClass? {t r : Text} {negated : Bool}
    (h : namedClass? t = some (negated, r)) : r <:+ t := by
  unfold namedClass? at h
  split at h
  · obtain ⟨_, hr, he⟩ := Option.map_eq_some_iff.mp h
    cases he
    exact (suffix_of_afterClassName? hr).trans (List.suffix_append [':', '^'] _)
  · obtain ⟨_, hr, he⟩ := Option.map_eq_some_iff.mp h
    cases he
    exact (suffix_of_afterClassName? hr).trans (List.suffix_cons ..)
  · cases h

/-- A named class may stand in a set. -/
def Mode.admitsClass (m : Mode) (negated : Bool) : Bool :=
  if m.unicode then ! m.caseless else ! negated

/-! ### Characters and ranges -/

/-- A range may lead from one sign to another: both are characters, and in order. -/
def Sign.upTo : Sign → Sign → Bool
  | .literal a _, .literal b _ => a ≤ b
  | _,            _            => false

/-- What follows the character, the kind or the range that begins at a character of a set.  A dash
makes a range unless a bracket or another dash comes after it. -/
def afterMember? (m : Mode) (c : Char) (t : Text) : Option Text := do
  let (a, t) ← sign? m c t
  match m.skipped t with
  | '-' :: u =>
    if m.ahead? u = some ']' || m.ahead? u = some '-' then
      if m.admitsMember a then some ('-' :: u) else none
    else match m.skipped u with
      | []     => none
      | d :: u =>
        let (b, u) ← sign? m d u
        if m.admitsMember a && m.admitsMember b && a.upTo b then some u else none
  | t => if m.admitsMember a then some t else none

theorem suffix_of_afterMember? {m : Mode} {c : Char} {t r : Text}
    (h : afterMember? m c t = some r) : r <:+ t := by
  unfold afterMember? at h
  rw [Option.bind_eq_bind, Option.bind_eq_some_iff] at h
  obtain ⟨⟨a, s⟩, hs, h⟩ := h
  refine List.IsSuffix.trans ?_ (suffix_of_sign? hs)
  dsimp only at h
  have hsk : m.skipped s <:+ s := Mode.skipped_suffix
  split at h
  · rename_i u hu
    rw [hu] at hsk
    split at h
    · split at h
      · cases h
        exact hsk
      · cases h
    · split at h
      · cases h
      · rename_i d v hv
        rw [Option.bind_eq_some_iff] at h
        obtain ⟨⟨b, w⟩, hw, h⟩ := h
        dsimp only at h
        split at h
        · cases h
          have hv' : d :: v <:+ u := hv ▸ Mode.skipped_suffix
          exact (suffix_of_sign? hw).trans
            (((List.suffix_cons d v).trans hv').trans ((List.suffix_cons '-' u).trans hsk))
        · cases h
  · split at h
    · cases h
      exact hsk
    · cases h

/-! ### Sets -/

/-- A set of which the end has not been read. -/
structure OpenSet where
  /-- The depth of what stands before the last operator, if there is one. -/
  left      : Option Nat
  /-- The depths of the members after it, the last one first. -/
  members   : List Nat
  /-- Nothing but dashes has been read. -/
  beginning : Bool
  deriving DecidableEq, Repr

/-- What a step in a set leads to. -/
inductive SetStep where
  /-- The set goes on. -/
  | within (s : OpenSet)
  /-- Another set begins in it. -/
  | nested (s : OpenSet)
  /-- The set ends, and nests so deep. -/
  | closed (depth : Nat)
  deriving DecidableEq, Repr

namespace OpenSet

/-- A set in which nothing stands yet. -/
def empty : OpenSet := ⟨none, [], true⟩

/-- How deep the content of the set nests. -/
def depth (s : OpenSet) : Nat :=
  nesting (s.left.toList ++ [nesting s.members])

/-- The set with one more member. -/
def adding (s : OpenSet) (depth : Nat) : OpenSet :=
  ⟨s.left, depth :: s.members, false⟩

/-- The set after an operator. -/
def joining (s : OpenSet) : OpenSet := ⟨some s.depth, [], false⟩

/-- What follows the beginning of a set, after its bracket; a set may be negated only where it
holds characters. -/
def afterOpening? (m : Mode) (t : Text) : Option Text :=
  match m.skipped t with
  | '^' :: t => if m.unicode then some t else none
  | t        => some t

theorem suffix_of_afterOpening? {m : Mode} {t r : Text} (h : afterOpening? m t = some r) :
    r <:+ t := by
  unfold afterOpening? at h
  have hsk : m.skipped t <:+ t := Mode.skipped_suffix
  split at h
  · rename_i u hu
    rw [hu] at hsk
    split at h
    · cases h
      exact (List.suffix_cons '^' _).trans hsk
    · cases h
  · cases h
    exact hsk

/-- What begins at a character of the set, where no operator does. -/
def member? (m : Mode) (s : OpenSet) (c : Char) (t : Text) : Option (SetStep × Text) :=
  if c = ']' then some (.closed (1 + s.depth), t)
  else if c = '[' then
    match namedClass? t with
    | some (negated, r) => if m.admitsClass negated then some (.within (s.adding 0), r) else none
    | none              => (afterOpening? m t).map (.nested ⟨s.left, s.members, false⟩, ·)
  else (afterMember? m c t).map (.within (s.adding 0), ·)

/-- One step in a set, at a character that means something. -/
def step? (m : Mode) (s : OpenSet) (c : Char) (t : Text) : Option (SetStep × Text) :=
  if s.beginning && (c = '-' || (c = ']' && s.members.isEmpty)) then
    if m.admitsMember (.literal c false) then
      some (.within ⟨s.left, 0 :: s.members, c = '-'⟩, t)
    else none
  else match c, t with
    | '&', '&' :: t => some (.within s.joining, t)
    | '-', '-' :: t => some (.within s.joining, t)
    | '~', '~' :: t => some (.within s.joining, t)
    | c,   t        => member? m s c t

theorem suffix_of_member? {m : Mode} {s : OpenSet} {c : Char} {t r : Text} {k : SetStep}
    (h : member? m s c t = some (k, r)) : r <:+ t := by
  unfold member? at h
  split at h
  · cases h
    exact List.suffix_refl _
  · split at h
    · split at h
      · split at h
        · cases h
          exact suffix_of_namedClass? ‹_›
        · cases h
      · obtain ⟨_, hr, he⟩ := Option.map_eq_some_iff.mp h
        cases he
        exact suffix_of_afterOpening? hr
    · obtain ⟨_, hr, he⟩ := Option.map_eq_some_iff.mp h
      cases he
      exact suffix_of_afterMember? hr

theorem suffix_of_step? {m : Mode} {s : OpenSet} {c : Char} {t r : Text} {k : SetStep}
    (h : step? m s c t = some (k, r)) : r <:+ t := by
  unfold step? at h
  split at h
  · split at h
    · cases h
      exact List.suffix_refl _
    · cases h
  · split at h
    · cases h
      exact List.suffix_cons ..
    · cases h
      exact List.suffix_cons ..
    · cases h
      exact List.suffix_cons ..
    · exact suffix_of_member? h

end OpenSet

end Imprint.Log.Pattern

import Imprint.Log.Pattern.OpenSet
import Imprint.Text.Alphanumeric

/-!
# Log — Pattern — regular expressions

An expression is branches with bars between them, a branch is parts in a row, and a part may be
repeated; a group is an expression in brackets, with a name or with flags if it begins with a
question mark, and a group of nothing but flags is a part that cannot be repeated.  Counted
repetition is not written in a rule, since a brace ends what is narrowed, so that an opening brace
stands for nothing.

As with sets, all that is kept of what has been read is how deep it nests, which is limited.  The
expression is read in steps that leave an end of the text (`suffix_of_step?`), so reading ends.
-/

namespace Imprint.Log.Pattern

/-! ### Groups -/

/-- What an opening bracket begins. -/
inductive Opening where
  /-- A group, with a name if it has one. -/
  | group (mode : Mode) (name : Option Text)
  /-- Flags for the rest of the group around them. -/
  | flags (mode : Mode)
  deriving DecidableEq, Repr

/-- The text is a name: it begins with a letter or an underscore, and goes on with letters,
numbers, underscores, points and square brackets. -/
def isName : Text → Bool
  | []     => false
  | c :: t => (c = '_' || Text.isAlphabetic c) &&
      t.all fun c => c = '_' || c = '.' || c = '[' || c = ']' || Text.isAlphanumeric c

/-- A group with the name in front of a text. -/
def namedGroup? (m : Mode) (t : Text) : Option (Opening × Text) :=
  match t.dropWhile (· ≠ '>') with
  | _ :: r => let name := t.takeWhile (· ≠ '>')
              if isName name then some (.group m (some name), r) else none
  | []     => none

theorem suffix_of_namedGroup? {m : Mode} {t r : Text} {o : Opening}
    (h : namedGroup? m t = some (o, r)) : r <:+ t := by
  unfold namedGroup? at h
  have hd := List.dropWhile_suffix (l := t) (fun c => decide (c ≠ '>'))
  split at h
  · rename_i c u hu
    rw [hu] at hd
    dsimp only at h
    split at h
    · cases h
      exact (List.suffix_cons c _).trans hd
    · cases h
  · cases h

/-- What is opened by the flags in front of a text: a group after a colon, and nothing but the
flags, if there are any, after a closing bracket. -/
def flagged? (m : Mode) (t : Text) : Option (Opening × Text) :=
  match readFlags? .empty t with
  | some (f, ':' :: r) => some (.group (m.after f) none, r)
  | some (f, ')' :: r) => if f = .empty then none else some (.flags (m.after f), r)
  | _                  => none

theorem suffix_of_flagged? {m : Mode} {t r : Text} {o : Opening}
    (h : flagged? m t = some (o, r)) : r <:+ t := by
  unfold flagged? at h
  split at h
  · cases h
    exact (List.suffix_cons ':' _).trans (suffix_of_readFlags? ‹_›)
  · split at h
    · cases h
    · cases h
      exact (List.suffix_cons ')' _).trans (suffix_of_readFlags? ‹_›)
  · cases h

/-- What an opening bracket in front of a text begins. -/
def opening? (m : Mode) (t : Text) : Option (Opening × Text) :=
  match m.skipped t with
  | '?' :: 'P' :: '<' :: t => namedGroup? m t
  | '?' :: '<' :: t        => namedGroup? m t
  | '?' :: t               => flagged? m t
  | t                      => some (.group m none, t)

theorem suffix_of_opening? {m : Mode} {t r : Text} {o : Opening}
    (h : opening? m t = some (o, r)) : r <:+ t := by
  unfold opening? at h
  have hsk : m.skipped t <:+ t := Mode.skipped_suffix
  split at h
  · rename_i u hu
    rw [hu] at hsk
    exact (suffix_of_namedGroup? h).trans ((List.suffix_append ['?', 'P', '<'] u).trans hsk)
  · rename_i hu
    rw [hu] at hsk
    exact (suffix_of_namedGroup? h).trans ((List.suffix_append ['?', '<'] _).trans hsk)
  · rename_i hu
    rw [hu] at hsk
    exact (suffix_of_flagged? h).trans ((List.suffix_cons '?' _).trans hsk)
  · cases h
    exact hsk

/-! ### What has been read -/

/-- A part of a branch. -/
inductive Part where
  /-- Flags, which cannot be repeated. -/
  | flags
  /-- Something that nests so deep. -/
  | item (depth : Nat)
  deriving DecidableEq, Repr

/-- How deep a part nests. -/
def Part.depth : Part → Nat
  | .flags  => 0
  | .item d => d

/-- A group, or the whole expression, of which the end has not been read. -/
structure Scope where
  /-- How its next part is read. -/
  mode     : Mode
  /-- The depths of the branches that have ended. -/
  branches : List Nat
  /-- The parts of the branch that has not ended, the last one first. -/
  parts    : List Part
  deriving DecidableEq, Repr

namespace Scope

/-- A group in which nothing stands yet. -/
def empty (m : Mode) : Scope := ⟨m, [], []⟩

/-- How deep the branch that has not ended nests. -/
def branchDepth (s : Scope) : Nat := nesting (s.parts.map Part.depth)

/-- How deep the content of the group nests. -/
def depth (s : Scope) : Nat := nesting (s.branchDepth :: s.branches)

/-- The group with one more part. -/
def adding (s : Scope) (p : Part) : Scope := { s with parts := p :: s.parts }

/-- The group with its last part repeated, if there is one that can be. -/
def repeated? (s : Scope) : Option Scope :=
  match s.parts with
  | .item d :: ps => some { s with parts := .item (d + 1) :: ps }
  | _             => none

end Scope

/-- What has been read of an expression. -/
structure Reading where
  /-- The innermost group. -/
  scope : Scope
  /-- The groups around it, from the inside out. -/
  outer : List Scope
  /-- The sets that are open, from the inside out. -/
  sets  : List OpenSet
  /-- The names of the groups. -/
  names : List Text
  deriving DecidableEq, Repr

namespace Reading

/-- Nothing has been read. -/
def start : Reading := ⟨.empty .plain, [], [], []⟩

/-- A part has been read. -/
def adding (r : Reading) (p : Part) : Reading := { r with scope := r.scope.adding p }

/-- A bracket has opened something. -/
def opened? (r : Reading) : Opening → Option Reading
  | .flags m             => some { r with scope := { r.scope.adding .flags with mode := m } }
  | .group m none        => some { r with scope := .empty m, outer := r.scope :: r.outer }
  | .group m (some name) =>
    if r.names.contains name then none
    else some { r with scope := .empty m, outer := r.scope :: r.outer, names := name :: r.names }

/-- A bracket has closed the innermost group. -/
def closed? (r : Reading) : Option Reading :=
  match r.outer with
  | []         => none
  | s :: outer => some { r with scope := s.adding (.item (1 + r.scope.depth)), outer := outer }

/-- The last part is repeated by a sign in front of a text; a question mark after the sign belongs
to it. -/
def repeated? (r : Reading) (t : Text) : Option (Reading × Text) :=
  r.scope.repeated?.map fun s =>
    ({ r with scope := s }, if t.head? = some '?' then t.drop 1 else t)

theorem suffix_of_repeated? {r q : Reading} {t u : Text} (h : r.repeated? t = some (q, u)) :
    u <:+ t := by
  obtain ⟨_, -, h⟩ := Option.map_eq_some_iff.mp h
  cases h
  split
  · exact List.drop_suffix 1 t
  · exact List.suffix_refl _

/-- A sign has been read outside the sets. -/
def signed? (r : Reading) (s : Sign) : Option Reading :=
  if r.scope.mode.admits s then some (r.adding (.item 0)) else none

/-- A step in the innermost of the open sets. -/
def setStep (r : Reading) (outer : List OpenSet) : SetStep → Reading
  | .within s => { r with sets := s :: outer }
  | .nested s => { r with sets := .empty :: s :: outer }
  | .closed d =>
    match outer with
    | []         => { r with sets := [], scope := r.scope.adding (.item d) }
    | s :: outer => { r with sets := s.adding d :: outer }

/-- One step outside the sets, at a character that means something. -/
def partStep? (r : Reading) (c : Char) (t : Text) : Option (Reading × Text) :=
  match c with
  | '('             => do
    let (o, t) ← opening? r.scope.mode t
    return (← r.opened? o, t)
  | ')'             => r.closed?.map (·, t)
  | '|'             =>
    let s := r.scope
    some ({ r with scope := ⟨s.mode, s.branchDepth :: s.branches, []⟩ }, t)
  | '['             =>
    (OpenSet.afterOpening? r.scope.mode t).map ({ r with sets := [.empty] }, ·)
  | '*' | '+' | '?' => r.repeated? t
  | '\x7b'          => none
  | '.'             => if r.scope.mode.unicode then some (r.adding (.item 0), t) else none
  | '^' | '$'       => some (r.adding (.item 0), t)
  | c               => do
    let (s, t) ← sign? r.scope.mode c t
    return (← r.signed? s, t)

/-- One step, at a character that means something. -/
def step? (r : Reading) (c : Char) (t : Text) : Option (Reading × Text) :=
  match r.sets with
  | []         => r.partStep? c t
  | s :: outer => (s.step? r.scope.mode c t).map fun k => (r.setStep outer k.1, k.2)

theorem suffix_of_partStep? {r q : Reading} {c : Char} {t u : Text}
    (h : r.partStep? c t = some (q, u)) : u <:+ t := by
  unfold partStep? at h
  split at h
  · rw [Option.bind_eq_bind, Option.bind_eq_some_iff] at h
    obtain ⟨⟨o, v⟩, ho, h⟩ := h
    rw [Option.bind_eq_bind, Option.bind_eq_some_iff] at h
    obtain ⟨_, -, h⟩ := h
    cases h
    exact suffix_of_opening? ho
  · obtain ⟨_, -, h⟩ := Option.map_eq_some_iff.mp h
    cases h
    exact List.suffix_refl _
  · cases h
    exact List.suffix_refl _
  · obtain ⟨_, hr, h⟩ := Option.map_eq_some_iff.mp h
    cases h
    exact OpenSet.suffix_of_afterOpening? hr
  · exact suffix_of_repeated? h
  · exact suffix_of_repeated? h
  · exact suffix_of_repeated? h
  · cases h
  · split at h
    · cases h
      exact List.suffix_refl _
    · cases h
  · cases h
    exact List.suffix_refl _
  · cases h
    exact List.suffix_refl _
  · rw [Option.bind_eq_bind, Option.bind_eq_some_iff] at h
    obtain ⟨⟨s, v⟩, hs, h⟩ := h
    rw [Option.bind_eq_bind, Option.bind_eq_some_iff] at h
    obtain ⟨_, -, h⟩ := h
    cases h
    exact suffix_of_sign? hs

theorem suffix_of_step? {r q : Reading} {c : Char} {t u : Text}
    (h : r.step? c t = some (q, u)) : u <:+ t := by
  unfold step? at h
  split at h
  · exact suffix_of_partStep? h
  · obtain ⟨_, hs, h⟩ := Option.map_eq_some_iff.mp h
    cases h
    exact OpenSet.suffix_of_step? hs

/-- A step takes at least the character at which it begins. -/
theorem length_lt_of_step? {r q : Reading} {c : Char} {t u v : Text}
    (ht : r.scope.mode.skipped t = c :: u) (h : r.step? c u = some (q, v)) :
    v.length < t.length := by
  have hu : c :: u <:+ t := ht ▸ Mode.skipped_suffix
  exact Nat.lt_of_lt_of_le (Nat.lt_succ_of_le (suffix_of_step? h).length_le) hu.length_le

/-- What has been read at the end of a text. -/
def after? (r : Reading) (t : Text) : Option Reading :=
  match ht : r.scope.mode.skipped t with
  | []     => some r
  | c :: u =>
    match h : r.step? c u with
    | none        => none
    | some (q, v) =>
      have := length_lt_of_step? ht h
      after? q v
termination_by t.length

/-- How deep the expression nests, if nothing in it is left open. -/
def depth? (r : Reading) : Option Nat :=
  if r.outer.isEmpty && r.sets.isEmpty then some r.scope.depth else none

end Reading

/-- The greatest depth of an expression. -/
def depthLimit : Nat := 250

/-- The text is a regular expression. -/
def isExpression (t : Text) : Bool :=
  ((Reading.start.after? t).bind Reading.depth?).any (· ≤ depthLimit)

example : isExpression "*.log".toList = false ∧ isExpression ".*[.]log".toList = true := by
  decide +kernel
example : isExpression "(a|b".toList = false ∧ isExpression "(?:a|b)+\\.c".toList = true := by
  decide +kernel
example : isExpression "\\d".toList = false ∧ isExpression "(?-u)\\d".toList = true := by
  decide +kernel

end Imprint.Log.Pattern

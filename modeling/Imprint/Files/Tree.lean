import Imprint.Text

/-!
# Files — a tree of files

A tree is a table of *nodes* by their *locations*, the lists of names that lead to them from the
root.  A node is a directory, a file of octets or a link, and has a mode.  The functions here change
the table at one location; what they leave alone elsewhere is stated by `node?_put` and
`node?_store`.

Programs are files like any other.  What one does when it is run depends on its octets alone, and a
tree says so of those that it can run by itself.
-/

namespace Imprint.Files

/-- A name in a directory. -/
abbrev Name := Bytes

/-- The names that lead from the root to a node. -/
abbrev Location := List Name

/-- What may be done with a node. -/
structure Mode where
  read    : Bool
  write   : Bool
  execute : Bool
  deriving DecidableEq, Repr

/-- What a program does when it is run: it shows its arguments if it echoes, writes, and then sends
itself a signal, if it has one, or else exits with its status. -/
structure Tool where
  stdout : Bytes
  stderr : Bytes
  status : Nat
  signal : Option Nat
  echoes : Bool
  deriving DecidableEq, Repr

/-- What a node holds. -/
inductive Content where
  | directory
  | octets (bs : Bytes)
  | link (path : Bytes)
  deriving DecidableEq, Repr

/-- An entry of the tree. -/
structure Node where
  mode    : Mode
  content : Content
  deriving DecidableEq, Repr

/-- The node with other octets, if it is a file. -/
def Node.store (n : Node) (bs : Bytes) : Node :=
  match n.content with
  | .octets _            => { n with content := .octets bs }
  | .directory | .link _ => n

namespace Mode

/-- The mode of a new file. -/
def readWrite : Mode := ⟨true, true, false⟩

/-- The mode of a new directory, a link and a program. -/
def all : Mode := ⟨true, true, true⟩

end Mode

/-- A tree of files, the location at which relative paths begin, and what files with these octets do
when they are run. -/
structure Tree where
  nodes    : List (Location × Node)
  work     : Location
  programs : List (Bytes × Tool)
  deriving DecidableEq, Repr

namespace Tree

/-- The node at a location. -/
def node? (t : Tree) (l : Location) : Option Node := t.nodes.lookup l

/-- What a file with these octets does when it is run, if the tree can run it by itself. -/
def tool? (t : Tree) (bs : Bytes) : Option Tool := t.programs.lookup bs

/-- The tree with a node at a location, in place of the one there. -/
def put (t : Tree) (l : Location) (n : Node) : Tree :=
  { t with nodes := (l, n) :: t.nodes.filter (·.1 ≠ l) }

/-- The tree without the node at a location. -/
def erase (t : Tree) (l : Location) : Tree :=
  { t with nodes := t.nodes.filter (·.1 ≠ l) }

/-- The tree with other octets in the file at a location. -/
def store (t : Tree) (l : Location) (bs : Bytes) : Tree :=
  { t with nodes := t.nodes.map fun e => if e.1 = l then (l, e.2.store bs) else e }

/-- A tree without programs that holds only the directories that lead to its working directory, and
`names` there, as empty directories. -/
def ofDirectories (work : Location) (names : List Name) : Tree :=
  let path := work.foldr (fun n ls => [] :: ls.map (n :: ·)) [[]]
  let dirs := path ++ names.map fun n => work ++ [n]
  ⟨dirs.map fun l => (l, ⟨.all, .directory⟩), work, []⟩

theorem node?_put (t : Tree) (l : Location) (n : Node) (l' : Location) :
    (t.put l n).node? l' = if l' = l then some n else t.node? l' := by
  obtain ⟨nodes, work, programs⟩ := t
  by_cases h : l' = l
  · subst h; simp [put, node?]
  · have h' : (l' == l) = false := by simpa using h
    simp only [put, node?, List.lookup_cons, h', if_neg h]
    induction nodes with
    | nil => rfl
    | cons e nodes ih =>
      obtain ⟨k, m⟩ := e
      by_cases hk : k = l
      · subst hk; simpa [List.lookup_cons, h'] using ih
      · simp only [List.filter_cons, hk, ne_eq, not_false_eq_true, decide_true, ↓reduceIte,
          List.lookup_cons, ih]

theorem node?_store (t : Tree) (l : Location) (bs : Bytes) (l' : Location) :
    (t.store l bs).node? l' =
      if l' = l then (t.node? l').map (·.store bs) else t.node? l' := by
  obtain ⟨nodes, work, programs⟩ := t
  simp only [store, node?]
  induction nodes with
  | nil => simp
  | cons e nodes ih =>
    obtain ⟨k, n⟩ := e
    by_cases hk : k = l
    · subst hk
      by_cases h : l' = k
      · subst h; simp
      · have h' : (l' == k) = false := by simpa using h
        simp only [List.map_cons, ↓reduceIte, List.lookup_cons, h', h] at ih ⊢
        exact ih
    · by_cases h : l' = k
      · subst h; simp [hk]
      · have h' : (l' == k) = false := by simpa using h
        simp only [List.map_cons, if_neg hk, List.lookup_cons, h'] at ih ⊢
        exact ih

end Tree

end Imprint.Files

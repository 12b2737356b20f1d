import Imprint.Files.Tree
import Imprint.Files.Error

/-!
# Files — where a path leads

A path is followed name by name, from the root if it begins with a slash and from the working
directory otherwise.  Each name is looked up in a directory that may be searched; a link on the way
is replaced by the path it holds, and after forty links the search is given up.  A slash at the end
asks for a directory; among the names of a path it stands as an empty one.

* `Tree.place` is the location a path leads to, whether or not there is a node;
* `Tree.find` is the node there.

Neither looks at the octets of any file (`place_store`), so storing into a file changes no path.
-/

namespace Imprint.Files

/-- A path in its parts. -/
structure Path where
  absolute : Bool
  names    : List Name
  deriving DecidableEq, Repr

namespace Path

/-- The name of a directory in itself. -/
def here : Name := [octet '.']

/-- The name of the directory above. -/
def above : Name := [octet '.', octet '.']

/-- The parts of a path; slashes in a row count as one. -/
def ofBytes (bs : Bytes) : Path where
  absolute := bs.head? = some (octet '/')
  names    := (bs.splitOnP (· = octet '/')).filter (! ·.isEmpty) ++
    if bs.getLast? = some (octet '/') then [[]] else []

end Path

namespace Tree

/-- The mode of the directory at a location. -/
def directory (t : Tree) (l : Location) : Except Error Mode :=
  match t.node? l with
  | some ⟨mode, .directory⟩ => .ok mode
  | some _                  => .error .notADirectory
  | none                    => .error .notFound

/-- Follows names from the directory at a location.  `jump` goes on at a link, given the directory
it is in, the path it holds and the names after it; a link at the end is followed only if
`follow` is set.  The last name need not exist. -/
def walkNames (t : Tree) (follow : Bool)
    (jump : Location → Bytes → List Name → Except Error Location) (l : Location) :
    List Name → Except Error Location
  | []      => .ok l
  | n :: ns =>
    match t.directory l with
    | .error e => .error e
    | .ok mode =>
      if n.isEmpty then t.walkNames follow jump l ns
      else if ! mode.execute then .error .permissionDenied
      else if n = Path.here then t.walkNames follow jump l ns
      else if n = Path.above then t.walkNames follow jump l.dropLast ns
      else if n.length > 255 then .error .nameTooLong
      else match t.node? (l ++ [n]) with
        | none                => if ns.isEmpty then .ok (l ++ [n]) else .error .notFound
        | some ⟨_, .link path⟩ =>
          if ns.isEmpty && ! follow then .ok (l ++ [n]) else jump l path ns
        | some _              => t.walkNames follow jump (l ++ [n]) ns

/-- Follows names through at most so many links. -/
def walk (t : Tree) (follow : Bool) : Nat → Location → List Name → Except Error Location
  | 0         => t.walkNames follow fun _ _ _ => .error .tooManyLinks
  | links + 1 => t.walkNames follow fun l path ns =>
    let p := Path.ofBytes path
    t.walk follow links (if p.absolute then [] else l) (p.names ++ ns)

/-- The location a path leads to; a link at its end is followed only if `follow` is set. -/
def place (t : Tree) (path : Bytes) (follow : Bool) : Except Error Location :=
  if path.contains 0 then .error .zeroInPath
  else if path.isEmpty then .error .notFound
  else if path.length ≥ 4096 then .error .nameTooLong
  else
    let p := Path.ofBytes path
    t.walk follow 40 (if p.absolute then [] else t.work) p.names

/-- The node a path leads to, with its location. -/
def find (t : Tree) (path : Bytes) : Except Error (Location × Node) :=
  match t.place path true with
  | .error e => .error e
  | .ok l    =>
    match t.node? l with
    | some n => .ok (l, n)
    | none   => .error .notFound

/-! ### Octets do not matter -/

/-- A directory is one whatever the files hold. -/
theorem directory_store (t : Tree) (l : Location) (bs : Bytes) (l' : Location) :
    (t.store l bs).directory l' = t.directory l' := by
  unfold directory
  rw [node?_store]
  by_cases h : l' = l
  · rw [if_pos h]
    rcases t.node? l' with _ | ⟨mode, _ | _ | _⟩ <;> rfl
  · rw [if_neg h]

theorem walkNames_store (t : Tree) (l₀ : Location) (bs : Bytes) (follow : Bool)
    (jump : Location → Bytes → List Name → Except Error Location) :
    ∀ (ns : List Name) (l : Location),
      (t.store l₀ bs).walkNames follow jump l ns = t.walkNames follow jump l ns
  | [], _      => rfl
  | n :: ns, l => by
      simp only [walkNames, directory_store, walkNames_store t l₀ bs follow jump ns]
      rw [node?_store]
      by_cases h : l ++ [n] = l₀
      · rw [if_pos h]
        rcases t.node? (l ++ [n]) with _ | ⟨mode, _ | _ | _⟩ <;> rfl
      · rw [if_neg h]

theorem walk_store (t : Tree) (l₀ : Location) (bs : Bytes) (follow : Bool) :
    ∀ (links : Nat) (l : Location) (ns : List Name),
      (t.store l₀ bs).walk follow links l ns = t.walk follow links l ns
  | 0, l, ns         => walkNames_store ..
  | links + 1, l, ns => by
      simp only [walk, walkNames_store, walk_store t l₀ bs follow links]

/-- Storing into a file changes no path. -/
theorem place_store (t : Tree) (l : Location) (bs : Bytes) (path : Bytes) (follow : Bool) :
    (t.store l bs).place path follow = t.place path follow := by
  have hw : (t.store l bs).work = t.work := rfl
  simp only [place, walk_store, hw]

end Tree

end Imprint.Files

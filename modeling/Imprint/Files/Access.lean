import Imprint.Files.Path
import Imprint.Text.Utf8

/-!
# Files — reading, overwriting and arranging

`Tree.read` and `Tree.overwrite` are what a job does with files: they ask for permission, and
overwriting replaces the octets of one file and nothing else.  The functions after them arrange a
tree without asking.
-/

namespace Imprint.Files.Tree

/-! ### Under permission -/

/-- The octets of the file that a path leads to. -/
def read (t : Tree) (path : Bytes) : Except Error Bytes :=
  match t.find path with
  | .error e                 => .error e
  | .ok (_, ⟨mode, content⟩) =>
    if ! mode.read then .error .permissionDenied
    else match content with
      | .octets bs => .ok bs
      | .directory => .error .isADirectory
      | .link _    => .error .tooManyLinks

/-- The text of the file that a path leads to. -/
def readText (t : Tree) (path : Bytes) : Except Error Text :=
  match t.read path with
  | .error e => .error e
  | .ok bs   =>
    match Bytes.decode? bs with
    | some text => .ok text
    | none      => .error .notText

/-- The tree with other octets in the file that a path leads to. -/
def overwrite (t : Tree) (path : Bytes) (bs : Bytes) : Except Error Tree :=
  match t.find path with
  | .error e                 => .error e
  | .ok (_, ⟨_, .directory⟩) => .error .isADirectory
  | .ok (l, ⟨mode, _⟩)       =>
    if mode.write then .ok (t.store l bs) else .error .permissionDenied

/-! ### Arranging -/

/-- Creates a file or replaces the octets of the one that is there. -/
def create (t : Tree) (path : Bytes) (bs : Bytes) : Except Error Tree := do
  let l ← t.place path true
  match t.node? l with
  | some _ => return t.store l bs
  | none   => return t.put l ⟨.readWrite, .octets bs⟩

/-- Adds octets at the end of a file. -/
def append (t : Tree) (path : Bytes) (bs : Bytes) : Except Error Tree := do
  match ← t.find path with
  | (l, ⟨_, .octets old⟩) => return t.store l (old ++ bs)
  | _                     => .error .isADirectory

/-- Puts a node where a path leads, not following a link there. -/
def install (t : Tree) (path : Bytes) (n : Node) : Except Error Tree := do
  return t.put (← t.place path false) n

/-- Creates a directory; slashes at the end of its path say nothing more. -/
def makeDirectory (t : Tree) (path : Bytes) : Except Error Tree :=
  t.install (path.reverse.dropWhile (· = octet '/')).reverse ⟨.all, .directory⟩

/-- Creates a link that holds a path. -/
def makeLink (t : Tree) (path target : Bytes) : Except Error Tree :=
  t.install path ⟨.all, .link target⟩

/-- Octets for one program more: the mark of an executable file, and a zero for each program that
there is. -/
def newImage (t : Tree) : Bytes :=
  0x7f :: Text.encode "ELF".toList ++ List.replicate t.programs.length 0

/-- Creates a program that does what the tool does. -/
def makeTool (t : Tree) (path : Bytes) (tool : Tool) : Except Error Tree :=
  Tree.install { t with programs := (t.newImage, tool) :: t.programs } path
    ⟨.all, .octets t.newImage⟩

/-- Removes a file or a link. -/
def remove (t : Tree) (path : Bytes) : Except Error Tree := do
  return t.erase (← t.place path false)

/-- Gives a node another mode. -/
def setMode (t : Tree) (path : Bytes) (mode : Mode) : Except Error Tree := do
  let (l, n) ← t.find path
  return t.put l { n with mode }

/-! ### From given nodes -/

/-- Where a name leads from a directory, links aside. -/
def beside (l : Location) (name : Name) : Location :=
  if name.isEmpty ∨ name = Path.here then l
  else if name = Path.above then l.dropLast
  else l ++ [name]

/-- Puts a node where names lead, and directories on the way where there is nothing. -/
def plant (t : Tree) (n : Node) (l : Location) : List Name → Tree
  | []      => if (t.node? l).isSome then t else t.put l n
  | m :: ms =>
    let t := if (t.node? l).isSome then t else t.put l ⟨.all, .directory⟩
    t.plant n (beside l m) ms

/-- A tree of nodes at the ends of paths, as seen from a working directory. -/
def ofPaths (work : Location) (nodes : List (Bytes × Node)) : Tree :=
  nodes.foldl (fun t e =>
    let p := Path.ofBytes e.1
    t.plant e.2 (if p.absolute then [] else work) p.names) (ofDirectories work [])

end Imprint.Files.Tree

import Imprint.BuildNumber
import Imprint.Date
import Imprint.Imprinting
import Imprint.Toolchain.Release

/-!
# Job — imprinting the target of a build

A job names a log, a target, and what else goes into the metadata.  It is done in four steps, and
the first that fails ends it:

* the lines of the log are counted (`countLog`),
* the toolchain is asked (`ask`),
* the target is read (`readTarget`),
* and the imprinted target is stored (`commit`).

`draft` is the first three, which change nothing; `run` is all four.  Only `commit` gives a new
tree, and it stores into the one file that the target leads to.
-/

namespace Imprint

open Files (Tree)
open Toolchain (Probe Silence)

/-- What is to be imprinted, and where. -/
structure Job where
  log     : Bytes
  target  : Bytes
  version : Option Text
  probe   : Probe
  date    : Option Date
  deriving DecidableEq, Repr

namespace Job

/-- Why a job fails. -/
inductive Error where
  | access (path : Bytes) (e : Files.Error)
  | unavailable (program : Text) (why : Silence)
  deriving DecidableEq, Repr

/-- The cause behind the error, where it is a file's. -/
def Error.source? : Error → Option Text
  | .access _ e      => some e.message
  | .unavailable _ _ => none

/-- The wording of the error. -/
def Error.message : Error → Text
  | .access path e           => "cannot access ".toList ++ path.lossy ++ [':', ' '] ++ e.message
  | .unavailable program why =>
    "toolchain `".toList ++ program ++ "` unavailable: ".toList ++ why.message

/-- A job without a version, with the default probe and no date of its own. -/
def create (log target : Bytes) : Job := ⟨log, target, none, .default, none⟩

/-- The job with another version; an empty one counts as none. -/
def withVersion (j : Job) (version : Option Text) : Job :=
  { j with version := version.filter (! ·.isEmpty) }

/-- The job with another probe. -/
def withProbe (j : Job) (probe : Probe) : Job := { j with probe }

/-- The job with a date of its own. -/
def withDate (j : Job) (date : Date) : Job := { j with date := some date }

/-! ### The steps -/

/-- The number of lines of the log. -/
def countLog (t : Tree) (log : Bytes) : Except Error UInt64 :=
  match t.read log with
  | .ok bs   => .ok (LineCount.ofBytes bs)
  | .error e => .error (.access log e)

/-- The toolchain's answer. -/
def ask (t : Tree) : Probe → Except Error Text
  | .fixed answer         => .ok answer
  | .command program args =>
    match Toolchain.askProgram t program args with
    | .ok answer => .ok answer
    | .error why => .error (.unavailable program why)

/-- The text of the target. -/
def readTarget (t : Tree) (target : Bytes) : Except Error Text :=
  match t.readText target with
  | .ok text => .ok text
  | .error e => .error (.access target e)

/-- The metadata of a job, from the number of lines and the toolchain's answer. -/
def metadata (j : Job) (today : Date) (lines : UInt64) (answer : Text) : Metadata where
  buildString := buildString lines
  toolchain   := Toolchain.release answer
  buildDate   := (j.date.getD today).toText
  version     := j.version

/-- Stores a text into the target. -/
def commit (t : Tree) (target : Bytes) (text : Text) : Except Error Tree :=
  match t.overwrite target (Text.encode text) with
  | .ok t    => .ok t
  | .error e => .error (.access target e)

/-- What a job would do: its metadata and the imprinted target. -/
structure Draft where
  metadata  : Metadata
  imprinted : Imprinted
  deriving DecidableEq, Repr

/-- The job without its last step. -/
def draft (j : Job) (t : Tree) (today : Date) : Except Error Draft := do
  let lines ← countLog t j.log
  let answer ← ask t j.probe
  let text ← readTarget t j.target
  let m := j.metadata today lines answer
  return ⟨m, m.imprint text⟩

/-- The whole job: what it answers, and the tree after it. -/
def run (j : Job) (t : Tree) (today : Date) : Except Error Metadata × Tree :=
  match j.draft t today with
  | .error e => (.error e, t)
  | .ok d    =>
    match commit t j.target d.imprinted.text with
    | .error e => (.error e, t)
    | .ok t'   => (.ok d.metadata, t')

end Job

end Imprint

import Imprint.Command.Request
import Imprint.Command.Usage

/-!
# Command — reading the command line

The words of a command line are read from left to right; `Reading` is what is known between two of
them.  A positional word, or an option with its value, is *held* when it is met and *settled*, that
is checked and taken, only when the next known word is met or the words end.  So the first error
that counts is not always the leftmost one:

* a switch or an option settles what is held and then takes effect itself;
* a positional word settles what is held and is then held;
* a word that means nothing, a value given to a switch, or a fourth positional word ends the
  reading at once, whatever is held.

An option that waits for its value takes the next word, but `--toolchain` takes none that begins
with a dash, unless the dash is all there is.  After `--` every word is positional.
-/

namespace Imprint.Command

/-- What was met last and is not yet settled. -/
inductive Held where
  | nothing
  | word (w : Bytes)
  | option (s : Setting) (value : Option Bytes)
  deriving DecidableEq, Repr

/-- A command line as far as it was read. -/
structure Reading where
  /-- The positional words that are settled. -/
  words         : List Bytes
  toolchain     : Option Text
  toolchainArgs : List Text
  switches      : List Switch
  held          : Held
  /-- After `--`. -/
  wordsOnly     : Bool
  deriving DecidableEq, Repr

/-- Why a command line asks for no job. -/
inductive Stop where
  | help
  | version
  | error (e : UsageError)
  deriving DecidableEq, Repr

namespace Reading

/-- Nothing read yet. -/
def start : Reading := ⟨[], none, [], [], .nothing, false⟩

/-! ### Settling -/

/-- Takes a positional word: a file needs a name, and a version is text. -/
def takeWord (r : Reading) (w : Bytes) : Except UsageError Reading :=
  let taken : Reading := { r with words := r.words ++ [w], held := .nothing }
  match r.words.length with
  | 0 => if w.isEmpty then .error (.valueMissing Positional.logFile.shown) else .ok taken
  | 1 => if w.isEmpty then .error (.valueMissing Positional.targetFile.shown) else .ok taken
  | _ => if w.decode?.isSome then .ok taken else .error .notText

/-- Takes the value of an option. -/
def takeValue (r : Reading) (s : Setting) (value : Bytes) : Except UsageError Reading :=
  match s with
  | .toolchain    =>
    if r.toolchain.isSome then .error (.repeated s.shown)
    else match value.decode? with
      | some t => .ok { r with toolchain := some t, held := .nothing }
      | none   => .error .notText
  | .toolchainArg =>
    match value.decode? with
    | some t => .ok { r with toolchainArgs := r.toolchainArgs ++ [t], held := .nothing }
    | none   => .error .notText

/-- Checks and takes what is held. -/
def settle (r : Reading) : Except UsageError Reading :=
  match r.held with
  | .nothing               => .ok r
  | .word w                => r.takeWord w
  | .option s none         => .error (.valueMissing s.shown)
  | .option s (some value) => r.takeValue s value

/-! ### Meeting a word -/

/-- The number of positional words, with the one that is held. -/
def placed (r : Reading) : Nat :=
  r.words.length + match r.held with
    | .word _ => 1
    | _       => 0

/-- Meets a positional word. -/
def place (r : Reading) (w : Bytes) : Except Stop Reading :=
  if 3 ≤ r.placed then .error (.error (.unexpected w.lossy))
  else
    match r.settle with
    | .ok r    => .ok { r with held := .word w }
    | .error e => .error (.error e)

/-- Meets a switch. -/
def switch (r : Reading) (s : Switch) : Except Stop Reading :=
  match r.settle with
  | .error e => .error (.error e)
  | .ok r    =>
    match s with
    | .help    => .error .help
    | .version => .error .version
    | s        =>
      if s ∈ r.switches then .error (.error (.repeated s.shown))
      else .ok { r with switches := s :: r.switches }

/-- Meets an option, with its value if that is in the same word. -/
def option (r : Reading) (s : Setting) (value : Option Bytes) : Except Stop Reading :=
  match r.settle, value with
  | .error e, _        => .error (.error e)
  | .ok r, none        => .ok { r with held := .option s none }
  | .ok r, some value  =>
    match r.takeValue s value with
    | .ok r    => .ok r
    | .error e => .error (.error e)

/-- Meets a word that begins with two dashes, `body` after them. -/
def long (r : Reading) (body : Bytes) : Except Stop Reading :=
  let name := Bytes.lossy (body.takeWhile (· ≠ octet '='))
  let value : Option Bytes :=
    if body.contains (octet '=') then some (body.dropWhile (· ≠ octet '=')).tail else none
  match Switch.named? name, Setting.named? name with
  | some s, _    =>
    match value with
    | some v => .error (.error (.needlessValue v.lossy s))
    | none   => r.switch s
  | none, some s => r.option s value
  | none, none   => .error (.error (.unexpected ('-' :: '-' :: name)))

/-- Meets letters after a single dash; octets that are no letters end them. -/
def letters (r : Reading) : List Utf8.Piece → Except Stop Reading
  | []           => .ok r
  | none :: ps   => .error (.error (.unexpected ('-' :: Utf8.shown (none :: ps))))
  | some c :: ps =>
    match Switch.lettered? c with
    | none   => .error (.error (.unexpected ['-', c]))
    | some s =>
      match r.switch s with
      | .ok r    => r.letters ps
      | .error e => .error e

/-- Meets a word, where an option may wait for its value. -/
def next (r : Reading) (w : Bytes) : Except Stop Reading :=
  if r.wordsOnly then r.place w
  else if r.held = .option .toolchainArg none then
    .ok { r with held := .option .toolchainArg (some w) }
  else match w with
    | [] => plain
    | b :: body =>
      if b ≠ octet '-' ∨ body.isEmpty then plain
      else if body = [octet '-'] then .ok { r with wordsOnly := true }
      else if body.head? = some (octet '-') then r.long body.tail
      else r.letters (Utf8.pieces body)
where
  /-- A word without a meaning of its own. -/
  plain : Except Stop Reading :=
    if r.held = .option .toolchain none then .ok { r with held := .option .toolchain (some w) }
    else r.place w

/-- Meets words one after the other. -/
def nextAll (r : Reading) : List Bytes → Except Stop Reading
  | []      => .ok r
  | w :: ws =>
    match r.next w with
    | .ok r    => r.nextAll ws
    | .error e => .error e

/-- What is requested where the words end. -/
def finish (r : Reading) : Except Stop Request :=
  match r.settle with
  | .error e => .error (.error e)
  | .ok r    =>
    match r.words with
    | []                     => .error (.error (.missing [.logFile, .targetFile]))
    | [_]                    => .error (.error (.missing [.targetFile]))
    | logFile :: target :: ws =>
      .ok {
        logFile
        targetFile    := target
        version       := ws.head?.bind Bytes.decode?
        toolchain     := r.toolchain
        toolchainArgs := if r.toolchainArgs.isEmpty then Toolchain.defaultArgs else r.toolchainArgs
        dryRun        := .dryRun ∈ r.switches
        json          := .json ∈ r.switches
        verbose       := .verbose ∈ r.switches }

end Reading

/-- What the words of a command line request. -/
def Request.ofWords (ws : List Bytes) : Except Stop Request :=
  match Reading.start.nextAll ws with
  | .ok r    => r.finish
  | .error e => .error e

end Imprint.Command

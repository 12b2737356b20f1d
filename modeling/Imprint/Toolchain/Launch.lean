import Imprint.Files.Access
import Imprint.Toolchain.Ending
import Imprint.Toolchain.Script

/-!
# Toolchain — running a program

A program whose name has a slash is the file that the name leads to; any other is looked for in
the directory of programs.  The file has to be executable, and its arguments must not be too long.
Its octets are those of a program that can be run by itself, or it is a script that another program
runs, which may be a script again; but one program is not found through more than `levels` others,
and one that is run by itself still needs one of them.

A program that was run leaves what it wrote and the way it ended.
-/

namespace Imprint.Toolchain

open Files (Tool Tree)

/-- Why a program cannot be started. -/
inductive LaunchError where
  /-- The program's name or an argument contains the character zero. -/
  | zeroInArgument
  | argumentsTooLong
  | file (e : Files.Error)
  deriving DecidableEq, Repr

/-- What a program that was run leaves. -/
structure Ran where
  stdout : Bytes
  stderr : Bytes
  ending : Ending
  deriving DecidableEq, Repr

/-- The wording of the reason. -/
def LaunchError.message : LaunchError → Text
  | .zeroInArgument   => "nul byte found in provided data".toList
  | .argumentsTooLong => Files.Error.system "Argument list too long" 7
  | .file e           => e.message

/-- The directory of programs. -/
def programs : Text := "bin".toList

/-- Runs a program by itself. -/
def run (tool : Tool) (args : List Bytes) : Ran where
  stdout := (if tool.echoes then args.flatMap fun a => octet '<' :: a ++ [octet '>', octet ' ']
    else []) ++ tool.stdout
  stderr := tool.stderr
  ending := .ofTool tool

/-- The path of the file that a program's name stands for.  What follows the 256th octet of a name
without a slash does not matter: the name is too long for any file. -/
def programPath (program : Text) : Except Files.Error Bytes :=
  let name := Text.encode program
  if '/' ∈ program then .ok name
  else if name.isEmpty then .error .notFound
  else .ok (Text.encode programs ++ octet '/' :: name.take 256)

/-- What is run when the file at a path is. -/
def executable (t : Tree) (path : Bytes) : Except Files.Error Files.Content :=
  match t.find path with
  | .error e                 => .error e
  | .ok (_, ⟨mode, content⟩) =>
    match content with
    | .directory => .error .permissionDenied
    | content    => if mode.execute then .ok content else .error .permissionDenied

/-- How many programs one may be found through. -/
def levels : Nat := 6

/-- The file that runs a script; without a name it is the working directory. -/
def Interpreter.file (i : Interpreter) : Bytes :=
  if i.path.isEmpty then Files.Path.here else i.path

/-- Runs the file at a path, which may be found through so many other programs. -/
def runFile (t : Tree) : Nat → Bytes → List Bytes → Except Files.Error Ran
  | 0,          path, _    =>
    match executable t path with
    | .error e => .error e
    | .ok _    => .error .tooManyLinks
  | levels + 1, path, args =>
    match executable t path with
    | .error e            => .error e
    | .ok (.octets bytes) =>
      match t.tool? bytes, Interpreter.ofScript? bytes with
      | some tool, _      => if levels = 0 then .error .tooManyLinks else .ok (run tool args)
      | none,      some i => runFile t levels i.file (i.argument.toList ++ path :: args)
      | none,      none   => .error .notRunnable
    | .ok _               => .error .notRunnable

/-- The words handed to a program are too long: a word with the zero that ends it holds at most
`2 ^ 17` octets, and all words, with an address of eight octets for each, hold at most `2 ^ 21`
together with the path. -/
def areTooLong (path : Bytes) (words : List Bytes) : Bool :=
  words.any (Nat.pow 2 17 < ·.length + 1) ||
    Nat.pow 2 21 < words.foldr (fun w n => w.length + 1 + 8 + n) (path.length + 1)

/-- Runs a program. -/
def launch (t : Tree) (program : Text) (args : List Text) : Except LaunchError Ran :=
  if '\x00' ∈ program ∨ args.any (·.contains '\x00') then .error .zeroInArgument
  else
    match programPath program with
    | .error e => .error (.file e)
    | .ok path =>
      let args := args.map Text.encode
      match executable t path with
      | .error e => .error (.file e)
      | .ok _    =>
        if areTooLong path (Text.encode program :: args) then .error .argumentsTooLong
        else
          match runFile t levels path args with
          | .error e => .error (.file e)
          | .ok ran  => .ok ran

end Imprint.Toolchain

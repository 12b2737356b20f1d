import Imprint.Command.Invocation
import Std.Time

/-!
# Main — the command

The command takes the files that its arguments name from where it is run, and the answer of the
toolchain from its standard input, as in `go version | buildstamp build.log main.go`.  What it does
with them is `Command.invoke`; here they are only fetched, and the imprinted target is put back.
-/

namespace Imprint

open Files (Mode Node Tool Tree)

/-- All octets of a stream. -/
partial def readAll (stream : IO.FS.Stream) (done : ByteArray) : IO ByteArray := do
  let chunk ← stream.read 65536
  if chunk.isEmpty then return done else readAll stream (done ++ chunk)

/-- The file at a path can be opened for writing. -/
def writable (path : String) : IO Bool := do
  try
    let _ ← IO.FS.Handle.mk path .append
    return true
  catch _ => return false

/-- The node at a path, if there is one.  What cannot be read and has no name in the error is a
directory. -/
def fetch (path : String) : IO (Option Node) := do
  try
    let bytes ← IO.FS.readBinFile path
    return some ⟨⟨true, ← writable path, false⟩, .octets bytes.toList⟩
  catch
    | .inappropriateType none .. => return some ⟨.all, .directory⟩
    | .permissionDenied ..       => return some ⟨⟨false, false, false⟩, .octets []⟩
    | _                          => return none

/-- The octets of a string. -/
def octets (s : String) : Bytes := s.toUTF8.toList

/-- The octets at a path, or none where they cannot be read. -/
def image (path : Bytes) : IO Bytes := do
  match ← fetch (String.ofList path.lossy) with
  | some ⟨_, .octets bs⟩ => return bs
  | _                    => return []

/-- The files that a request asks for, and the toolchain as a program that gives the answer. -/
def treeOf (work : Files.Location) (r : Command.Request) (toolchain : Option Bytes) : IO Tree := do
  let answer ← readAll (← IO.getStdin) .empty
  let tool : Tool := ⟨answer.toList, [], 0, none, false⟩
  let program ← match Toolchain.programPath (r.program toolchain) with
    | .ok path => do pure [(path, ← image path)]
    | .error _ => pure []
  let files ← [r.logFile, r.targetFile].filterMapM fun path => do
    return (← fetch (String.ofList path.lossy)).map (path, ·)
  let nodes := program.map fun (path, bs) => (path, (⟨.all, .octets bs⟩ : Node))
  return { Tree.ofPaths work (nodes ++ files) with programs := program.map fun p => (p.2, tool) }

/-- Runs the command. -/
def runCommand (args : List String) : IO UInt32 := do
  let words := args.map octets
  let toolchain := (← IO.getEnv "BUILDSTAMP_TOOLCHAIN").map octets
  let filter := (← IO.getEnv "RUST_LOG").map octets
  let work := (Files.Path.ofBytes (octets (← IO.currentDir).toString)).names
  let now ← Std.Time.PlainDateTime.now
  let day := now.date
  let some today := Date.ofNumbers? day.year.toInt day.month.val.toNat day.day.val.toNat
    | throw (IO.userError "the date is out of range")
  let request := (Command.Request.ofWords words).toOption
  let tree ← match request with
    | some r => treeOf work r toolchain
    | none   => pure (Tree.ofDirectories work [])
  let time := (now.format "uuuu-MM-dd HH:mm:ss.SSSSSS").toList
  let surroundings : Command.Surroundings := ⟨tree, today, toolchain, filter, time⟩
  let out := Command.invoke surroundings words
  if let some r := request then
    if out.tree ≠ tree then
      if let .ok bytes := out.tree.read r.targetFile then
        IO.FS.writeBinFile (String.ofList r.targetFile.lossy) ⟨bytes.toArray⟩
  let sink : Sink ← try
      IO.print (String.ofList out.stdout)
      (← IO.getStdout).flush
      pure .endless
    catch e => pure (.bounded 0 e.toString.toList)
  let out := Command.invoke surroundings words sink
  IO.eprint (String.ofList out.stderr)
  return out.verdict.status.toUInt32

end Imprint

/-- Runs the command on the arguments it is called with. -/
def main (args : List String) : IO UInt32 :=
  Imprint.runCommand args

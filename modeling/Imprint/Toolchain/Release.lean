import Imprint.Text.Words
import Imprint.Toolchain.Launch

/-!
# Toolchain — asking for its release

A probe knows how a toolchain's version is found out: it is fixed, or a command is run and what it
writes to its standard output is the answer.  A command that cannot be started, or that does not
end with status 0, gives no answer.

A toolchain answers with some words, of which the last names the platform it was built for.  The
*release* is the answer without that word, and with single spaces between the words that remain,
whatever blanks stood between them.
-/

namespace Imprint.Toolchain

open Files (Tree)

/-- How the version of a toolchain is found out. -/
inductive Probe where
  | fixed (answer : Text)
  | command (program : Text) (args : List Text)
  deriving DecidableEq, Repr

/-- Why a command gives no answer. -/
inductive Silence where
  | notStarted (e : LaunchError)
  | failed (ending : Ending) (stderr : Bytes)
  deriving DecidableEq, Repr

/-- The program asked by default. -/
def defaultProgram : Text := "go".toList

/-- The arguments that ask a program for its version. -/
def defaultArgs : List Text := ["version".toList]

/-- The probe used where none is chosen. -/
def Probe.default : Probe := .command defaultProgram defaultArgs

/-- The wording of the reason. -/
def Silence.message : Silence → Text
  | .notStarted e         => e.message
  | .failed ending stderr => ending.message ++ ' ' :: Text.trimmed stderr.lossy

/-- The answer of a program. -/
def askProgram (t : Tree) (program : Text) (args : List Text) : Except Silence Text :=
  match launch t program args with
  | .error e                     => .error (.notStarted e)
  | .ok ⟨stdout, stderr, ending⟩ =>
    if ending = .exit 0 then .ok stdout.lossy else .error (.failed ending stderr)

/-- The words of a toolchain's answer but the last. -/
def release (answer : Text) : Text :=
  Text.joined answer.words.dropLast

end Imprint.Toolchain

import Imprint.Text.Words
import Imprint.Text.Utf8
import Imprint.Job

/-!
# Command — what is requested

A `Request` is what the arguments of a command line ask for.  The program that is asked for its
version is the one requested, or else the one that the environment names, or else the default.
-/

namespace Imprint.Command

/-- What the arguments of a command line ask for. -/
structure Request where
  logFile       : Bytes
  targetFile    : Bytes
  version       : Option Text
  toolchain     : Option Text
  toolchainArgs : List Text
  dryRun        : Bool
  json          : Bool
  verbose       : Bool
  deriving DecidableEq, Repr

/-- The program that a variable of the environment names: what is not text or blank names none. -/
def named? (chosen : Option Bytes) : Option Text :=
  ((chosen.bind Bytes.decode?).map Text.trimmed).filter (! ·.isEmpty)

namespace Request

/-- The program that is asked for its version. -/
def program (r : Request) (chosen : Option Bytes) : Text :=
  r.toolchain.getD ((named? chosen).getD Toolchain.defaultProgram)

/-- The job that is requested. -/
def job (r : Request) (chosen : Option Bytes) : Job :=
  ((Job.create r.logFile r.targetFile).withVersion r.version).withProbe
    (.command (r.program chosen) r.toolchainArgs)

end Request

end Imprint.Command

import Imprint.Job
import Imprint.Log.Event

/-!
# Job — its events

Each step of a job that succeeds is told by an event, and a command is told before it is run.  The
events are read off the steps; the job does not depend on them.
-/

namespace Imprint.Job

open Files (Tree)
open Log (Event)
open Toolchain (Probe)

/-- The event that comes before asking the toolchain. -/
def askingEvents : Probe → List Event
  | .fixed _              => []
  | .command program args => [.asking program args]

/-- The events of a job up to its draft. -/
def draftEvents (j : Job) (t : Tree) (today : Date) : List Event :=
  match countLog t j.log with
  | .error _  => []
  | .ok lines =>
    .counted j.log lines (buildString lines) :: askingEvents j.probe ++
      match ask t j.probe with
      | .error _   => []
      | .ok answer =>
        .answered (Toolchain.release answer) ::
          match readTarget t j.target with
          | .error _ => []
          | .ok text =>
            [.imprinted j.target ((j.metadata today lines answer).imprint text).replaced]

/-- The events of a job whose draft is all that is wanted. -/
def dryEvents (j : Job) (t : Tree) (today : Date) : List Event :=
  j.draftEvents t today ++
    match j.draft t today with
    | .error _ => []
    | .ok d    => [.leftAlone j.target d.imprinted.replaced]

/-- The events of a whole job. -/
def runEvents (j : Job) (t : Tree) (today : Date) : List Event :=
  j.draftEvents t today ++
    match j.draft t today with
    | .error _ => []
    | .ok d    =>
      match commit t j.target d.imprinted.text with
      | .error _ => []
      | .ok _    => [.stored j.target d.imprinted.replaced]

end Imprint.Job

import Imprint.Buffer
import Imprint.Command.Line
import Imprint.Job.Events
import Imprint.Log.Filter
import Imprint.Summary

/-!
# Command — one invocation

An invocation reads its arguments, does the job they request and reports the metadata on its
standard output; what its log lets through goes to standard error, and after it the error, if there
is one.  It ends with status 0, with 1 if the job failed or its report cannot be written, or with 2
if the arguments are wrong.

Only a job that is not a dry run may change the tree, and only if it succeeds.  The report comes
after the job: by the time standard output refuses it, the target is imprinted.
-/

namespace Imprint.Command

open Files (Tree)
open Log (Event Filter)

/-- What an invocation finds around it. -/
structure Surroundings where
  tree      : Tree
  today     : Date
  /-- The variable that names a toolchain. -/
  toolchain : Option Bytes
  /-- The variable that holds a log filter. -/
  filter    : Option Bytes
  /-- The time written in the log. -/
  time      : Text
  deriving DecidableEq, Repr

/-- How an invocation ends. -/
inductive Verdict where
  | done
  | failed
  /-- The job is done, and standard output refuses the report. -/
  | unreported
  | misused (e : UsageError)
  /-- The arguments are wrong, and standard output refuses to take down what is wrong with them. -/
  | aborted
  deriving DecidableEq, Repr

/-- The status of an ending. -/
def Verdict.status : Verdict → Nat
  | .done       => 0
  | .failed     => 1
  | .unreported => 1
  | .misused _  => 2
  | .aborted    => 101

/-- What an invocation leaves. -/
structure Outcome where
  verdict : Verdict
  /-- What it has to write to standard output.  How much of that arrives there is up to the sink. -/
  stdout  : Text
  stderr  : Text
  tree    : Tree
  deriving DecidableEq, Repr

/-- The filter of the log: that of the environment if it can be read, and else warnings, or with
`verbose` the details too. -/
def filterFor (verbose : Bool) (chosen : Option Bytes) : Filter :=
  ((chosen.bind Bytes.decode?).bind Filter.ofText?).getD
    (.all (if verbose then .debug else .warn))

namespace Request

/-- The metadata of the job, or why it failed, and the tree after it. -/
def execute (r : Request) (s : Surroundings) : Except Job.Error Metadata × Tree :=
  let job := r.job s.toolchain
  if r.dryRun then ((job.draft s.tree s.today).map (·.metadata), s.tree)
  else job.run s.tree s.today

/-- The events of the job. -/
def events (r : Request) (s : Surroundings) : List Event :=
  let job := r.job s.toolchain
  if r.dryRun then job.dryEvents s.tree s.today else job.runEvents s.tree s.today

/-- The report that is asked for. -/
def report (r : Request) : Report :=
  if r.json then .document else .summary

/-- The line that tells of a failure, with the causes after it. -/
def failure (r : Request) (e : Job.Error) : Text :=
  "error: failed to stamp ".toList ++ r.targetFile.lossy ++ [':', ' '] ++ e.message ++
    (match e.source? with
      | some cause => [':', ' '] ++ cause
      | none       => []) ++ ['\n']

/-- The log of the job. -/
def logText (r : Request) (s : Surroundings) : Text :=
  ((r.events s).filter (filterFor r.verbose s.filter).allows).flatMap (·.line s.time)

/-- The line that tells why a report cannot be written. -/
def refusal (reason : Text) : Text :=
  "error: ".toList ++ reason ++ ['\n']

/-- What the job leaves, if its report goes to this sink. -/
def outcome (r : Request) (s : Surroundings) (out : Sink := .endless) : Outcome :=
  let logText := r.logText s
  match r.execute s with
  | (.error e, t) => ⟨.failed, [], logText ++ r.failure e, t⟩
  | (.ok m, t)    =>
    match out.refusal? (r.report.pieces m) with
    | none        => ⟨.done, r.report.text m, logText, t⟩
    | some reason => ⟨.unreported, r.report.text m, logText ++ refusal reason, t⟩

end Request

/-- What an invocation with these arguments leaves.  Its standard output is a sink, and takes
everything unless another one is given.  The help and the version may get lost there without a word;
where a usage error gets lost, the invocation breaks off, and the message of that is kept. -/
def invoke (s : Surroundings) (args : List Bytes) (out : Sink := .endless) : Outcome :=
  match Request.ofWords args with
  | .ok r             => r.outcome s out
  | .error .help      => ⟨.done, help, [], s.tree⟩
  | .error .version   => ⟨.done, nameAndVersion, [], s.tree⟩
  | .error (.error e) =>
    match out.refusal? [e.report] with
    | none        => ⟨.misused e, e.report, [], s.tree⟩
    | some reason =>
      ⟨.aborted, e.report, "failed printing to stdout: ".toList ++ reason ++ ['\n'], s.tree⟩

end Imprint.Command

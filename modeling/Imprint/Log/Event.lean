import Imprint.Decimal
import Imprint.Text.Shown
import Imprint.Text.Utf8

/-!
# Log — what is worth telling about a job

An event is one thing that happened in a job.  It has a level and an origin, the part of the
program that tells it, and is written on one line: the time, the level, the origin, a message and
the values that belong to it.
-/

namespace Imprint.Log

/-- How much is told, from nothing to everything. -/
inductive Level where
  | off
  | error
  | warn
  | info
  | debug
  | trace
  deriving DecidableEq, Repr

namespace Level

/-- The place of the level in that order. -/
def rank : Level → Nat
  | .off   => 0
  | .error => 1
  | .warn  => 2
  | .info  => 3
  | .debug => 4
  | .trace => 5

/-- The level's name, five characters wide. -/
def label : Level → Text
  | .off   => "  OFF".toList
  | .error => "ERROR".toList
  | .warn  => " WARN".toList
  | .info  => " INFO".toList
  | .debug => "DEBUG".toList
  | .trace => "TRACE".toList

/-- The level with a number in digits, zeros before it aside. -/
def ofDigits? (ds : Text) : Option Level :=
  match ds.dropWhile (· = '0') with
  | []    => some .off
  | ['1'] => some .error
  | ['2'] => some .warn
  | ['3'] => some .info
  | ['4'] => some .debug
  | ['5'] => some .trace
  | _     => none

/-- The level with a name, in any case. -/
def named? (t : Text) : Option Level :=
  match String.ofList (t.map Char.toLower) with
  | "off"   => some .off
  | "error" => some .error
  | "warn"  => some .warn
  | "info"  => some .info
  | "debug" => some .debug
  | "trace" => some .trace
  | _       => none

/-- The level with a name, or with a number, which may have a plus sign. -/
def ofText? (t : Text) : Option Level :=
  let ds := if t.head? = some '+' then t.tail else t
  if ! ds.isEmpty && ds.all Char.isDigit then ofDigits? ds else named? t

end Level

/-- Something that happened in a job. -/
inductive Event where
  | counted (log : Bytes) (lines : UInt64) (buildString : Text)
  | asking (program : Text) (args : List Text)
  | answered (toolchain : Text)
  | imprinted (target : Bytes) (replaced : Nat)
  | stored (target : Bytes) (replaced : Nat)
  | leftAlone (target : Bytes) (replaced : Nat)
  deriving DecidableEq, Repr

namespace Event

/-- The level of an event. -/
def level : Event → Level
  | .counted .. | .asking .. | .answered .. | .imprinted .. => .debug
  | .stored .. | .leftAlone ..                               => .info

/-- The part of the program that tells an event. -/
def origin : Event → Text
  | .counted .. | .answered .. | .imprinted .. | .stored .. => "buildstamp_core::stamp".toList
  | .asking ..                                              => "buildstamp_core::toolchain".toList
  | .leftAlone ..                                           => "buildstamp_cli".toList

/-- The message of an event. -/
def message : Event → Text
  | .counted ..   => "counted log lines".toList
  | .asking ..    => "querying toolchain version".toList
  | .answered ..  => "resolved toolchain version".toList
  | .imprinted .. => "rewrote marker lines".toList
  | .stored ..    => "stamped build metadata".toList
  | .leftAlone .. => "dry run, target left untouched".toList

/-- A target and the number of its replaced lines. -/
def targetValues (target : Bytes) (replaced : Nat) : List (Text × Text) :=
  [("file".toList, target.lossy), ("rewritten_lines".toList, digits replaced)]

/-- The values that belong to an event. -/
def values : Event → List (Text × Text)
  | .counted log lines buildString =>
    [("log".toList, log.lossy), ("lines".toList, digits lines.toNat),
     ("build_string".toList, buildString)]
  | .asking program args           =>
    [("program".toList, program), ("args".toList, Text.shownAll args)]
  | .answered toolchain            => [("toolchain_version".toList, toolchain)]
  | .imprinted target replaced     => targetValues target replaced
  | .stored target replaced        => targetValues target replaced
  | .leftAlone target replaced     => targetValues target replaced

/-- The names that an event bears: that of its message, and those of its values. -/
def names (e : Event) : List Text :=
  "message".toList :: e.values.map (·.1)

/-- The line of an event. -/
def line (time : Text) (e : Event) : Text :=
  time ++ ' ' :: e.level.label ++ ' ' :: e.origin ++ [':', ' '] ++ e.message ++
    e.values.flatMap (fun v => ' ' :: v.1 ++ '=' :: v.2) ++ ['\n']

end Event

end Imprint.Log

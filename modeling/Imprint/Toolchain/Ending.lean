import Imprint.Decimal
import Imprint.Files.Tree

/-!
# Toolchain — how a program ends

A program exits with a status of one octet, or a signal ends it.  A signal that a program sends
itself need not end it: some are ignored and some only stop it, and then it goes on and exits.
-/

namespace Imprint.Toolchain

/-- How a program that was run ended. -/
inductive Ending where
  | exit (status : Nat)
  /-- It was killed by a signal. -/
  | killed (signal : Nat)
  deriving DecidableEq, Repr

/-- The numbers of the signals that have a name. -/
def signalNames : List (Nat × Text) :=
  [(1, "SIGHUP".toList), (2, "SIGINT".toList), (3, "SIGQUIT".toList), (4, "SIGILL".toList),
   (5, "SIGTRAP".toList), (6, "SIGABRT".toList), (7, "SIGBUS".toList), (8, "SIGFPE".toList),
   (9, "SIGKILL".toList), (10, "SIGUSR1".toList), (11, "SIGSEGV".toList), (12, "SIGUSR2".toList),
   (13, "SIGPIPE".toList), (14, "SIGALRM".toList), (15, "SIGTERM".toList), (16, "SIGSTKFLT".toList),
   (17, "SIGCHLD".toList), (18, "SIGCONT".toList), (19, "SIGSTOP".toList), (20, "SIGTSTP".toList),
   (21, "SIGTTIN".toList), (22, "SIGTTOU".toList), (23, "SIGURG".toList), (24, "SIGXCPU".toList),
   (25, "SIGXFSZ".toList), (26, "SIGVTALRM".toList), (27, "SIGPROF".toList),
   (28, "SIGWINCH".toList), (29, "SIGIO".toList), (30, "SIGPWR".toList), (31, "SIGSYS".toList)]

/-- The signals that do not end a program: the four that are ignored, and the four that stop it. -/
def harmlessSignals : List Nat := [17, 18, 23, 28, 19, 20, 21, 22]

/-- A signal that ends a program. -/
def isDeadly (signal : Nat) : Bool :=
  1 ≤ signal && signal ≤ 64 && ! harmlessSignals.contains signal

namespace Ending

/-- How a program ends that does this. -/
def ofTool (tool : Files.Tool) : Ending :=
  match tool.signal.filter isDeadly with
  | some signal => .killed signal
  | none        => .exit (tool.status % 256)

/-- The ending in words. -/
def message : Ending → Text
  | .exit status   => "exit status: ".toList ++ digits status
  | .killed signal =>
    "signal: ".toList ++ digits signal ++
      match signalNames.lookup signal with
      | some name => [' ', '('] ++ name ++ [')']
      | none      => []

end Ending

end Imprint.Toolchain

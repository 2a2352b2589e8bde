-- SUMMARY: Other programs: how they are started and how they end.
import Unbundle.Disk

/-!
# Programs

A run may use another program. What such a program does is not known here; a `Launcher` stands for it.
-/

namespace Unbundle.Program

/-- How a program ended. -/
inductive Exit where
  | code (n : Nat)
  | signal (n : Nat)
deriving DecidableEq, Repr, Inhabited

/-- The names of signals. -/
def signals : List (Nat × String) :=
  [(1, "SIGHUP"), (2, "SIGINT"), (3, "SIGQUIT"), (4, "SIGILL"), (6, "SIGABRT"), (8, "SIGFPE"),
    (9, "SIGKILL"), (10, "SIGUSR1"), (11, "SIGSEGV"), (12, "SIGUSR2"), (13, "SIGPIPE"),
    (14, "SIGALRM"), (15, "SIGTERM")]

def Exit.text : Exit → String
  | .code n => s!"exit status: {n}"
  | .signal n =>
    match signals.lookup n with
    | some name => s!"signal: {n} ({name})"
    | none => s!"signal: {n}"

/-- What a program leaves behind. -/
structure Outcome where
  exit : Exit
  output : List UInt8
  errors : List UInt8
deriving Repr, Inhabited

/-- Why a program cannot be started. -/
inductive LaunchFault where
  | file (fault : Fault)
  /-- An argument has a NUL byte. -/
  | nulByte
deriving DecidableEq, Repr, Inhabited

def LaunchFault.message : LaunchFault → String
  | .file fault => fault.message
  | .nulByte => "nul byte found in provided data"

/-- Starts a program with arguments and input. -/
abbrev Launcher :=
  (program : String) → (arguments : List String) → (input : List UInt8) →
    Except LaunchFault Outcome

end Unbundle.Program

-- SUMMARY: The configuration of a run.
import Unbundle.Engine

/-!
# Configuration

What a run can be told: where modules go, whether files are written, how many modules to emit, and
whether diagnostics are wanted.
-/

namespace Unbundle

structure Config where
  outputFolder : Option String := none
  dry : Bool := false
  clean : Bool := false
  prettier : Bool := false
  /-- How many modules to emit at most. -/
  limit : Option Nat := none
  logging : Logging := .verbose
deriving DecidableEq, Repr, Inhabited

namespace Config

/-- A limit as it is written: a negative number means no limit. -/
def limitOfInt (n : Int) : Option Nat :=
  if n < 0 then none else some n.toNat

/-- The settings that concern the engine. -/
def settings (c : Config) : Engine.Settings :=
  ⟨c.limit, c.logging⟩

end Config
end Unbundle

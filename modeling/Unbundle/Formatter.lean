-- SUMMARY: The external formatter for emitted code.
import Unbundle.Program
import Unbundle.Text.Character
import Unbundle.Text.Utf8

/-!
# Formatters

Emitted code can be passed through another program, which reads it and writes it in its own style.
-/

namespace Unbundle

/-- A program that formats code. -/
structure Formatter where
  program : String := "prettier"
deriving DecidableEq, Repr, Inhabited

/-- Why code could not be formatted. -/
inductive FormatError where
  | launch (program : String) (fault : Program.LaunchFault)
  | failed (fileName : String) (exit : Program.Exit) (errors : String)
  | invalidText (fault : String)
deriving DecidableEq, Repr, Inhabited

/-- What went wrong, followed by why. -/
def FormatError.chain : FormatError → List String
  | .launch program fault => [s!"Failed to run {program}", fault.message]
  | .failed fileName exit errors => [s!"prettier failed on {fileName} ({exit.text}): {errors}"]
  | .invalidText fault => ["prettier produced invalid UTF-8", fault]

namespace Formatter

/-- The style of emitted code. -/
def options : List String :=
  ["--no-semi", "--single-quote", "--jsx-single-quote", "--trailing-comma", "none"]

def arguments (fileName : String) : List String :=
  "--stdin-filepath" :: fileName :: options

/-- Formats the code of a file. -/
def format (launch : Program.Launcher) (f : Formatter) (code fileName : String) :
    Except FormatError String :=
  match launch f.program (arguments fileName) code.toUTF8.toList with
  | .error fault => .error (.launch f.program fault)
  | .ok outcome =>
    if outcome.exit == .code 0 then
      match Text.Utf8.decode outcome.output with
      | .ok text => .ok text
      | .error fault => .error (.invalidText fault)
    else
      .error (.failed fileName outcome.exit (Text.trimBlank (Text.Utf8.lossy outcome.errors)))

end Formatter
end Unbundle

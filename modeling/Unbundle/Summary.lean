-- SUMMARY: One-line summaries of what a run works with.
import Unbundle.Run

/-!
# Summaries

A script, a writer and an engine can each be shown in one line.
-/

namespace Unbundle

/-- A record: its name, some of its fields, and a mark that there are more. -/
def summary (name : String) (fields : List (String × String)) : String :=
  let shown := fields.map fun (field, value) => s!"{field}: {value}, "
  name ++ " \x7b " ++ String.join shown ++ ".. \x7d"

/-- A value that may be absent. -/
def summaryOption : Option String → String
  | none => "None"
  | some s => s!"Some({s})"

def Script.summary (s : Script) : String :=
  Unbundle.summary "ParsedScript" [("statements", toString s.body.length)]

def Formatter.summary (f : Formatter) : String :=
  "Prettier \x7b program: " ++ Text.escaped true f.program ++ " \x7d"

def Writer.summary (w : Writer) : String :=
  Unbundle.summary "OutputWriter"
    [("output_folder", Text.escaped true w.folder), ("dry", toString w.dry),
      ("prettier", summaryOption (w.formatter.map Formatter.summary))]

namespace Engine

/-- The stages of the walk, in order. -/
def stages : List String :=
  ["track-scope", "transform-requires", "transform-trivials"]

/-- An engine that has not started yet. -/
def Settings.summary (s : Settings) : String :=
  let names := ", ".intercalate (stages.map (Text.escaped false))
  Unbundle.summary "Deminifier"
    [("stages", s!"[{names}]"), ("limit", summaryOption (s.limit.map toString)),
      ("emitted", "0"), ("done", "false")]

end Engine
end Unbundle

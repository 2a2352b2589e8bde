-- SUMMARY: One run: from the file of a bundle to the files of its modules.
import Unbundle.Config.Layer
import Unbundle.Script.Parser
import Unbundle.Writer

/-!
# Runs

A run reads a bundle, splits it and writes its modules. What can fail before anything is changed is
tried first.
-/

namespace Unbundle

/-- Why a run fails. -/
inductive RunError where
  | noOutputFolder
  | read (path : String) (fault : Fault)
  | parse (error : Script.SyntaxError)
  | clean (folder : String) (fault : Fault)
  | emit (error : EmitError)

/-- What went wrong, followed by why. -/
def RunError.chain : RunError → List String
  | .noOutputFolder => [Config.noOutputFolder]
  | .read path fault => [s!"Failed to read bundle {path}", fault.message]
  | .parse error => [error.message]
  | .clean folder fault => [s!"Failed to clean output folder {folder}", fault.message]
  | .emit error => error.chain

/-- The links of a chain as one message. -/
def chainMessage (chain : List String) : String :=
  ": ".intercalate chain

namespace Run

/-- What a run leaves behind. -/
structure Report where
  /-- The number of modules, or why the run failed. -/
  result : Except RunError Nat
  disk : Disk
  log : List Event

/-- How modules are written with some settings. -/
def writer (c : Config) (folder : String) : Writer :=
  ⟨folder, c.dry, if c.prettier then some {} else none⟩

/-- Removes the output folder; it need not be there. -/
def clean (folder : String) : ExceptT RunError (StateM Disk) Unit := do
  try (Disk.removeAll folder).adapt (.clean folder)
  catch
    | .clean _ .notFound => pure ()
    | error => throw error

/-- Splits a script and writes its modules. -/
def split (launch : Program.Launcher) (input folder : String) (c : Config) (script : Script)
    (d : Disk) : Report :=
  let outcome := Engine.run (Writer.sink launch (writer c folder)) c.settings d script
  match outcome.result with
  | .ok n => ⟨.ok n, outcome.sink, outcome.log ++ [.deminified n input folder]⟩
  | .error error => ⟨.error (.emit error), outcome.sink, outcome.log⟩

/-- Splits a script into a folder, which is removed first if that is asked for. -/
def splitInto (launch : Program.Launcher) (input folder : String) (c : Config) (script : Script)
    (d : Disk) : Report :=
  if c.clean && !c.dry then
    match (clean folder).run d with
    | (.error error, d) => ⟨.error error, d, [.removing folder]⟩
    | (.ok (), d) =>
      let report := split launch input folder c script d
      { report with log := .removing folder :: report.log }
  else split launch input folder c script d

/-- Splits the bundle in a file. -/
def file (launch : Program.Launcher) (input : String) (c : Config) (d : Disk) : Report :=
  match c.outputFolder with
  | none => ⟨.error .noOutputFolder, d, []⟩
  | some folder =>
    match d.read input with
    | .error fault => ⟨.error (.read input fault), d, []⟩
    | .ok source =>
      match Script.parse input source with
      | .error error => ⟨.error (.parse error), d, []⟩
      | .ok script =>
        let report := splitInto launch input folder c script d
        { report with log := .parsed input script.body.length :: report.log }

end Run
end Unbundle

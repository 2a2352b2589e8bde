-- SUMMARY: Writing modules below an output folder.
import Unbundle.Engine
import Unbundle.Formatter

/-!
# Writing modules

Code goes to a file with the name of its module and the ending `.js`, a text asset to the file of its
name, both below the output folder.
-/

namespace Unbundle

/-- Why a module could not be written. -/
inductive EmitError where
  | format (error : FormatError)
  | makeDirs (path : String) (fault : Fault)
  | write (path : String) (fault : Fault)
deriving DecidableEq, Repr, Inhabited

/-- What went wrong, followed by why. -/
def EmitError.chain : EmitError → List String
  | .format error => error.chain
  | .makeDirs path fault => [s!"Failed to create directory {path}", fault.message]
  | .write path fault => [s!"Failed to write {path}", fault.message]

/-- Where modules go, and how. -/
structure Writer where
  folder : String
  /-- Write nothing. -/
  dry : Bool
  formatter : Option Formatter
deriving DecidableEq, Repr, Inhabited

/-- The file of a module, by its name. -/
def Module.fileName (m : Module) : String :=
  match m.body with
  | .code .. => m.name ++ ".js"
  | .text _ => m.name

namespace Writer

/-- The path of a file below the folder. Slashes at the start of its name do not count. -/
def target (w : Writer) (fileName : String) : String :=
  Path.join w.folder (Path.relative fileName)

/-- What the file of a module holds. -/
def contents (launch : Program.Launcher) (w : Writer) (m : Module) : Except FormatError String :=
  match m.body, w.formatter with
  | .code imports body, none => .ok (Module.printCode imports body)
  | .code imports body, some f => f.format launch (Module.printCode imports body) m.fileName
  | .text content, _ => .ok content

/-- Writes a file, and makes the directories above it. -/
def save (path content : String) : ExceptT EmitError (StateM Disk) Unit := do
  match Path.parent? path with
  | some above => (Disk.makeDirs (Path.ancestors above.length above)).adapt (.makeDirs above)
  | none => pure ()
  (Disk.write path content.toUTF8).adapt (.write path)

/-- Writes modules to a disk, one after the other. -/
def sink (launch : Program.Launcher) (w : Writer) : Engine.Sink Disk EmitError :=
  fun disk m =>
    match w.contents launch m with
    | .error error => ⟨disk, [], some (.format error)⟩
    | .ok content =>
      if w.dry then ⟨disk, [.emitting m.name], none⟩
      else
        match (save (w.target m.fileName) content).run disk with
        | (.ok (), disk) => ⟨disk, [.emitting m.name], none⟩
        | (.error error, disk) => ⟨disk, [.emitting m.name], some error⟩

end Writer
end Unbundle

-- SUMMARY: The program: files are loaded, the run is computed, and its changes are written back.
import Unbundle.Cli

/-!
# The program

Everything that decides something is in `Cli.run`. This module only brings the files that a run can
look at onto a disk, and writes back what has changed on it. Other programs are not started.
-/

namespace Unbundle.Main

-- ---------------------------------------------------------------------------
-- Loading
-- ---------------------------------------------------------------------------

/-- The names on the way to a path. -/
def route (current : Disk.Route) (path : String) : Disk.Route :=
  (Path.pieces path).foldl (fun here piece =>
    if piece.isEmpty || piece == "." then here
    else if piece == ".." then here.dropLast
    else here ++ [piece]) (if Path.isAbsolute path then [] else current)

/-- Loads a file or a directory, without what is in it. -/
def loadNode (path : String) (d : Disk) : IO Disk := do
  let file := (← IO.currentDir) / path
  if ← file.isDir then return d.plant (route d.current path) .dir
  else if ← file.pathExists then
    return d.plant (route d.current path) (.file (← IO.FS.readBinFile file) true)
  else return d

/-- Loads a path and the directories on the way to it. -/
def loadPath (path : String) (d : Disk) : IO Disk :=
  (Path.ancestors (path.length + 1) path).reverse.foldlM (fun d p => loadNode p d) d

/-- Loads a directory with everything in it. -/
partial def loadTree (path : String) (d : Disk) : IO Disk := do
  let d ← loadNode path d
  let folder := (← IO.currentDir) / path
  if ← folder.isDir then
    (← folder.readDir).foldlM (fun d entry => loadTree (Path.join path entry.fileName) d) d
  else return d

/-- The files that tell where modules go: the bundle and the configuration. -/
def loadSources (user : Config.Surroundings) (o : Cli.Options) (d : Disk) : IO Disk :=
  let paths := user.userFile?.toList ++ [Config.fileName] ++ o.input.toList ++ o.config.toList
  paths.foldlM (fun d path => loadPath path d) d

/-- The folder that modules go to. -/
def loadOutput (user : Config.Surroundings) (o : Cli.Options) (d : Disk) : IO Disk := do
  match (Config.load user o.config d).2 with
  | .error _ => return d
  | .ok c =>
    match (c.apply o.layer).outputFolder with
    | none => return d
    | some folder => loadTree folder (← loadPath folder d)

/-- No program is found, so that code is written as it is printed. -/
def launcher : Program.Launcher :=
  fun _ _ _ => .error (.file .notFound)

-- ---------------------------------------------------------------------------
-- Writing back
-- ---------------------------------------------------------------------------

def pathOf (route : Disk.Route) : String :=
  "/" ++ "/".intercalate route

/-- Removes what is gone, the innermost first. -/
def removeOld (before after : Disk) : IO Unit := do
  let gone := before.nodes.filter fun e => (after.get? e.1).map Node.isDir != some e.2.isDir
  for (route, node) in gone.mergeSort fun a b => b.1.length ≤ a.1.length do
    if node.isDir then IO.FS.removeDir (pathOf route) else IO.FS.removeFile (pathOf route)

/-- Writes what is new or changed, the outermost first. -/
def writeNew (before after : Disk) : IO Unit := do
  let changed := after.nodes.filter fun e => before.get? e.1 != some e.2
  for (route, node) in changed.mergeSort fun a b => a.1.length ≤ b.1.length do
    match node with
    | .dir => IO.FS.createDirAll (pathOf route)
    | .file content _ => IO.FS.writeBinFile (pathOf route) content

end Unbundle.Main

open Unbundle

def main (arguments : List String) : IO UInt32 := do
  let current := ((← IO.currentDir).components).filter (!·.isEmpty)
  let user : Config.Surroundings :=
    ⟨(← IO.getEnv "HOME").elim (.error "could not locate home directory") .ok,
      ← IO.getEnv "XDG_CONFIG_HOME"⟩
  let mut disk : Disk := Disk.plant ⟨[], current⟩ current .dir
  if let .ok o := Cli.Options.parse arguments then
    disk ← Main.loadSources user o disk
    disk ← Main.loadOutput user o disk
  let env : Cli.Environment := ⟨user, ← IO.getEnv "RUST_LOG", Main.launcher⟩
  let result := Cli.run env arguments disk
  Main.removeOld disk result.disk
  Main.writeNew disk result.disk
  result.output.forM (IO.println ·)
  result.errors.forM (IO.eprintln ·)
  return result.exit.toUInt32

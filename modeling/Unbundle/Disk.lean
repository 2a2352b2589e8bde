-- SUMMARY: Directories and files, and what can be done with them.
import Unbundle.Path

/-!
# Disks

A disk holds directories and files. Paths are followed piece by piece, `..` leads to the directory
above, and every operation fails with a `Fault` if a path does not lead where it should. What an
operation has done before it fails stays done.

Symbolic links and permissions are left out: a path leads to one place only, everything can be read
and written, and of the mode of a file only whether it can be executed is kept.
-/

namespace Unbundle

/-- Why an operation on files fails. -/
inductive Fault where
  | notFound | notDirectory | isDirectory | occupied | nameTooLong
  | invalidArgument | notEmpty | busy | denied | notExecutable
  | invalidText
  | nulByte
deriving DecidableEq, Repr, Inhabited

namespace Fault

def message : Fault → String
  | .notFound => "No such file or directory (os error 2)"
  | .notExecutable => "Exec format error (os error 8)"
  | .denied => "Permission denied (os error 13)"
  | .busy => "Device or resource busy (os error 16)"
  | .occupied => "File exists (os error 17)"
  | .notDirectory => "Not a directory (os error 20)"
  | .isDirectory => "Is a directory (os error 21)"
  | .invalidArgument => "Invalid argument (os error 22)"
  | .nameTooLong => "File name too long (os error 36)"
  | .notEmpty => "Directory not empty (os error 39)"
  | .invalidText => "stream did not contain valid UTF-8"
  | .nulByte => "file name contained an unexpected NUL byte"

end Fault

/-- The names on the way from the root of a disk. -/
abbrev Disk.Route := List String

/-- Contents of files are compared byte by byte. -/
instance decEqContent : DecidableEq ByteArray := ByteArray.decEq

inductive Node where
  | dir
  | file (content : ByteArray) (executable : Bool)
deriving DecidableEq, Inhabited

def Node.isDir : Node → Bool
  | .dir => true
  | .file .. => false

structure Disk where
  /-- Everything but the root, which is always there. -/
  nodes : List (Disk.Route × Node)
  /-- Where relative paths start. -/
  current : Disk.Route
deriving DecidableEq, Inhabited

namespace Disk

-- ---------------------------------------------------------------------------
-- Nodes by route
-- ---------------------------------------------------------------------------

def get? (d : Disk) (l : Route) : Option Node :=
  if l.isEmpty then some .dir else d.nodes.lookup l

def insert (d : Disk) (l : Route) (n : Node) : Disk :=
  { d with nodes := (l, n) :: d.nodes.filter (·.1 != l) }

/-- Removes what is below a route. -/
def eraseBelow (d : Disk) (l : Route) : Disk :=
  { d with nodes := d.nodes.filter fun e => !(l.isPrefixOf e.1 && e.1 != l) }

def erase (d : Disk) (l : Route) : Disk :=
  { d with nodes := d.nodes.filter (·.1 != l) }

/-- Puts a node at a route, with the directories above it. -/
def plant (d : Disk) (l : Route) (n : Node) : Disk :=
  let above := ((List.range l.length).drop 1).map l.take
  let d := above.foldl (fun d a => if (d.get? a).isSome then d else d.insert a .dir) d
  d.insert l n

-- ---------------------------------------------------------------------------
-- Following paths
-- ---------------------------------------------------------------------------

/-- Where a path ends: a directory, and the last piece of the path in it. -/
structure Spot where
  dir : Route
  /-- A name, `.` or `..`; empty for the root. -/
  last : String
  /-- The path ends with a slash. -/
  slash : Bool
deriving Repr, Inhabited

namespace Spot

/-- The last piece is a name. -/
def isNamed (s : Spot) : Bool :=
  !s.last.isEmpty && s.last != "." && s.last != ".."

def route (s : Spot) : Route :=
  if s.last.isEmpty || s.last == "." then s.dir
  else if s.last == ".." then s.dir.dropLast
  else s.dir ++ [s.last]

end Spot

/-- The number of bytes that a name can have. -/
def longestName : Nat := 255

/-- The number of bytes that a path can have. -/
def longestPath : Nat := 4095

/-- Goes down from a directory, piece by piece. -/
def descend (d : Disk) : Route → List String → Except Fault Route
  | here, [] => if (d.get? here).isSome then .ok here else .error .notFound
  | here, piece :: rest =>
    if piece == "." then d.descend here rest
    else if piece == ".." then d.descend here.dropLast rest
    else if longestName < piece.utf8ByteSize then .error .nameTooLong
    else match d.get? (here ++ [piece]) with
      | none => .error .notFound
      | some (.file ..) => .error .notDirectory
      | some .dir => d.descend (here ++ [piece]) rest

/-- Where a path ends. -/
def spot (d : Disk) (path : String) : Except Fault Spot := do
  if path.toList.contains '\x00' then throw .nulByte
  if path.isEmpty then throw .notFound
  if longestPath < path.utf8ByteSize then throw .nameTooLong
  let names := (Path.pieces path).filter (!·.isEmpty)
  match names.getLast? with
  | none => return ⟨[], "", true⟩
  | some last =>
    let dir ← d.descend (if Path.isAbsolute path then [] else d.current) names.dropLast
    if longestName < last.utf8ByteSize then throw .nameTooLong
    return ⟨dir, last, Path.endsWithSlash path⟩

/-- What a path leads to. -/
def stat (d : Disk) (path : String) : Except Fault Node := do
  let s ← d.spot path
  match d.get? s.route with
  | none => throw .notFound
  | some .dir => return .dir
  | some node => if s.slash then throw .notDirectory else return node

def isDir (d : Disk) (path : String) : Bool :=
  match d.stat path with
  | .ok .dir => true
  | _ => false

def isFile (d : Disk) (path : String) : Bool :=
  match d.stat path with
  | .ok (.file ..) => true
  | _ => false

/-- The text of a file. -/
def read (d : Disk) (path : String) : Except Fault String := do
  match ← d.stat path with
  | .dir => throw .isDirectory
  | .file content _ =>
    match String.fromUTF8? content with
    | some text => return text
    | none => throw .invalidText

-- ---------------------------------------------------------------------------
-- Changes
-- ---------------------------------------------------------------------------

/-- Changes a disk, unless it fails. -/
abbrev Change := ExceptT Fault (StateM Disk)

/-- Makes a directory in one that is there. -/
def makeDir (path : String) : Change Unit := do
  let d ← get
  let s ← d.spot path
  if !s.isNamed || (d.get? s.route).isSome then throw .occupied
  else set (d.insert s.route .dir)

/-- Makes a directory unless it is there. -/
def ensureDir (path : String) : Change Unit := do
  try makeDir path
  catch fault =>
    if !(← get).isDir path then throw fault

/-- Makes the first of some directories, of which each is in the next one; those that are missing are
made too. -/
def makeDirs : List String → Change Unit
  | [] => pure ()
  | path :: above => do
    try makeDir path
    catch
      | .notFound => do
        makeDirs above
        ensureDir path
      | fault => do
        if !(← get).isDir path then throw fault

/-- Writes a file in a directory that is there. -/
def write (path : String) (content : ByteArray) : Change Unit := do
  let d ← get
  let s ← d.spot path
  if !s.isNamed || s.slash then throw .isDirectory
  match d.get? s.route with
  | some .dir => throw .isDirectory
  | some (.file _ executable) => set (d.insert s.route (.file content executable))
  | none => set (d.insert s.route (.file content false))

/-- Removes a directory and everything in it. -/
def removeAll (path : String) : Change Unit := do
  let d ← get
  match ← d.stat path with
  | .file .. => throw .notDirectory
  | .dir =>
    let s ← d.spot path
    let emptied := d.eraseBelow s.route
    set emptied
    if s.isNamed then set (emptied.erase s.route)
    else if s.last == "." then throw .invalidArgument
    else if s.last == ".." then throw .notEmpty
    else throw .busy

end Disk
end Unbundle

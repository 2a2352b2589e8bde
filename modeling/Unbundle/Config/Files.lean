-- SUMMARY: Where the configuration is kept, and how it is put together.
import Unbundle.Config.Layer
import Unbundle.Disk

/-!
# Configuration files

The user's file comes first, then the file of the project: an explicit one, or `demin.toml` in the
current directory if it is there.
-/

namespace Unbundle.Config

/-- What the surroundings of a run say about the user. -/
structure Surroundings where
  /-- The home directory, or why there is none. -/
  home : Except String String
  /-- The directory for configurations, if there is one; it counts only if it is absolute. -/
  configHome : Option String
deriving Repr, Inhabited

/-- The name of configuration files. -/
def fileName : String := "demin.toml"

namespace Surroundings

/-- The directory that holds all configurations of a user with this home directory. -/
def base (s : Surroundings) (home : String) : String :=
  match s.configHome.filter Path.isAbsolute with
  | some dir => dir
  | none => Path.join home ".config/"

/-- The directory that holds this configuration. A user without a home directory has none. -/
def userDir? (s : Surroundings) : Option String :=
  s.home.toOption.map fun home => Path.join (s.base home) "demin"

def userFile? (s : Surroundings) : Option String :=
  s.userDir?.map (Path.join · fileName)

/-- What looking for the file of the user gives rise to report. -/
def events (s : Surroundings) : List Event :=
  match s.home with
  | .ok _ => []
  | .error reason => [.noHome reason]

end Surroundings

/-- Why a configuration is refused. -/
inductive LoadError where
  | read (path : String) (fault : Fault)
  | invalid (path : String) (message : String)
deriving DecidableEq, Repr, Inhabited

/-- What went wrong, followed by why. -/
def LoadError.chain : LoadError → List String
  | .read path fault => [s!"Failed to read config file {path}", fault.message]
  | .invalid path message => [s!"Invalid config file {path}", message]

/-- Puts a file on top of the settings. -/
def applyFile (d : Disk) (path : String) (c : Config) : Except LoadError Config :=
  match d.read path with
  | .error fault => .error (.read path fault)
  | .ok document =>
    match c.applyDocument document with
    | .ok c => .ok c
    | .error message => .error (.invalid path message)

/-- The files that are put on top of the defaults, in order, with what is reported about them. -/
def sources (s : Surroundings) (explicit : Option String) (d : Disk) :
    List (String × List Event) :=
  let user := match s.userFile?.filter d.isFile with
    | some path => [(path, [Event.loadingUserConfig path])]
    | none => []
  let project := match explicit with
    | some path => [(path, [])]
    | none => if d.isFile fileName then [(fileName, [Event.loadingProjectConfig fileName])] else []
  user ++ project

/-- Puts files on top of the settings, up to the first that is refused. -/
def loadFrom (d : Disk) : List (String × List Event) → Config → List Event × Except LoadError Config
  | [], c => ([], .ok c)
  | (path, events) :: rest, c =>
    match applyFile d path c with
    | .error error => (events, .error error)
    | .ok c =>
      let (more, result) := loadFrom d rest c
      (events ++ more, result)

/-- The configuration of a run, before the command line. -/
def load (s : Surroundings) (explicit : Option String) (d : Disk) :
    List Event × Except LoadError Config :=
  let (events, result) := loadFrom d (sources s explicit d) {}
  (s.events ++ events, result)

end Unbundle.Config

-- SUMMARY: Choosing local names for imports.
import Unbundle.Log
import Unbundle.Text.PascalCase

/-!
# Names for imports

The name for a path is its last segment in PascalCase, where segments end at `/` and `!`. A segment
that cannot start an identifier takes in the segments before it; if none can, the name starts with
`M`. A name that is taken gets the first free number from 1 to 9; if all are taken, the name is used
all the same.
-/

namespace Unbundle.Naming

/-- The text starts like an identifier. -/
def startsIdentifier : List Char → Bool
  | [] => false
  | c :: _ => c.isAlpha || c == '_' || c == '$'

/-- The characters between segments. -/
def isDelimiter (c : Char) : Bool :=
  c == '/' || c == '!'

/-- The segments of a path. -/
def segments (basis : List Char) : List (List Char) :=
  basis.splitOnP isDelimiter

/-- The shortest row of last segments that starts like an identifier. -/
def lastSegments? : List (List Char) → Option (List (List Char))
  | [] => none
  | s :: rest =>
    match lastSegments? rest with
    | some found => some found
    | none => if startsIdentifier s then some (s :: rest) else none

/-- The text that a name is made from: segments joined by hyphens. -/
def base (basis : List Char) : List Char :=
  match lastSegments? (segments basis) with
  | some found => ['-'].intercalate found
  | none => 'M' :: '-' :: ['-'].intercalate (segments basis)

/-- The name for a path, taken or not, where `convert` puts its words together. -/
def candidateBy (convert : List Char → List Char) (basis : String) : String :=
  let name := convert (base basis.toList)
  String.ofList (if startsIdentifier name then name else 'M' :: name)

/-- The name for a path, taken or not. -/
def candidate (basis : String) : String :=
  candidateBy Text.pascalCase basis

/-- The names to try in turn when a name is taken. -/
def alternatives (name : String) : List String :=
  (List.range 9).map fun i => name ++ toString (i + 1)

/-- A chosen name, whether it was free, and what there is to report. -/
structure Choice where
  name : String
  isFree : Bool
deriving DecidableEq, Repr, Inhabited

/-- A name among names that are taken: the name itself, or the first free alternative to it. -/
def chooseName (taken : List String) (name : String) : Choice :=
  match (name :: alternatives name).find? fun n => !taken.contains n with
  | some free => ⟨free, true⟩
  | none => ⟨name, false⟩

/-- The name for `basis` among names that are taken. -/
def choose (taken : List String) (basis : String) : Choice :=
  chooseName taken (candidate basis)

/-- What choosing a name reports. -/
def Choice.events (c : Choice) (logging : Logging) (basis : String) : List Event :=
  (if c.isFree then [] else logging.warnings [.duplicateName c.name]) ++ [.allocated c.name basis]

end Unbundle.Naming

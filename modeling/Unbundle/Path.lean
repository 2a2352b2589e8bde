-- SUMMARY: Paths of files: joining, parents, components.

/-!
# Paths

A path is a text with slashes between its pieces. Paths are kept as they are written; nothing is
normalized.
-/

namespace Unbundle.Path

def isAbsolute (path : String) : Bool :=
  path.toList.head? == some '/'

def endsWithSlash (path : String) : Bool :=
  path.toList.getLast? == some '/'

/-- A path below another one. An absolute path stays what it is. -/
def join (base path : String) : String :=
  if isAbsolute path then path
  else if base.isEmpty || endsWithSlash base then base ++ path
  else base ++ "/" ++ path

/-- The texts between slashes. -/
def split : List Char → List (List Char)
  | [] => [[]]
  | c :: rest =>
    if c == '/' then [] :: split rest
    else match split rest with
      | [] => [[c]]
      | piece :: more => (c :: piece) :: more

/-- The pieces of a path; an absolute path starts with an empty one. -/
def pieces (path : String) : List String :=
  (split path.toList).map String.ofList

/-- Pieces in reverse order without those at the end of the path that name nothing. The first piece of
the path stays. -/
def trim : List String → List String
  | [] => []
  | [piece] => [piece]
  | piece :: rest => if piece.isEmpty || piece == "." then trim rest else piece :: rest

/-- The path that holds what a path leads to. The root and the empty path have none. -/
def parent? (path : String) : Option String :=
  match trim (pieces path).reverse with
  | [] => none
  | [piece] => if piece.isEmpty then none else some ""
  | _ :: rest =>
    match trim rest with
    | [""] => some "/"
    | above => some ("/".intercalate above.reverse)

/-- A path and those above it, the nearest first. The root and the empty path are left out. The length
of the path bounds their number. -/
def ancestors : (fuel : Nat) → (path : String) → List String
  | 0, _ => []
  | fuel + 1, path =>
    match parent? path with
    | none => []
    | some above => path :: ancestors fuel above

/-- A name without the slashes at its start. -/
def relative (name : String) : String :=
  String.ofList (name.toList.dropWhile (· == '/'))

end Unbundle.Path

-- SUMMARY: From the recorded uses of dependencies to imports and their local names.
import Unbundle.Amd.Binding
import Unbundle.Module
import Unbundle.Naming

/-!
# Imports

A factory body is read once, and what it finds is kept as `Findings`: how the body uses its
dependencies, and which names it holds. `Imports.ofFindings` chooses a local name for every path that
is used: first for uses by name, in order, then for uses of `default`.
-/

namespace Unbundle

/-- A place where a factory body uses one of its parameters. -/
structure Use where
  param : String
  kind : UseKind
  /-- The part of the source that gives way to a local name. -/
  span : Span
deriving DecidableEq, Repr, Inhabited

/-- What is found in a factory body. -/
structure Findings where
  /-- Uses of parameters, in order. -/
  uses : Array Use
  /-- Names that an import must not take. -/
  taken : List String
  /-- Shorthand properties whose value has a reserved word for a name, and these words. -/
  spelledOut : List (Span × String)
deriving DecidableEq, Repr, Inhabited

namespace Findings

def empty : Findings := ⟨#[], [], []⟩

def addUse (f : Findings) (use : Use) : Findings :=
  { f with uses := f.uses.push use }

def spellOut (f : Findings) (span : Span) (word : String) : Findings :=
  { f with spelledOut := f.spelledOut ++ [(span, word)] }

def addName (f : Findings) (name : String) : Findings :=
  { f with taken := if f.taken.contains name then f.taken else name :: f.taken }

end Findings

/-- The local names of the imported paths, in the order they were chosen. -/
structure Locals where
  namespaces : List (String × String)
  defaults : List (String × String)
deriving DecidableEq, Repr, Inhabited

namespace Locals

/-- The local name for a use of a path. -/
def get? (l : Locals) (kind : UseKind) (path : String) : Option String :=
  if kind.isDefault then l.defaults.lookup path else l.namespaces.lookup path

/-- One import per path: those with uses by name, then those with uses of `default` only. -/
def imports (l : Locals) : List Import :=
  let withName := l.namespaces.map fun (path, name) => ⟨path, l.defaults.lookup path, some name⟩
  let defaultOnly := l.defaults.filter fun (path, _) => (l.namespaces.lookup path).isNone
  withName ++ defaultOnly.map fun (path, name) => ⟨path, some name, none⟩

end Locals

namespace Imports

/-- What is appended to a path to name its default export when its name is in use. -/
def defaultMark : String := "-default"

/-- Names chosen so far, the names that are taken, and what there is to report. -/
structure Names where
  locals : Locals
  taken : List String
  events : List Event
deriving Repr, Inhabited

namespace Names

/-- Reports an event. -/
def report (n : Names) (events : List Event) : Names :=
  { n with events := n.events ++ events }

/-- Chooses a name for `basis` and takes it. -/
def allocate (n : Names) (logging : Logging) (basis : String) : String × Names :=
  let choice := Naming.choose n.taken basis
  (choice.name,
    { n with taken := choice.name :: n.taken, events := n.events ++ choice.events logging basis })

/-- Sees to a use by name. -/
def addNamespace (binding : Amd.Binding) (logging : Logging) (n : Names) (use : Use) : Names :=
  match binding.path? use.param with
  | none => n.report (logging.warnings [.unhandledNamespace use.param])
  | some path =>
    match n.locals.namespaces.lookup path with
    | some _ => n
    | none =>
      let (name, n) := n.allocate logging path
      { n with locals := { n.locals with namespaces := n.locals.namespaces ++ [(path, name)] } }

/-- Sees to a use of `default`. -/
def addDefault (binding : Amd.Binding) (logging : Logging) (n : Names) (use : Use) : Names :=
  match binding.path? use.param with
  | none => n.report (logging.warnings [.unhandledDefault use.param])
  | some path =>
    match n.locals.defaults.lookup path with
    | some _ => n
    | none =>
      let basis :=
        if (n.locals.namespaces.lookup path).isSome then path ++ defaultMark else path
      let (name, n) := n.allocate logging basis
      { n with locals := { n.locals with defaults := n.locals.defaults ++ [(path, name)] } }

end Names

/-- Chooses the local names for what was found in a body. -/
def ofFindings (binding : Amd.Binding) (logging : Logging) (f : Findings) : Names :=
  let (defaults, names) := f.uses.toList.partition (·.kind.isDefault)
  let start : Names := ⟨⟨[], []⟩, f.taken, []⟩
  let named := names.foldl (Names.addNamespace binding logging) start
  defaults.foldl (Names.addDefault binding logging) named

/-- The number of places that change: uses of imported paths, and properties spelled out. -/
def replacements (binding : Amd.Binding) (f : Findings) : Nat :=
  (f.uses.toList.filter fun use => (binding.path? use.param).isSome).length + f.spelledOut.length

end Imports
end Unbundle

-- SUMMARY: What the parameters of a factory stand for.
import Unbundle.Amd.Definition

/-!
# Bindings

The loader passes the dependencies of a module to its factory by position. Two paths are reserved: a
parameter for `require` or `exports` stands for that word itself, any other for the module with that
path. A parameter without a dependency is not bound.
-/

namespace Unbundle.Amd

/-- What a bound parameter stands for. -/
inductive Target where
  | require
  | exports
  | module (path : String)
deriving DecidableEq, Repr, Inhabited

def Target.ofPath (path : String) : Target :=
  if path == "require" then .require
  else if path == "exports" then .exports
  else .module path

/-- Parameters with what they stand for, in order. Of several entries for a name the last counts. -/
structure Binding where
  entries : List (String × Target)
deriving DecidableEq, Repr, Inhabited

namespace Binding

/-- Binds parameters to dependencies by position, as far as both lists go. -/
def ofDefinition (d : Definition) : Binding :=
  ⟨d.params.zip (d.dependencies.map Target.ofPath)⟩

def get? (b : Binding) (param : String) : Option Target :=
  b.entries.reverse.lookup param

/-- The path that a parameter is imported from. -/
def path? (b : Binding) (param : String) : Option String :=
  match b.get? param with
  | some (.module path) => some path
  | _ => none

/-- The number of bound names. -/
def size (b : Binding) : Nat :=
  (b.entries.map (·.1)).eraseDups.length

end Binding
end Unbundle.Amd

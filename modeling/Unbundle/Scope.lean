-- SUMMARY: Scopes, the stack of open scopes, and how names resolve in it.
import Unbundle.Scope.Declarations
import Unbundle.Script.Spelling

/-!
# Scopes

A scope is opened by a script, a function of any form, a catch clause, or a class expression with a
name. Its names are all known when it is opened, so a name resolves before its declaration is reached.

`Scope.Stack` holds the scopes that are open, the innermost first. A scope is known by its depth: the
number of scopes around it.
-/

namespace Unbundle

structure Scope where
  span : Span
  declared : List String
deriving DecidableEq, Repr, Inhabited

namespace Scope

open Script

def declares (s : Scope) (name : String) : Bool :=
  s.declared.contains name

-- ---------------------------------------------------------------------------
-- What opens a scope
-- ---------------------------------------------------------------------------

def ofScript (script : Script) : Scope :=
  ⟨script.span, stmtsDeclared script.body⟩

/-- The scope of a function, method or constructor; `name` is the own name of a function expression. -/
def ofFunction (span : Span) (name : Option Ident) (params : List Pat) (body : List Stmt) : Scope :=
  ⟨span, (name.map (·.name)).toList ++ patNames params ++ stmtsDeclared body⟩

/-- The scope of an arrow function whose body is an expression. -/
def ofArrowExpr (span : Span) (params : List Pat) : Scope :=
  ⟨span, patNames params⟩

/-- What a catch clause declares besides its parameter belongs to the function around it. -/
def ofCatch (span : Span) (param : Option Pat) : Scope :=
  ⟨span, (param.map Pat.names).getD []⟩

/-- The scope of a class expression with a name, which is all it declares. -/
def ofNamedClass (name : Ident) (cls : Script.Class) : Scope :=
  ⟨cls.span, [name.name]⟩

-- ---------------------------------------------------------------------------
-- Open scopes
-- ---------------------------------------------------------------------------

/-- The scopes that are open, the innermost first. -/
abbrev Stack := List Scope

namespace Stack

/-- Opens a scope. -/
def enter (stack : Stack) (scope : Scope) : Stack :=
  scope :: stack

/-- Closes the innermost scope. -/
def leave (stack : Stack) : Stack :=
  stack.tail

/-- The depth of the innermost scope. -/
def current? : Stack → Option Nat
  | [] => none
  | _ :: outer => some outer.length

/-- The depth of the innermost scope that declares a name. -/
def resolve (name : String) : Stack → Option Nat
  | [] => none
  | scope :: outer => if scope.declares name then some outer.length else resolve name outer

end Stack
end Scope
end Unbundle

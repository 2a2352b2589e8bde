-- SUMMARY: The names that a piece of code declares.
import Unbundle.Script.Tree

/-!
# Declared names

`Stmt.declared` gives the names that a statement declares in the function it belongs to: variables,
functions and classes, from nested blocks and loops too, but nothing that belongs to a nested
function or class.
-/

namespace Unbundle.Script

mutual

/-- The names that a pattern binds. -/
def Pat.names : Pat → List String
  | .ident id => [id.name]
  | .array _ elems => patNames elems
  | .hole => []
  | .object _ props => patPropertyNames props
  | .rest _ arg => arg.names
  | .default _ left _ => left.names
  | .expr _ => []

def PatProperty.names : PatProperty → List String
  | .keyValue _ value => value.names
  | .shorthand id _ => [id.name]
  | .rest _ arg => arg.names

def patNames : List Pat → List String
  | [] => []
  | p :: rest => p.names ++ patNames rest

def patPropertyNames : List PatProperty → List String
  | [] => []
  | p :: rest => p.names ++ patPropertyNames rest

end

def Declarator.names : Declarator → List String
  | .mk name _ => name.names

def ForInit.names : ForInit → List String
  | .var _ decls => decls.flatMap Declarator.names
  | .empty | .expr _ => []

def ForHead.names : ForHead → List String
  | .var _ decls => decls.flatMap Declarator.names
  | .pat _ => []

mutual

/-- The names that a statement declares in the function it belongs to. -/
def Stmt.declared : Stmt → List String
  | .block body => stmtsDeclared body
  | .withStmt _ body | .labeled _ body | .whileLoop _ body | .doWhile _ body => body.declared
  | .ifStmt _ cons none => cons.declared
  | .ifStmt _ cons (some alt) => cons.declared ++ alt.declared
  | .switch _ cases => casesDeclared cases
  | .tryStmt block handler finalizer =>
    stmtsDeclared block ++ handlerDeclared handler ++ finalizerDeclared finalizer
  | .forLoop init _ _ body => init.names ++ body.declared
  | .forIn left _ body | .forOf _ left _ body => left.names ++ body.declared
  | .varDecl _ decls => decls.flatMap Declarator.names
  | .fnDecl name _ | .classDecl name _ => [name.name]
  | .expr _ | .empty | .debugger | .returnStmt _ | .breakStmt _ | .continueStmt _
  | .throwStmt _ => []

def stmtsDeclared : List Stmt → List String
  | [] => []
  | s :: rest => s.declared ++ stmtsDeclared rest

def casesDeclared : List Case → List String
  | [] => []
  | .mk _ body :: rest => stmtsDeclared body ++ casesDeclared rest

/-- A handler's own parameter is not declared in the function. -/
def handlerDeclared : Option Catch → List String
  | none => []
  | some (.mk _ _ body) => stmtsDeclared body

def finalizerDeclared : Option (List Stmt) → List String
  | none => []
  | some body => stmtsDeclared body

end

end Unbundle.Script

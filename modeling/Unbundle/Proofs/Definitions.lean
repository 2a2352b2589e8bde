-- SUMMARY: The definitions of a script: calls that define a module or a text asset, in order.
import Unbundle.Proofs.Factory

/-!
# Definitions of a script

`Script.definitions` lists the outermost calls of a script that define a module or a text asset, in
the order of the walk. A call that defines nothing is searched like any other expression; what
stands inside of a definition belongs to it.
-/

namespace Unbundle

namespace Engine

open Script

/-- A definition that is found in a script. -/
inductive Found where
  | module (factory : Factory)
  | textAsset (path text : String)

/-- The module that a definition turns into. -/
def Found.toModule : Found → Module
  | .module f => f.module
  | .textAsset path text => ⟨path, .text text⟩

/-- What a call defines. -/
def found? (callee : Expr) (args : List Expr) : Option Found :=
  match Amd.recognize callee args, args with
  | .module d, [_, _, .fn own (.mk span _ _ params body)] =>
    some (.module ⟨d.name, d.dependencies, own, span, params, body⟩)
  | .textAsset path text, _ => some (.textAsset path text)
  | _, _ => none

mutual

def definitionsExpr : Expr → List Found
  | .ident _ | .lit .. | .word .. | .privateName .. | .hole => []
  | .array _ elems => definitionsExprs elems
  | .spread _ arg => definitionsExpr arg
  | .object _ props => definitionsProperties props
  | .fn _ f => definitionsFunction f
  | .arrow _ _ params body => definitionsPats params ++ definitionsStmts body
  | .arrowExpr _ _ params body => definitionsPats params ++ definitionsExpr body
  | .cls _ cls => definitionsClass cls
  | .template _ _ exprs => definitionsExprs exprs
  | .tagged _ tag _ exprs => definitionsExpr tag ++ definitionsExprs exprs
  | .unary _ _ arg => definitionsExpr arg
  | .update _ _ _ arg => definitionsExpr arg
  | .binary _ _ left right => definitionsExpr left ++ definitionsExpr right
  | .assign _ _ target value => definitionsTarget target ++ definitionsExpr value
  | .cond _ test cons alt => definitionsExpr test ++ definitionsExpr cons ++ definitionsExpr alt
  | .seq _ exprs => definitionsExprs exprs
  | .yield _ _ arg => definitionsOptExpr arg
  | .await _ arg => definitionsExpr arg
  | .call _ callee args =>
    match found? callee args with
    | some found => [found]
    | none => definitionsExpr callee ++ definitionsExprs args
  | .newCall _ callee args => definitionsExpr callee ++ definitionsExprs args
  | .newBare _ callee => definitionsExpr callee
  | .member _ object key => definitionsExpr object ++ definitionsKey key
  | .optMember _ _ object key => definitionsExpr object ++ definitionsKey key
  | .optCall _ _ callee args => definitionsExpr callee ++ definitionsExprs args
  | .paren _ inner => definitionsExpr inner

def definitionsExprs : List Expr → List Found
  | [] => []
  | e :: rest => definitionsExpr e ++ definitionsExprs rest

def definitionsOptExpr : Option Expr → List Found
  | none => []
  | some e => definitionsExpr e

def definitionsKey : Key → List Found
  | .computed e => definitionsExpr e
  | .named _ | .str _ | .num _ | .privateName _ => []

def definitionsProperty : Property → List Found
  | .shorthand _ => []
  | .keyValue key value => definitionsKey key ++ definitionsExpr value
  | .initialized _ value => definitionsExpr value
  | .getter _ key body => definitionsKey key ++ definitionsStmts body
  | .setter _ key param body => definitionsKey key ++ definitionsPat param ++ definitionsStmts body
  | .method key f => definitionsKey key ++ definitionsFunction f
  | .spread _ arg => definitionsExpr arg

def definitionsProperties : List Property → List Found
  | [] => []
  | p :: rest => definitionsProperty p ++ definitionsProperties rest

def definitionsPat : Pat → List Found
  | .ident _ | .hole => []
  | .array _ elems => definitionsPats elems
  | .object _ props => definitionsPatProperties props
  | .rest _ arg => definitionsPat arg
  | .default _ left right => definitionsPat left ++ definitionsExpr right
  | .expr e => definitionsExpr e

def definitionsPats : List Pat → List Found
  | [] => []
  | p :: rest => definitionsPat p ++ definitionsPats rest

def definitionsTarget : Pat → List Found
  | .expr (.member _ object key) => definitionsExpr object ++ definitionsKey key
  | .expr e => definitionsExpr e
  | .ident _ | .hole => []
  | .array _ elems => definitionsPats elems
  | .object _ props => definitionsPatProperties props
  | .rest _ arg => definitionsPat arg
  | .default _ left right => definitionsPat left ++ definitionsExpr right

def definitionsPatProperty : PatProperty → List Found
  | .keyValue key value => definitionsKey key ++ definitionsPat value
  | .shorthand _ default => definitionsOptExpr default
  | .rest _ arg => definitionsPat arg

def definitionsPatProperties : List PatProperty → List Found
  | [] => []
  | p :: rest => definitionsPatProperty p ++ definitionsPatProperties rest

def definitionsFunction : Function → List Found
  | .mk _ _ _ params body => definitionsPats params ++ definitionsStmts body

/-- The members of a class come before the class that it extends. -/
def definitionsClass : Script.Class → List Found
  | .mk _ superClass members => definitionsMembers members ++ definitionsOptExpr superClass

def definitionsMember : ClassMember → List Found
  | .ctor _ params body => definitionsPats params ++ definitionsStmts body
  | .method _ _ key f => definitionsKey key ++ definitionsFunction f
  | .field _ key value => definitionsKey key ++ definitionsOptExpr value
  | .staticBlock body => definitionsStmts body
  | .empty => []

def definitionsMembers : List ClassMember → List Found
  | [] => []
  | m :: rest => definitionsMember m ++ definitionsMembers rest

def definitionsStmt : Stmt → List Found
  | .expr e => definitionsExpr e
  | .block body => definitionsStmts body
  | .empty | .debugger | .breakStmt _ | .continueStmt _ => []
  | .withStmt object body => definitionsExpr object ++ definitionsStmt body
  | .returnStmt arg => definitionsOptExpr arg
  | .labeled _ body => definitionsStmt body
  | .ifStmt test cons alt => definitionsExpr test ++ definitionsStmt cons ++ definitionsOptStmt alt
  | .switch discriminant cases => definitionsExpr discriminant ++ definitionsCases cases
  | .throwStmt arg => definitionsExpr arg
  | .tryStmt block handler finalizer =>
    definitionsStmts block ++ definitionsHandler handler ++ definitionsFinalizer finalizer
  | .whileLoop test body => definitionsExpr test ++ definitionsStmt body
  -- The test of a `do` loop comes before its body.
  | .doWhile test body => definitionsExpr test ++ definitionsStmt body
  | .forLoop init test update body =>
    definitionsForInit init ++ definitionsOptExpr test ++ definitionsOptExpr update ++
      definitionsStmt body
  | .forIn left right body =>
    definitionsForHead left ++ definitionsExpr right ++ definitionsStmt body
  | .forOf _ left right body =>
    definitionsForHead left ++ definitionsExpr right ++ definitionsStmt body
  | .varDecl _ decls => definitionsDeclarators decls
  | .fnDecl _ f => definitionsFunction f
  | .classDecl _ cls => definitionsClass cls

def definitionsStmts : List Stmt → List Found
  | [] => []
  | s :: rest => definitionsStmt s ++ definitionsStmts rest

def definitionsOptStmt : Option Stmt → List Found
  | none => []
  | some s => definitionsStmt s

def definitionsCases : List Case → List Found
  | [] => []
  | .mk test body :: rest =>
    definitionsOptExpr test ++ definitionsStmts body ++ definitionsCases rest

def definitionsHandler : Option Catch → List Found
  | none => []
  | some (.mk _ param body) => definitionsOptPat param ++ definitionsStmts body

def definitionsOptPat : Option Pat → List Found
  | none => []
  | some p => definitionsPat p

def definitionsFinalizer : Option (List Stmt) → List Found
  | none => []
  | some body => definitionsStmts body

def definitionsDeclarators : List Declarator → List Found
  | [] => []
  | .mk name init :: rest =>
    definitionsPat name ++ definitionsOptExpr init ++ definitionsDeclarators rest

def definitionsForInit : ForInit → List Found
  | .empty => []
  | .var _ decls => definitionsDeclarators decls
  | .expr e => definitionsExpr e

def definitionsForHead : ForHead → List Found
  | .var _ decls => definitionsDeclarators decls
  | .pat pat => definitionsPat pat

end

theorem definitionsStmts_append (body rest : List Stmt) :
    definitionsStmts (body ++ rest) = definitionsStmts body ++ definitionsStmts rest := by
  induction body with
  | nil => rfl
  | cons s body ih =>
    rw [List.cons_append, definitionsStmts, ih, definitionsStmts, List.append_assoc]

end Engine

/-- The outermost definitions of a script, in the order of the walk. -/
def Script.definitions (script : Script) : List Engine.Found :=
  Engine.definitionsStmts script.body

end Unbundle

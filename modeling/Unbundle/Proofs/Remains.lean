-- SUMMARY: What is left of a script when the walk is done with it.
import Unbundle.Proofs.Definitions

/-!
# What remains of a script

`Script.remains` says what a walk over a whole script leaves of it. The factory of every definition
of a module loses its statements, a text asset stays as it is, and everywhere else `void 0`, `!0`
and `!1` are written as `undefined`, `true` and `false`. Nothing else changes.
-/

namespace Unbundle

namespace Engine

open Script

/-- The arguments that define a module, without the statements of its factory. -/
def emptied : List Expr → List Expr
  | [name, deps, .fn own (.mk span isAsync isGenerator params _)] =>
    [name, deps, .fn own (.mk span isAsync isGenerator params [])]
  | args => args

mutual

def remainsExpr : Expr → Expr
  | .ident id => .ident id
  | .lit span value => .lit span value
  | .word span word => .word span word
  | .privateName span name => .privateName span name
  | .array span elems => .array span (remainsExprs elems)
  | .hole => .hole
  | .spread span arg => .spread span (remainsExpr arg)
  | .object span props => .object span (remainsProperties props)
  | .fn name f => .fn name (remainsFunction f)
  | .arrow span isAsync params body =>
    .arrow span isAsync (remainsPats params) (remainsStmts body)
  | .arrowExpr span isAsync params body =>
    .arrowExpr span isAsync (remainsPats params) (remainsExpr body)
  | .cls name cls => .cls name (remainsClass cls)
  | .template span quasis exprs => .template span quasis (remainsExprs exprs)
  | .tagged span tag quasis exprs => .tagged span (remainsExpr tag) quasis (remainsExprs exprs)
  | .unary span op arg =>
    match constant? span op arg with
    | some value => value
    | none => .unary span op (remainsExpr arg)
  | .update span op before arg => .update span op before (remainsExpr arg)
  | .binary span op left right => .binary span op (remainsExpr left) (remainsExpr right)
  | .assign span op target value => .assign span op (remainsTarget target) (remainsExpr value)
  | .cond span test cons alt =>
    .cond span (remainsExpr test) (remainsExpr cons) (remainsExpr alt)
  | .seq span exprs => .seq span (remainsExprs exprs)
  | .yield span delegate arg => .yield span delegate (remainsOptExpr arg)
  | .await span arg => .await span (remainsExpr arg)
  | .call span callee args =>
    match found? callee args with
    | some (.module _) => .call span callee (emptied args)
    | some (.textAsset _ _) => .call span callee args
    | none => .call span (remainsExpr callee) (remainsExprs args)
  | .newCall span callee args => .newCall span (remainsExpr callee) (remainsExprs args)
  | .newBare span callee => .newBare span (remainsExpr callee)
  | .member span object key => .member span (remainsExpr object) (remainsKey key)
  | .optMember span optional object key =>
    .optMember span optional (remainsExpr object) (remainsKey key)
  | .optCall span optional callee args =>
    .optCall span optional (remainsExpr callee) (remainsExprs args)
  | .paren span inner => .paren span (remainsExpr inner)

def remainsExprs : List Expr → List Expr
  | [] => []
  | e :: rest => remainsExpr e :: remainsExprs rest

def remainsOptExpr : Option Expr → Option Expr
  | none => none
  | some e => some (remainsExpr e)

def remainsKey : Key → Key
  | .computed e => .computed (remainsExpr e)
  | .named name => .named name
  | .str raw => .str raw
  | .num raw => .num raw
  | .privateName name => .privateName name

def remainsProperty : Property → Property
  | .shorthand id => .shorthand id
  | .keyValue key value => .keyValue (remainsKey key) (remainsExpr value)
  | .initialized id value => .initialized id (remainsExpr value)
  | .getter span key body => .getter span (remainsKey key) (remainsStmts body)
  | .setter span key param body =>
    .setter span (remainsKey key) (remainsPat param) (remainsStmts body)
  | .method key f => .method (remainsKey key) (remainsFunction f)
  | .spread span arg => .spread span (remainsExpr arg)

def remainsProperties : List Property → List Property
  | [] => []
  | p :: rest => remainsProperty p :: remainsProperties rest

def remainsPat : Pat → Pat
  | .ident id => .ident id
  | .array span elems => .array span (remainsPats elems)
  | .hole => .hole
  | .object span props => .object span (remainsPatProperties props)
  | .rest span arg => .rest span (remainsPat arg)
  | .default span left right => .default span (remainsPat left) (remainsExpr right)
  | .expr e => .expr (remainsExpr e)

def remainsPats : List Pat → List Pat
  | [] => []
  | p :: rest => remainsPat p :: remainsPats rest

def remainsTarget : Pat → Pat
  | .expr (.member span object key) => .expr (.member span (remainsExpr object) (remainsKey key))
  | .expr e => .expr (remainsExpr e)
  | .ident id => .ident id
  | .array span elems => .array span (remainsPats elems)
  | .hole => .hole
  | .object span props => .object span (remainsPatProperties props)
  | .rest span arg => .rest span (remainsPat arg)
  | .default span left right => .default span (remainsPat left) (remainsExpr right)

def remainsPatProperty : PatProperty → PatProperty
  | .keyValue key value => .keyValue (remainsKey key) (remainsPat value)
  | .shorthand id default => .shorthand id (remainsOptExpr default)
  | .rest span arg => .rest span (remainsPat arg)

def remainsPatProperties : List PatProperty → List PatProperty
  | [] => []
  | p :: rest => remainsPatProperty p :: remainsPatProperties rest

def remainsFunction : Function → Function
  | .mk span isAsync isGenerator params body =>
    .mk span isAsync isGenerator (remainsPats params) (remainsStmts body)

def remainsClass : Script.Class → Script.Class
  | .mk span superClass members => .mk span (remainsOptExpr superClass) (remainsMembers members)

def remainsMember : ClassMember → ClassMember
  | .ctor span params body => .ctor span (remainsPats params) (remainsStmts body)
  | .method isStatic kind key f => .method isStatic kind (remainsKey key) (remainsFunction f)
  | .field isStatic key value => .field isStatic (remainsKey key) (remainsOptExpr value)
  | .staticBlock body => .staticBlock (remainsStmts body)
  | .empty => .empty

def remainsMembers : List ClassMember → List ClassMember
  | [] => []
  | m :: rest => remainsMember m :: remainsMembers rest

def remainsStmt : Stmt → Stmt
  | .expr e => .expr (remainsExpr e)
  | .block body => .block (remainsStmts body)
  | .empty => .empty
  | .debugger => .debugger
  | .withStmt object body => .withStmt (remainsExpr object) (remainsStmt body)
  | .returnStmt arg => .returnStmt (remainsOptExpr arg)
  | .labeled label body => .labeled label (remainsStmt body)
  | .breakStmt label => .breakStmt label
  | .continueStmt label => .continueStmt label
  | .ifStmt test cons alt =>
    .ifStmt (remainsExpr test) (remainsStmt cons) (remainsOptStmt alt)
  | .switch discriminant cases => .switch (remainsExpr discriminant) (remainsCases cases)
  | .throwStmt arg => .throwStmt (remainsExpr arg)
  | .tryStmt block handler finalizer =>
    .tryStmt (remainsStmts block) (remainsHandler handler) (remainsFinalizer finalizer)
  | .whileLoop test body => .whileLoop (remainsExpr test) (remainsStmt body)
  | .doWhile test body => .doWhile (remainsExpr test) (remainsStmt body)
  | .forLoop init test update body =>
    .forLoop (remainsForInit init) (remainsOptExpr test) (remainsOptExpr update) (remainsStmt body)
  | .forIn left right body => .forIn (remainsForHead left) (remainsExpr right) (remainsStmt body)
  | .forOf isAwait left right body =>
    .forOf isAwait (remainsForHead left) (remainsExpr right) (remainsStmt body)
  | .varDecl kind decls => .varDecl kind (remainsDeclarators decls)
  | .fnDecl name f => .fnDecl name (remainsFunction f)
  | .classDecl name cls => .classDecl name (remainsClass cls)

def remainsStmts : List Stmt → List Stmt
  | [] => []
  | s :: rest => remainsStmt s :: remainsStmts rest

def remainsOptStmt : Option Stmt → Option Stmt
  | none => none
  | some s => some (remainsStmt s)

def remainsCases : List Case → List Case
  | [] => []
  | .mk test body :: rest => .mk (remainsOptExpr test) (remainsStmts body) :: remainsCases rest

def remainsHandler : Option Catch → Option Catch
  | none => none
  | some (.mk span param body) => some (.mk span (remainsOptPat param) (remainsStmts body))

def remainsOptPat : Option Pat → Option Pat
  | none => none
  | some p => some (remainsPat p)

def remainsFinalizer : Option (List Stmt) → Option (List Stmt)
  | none => none
  | some body => some (remainsStmts body)

def remainsDeclarators : List Declarator → List Declarator
  | [] => []
  | .mk name init :: rest =>
    .mk (remainsPat name) (remainsOptExpr init) :: remainsDeclarators rest

def remainsForInit : ForInit → ForInit
  | .empty => .empty
  | .var kind decls => .var kind (remainsDeclarators decls)
  | .expr e => .expr (remainsExpr e)

def remainsForHead : ForHead → ForHead
  | .var kind decls => .var kind (remainsDeclarators decls)
  | .pat pat => .pat (remainsPat pat)

end

/-- What remains of statements is what remains of each of them. -/
theorem remainsStmts_eq_map (body : List Stmt) : remainsStmts body = body.map remainsStmt := by
  induction body with
  | nil => rfl
  | cons s rest ih => rw [remainsStmts, ih, List.map_cons]

end Engine

/-- What a walk over the whole script leaves of it. -/
def Script.remains (script : Script) : Script :=
  { script with body := Engine.remainsStmts script.body }

end Unbundle

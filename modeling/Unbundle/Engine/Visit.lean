-- SUMMARY: The order in which the walk visits the parts of a script.
import Unbundle.Engine.Walk
import Unbundle.Script.Numeral

/-!
# Visiting a script

Parts are visited in source order, with these exceptions: the test of a `do` loop comes before its
body, and the members of a class before the class that it extends.

On the way, `void 0`, `!0` and `!1` become `undefined`, `true` and `false`.
-/

namespace Unbundle.Engine

open Script

/-- A unary operator applied to an operand, with the constants of minified code spelled out. -/
def simplifyUnary (span : Span) (op : UnaryOp) (arg : Expr) : Expr :=
  match op, arg with
  | .void, .lit _ (.num raw) =>
    if (Numeral.ofText raw).isZero then .ident ⟨"undefined", span⟩ else .unary span op arg
  | .not, .lit _ (.num raw) =>
    if (Numeral.ofText raw).isZero then .lit span (.bool true)
    else if (Numeral.ofText raw).isOne then .lit span (.bool false)
    else .unary span op arg
  | _, _ => .unary span op arg

/-- The object of an access `x.default`. -/
def defaultObject? : Expr → Key → Option Ident
  | .ident id, .named name => if name == "default" then some id else none
  | _, _ => none

variable {σ ε : Type}

open Walk

/-- The own name of a function or class expression. -/
def visitName : Option Ident → Walk σ ε (Option Ident)
  | none => pure none
  | some id => some <$> declaration id

mutual

def visitExpr : Expr → Walk σ ε Expr
  | .ident id => unlessStopped (.ident id) (.ident <$> reference id)
  | .lit span value => pure (.lit span value)
  | .word span word => pure (.word span word)
  | .privateName span name => pure (.privateName span name)
  | .array span elems => unlessStopped (.array span elems) (.array span <$> visitExprs elems)
  | .hole => pure .hole
  | .spread span arg => .spread span <$> visitExpr arg
  | .object span props =>
    unlessStopped (.object span props) (.object span <$> visitProperties props)
  | .fn name f =>
    unlessStopped (.fn name f)
      ((fun p => .fn p.1 p.2) <$> visitFunction name f)
  | .arrow span isAsync params body =>
    unlessStopped (.arrow span isAsync params body)
      (function (.ofFunction span none params body)
        (.arrow span isAsync <$> visitPats params <*> visitStmts body))
  | .arrowExpr span isAsync params body =>
    unlessStopped (.arrowExpr span isAsync params body)
      (function (.ofArrowExpr span params)
        (.arrowExpr span isAsync <$> visitPats params <*> visitExpr body))
  | .cls none cls => unlessStopped (.cls none cls) (.cls none <$> visitClass cls)
  | .cls (some name) cls =>
    unlessStopped (.cls (some name) cls)
      (within (.ofNamedClass name cls)
        ((fun name cls => .cls (some name) cls) <$> declaration name <*> visitClass cls))
  | .template span quasis exprs =>
    unlessStopped (.template span quasis exprs) (.template span quasis <$> visitExprs exprs)
  | .tagged span tag quasis exprs =>
    unlessStopped (.tagged span tag quasis exprs)
      ((fun tag exprs => .tagged span tag quasis exprs) <$> visitExpr tag <*> visitExprs exprs)
  | .unary span op arg =>
    unlessStopped (.unary span op arg) (simplifyUnary span op <$> visitExpr arg)
  | .update span op before arg =>
    unlessStopped (.update span op before arg) (.update span op before <$> visitExpr arg)
  | .binary span op left right =>
    unlessStopped (.binary span op left right)
      (.binary span op <$> visitExpr left <*> visitExpr right)
  | .assign span op target value =>
    unlessStopped (.assign span op target value)
      (.assign span op <$> targeting true (visitTarget target) <*> visitExpr value)
  | .cond span test cons alt =>
    unlessStopped (.cond span test cons alt)
      (.cond span <$> visitExpr test <*> visitExpr cons <*> visitExpr alt)
  | .seq span exprs => unlessStopped (.seq span exprs) (.seq span <$> visitExprs exprs)
  | .yield span delegate none => pure (.yield span delegate none)
  | .yield span delegate (some arg) =>
    unlessStopped (.yield span delegate (some arg))
      ((fun arg => .yield span delegate (some arg)) <$> visitExpr arg)
  | .await span arg => unlessStopped (.await span arg) (.await span <$> visitExpr arg)
  | .call span callee args =>
    unlessStopped (.call span callee args)
      (definition callee args
        (.call span <$> visitExpr callee <*> visitExprs args)
        (pure (.call span callee args))
        (fun d => .call span callee <$> visitFactory d args))
  | .newCall span callee args =>
    unlessStopped (.newCall span callee args)
      (.newCall span <$> visitExpr callee <*> visitExprs args)
  | .newBare span callee =>
    unlessStopped (.newBare span callee) (.newBare span <$> visitExpr callee)
  | .member span object key =>
    unlessStopped (.member span object key) <| match defaultObject? object key with
      | some id => defaultAccess span id
      | none => .member span <$> visitExpr object <*> visitKey key
  | .optMember span optional object key =>
    unlessStopped (.optMember span optional object key)
      (.optMember span optional <$> visitExpr object <*> visitKey key)
  | .optCall span optional callee args =>
    unlessStopped (.optCall span optional callee args)
      (.optCall span optional <$> visitExpr callee <*> visitExprs args)
  | .paren span inner => unlessStopped (.paren span inner) (.paren span <$> visitExpr inner)

def visitExprs : List Expr → Walk σ ε (List Expr)
  | [] => pure []
  | e :: rest => .cons <$> visitExpr e <*> visitExprs rest

def visitOptExpr : Option Expr → Walk σ ε (Option Expr)
  | none => pure none
  | some e => some <$> visitExpr e

/-- The arguments that define the module `d`: its factory is walked, and its body moves out. -/
def visitFactory (d : Amd.Definition) : List Expr → Walk σ ε (List Expr)
  | [name, deps, .fn own (.mk span isAsync isGenerator params body)] =>
    (fun _ => [name, deps, .fn own (.mk span isAsync isGenerator params [])]) <$>
      module d (.ofFunction span own params body)
        (visitName own *> visitPats params *> visitStmts body)
  | args => pure args

def visitKey : Key → Walk σ ε Key
  | .computed e => .computed <$> visitExpr e
  | .named name => pure (.named name)
  | .str raw => pure (.str raw)
  | .num raw => pure (.num raw)
  | .privateName name => pure (.privateName name)

def visitProperty : Property → Walk σ ε Property
  | .shorthand id => shorthand id
  | .keyValue key value => .keyValue <$> visitKey key <*> visitExpr value
  | .initialized id value => .initialized id <$> visitExpr value
  | .getter span key body =>
    within (.ofFunction span none [] body)
      (.getter span <$> visitKey key <*> visitStmts body)
  | .setter span key param body =>
    within (.ofFunction span none [param] body)
      (.setter span <$> visitKey key <*> visitPat param <*> visitStmts body)
  | .method key f => (fun key p => .method key p.2) <$> visitKey key <*> visitFunction none f
  | .spread span arg => .spread span <$> visitExpr arg

def visitProperties : List Property → Walk σ ε (List Property)
  | [] => pure []
  | p :: rest => .cons <$> visitProperty p <*> visitProperties rest

def visitPat : Pat → Walk σ ε Pat
  | .ident id => .ident <$> patternIdent id
  | .array span elems => .array span <$> visitPats elems
  | .hole => pure .hole
  | .object span props => .object span <$> visitPatProperties props
  | .rest span arg => .rest span <$> visitPat arg
  | .default span left right => .default span <$> visitPat left <*> visitExpr right
  | .expr e => .expr <$> visitExpr e

def visitPats : List Pat → Walk σ ε (List Pat)
  | [] => pure []
  | p :: rest => .cons <$> visitPat p <*> visitPats rest

/-- The target of an assignment. A property that is assigned to is a target as a whole, and no access
to its value. -/
def visitTarget : Pat → Walk σ ε Pat
  | .expr (.member span object key) =>
    (fun object key => .expr (.member span object key)) <$> visitExpr object <*> visitKey key
  | .expr e => .expr <$> visitExpr e
  | .ident id => .ident <$> patternIdent id
  | .array span elems => .array span <$> visitPats elems
  | .hole => pure .hole
  | .object span props => .object span <$> visitPatProperties props
  | .rest span arg => .rest span <$> visitPat arg
  | .default span left right => .default span <$> visitPat left <*> visitExpr right

def visitPatProperty : PatProperty → Walk σ ε PatProperty
  | .keyValue key value => .keyValue <$> visitKey key <*> visitPat value
  | .shorthand id default => .shorthand <$> patternIdent id <*> visitOptExpr default
  | .rest span arg => .rest span <$> visitPat arg

def visitPatProperties : List PatProperty → Walk σ ε (List PatProperty)
  | [] => pure []
  | p :: rest => .cons <$> visitPatProperty p <*> visitPatProperties rest

/-- A function with its own name, if it is an expression that has one. -/
def visitFunction (name : Option Ident) : Function → Walk σ ε (Option Ident × Function)
  | .mk span isAsync isGenerator params body =>
    function (.ofFunction span name params body)
      ((fun name params body => (name, .mk span isAsync isGenerator params body)) <$>
        visitName name <*> visitPats params <*> visitStmts body)

def visitClass : Script.Class → Walk σ ε Script.Class
  | .mk span superClass members =>
    (fun members superClass => .mk span superClass members) <$>
      visitMembers members <*> visitOptExpr superClass

def visitMember : ClassMember → Walk σ ε ClassMember
  | .ctor span params body =>
    within (.ofFunction span none params body)
      (.ctor span <$> visitPats params <*> visitStmts body)
  | .method isStatic kind key f =>
    (fun key p => .method isStatic kind key p.2) <$> visitKey key <*> visitFunction none f
  | .field isStatic key value => .field isStatic <$> visitKey key <*> visitOptExpr value
  | .staticBlock body => .staticBlock <$> visitStmts body
  | .empty => pure .empty

def visitMembers : List ClassMember → Walk σ ε (List ClassMember)
  | [] => pure []
  | m :: rest => .cons <$> visitMember m <*> visitMembers rest

def visitStmt : Stmt → Walk σ ε Stmt
  | .expr e => unlessStopped (.expr e) (.expr <$> visitExpr e)
  | .block body => unlessStopped (.block body) (.block <$> visitStmts body)
  | .empty => pure .empty
  | .debugger => pure .debugger
  | .withStmt object body =>
    unlessStopped (.withStmt object body) (.withStmt <$> visitExpr object <*> visitStmt body)
  | .returnStmt arg => unlessStopped (.returnStmt arg) (.returnStmt <$> visitOptExpr arg)
  | .labeled label body => unlessStopped (.labeled label body) (.labeled label <$> visitStmt body)
  | .breakStmt label => pure (.breakStmt label)
  | .continueStmt label => pure (.continueStmt label)
  | .ifStmt test cons alt =>
    unlessStopped (.ifStmt test cons alt)
      (.ifStmt <$> visitExpr test <*> visitStmt cons <*> visitOptStmt alt)
  | .switch discriminant cases =>
    unlessStopped (.switch discriminant cases)
      (.switch <$> visitExpr discriminant <*> visitCases cases)
  | .throwStmt arg => unlessStopped (.throwStmt arg) (.throwStmt <$> visitExpr arg)
  | .tryStmt block handler finalizer =>
    unlessStopped (.tryStmt block handler finalizer)
      (.tryStmt <$> visitStmts block <*> visitHandler handler <*> visitFinalizer finalizer)
  | .whileLoop test body =>
    unlessStopped (.whileLoop test body) (.whileLoop <$> visitExpr test <*> visitStmt body)
  | .doWhile test body =>
    unlessStopped (.doWhile test body) (.doWhile <$> visitExpr test <*> visitStmt body)
  | .forLoop init test update body =>
    unlessStopped (.forLoop init test update body)
      (.forLoop <$> visitForInit init <*> visitOptExpr test <*> visitOptExpr update <*>
        visitStmt body)
  | .forIn left right body =>
    unlessStopped (.forIn left right body)
      (.forIn <$> visitForHead left <*> visitExpr right <*> visitStmt body)
  | .forOf isAwait left right body =>
    unlessStopped (.forOf isAwait left right body)
      (.forOf isAwait <$> visitForHead left <*> visitExpr right <*> visitStmt body)
  | .varDecl kind decls => unlessStopped (.varDecl kind decls) (.varDecl kind <$> visitDeclarators decls)
  | .fnDecl name f =>
    unlessStopped (.fnDecl name f)
      ((fun name p => .fnDecl name p.2) <$> declaration name <*> visitFunction none f)
  | .classDecl name cls =>
    unlessStopped (.classDecl name cls) (.classDecl <$> declaration name <*> visitClass cls)

def visitStmts : List Stmt → Walk σ ε (List Stmt)
  | [] => pure []
  | s :: rest => .cons <$> visitStmt s <*> visitStmts rest

def visitOptStmt : Option Stmt → Walk σ ε (Option Stmt)
  | none => pure none
  | some s => some <$> visitStmt s

def visitCases : List Case → Walk σ ε (List Case)
  | [] => pure []
  | .mk test body :: rest =>
    (fun test body rest => .mk test body :: rest) <$>
      visitOptExpr test <*> visitStmts body <*> visitCases rest

def visitHandler : Option Catch → Walk σ ε (Option Catch)
  | none => pure none
  | some (.mk span param body) =>
    within (.ofCatch span param)
      ((fun param body => some (.mk span param body)) <$> visitOptPat param <*> visitStmts body)

def visitOptPat : Option Pat → Walk σ ε (Option Pat)
  | none => pure none
  | some p => some <$> visitPat p

def visitFinalizer : Option (List Stmt) → Walk σ ε (Option (List Stmt))
  | none => pure none
  | some body => some <$> visitStmts body

def visitDeclarators : List Declarator → Walk σ ε (List Declarator)
  | [] => pure []
  | .mk name init :: rest =>
    (fun name init rest => .mk name init :: rest) <$>
      visitPat name <*> visitOptExpr init <*> visitDeclarators rest

def visitForInit : ForInit → Walk σ ε ForInit
  | .empty => pure .empty
  | .var kind decls => .var kind <$> visitDeclarators decls
  | .expr e => .expr <$> visitExpr e

def visitForHead : ForHead → Walk σ ε ForHead
  | .var kind decls => targeting false (.var kind <$> visitDeclarators decls)
  | .pat pat => targeting true (.pat <$> visitPat pat)

end

end Unbundle.Engine

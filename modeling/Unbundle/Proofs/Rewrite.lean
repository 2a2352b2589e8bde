-- SUMMARY: One direct recursive rewrite of a factory's statements.
import Unbundle.Proofs.Steps

/-!
# Rewriting a factory

`rewriteStmts replace` goes down the statements of a factory once and puts at every identifier what
`replace` says for its place. On the way it carries the layers of code between the factory and the
identifier, so that `replace` can see which scopes are in between.

Besides identifiers only three things change: `x.default` gives way to the import of a default,
`{x}` is spelled out when its value gets another name, and the constants `void 0`, `!0` and `!1` are
written as `undefined`, `true` and `false`.
-/

namespace Unbundle.Engine

open Script

/-- What to put at each place of a factory. -/
abbrev Replacing := Place → Replacement

/-- A property `x`; if its value changes its name, it is spelled out. -/
def rewriteShorthand (id : Ident) : Replacement → Property
  | .keep => .shorthand id
  | .reserved name | .imported name => id.spelledOut name

/-- An access `x.default`; only an import takes the place of the whole access. -/
def rewriteDefault (span : Span) (id : Ident) : Replacement → Expr
  | .keep => .member span (.ident id) (.named "default")
  | .reserved word => .member span (.ident { id with name := word }) (.named "default")
  | .imported name => .ident ⟨name, span⟩

def rewriteIdent (replace : Replacing) (place : Place) : Ident :=
  (replace place).rename place.id

def rewriteName (replace : Replacing) (around : Around) : Option Ident → Option Ident
  | none => none
  | some id => some (rewriteIdent replace (around.place id .declaration))

mutual

def rewriteExpr (replace : Replacing) (around : Around) : Expr → Expr
  | .ident id => .ident (rewriteIdent replace (around.place id .reference))
  | .lit span value => .lit span value
  | .word span word => .word span word
  | .privateName span name => .privateName span name
  | .array span elems => .array span (rewriteExprs replace around elems)
  | .hole => .hole
  | .spread span arg => .spread span (rewriteExpr replace around arg)
  | .object span props => .object span (rewriteProperties replace around props)
  | .fn name f =>
    .fn (rewriteName replace (around.enterFunction (.function f.span name f.params f.body .params))
        name)
      (rewriteFunction replace around name f)
  | .arrow span isAsync params body =>
    .arrow span isAsync
      (rewritePats replace (around.enterFunction (.arrow span params body .params)) params)
      (rewriteStmts replace (around.enterFunction (.arrow span params body .body)) body)
  | .arrowExpr span isAsync params body =>
    .arrowExpr span isAsync
      (rewritePats replace (around.enterFunction (.arrowExpr span params)) params)
      (rewriteExpr replace (around.enterFunction (.arrowExpr span params)) body)
  | .cls none cls => .cls none (rewriteClass replace around cls)
  | .cls (some name) cls =>
    .cls (rewriteName replace (around.enter (.namedClass name cls)) (some name))
      (rewriteClass replace (around.enter (.namedClass name cls)) cls)
  | .template span quasis exprs => .template span quasis (rewriteExprs replace around exprs)
  | .tagged span tag quasis exprs =>
    .tagged span (rewriteExpr replace around tag) quasis (rewriteExprs replace around exprs)
  | .unary span op arg =>
    match constant? span op arg with
    | some value => value
    | none => .unary span op (rewriteExpr replace around arg)
  | .update span op before arg => .update span op before (rewriteExpr replace around arg)
  | .binary span op left right =>
    .binary span op (rewriteExpr replace around left) (rewriteExpr replace around right)
  | .assign span op target value =>
    .assign span op (rewriteTarget replace (around.targeting true) target)
      (rewriteExpr replace around value)
  | .cond span test cons alt =>
    .cond span (rewriteExpr replace around test) (rewriteExpr replace around cons)
      (rewriteExpr replace around alt)
  | .seq span exprs => .seq span (rewriteExprs replace around exprs)
  | .yield span delegate arg => .yield span delegate (rewriteOptExpr replace around arg)
  | .await span arg => .await span (rewriteExpr replace around arg)
  | .call span callee args =>
    .call span (rewriteExpr replace around callee) (rewriteExprs replace around args)
  | .newCall span callee args =>
    .newCall span (rewriteExpr replace around callee) (rewriteExprs replace around args)
  | .newBare span callee => .newBare span (rewriteExpr replace around callee)
  | .member span object key =>
    match defaultObject? object key with
    | some id => rewriteDefault span id (replace (around.place id (.defaultObject span)))
    | none => .member span (rewriteExpr replace around object) (rewriteKey replace around key)
  | .optMember span optional object key =>
    .optMember span optional (rewriteExpr replace around object) (rewriteKey replace around key)
  | .optCall span optional callee args =>
    .optCall span optional (rewriteExpr replace around callee) (rewriteExprs replace around args)
  | .paren span inner => .paren span (rewriteExpr replace around inner)

def rewriteExprs (replace : Replacing) (around : Around) : List Expr → List Expr
  | [] => []
  | e :: rest => rewriteExpr replace around e :: rewriteExprs replace around rest

def rewriteOptExpr (replace : Replacing) (around : Around) : Option Expr → Option Expr
  | none => none
  | some e => some (rewriteExpr replace around e)

def rewriteKey (replace : Replacing) (around : Around) : Key → Key
  | .computed e => .computed (rewriteExpr replace around e)
  | .named name => .named name
  | .str raw => .str raw
  | .num raw => .num raw
  | .privateName name => .privateName name

def rewriteProperty (replace : Replacing) (around : Around) : Property → Property
  | .shorthand id => rewriteShorthand id (replace (around.place id .shorthand))
  | .keyValue key value =>
    .keyValue (rewriteKey replace around key) (rewriteExpr replace around value)
  | .initialized id value => .initialized id (rewriteExpr replace around value)
  | .getter span key body =>
    .getter span (rewriteKey replace (around.enter (.function span none [] body .key)) key)
      (rewriteStmts replace (around.enter (.function span none [] body .body)) body)
  | .setter span key param body =>
    .setter span (rewriteKey replace (around.enter (.function span none [param] body .key)) key)
      (rewritePat replace (around.enter (.function span none [param] body .params)) param)
      (rewriteStmts replace (around.enter (.function span none [param] body .body)) body)
  | .method key f => .method (rewriteKey replace around key) (rewriteFunction replace around none f)
  | .spread span arg => .spread span (rewriteExpr replace around arg)

def rewriteProperties (replace : Replacing) (around : Around) : List Property → List Property
  | [] => []
  | p :: rest => rewriteProperty replace around p :: rewriteProperties replace around rest

def rewritePat (replace : Replacing) (around : Around) : Pat → Pat
  | .ident id => .ident (rewriteIdent replace (around.patternPlace id))
  | .array span elems => .array span (rewritePats replace around elems)
  | .hole => .hole
  | .object span props => .object span (rewritePatProperties replace around props)
  | .rest span arg => .rest span (rewritePat replace around arg)
  | .default span left right =>
    .default span (rewritePat replace around left) (rewriteExpr replace around right)
  | .expr e => .expr (rewriteExpr replace around e)

def rewritePats (replace : Replacing) (around : Around) : List Pat → List Pat
  | [] => []
  | p :: rest => rewritePat replace around p :: rewritePats replace around rest

/-- The target of an assignment. A property that is assigned to stays a property. -/
def rewriteTarget (replace : Replacing) (around : Around) : Pat → Pat
  | .expr (.member span object key) =>
    .expr (.member span (rewriteExpr replace around object) (rewriteKey replace around key))
  | .expr e => .expr (rewriteExpr replace around e)
  | .ident id => .ident (rewriteIdent replace (around.patternPlace id))
  | .array span elems => .array span (rewritePats replace around elems)
  | .hole => .hole
  | .object span props => .object span (rewritePatProperties replace around props)
  | .rest span arg => .rest span (rewritePat replace around arg)
  | .default span left right =>
    .default span (rewritePat replace around left) (rewriteExpr replace around right)

def rewritePatProperty (replace : Replacing) (around : Around) : PatProperty → PatProperty
  | .keyValue key value =>
    .keyValue (rewriteKey replace around key) (rewritePat replace around value)
  | .shorthand id default =>
    .shorthand (rewriteIdent replace (around.patternPlace id))
      (rewriteOptExpr replace around default)
  | .rest span arg => .rest span (rewritePat replace around arg)

def rewritePatProperties (replace : Replacing) (around : Around) :
    List PatProperty → List PatProperty
  | [] => []
  | p :: rest => rewritePatProperty replace around p :: rewritePatProperties replace around rest

/-- The parameters and the body of a function, which see its own name. -/
def rewriteFunction (replace : Replacing) (around : Around) (name : Option Ident) :
    Function → Function
  | .mk span isAsync isGenerator params body =>
    .mk span isAsync isGenerator
      (rewritePats replace (around.enterFunction (.function span name params body .params)) params)
      (rewriteStmts replace (around.enterFunction (.function span name params body .body)) body)

def rewriteClass (replace : Replacing) (around : Around) : Script.Class → Script.Class
  | .mk span superClass members =>
    .mk span (rewriteOptExpr replace around superClass) (rewriteMembers replace around members)

def rewriteMember (replace : Replacing) (around : Around) : ClassMember → ClassMember
  | .ctor span params body =>
    .ctor span (rewritePats replace (around.enter (.function span none params body .params)) params)
      (rewriteStmts replace (around.enter (.function span none params body .body)) body)
  | .method isStatic kind key f =>
    .method isStatic kind (rewriteKey replace around key) (rewriteFunction replace around none f)
  | .field isStatic key value =>
    .field isStatic (rewriteKey replace around key) (rewriteOptExpr replace around value)
  | .staticBlock body => .staticBlock (rewriteStmts replace (around.enter (.staticBlock body)) body)
  | .empty => .empty

def rewriteMembers (replace : Replacing) (around : Around) : List ClassMember → List ClassMember
  | [] => []
  | m :: rest => rewriteMember replace around m :: rewriteMembers replace around rest

def rewriteStmt (replace : Replacing) (around : Around) : Stmt → Stmt
  | .expr e => .expr (rewriteExpr replace around e)
  | .block body => .block (rewriteStmts replace (around.enter (.block body)) body)
  | .empty => .empty
  | .debugger => .debugger
  | .withStmt object body =>
    .withStmt (rewriteExpr replace around object) (rewriteStmt replace around body)
  | .returnStmt arg => .returnStmt (rewriteOptExpr replace around arg)
  | .labeled label body => .labeled label (rewriteStmt replace around body)
  | .breakStmt label => .breakStmt label
  | .continueStmt label => .continueStmt label
  | .ifStmt test cons alt =>
    .ifStmt (rewriteExpr replace around test)
      (rewriteStmt replace (around.enter (.block [cons])) cons) (rewriteOptStmt replace around alt)
  | .switch discriminant cases =>
    .switch (rewriteExpr replace around discriminant)
      (rewriteCases replace (around.enter (.switch cases)) cases)
  | .throwStmt arg => .throwStmt (rewriteExpr replace around arg)
  | .tryStmt block handler finalizer =>
    .tryStmt (rewriteStmts replace (around.enter (.block block)) block)
      (rewriteHandler replace around handler) (rewriteFinalizer replace around finalizer)
  | .whileLoop test body =>
    .whileLoop (rewriteExpr replace around test) (rewriteStmt replace around body)
  | .doWhile test body =>
    .doWhile (rewriteExpr replace around test) (rewriteStmt replace around body)
  | .forLoop init test update body =>
    .forLoop (rewriteForInit replace (around.enterLoop (Layer.ofForInit init)) init)
      (rewriteOptExpr replace (around.enterLoop (Layer.ofForInit init)) test)
      (rewriteOptExpr replace (around.enterLoop (Layer.ofForInit init)) update)
      (rewriteStmt replace (around.enterLoop (Layer.ofForInit init)) body)
  | .forIn left right body =>
    .forIn (rewriteForHead replace (around.enterLoop (Layer.ofForHead left)) left)
      (rewriteExpr replace (around.enterLoop (Layer.ofForHead left)) right)
      (rewriteStmt replace (around.enterLoop (Layer.ofForHead left)) body)
  | .forOf isAwait left right body =>
    .forOf isAwait (rewriteForHead replace (around.enterLoop (Layer.ofForHead left)) left)
      (rewriteExpr replace (around.enterLoop (Layer.ofForHead left)) right)
      (rewriteStmt replace (around.enterLoop (Layer.ofForHead left)) body)
  | .varDecl kind decls => .varDecl kind (rewriteDeclarators replace around decls)
  | .fnDecl name f =>
    .fnDecl (rewriteIdent replace (around.place name .declaration))
      (rewriteFunction replace around none f)
  | .classDecl name cls =>
    .classDecl (rewriteIdent replace (around.place name .declaration))
      (rewriteClass replace around cls)

def rewriteStmts (replace : Replacing) (around : Around) : List Stmt → List Stmt
  | [] => []
  | s :: rest => rewriteStmt replace around s :: rewriteStmts replace around rest

def rewriteOptStmt (replace : Replacing) (around : Around) : Option Stmt → Option Stmt
  | none => none
  | some s => some (rewriteStmt replace (around.enter (.block [s])) s)

def rewriteCases (replace : Replacing) (around : Around) : List Case → List Case
  | [] => []
  | .mk test body :: rest =>
    .mk (rewriteOptExpr replace around test) (rewriteStmts replace around body) ::
      rewriteCases replace around rest

def rewriteHandler (replace : Replacing) (around : Around) : Option Catch → Option Catch
  | none => none
  | some (.mk span param body) =>
    some (.mk span (rewriteOptPat replace (around.enter (.handler span param)) param)
      (rewriteStmts replace ((around.enter (.handler span param)).enter (.block body)) body))

def rewriteOptPat (replace : Replacing) (around : Around) : Option Pat → Option Pat
  | none => none
  | some p => some (rewritePat replace around p)

def rewriteFinalizer (replace : Replacing) (around : Around) :
    Option (List Stmt) → Option (List Stmt)
  | none => none
  | some body => some (rewriteStmts replace (around.enter (.block body)) body)

def rewriteDeclarators (replace : Replacing) (around : Around) : List Declarator → List Declarator
  | [] => []
  | .mk name init :: rest =>
    .mk (rewritePat replace around name) (rewriteOptExpr replace around init) ::
      rewriteDeclarators replace around rest

def rewriteForInit (replace : Replacing) (around : Around) : ForInit → ForInit
  | .empty => .empty
  | .var kind decls => .var kind (rewriteDeclarators replace around decls)
  | .expr e => .expr (rewriteExpr replace around e)

def rewriteForHead (replace : Replacing) (around : Around) : ForHead → ForHead
  | .var kind decls => .var kind (rewriteDeclarators replace (around.targeting false) decls)
  | .pat pat => .pat (rewritePat replace (around.targeting true) pat)

end

end Unbundle.Engine

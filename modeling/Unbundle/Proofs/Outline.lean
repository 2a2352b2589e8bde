-- SUMMARY: What a walk does with a piece of code, and a walker that keeps its surroundings in variables.
import Unbundle.Engine
import Unbundle.Proofs.Definitions
import Unbundle.Proofs.Tracker

/-!
# Outlines and walkers

`Outline` says what a walk does with a piece of code, in order: the identifiers that it meets, the
scopes that it opens, and the parts that it leaves out once it has stopped. There is an outline for
every kind of code (`outlineStmts` and its kin).

A `Walker` follows an outline. In contrast to a `Walk`, which hands surroundings down, a walker has
one set of variables for the whole script: the arena of open scopes, the flag for assignment targets,
and the module that is being walked. It changes them on the way in and has to change them back on the
way out. It takes notes of every identifier that it meets, of the parts that it leaves out, and of
whether scopes are given up in the order in which they were opened.
-/

namespace Unbundle.Engine

open Script

/-- What a walk does with a piece of code. -/
inductive Outline where
  | nothing
  | both (first second : Outline)
  | ident (id : Ident) (site : Site)
  /-- An identifier in a pattern, which declares a name unless the pattern is assigned to. -/
  | patternIdent (id : Ident)
  /-- A part that is left out once the walk has stopped. -/
  | unlessStopped (part : Outline)
  | within (scope : Scope) (part : Outline)
  /-- A part inside of an assignment target, or outside of one. -/
  | targeting (inTarget : Bool) (part : Outline)
  /-- A call; what it defines decides what is done with its parts. -/
  | call (callee : Expr) (args : List Expr) (parts : Outline)

namespace Outline

/-- What a function encloses; its names are declared again. -/
def function (scope : Scope) (part : Outline) : Outline :=
  .targeting false (.within scope part)

end Outline

-- ---------------------------------------------------------------------------
-- Outlines of code
-- ---------------------------------------------------------------------------

def outlineName : Option Ident → Outline
  | none => .nothing
  | some id => .ident id .declaration

mutual

def outlineExpr : Expr → Outline
  | .ident id => .unlessStopped (.ident id .reference)
  | .lit .. | .word .. | .privateName .. | .hole | .yield _ _ none => .nothing
  | .array _ elems => .unlessStopped (outlineExprs elems)
  | .spread _ arg => outlineExpr arg
  | .object _ props => .unlessStopped (outlineProperties props)
  | .fn name f => .unlessStopped (outlineFunction name f)
  | .arrow span _ params body =>
    .unlessStopped (.function (.ofFunction span none params body)
      (.both (outlinePats params) (outlineStmts body)))
  | .arrowExpr span _ params body =>
    .unlessStopped (.function (.ofArrowExpr span params)
      (.both (outlinePats params) (outlineExpr body)))
  | .cls none cls => .unlessStopped (outlineClass cls)
  | .cls (some name) cls =>
    .unlessStopped (.within (.ofNamedClass name cls)
      (.both (.ident name .declaration) (outlineClass cls)))
  | .template _ _ exprs => .unlessStopped (outlineExprs exprs)
  | .tagged _ tag _ exprs => .unlessStopped (.both (outlineExpr tag) (outlineExprs exprs))
  | .unary _ _ arg => .unlessStopped (outlineExpr arg)
  | .update _ _ _ arg => .unlessStopped (outlineExpr arg)
  | .binary _ _ left right => .unlessStopped (.both (outlineExpr left) (outlineExpr right))
  | .assign _ _ target value =>
    .unlessStopped (.both (.targeting true (outlineTarget target)) (outlineExpr value))
  | .cond _ test cons alt =>
    .unlessStopped (.both (.both (outlineExpr test) (outlineExpr cons)) (outlineExpr alt))
  | .seq _ exprs => .unlessStopped (outlineExprs exprs)
  | .yield _ _ (some arg) => .unlessStopped (outlineExpr arg)
  | .await _ arg => .unlessStopped (outlineExpr arg)
  | .call _ callee args =>
    .unlessStopped (.call callee args (.both (outlineExpr callee) (outlineExprs args)))
  | .newCall _ callee args => .unlessStopped (.both (outlineExpr callee) (outlineExprs args))
  | .newBare _ callee => .unlessStopped (outlineExpr callee)
  | .member span object key =>
    .unlessStopped <| match defaultObject? object key with
      | some id => .ident id (.defaultObject span)
      | none => .both (outlineExpr object) (outlineKey key)
  | .optMember _ _ object key => .unlessStopped (.both (outlineExpr object) (outlineKey key))
  | .optCall _ _ callee args => .unlessStopped (.both (outlineExpr callee) (outlineExprs args))
  | .paren _ inner => .unlessStopped (outlineExpr inner)

def outlineExprs : List Expr → Outline
  | [] => .nothing
  | e :: rest => .both (outlineExpr e) (outlineExprs rest)

def outlineOptExpr : Option Expr → Outline
  | none => .nothing
  | some e => outlineExpr e

def outlineKey : Key → Outline
  | .computed e => outlineExpr e
  | .named _ | .str _ | .num _ | .privateName _ => .nothing

def outlineProperty : Property → Outline
  | .shorthand id => .ident id .shorthand
  | .keyValue key value => .both (outlineKey key) (outlineExpr value)
  | .initialized _ value => outlineExpr value
  | .getter span key body =>
    .within (.ofFunction span none [] body) (.both (outlineKey key) (outlineStmts body))
  | .setter span key param body =>
    .within (.ofFunction span none [param] body)
      (.both (.both (outlineKey key) (outlinePat param)) (outlineStmts body))
  | .method key f => .both (outlineKey key) (outlineFunction none f)
  | .spread _ arg => outlineExpr arg

def outlineProperties : List Property → Outline
  | [] => .nothing
  | p :: rest => .both (outlineProperty p) (outlineProperties rest)

def outlinePat : Pat → Outline
  | .ident id => .patternIdent id
  | .array _ elems => outlinePats elems
  | .hole => .nothing
  | .object _ props => outlinePatProperties props
  | .rest _ arg => outlinePat arg
  | .default _ left right => .both (outlinePat left) (outlineExpr right)
  | .expr e => outlineExpr e

def outlinePats : List Pat → Outline
  | [] => .nothing
  | p :: rest => .both (outlinePat p) (outlinePats rest)

/-- The target of an assignment; a property that is assigned to is no access to its value. -/
def outlineTarget : Pat → Outline
  | .expr (.member _ object key) => .both (outlineExpr object) (outlineKey key)
  | .expr e => outlineExpr e
  | .ident id => .patternIdent id
  | .array _ elems => outlinePats elems
  | .hole => .nothing
  | .object _ props => outlinePatProperties props
  | .rest _ arg => outlinePat arg
  | .default _ left right => .both (outlinePat left) (outlineExpr right)

def outlinePatProperty : PatProperty → Outline
  | .keyValue key value => .both (outlineKey key) (outlinePat value)
  | .shorthand id default => .both (.patternIdent id) (outlineOptExpr default)
  | .rest _ arg => outlinePat arg

def outlinePatProperties : List PatProperty → Outline
  | [] => .nothing
  | p :: rest => .both (outlinePatProperty p) (outlinePatProperties rest)

def outlineFunction (name : Option Ident) : Function → Outline
  | .mk span _ _ params body =>
    .function (.ofFunction span name params body)
      (.both (.both (outlineName name) (outlinePats params)) (outlineStmts body))

/-- The members of a class come before the class that it extends. -/
def outlineClass : Script.Class → Outline
  | .mk _ superClass members => .both (outlineMembers members) (outlineOptExpr superClass)

def outlineMember : ClassMember → Outline
  | .ctor span params body =>
    .within (.ofFunction span none params body) (.both (outlinePats params) (outlineStmts body))
  | .method _ _ key f => .both (outlineKey key) (outlineFunction none f)
  | .field _ key value => .both (outlineKey key) (outlineOptExpr value)
  | .staticBlock body => outlineStmts body
  | .empty => .nothing

def outlineMembers : List ClassMember → Outline
  | [] => .nothing
  | m :: rest => .both (outlineMember m) (outlineMembers rest)

def outlineStmt : Stmt → Outline
  | .expr e => .unlessStopped (outlineExpr e)
  | .block body => .unlessStopped (outlineStmts body)
  | .empty | .debugger | .breakStmt _ | .continueStmt _ => .nothing
  | .withStmt object body => .unlessStopped (.both (outlineExpr object) (outlineStmt body))
  | .returnStmt arg => .unlessStopped (outlineOptExpr arg)
  | .labeled _ body => .unlessStopped (outlineStmt body)
  | .ifStmt test cons alt =>
    .unlessStopped (.both (.both (outlineExpr test) (outlineStmt cons)) (outlineOptStmt alt))
  | .switch discriminant cases =>
    .unlessStopped (.both (outlineExpr discriminant) (outlineCases cases))
  | .throwStmt arg => .unlessStopped (outlineExpr arg)
  | .tryStmt block handler finalizer =>
    .unlessStopped (.both (.both (outlineStmts block) (outlineHandler handler))
      (outlineFinalizer finalizer))
  | .whileLoop test body => .unlessStopped (.both (outlineExpr test) (outlineStmt body))
  -- The test of a `do` loop comes before its body.
  | .doWhile test body => .unlessStopped (.both (outlineExpr test) (outlineStmt body))
  | .forLoop init test update body =>
    .unlessStopped (.both (.both (.both (outlineForInit init) (outlineOptExpr test))
      (outlineOptExpr update)) (outlineStmt body))
  | .forIn left right body =>
    .unlessStopped (.both (.both (outlineForHead left) (outlineExpr right)) (outlineStmt body))
  | .forOf _ left right body =>
    .unlessStopped (.both (.both (outlineForHead left) (outlineExpr right)) (outlineStmt body))
  | .varDecl _ decls => .unlessStopped (outlineDeclarators decls)
  | .fnDecl name f => .unlessStopped (.both (.ident name .declaration) (outlineFunction none f))
  | .classDecl name cls => .unlessStopped (.both (.ident name .declaration) (outlineClass cls))

def outlineStmts : List Stmt → Outline
  | [] => .nothing
  | s :: rest => .both (outlineStmt s) (outlineStmts rest)

def outlineOptStmt : Option Stmt → Outline
  | none => .nothing
  | some s => outlineStmt s

def outlineCases : List Case → Outline
  | [] => .nothing
  | .mk test body :: rest =>
    .both (.both (outlineOptExpr test) (outlineStmts body)) (outlineCases rest)

def outlineHandler : Option Catch → Outline
  | none => .nothing
  | some (.mk span param body) =>
    .within (.ofCatch span param) (.both (outlineOptPat param) (outlineStmts body))

def outlineOptPat : Option Pat → Outline
  | none => .nothing
  | some p => outlinePat p

def outlineFinalizer : Option (List Stmt) → Outline
  | none => .nothing
  | some body => outlineStmts body

def outlineDeclarators : List Declarator → Outline
  | [] => .nothing
  | .mk name init :: rest =>
    .both (.both (outlinePat name) (outlineOptExpr init)) (outlineDeclarators rest)

def outlineForInit : ForInit → Outline
  | .empty => .nothing
  | .var _ decls => outlineDeclarators decls
  | .expr e => outlineExpr e

def outlineForHead : ForHead → Outline
  | .var _ decls => .targeting false (outlineDeclarators decls)
  | .pat pat => .targeting true (outlinePat pat)

end

-- ---------------------------------------------------------------------------
-- Walkers
-- ---------------------------------------------------------------------------

/-- The module whose definition is being walked. -/
structure Entered where
  factory : Factory
  /-- The index of the factory's scope, once that is open. -/
  scope : Option Nat

/-- An identifier that is met, and the surroundings of the walker at that moment. -/
structure Encounter where
  id : Ident
  site : Site
  tracker : Scope.Tracker
  entered : Option Entered

structure Walker (σ ε : Type) where
  tracker : Scope.Tracker
  /-- Inside the target of an assignment names are used, not declared. -/
  inTarget : Bool
  entered : Option Entered
  state : State σ ε
  /-- Every scope was the current one when it was given up. -/
  inOrder : Bool
  /-- The number of parts that were left out because the walk had stopped. -/
  leftOut : Nat
  /-- The identifiers that were met, in order. -/
  encounters : List Encounter

namespace Walker

variable {σ ε : Type}

def initial (sink : σ) : Walker σ ε :=
  ⟨.empty, false, none, .initial sink, true, 0, []⟩

def report (w : Walker σ ε) (events : List Event) : Walker σ ε :=
  { w with state := w.state.report events }

/-- Opens a scope. The first one that is opened at the place of an entered factory is the factory's. -/
def openScope (w : Walker σ ε) (scope : Scope) : Walker σ ε :=
  match w.entered with
  | some ⟨f, none⟩ =>
    if f.span == scope.span then
      { w.report [.factoryScope f.name w.tracker.depth] with
        tracker := w.tracker.enter scope
        entered := some ⟨f, some w.tracker.depth⟩ }
    else { w with tracker := w.tracker.enter scope }
  | _ => { w with tracker := w.tracker.enter scope }

/-- Gives up the scope that was opened last. -/
def closeScope (w : Walker σ ε) : Walker σ ε :=
  match w.tracker.slots.back? with
  | none => w
  | some slot =>
    { w.report [.leftScope slot.scope.span] with
      tracker := w.tracker.leave
      inOrder := w.inOrder && w.tracker.isInOrder }

/-- What a name means inside of a factory whose scope has this index. -/
def meaning (f : Factory) (scope : Nat) (tracker : Scope.Tracker) (name : String) : Meaning :=
  if tracker.resolve name == some scope then
    match f.binding.get? name with
    | some target => .bound target
    | none => .unbound (f.definition.params.contains name)
  else .foreign

/-- Meets an identifier. Nothing is found in it before the factory's scope is open. -/
def meet (w : Walker σ ε) (id : Ident) (site : Site) : Walker σ ε :=
  let encounter : Encounter := ⟨id, site, w.tracker, w.entered⟩
  let w : Walker σ ε := { w with encounters := w.encounters ++ [encounter] }
  match w.entered with
  | some ⟨f, some scope⟩ =>
    let meaning := meaning f scope w.tracker id.name
    { w with
      state.findings := record w.state.findings meaning id site
      state.log := w.state.log ++ identEvents meaning id site }
  | _ => w

/-- Enters the definition of a module. -/
def openModule (w : Walker σ ε) (f : Factory) : Walker σ ε :=
  { { w with state.findings := .empty }.report [.enteringModule f.name f.binding.size] with
    entered := some ⟨f, none⟩ }

/-- Hands a module to the sink. -/
def deliver (sink : Sink σ ε) (settings : Settings) (m : Module) (w : Walker σ ε) : Walker σ ε :=
  let env : Env σ ε := ⟨sink, settings, [], false, none⟩
  { w with state := Walk.deliver env m w.state }

/-- Leaves the definition of a module and emits what its factory turns into. -/
def closeModule (sink : Sink σ ε) (settings : Settings) (w : Walker σ ε) : Walker σ ε :=
  match w.entered with
  | none => w
  | some ⟨f, _⟩ =>
    let names := Imports.ofFindings f.binding settings.logging w.state.findings
    let imports := names.locals.imports
    let replacements := Imports.replacements f.binding w.state.findings
    let w := w.report
      (names.events ++ [.synthesized f.name imports.length replacements, .leavingModule f.name])
    { w with entered := none }.deliver sink settings
      ⟨f.name, .code imports (rewriteStmts (f.replacing names.locals) f.around f.body)⟩

end Walker

/-- What a call that defines nothing gives rise to report. -/
def unhandledEvents (logging : Logging) (callee : Expr) (args : List Expr) : List Event :=
  match Amd.recognize callee args with
  | .unhandled arguments => logging.warnings [.unhandledDefine arguments]
  | _ => []

/-- Follows an outline. -/
def Outline.drive {σ ε : Type} (sink : Sink σ ε) (settings : Settings) :
    Outline → Walker σ ε → Walker σ ε
  | .nothing, w => w
  | .both first second, w => second.drive sink settings (first.drive sink settings w)
  | .ident id site, w => w.meet id site
  | .patternIdent id, w => w.meet id (if w.inTarget then .reference else .declaration)
  | .unlessStopped part, w =>
    if w.state.stopped then { w with leftOut := w.leftOut + 1 } else part.drive sink settings w
  | .within scope part, w => (part.drive sink settings (w.openScope scope)).closeScope
  | .targeting inTarget part, w =>
    { part.drive sink settings { w with inTarget := inTarget } with inTarget := w.inTarget }
  | .call callee args parts, w =>
    match w.entered, found? callee args with
    | none, some (.module f) =>
      (parts.drive sink settings (w.openModule f)).closeModule sink settings
    | none, some (.textAsset path text) =>
      (w.report [.textAsset path]).deliver sink settings ⟨path, .text text⟩
    | none, none =>
      parts.drive sink settings (w.report (unhandledEvents settings.logging callee args))
    | some _, _ => parts.drive sink settings w

namespace Walker

variable {σ ε : Type}

/-- Walks a script. -/
def run (sink : Sink σ ε) (settings : Settings) (start : σ) (script : Script) : Walker σ ε :=
  if settings.limit == some 0 then (initial start).report [.nothingToEmit]
  else (Outline.within (.ofScript script) (outlineStmts script.body)).drive sink settings
    (initial start)

/-- How the walk of a script ended. -/
def result (w : Walker σ ε) : Except ε Nat :=
  match w.state.refusal with
  | some refusal => .error refusal
  | none => .ok w.state.emitted

end Walker
end Unbundle.Engine

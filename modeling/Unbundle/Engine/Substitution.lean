-- SUMMARY: Making modules in two passes: names are put in by the spans of what they replace.
import Unbundle.Engine.Visit

/-!
# Substitutions

A module can be made in two passes, without drafts. On its way through the factory the walk writes
what needs no import, and it keeps on record which part of the source each use of a parameter takes
up. When the factory has been walked, the imports get their names, and all that has to be written is
entered into `Substitutions`, by span. Then a second traversal goes over the statements and puts in
what is entered for the spans it comes across (`Substitutions.apply`). It knows of no scopes.
-/

namespace Unbundle

open Script

/-- What to put into a body, by the spans of the parts that it replaces. -/
structure Substitutions where
  /-- Other names of identifiers. -/
  idents : List (Span × String)
  /-- The names of the values of shorthand properties, which are spelled out. -/
  shorthands : List (Span × String)
  /-- What accesses to `default` give way to. -/
  members : List (Span × String)
deriving DecidableEq, Repr, Inhabited

namespace Substitutions

/-- What is on record before there are names. -/
def ofSpelledOut (spelledOut : List (Span × String)) : Substitutions :=
  ⟨[], spelledOut.reverse, []⟩

/-- Another entry, which comes before older ones for the same span. -/
def insert (s : Substitutions) (kind : UseKind) (span : Span) (name : String) : Substitutions :=
  match kind with
  | .name => { s with idents := (span, name) :: s.idents }
  | .shorthand => { s with shorthands := (span, name) :: s.shorthands }
  | .defaultMember => { s with members := (span, name) :: s.members }

/-- The entries for a kind of use. -/
def entries (s : Substitutions) : UseKind → List (Span × String)
  | .name => s.idents
  | .shorthand => s.shorthands
  | .defaultMember => s.members

/-- The number of spans with an entry for a kind of use. -/
def count (s : Substitutions) (kind : UseKind) : Nat :=
  ((s.entries kind).map Prod.fst).eraseDups.length

/-- The number of places that change. -/
def size (s : Substitutions) : Nat :=
  s.count .name + s.count .shorthand + s.count .defaultMember

-- ---------------------------------------------------------------------------
-- The second traversal
-- ---------------------------------------------------------------------------

def applyIdent (s : Substitutions) (id : Ident) : Ident :=
  match s.idents.lookup id.span with
  | some name => { id with name := name }
  | none => id

mutual

def applyExpr (s : Substitutions) : Expr → Expr
  | .ident id => .ident (s.applyIdent id)
  | .lit span value => .lit span value
  | .word span word => .word span word
  | .privateName span name => .privateName span name
  | .array span elems => .array span (s.applyExprs elems)
  | .hole => .hole
  | .spread span arg => .spread span (s.applyExpr arg)
  | .object span props => .object span (s.applyProperties props)
  | .fn name f => .fn (name.map s.applyIdent) (s.applyFunction f)
  | .arrow span isAsync params body => .arrow span isAsync (s.applyPats params) (s.applyStmts body)
  | .arrowExpr span isAsync params body =>
    .arrowExpr span isAsync (s.applyPats params) (s.applyExpr body)
  | .cls name cls => .cls (name.map s.applyIdent) (s.applyClass cls)
  | .template span quasis exprs => .template span quasis (s.applyExprs exprs)
  | .tagged span tag quasis exprs => .tagged span (s.applyExpr tag) quasis (s.applyExprs exprs)
  | .unary span op arg => .unary span op (s.applyExpr arg)
  | .update span op before arg => .update span op before (s.applyExpr arg)
  | .binary span op left right => .binary span op (s.applyExpr left) (s.applyExpr right)
  | .assign span op target value => .assign span op (s.applyTarget target) (s.applyExpr value)
  | .cond span test cons alt => .cond span (s.applyExpr test) (s.applyExpr cons) (s.applyExpr alt)
  | .seq span exprs => .seq span (s.applyExprs exprs)
  | .yield span delegate arg => .yield span delegate (s.applyOptExpr arg)
  | .await span arg => .await span (s.applyExpr arg)
  | .call span callee args => .call span (s.applyExpr callee) (s.applyExprs args)
  | .newCall span callee args => .newCall span (s.applyExpr callee) (s.applyExprs args)
  | .newBare span callee => .newBare span (s.applyExpr callee)
  | .member span object key =>
    match s.members.lookup span with
    | some name => .ident ⟨name, span⟩
    | none => .member span (s.applyExpr object) (s.applyKey key)
  | .optMember span optional object key =>
    .optMember span optional (s.applyExpr object) (s.applyKey key)
  | .optCall span optional callee args =>
    .optCall span optional (s.applyExpr callee) (s.applyExprs args)
  | .paren span inner => .paren span (s.applyExpr inner)

def applyExprs (s : Substitutions) : List Expr → List Expr
  | [] => []
  | e :: rest => s.applyExpr e :: s.applyExprs rest

def applyOptExpr (s : Substitutions) : Option Expr → Option Expr
  | none => none
  | some e => some (s.applyExpr e)

def applyKey (s : Substitutions) : Key → Key
  | .computed e => .computed (s.applyExpr e)
  | .named name => .named name
  | .str raw => .str raw
  | .num raw => .num raw
  | .privateName name => .privateName name

def applyProperty (s : Substitutions) : Property → Property
  | .shorthand id =>
    match s.shorthands.lookup id.span with
    | some name => id.spelledOut name
    | none => .shorthand (s.applyIdent id)
  | .keyValue key value => .keyValue (s.applyKey key) (s.applyExpr value)
  | .initialized id value => .initialized (s.applyIdent id) (s.applyExpr value)
  | .getter span key body => .getter span (s.applyKey key) (s.applyStmts body)
  | .setter span key param body =>
    .setter span (s.applyKey key) (s.applyPat param) (s.applyStmts body)
  | .method key f => .method (s.applyKey key) (s.applyFunction f)
  | .spread span arg => .spread span (s.applyExpr arg)

def applyProperties (s : Substitutions) : List Property → List Property
  | [] => []
  | p :: rest => s.applyProperty p :: s.applyProperties rest

def applyPat (s : Substitutions) : Pat → Pat
  | .ident id => .ident (s.applyIdent id)
  | .array span elems => .array span (s.applyPats elems)
  | .hole => .hole
  | .object span props => .object span (s.applyPatProperties props)
  | .rest span arg => .rest span (s.applyPat arg)
  | .default span left right => .default span (s.applyPat left) (s.applyExpr right)
  | .expr e => .expr (s.applyExpr e)

def applyPats (s : Substitutions) : List Pat → List Pat
  | [] => []
  | p :: rest => s.applyPat p :: s.applyPats rest

/-- The target of an assignment. A property that is assigned to is not looked up. -/
def applyTarget (s : Substitutions) : Pat → Pat
  | .expr (.member span object key) => .expr (.member span (s.applyExpr object) (s.applyKey key))
  | .expr e => .expr (s.applyExpr e)
  | .ident id => .ident (s.applyIdent id)
  | .array span elems => .array span (s.applyPats elems)
  | .hole => .hole
  | .object span props => .object span (s.applyPatProperties props)
  | .rest span arg => .rest span (s.applyPat arg)
  | .default span left right => .default span (s.applyPat left) (s.applyExpr right)

def applyPatProperty (s : Substitutions) : PatProperty → PatProperty
  | .keyValue key value => .keyValue (s.applyKey key) (s.applyPat value)
  | .shorthand id default => .shorthand (s.applyIdent id) (s.applyOptExpr default)
  | .rest span arg => .rest span (s.applyPat arg)

def applyPatProperties (s : Substitutions) : List PatProperty → List PatProperty
  | [] => []
  | p :: rest => s.applyPatProperty p :: s.applyPatProperties rest

def applyFunction (s : Substitutions) : Function → Function
  | .mk span isAsync isGenerator params body =>
    .mk span isAsync isGenerator (s.applyPats params) (s.applyStmts body)

def applyClass (s : Substitutions) : Script.Class → Script.Class
  | .mk span superClass members => .mk span (s.applyOptExpr superClass) (s.applyMembers members)

def applyMember (s : Substitutions) : ClassMember → ClassMember
  | .ctor span params body => .ctor span (s.applyPats params) (s.applyStmts body)
  | .method isStatic kind key f => .method isStatic kind (s.applyKey key) (s.applyFunction f)
  | .field isStatic key value => .field isStatic (s.applyKey key) (s.applyOptExpr value)
  | .staticBlock body => .staticBlock (s.applyStmts body)
  | .empty => .empty

def applyMembers (s : Substitutions) : List ClassMember → List ClassMember
  | [] => []
  | m :: rest => s.applyMember m :: s.applyMembers rest

def applyStmt (s : Substitutions) : Stmt → Stmt
  | .expr e => .expr (s.applyExpr e)
  | .block body => .block (s.applyStmts body)
  | .empty => .empty
  | .debugger => .debugger
  | .withStmt object body => .withStmt (s.applyExpr object) (s.applyStmt body)
  | .returnStmt arg => .returnStmt (s.applyOptExpr arg)
  | .labeled label body => .labeled label (s.applyStmt body)
  | .breakStmt label => .breakStmt label
  | .continueStmt label => .continueStmt label
  | .ifStmt test cons alt => .ifStmt (s.applyExpr test) (s.applyStmt cons) (s.applyOptStmt alt)
  | .switch discriminant cases => .switch (s.applyExpr discriminant) (s.applyCases cases)
  | .throwStmt arg => .throwStmt (s.applyExpr arg)
  | .tryStmt block handler finalizer =>
    .tryStmt (s.applyStmts block) (s.applyHandler handler) (s.applyFinalizer finalizer)
  | .whileLoop test body => .whileLoop (s.applyExpr test) (s.applyStmt body)
  | .doWhile test body => .doWhile (s.applyExpr test) (s.applyStmt body)
  | .forLoop init test update body =>
    .forLoop (s.applyForInit init) (s.applyOptExpr test) (s.applyOptExpr update) (s.applyStmt body)
  | .forIn left right body => .forIn (s.applyForHead left) (s.applyExpr right) (s.applyStmt body)
  | .forOf isAwait left right body =>
    .forOf isAwait (s.applyForHead left) (s.applyExpr right) (s.applyStmt body)
  | .varDecl kind decls => .varDecl kind (s.applyDeclarators decls)
  | .fnDecl name f => .fnDecl (s.applyIdent name) (s.applyFunction f)
  | .classDecl name cls => .classDecl (s.applyIdent name) (s.applyClass cls)

def applyStmts (s : Substitutions) : List Stmt → List Stmt
  | [] => []
  | stmt :: rest => s.applyStmt stmt :: s.applyStmts rest

def applyOptStmt (s : Substitutions) : Option Stmt → Option Stmt
  | none => none
  | some stmt => some (s.applyStmt stmt)

def applyCases (s : Substitutions) : List Case → List Case
  | [] => []
  | .mk test body :: rest => .mk (s.applyOptExpr test) (s.applyStmts body) :: s.applyCases rest

def applyHandler (s : Substitutions) : Option Catch → Option Catch
  | none => none
  | some (.mk span param body) => some (.mk span (s.applyOptPat param) (s.applyStmts body))

def applyOptPat (s : Substitutions) : Option Pat → Option Pat
  | none => none
  | some p => some (s.applyPat p)

def applyFinalizer (s : Substitutions) : Option (List Stmt) → Option (List Stmt)
  | none => none
  | some body => some (s.applyStmts body)

def applyDeclarators (s : Substitutions) : List Declarator → List Declarator
  | [] => []
  | .mk name init :: rest => .mk (s.applyPat name) (s.applyOptExpr init) :: s.applyDeclarators rest

def applyForInit (s : Substitutions) : ForInit → ForInit
  | .empty => .empty
  | .var kind decls => .var kind (s.applyDeclarators decls)
  | .expr e => .expr (s.applyExpr e)

def applyForHead (s : Substitutions) : ForHead → ForHead
  | .var kind decls => .var kind (s.applyDeclarators decls)
  | .pat pat => .pat (s.applyPat pat)

end

/-- Puts the entries into the statements of a factory. -/
def apply (s : Substitutions) (body : List Stmt) : List Stmt :=
  if s.size = 0 then body else s.applyStmts body

end Substitutions

namespace Imports

/-- Sees to a use, and enters the local name that it is for. -/
def substitute (binding : Amd.Binding) (step : Names → Use → Names)
    (made : Names × Substitutions) (use : Use) : Names × Substitutions :=
  let names := step made.1 use
  match (binding.path? use.param).bind (names.locals.get? use.kind) with
  | none => (names, made.2)
  | some name => (names, made.2.insert use.kind use.span name)

/-- Chooses the local names for what was found in a body, and enters them where they belong. -/
def synthesize (binding : Amd.Binding) (logging : Logging) (f : Findings) : Names × Substitutions :=
  let (defaults, names) := f.uses.toList.partition (·.kind.isDefault)
  let start : Names := ⟨⟨[], []⟩, f.taken, []⟩
  let named := names.foldl (substitute binding (Names.addNamespace binding logging))
    (start, .ofSpelledOut f.spelledOut)
  defaults.foldl (substitute binding (Names.addDefault binding logging)) named

end Imports

namespace Engine

variable {σ ε : Type}

/-- Walks the factory of a module and emits the module that two passes make of it. -/
def Walk.moduleInPasses (d : Amd.Definition) (scope : Scope) (factory : Walk σ ε (List Stmt)) :
    Walk σ ε Unit :=
  fun env s =>
    let binding := Amd.Binding.ofDefinition d
    let depth := env.scopes.length
    let s := { s with findings := .empty }
    let s := s.report [.enteringModule d.name binding.size, .factoryScope d.name depth]
    let (draft, s) := function scope factory { env with active := some ⟨d, binding, depth⟩ } s
    let (names, substitutions) := Imports.synthesize binding env.settings.logging s.findings
    let imports := names.locals.imports
    let s := s.report
      (names.events ++
        [.synthesized d.name imports.length substitutions.size, .leavingModule d.name])
    let body := substitutions.apply (draft .inPlace)
    (fun _ => (), deliver env ⟨d.name, .code imports body⟩ s)

end Engine
end Unbundle

-- SUMMARY: The walk over a script: its surroundings, its state, and drafts of changed trees.
import Unbundle.Engine.Identifier

/-!
# The walk

A bundle is walked once. On the way, scopes are opened and closed, the uses of a module's parameters
are recorded, and finished modules are handed to a sink.

The names of a module's imports are known only when its whole body has been walked, so a walk over a
tree gives a `Draft`: the changed tree as a function of what is filled in at identifiers. `Walk` is an
applicative functor: the parts of a tree are walked in a fixed order, and no part depends on the
outcome of another.
-/

namespace Unbundle.Engine

open Script

-- ---------------------------------------------------------------------------
-- Sinks
-- ---------------------------------------------------------------------------

/-- What handing over a module leads to. -/
structure Delivery (σ ε : Type) where
  state : σ
  events : List Event
  /-- Why the module was refused, if it was. -/
  refusal : Option ε

/-- Receives modules one after the other. -/
abbrev Sink (σ ε : Type) := σ → Module → Delivery σ ε

structure Settings where
  /-- How many modules to emit at most. -/
  limit : Option Nat
  logging : Logging
deriving DecidableEq, Repr, Inhabited

-- ---------------------------------------------------------------------------
-- Surroundings and state
-- ---------------------------------------------------------------------------

/-- What surrounds a part of the tree. -/
structure Env (σ ε : Type) where
  sink : Sink σ ε
  settings : Settings
  scopes : Scope.Stack
  /-- Inside the target of an assignment names are used, not declared. -/
  inTarget : Bool
  active : Option Active

structure State (σ ε : Type) where
  sink : σ
  /-- How many modules were accepted. -/
  emitted : Nat
  /-- The limit is reached or the sink has refused a module. -/
  stopped : Bool
  refusal : Option ε
  log : Array Event
  /-- What has been found in the active module. -/
  findings : Findings

def State.initial {σ ε : Type} (sink : σ) : State σ ε :=
  ⟨sink, 0, false, none, #[], .empty⟩

def State.report {σ ε : Type} (s : State σ ε) (events : List Event) : State σ ε :=
  { s with log := s.log ++ events }

/-- Walks a part of the tree: gives a draft of it and the state after it. -/
def Walk (σ ε α : Type) := Env σ ε → State σ ε → Draft α × State σ ε

namespace Walk

variable {σ ε α β : Type}

instance : Applicative (Walk σ ε) where
  pure a := fun _ s => (fun _ => a, s)
  map f w := fun env s =>
    let (a, s) := w env s
    (fun filling => f (a filling), s)
  seq wf wa := fun env s =>
    let (f, s) := wf env s
    let (a, s) := wa () env s
    (fun filling => f filling (a filling), s)

/-- Reports events. -/
def report (events : List Event) : Walk σ ε Unit :=
  fun _ s => (fun _ => (), s.report events)

/-- Leaves a part as it is once the walk has stopped. -/
def unlessStopped (a : α) (w : Walk σ ε α) : Walk σ ε α :=
  fun env s => if s.stopped then (fun _ => a, s) else w env s

/-- Walks inside of an assignment target, or outside of one. -/
def targeting (inTarget : Bool) (w : Walk σ ε α) : Walk σ ε α :=
  fun env s => w { env with inTarget := inTarget } s

/-- Walks what a scope encloses. -/
def within (scope : Scope) (w : Walk σ ε α) : Walk σ ε α :=
  fun env s =>
    let (a, s) := w { env with scopes := env.scopes.enter scope } s
    (a, s.report [.leftScope scope.span])

/-- Walks what a function encloses; its names are declared again. -/
def function (scope : Scope) (w : Walk σ ε α) : Walk σ ε α :=
  targeting false (within scope w)

-- ---------------------------------------------------------------------------
-- Identifiers
-- ---------------------------------------------------------------------------

/-- Walks an identifier. Outside of modules nothing happens to it. -/
def ident (id : Ident) (site : Site) : Walk σ ε Replacement :=
  fun env s =>
    match env.active with
    | none => (fun _ => .keep, s)
    | some active =>
      let meaning := active.meaning env.scopes id.name
      (Filling.at meaning site,
        { s with
          findings := record s.findings meaning id site
          log := s.log ++ identEvents meaning id site })

/-- An identifier that is read or written. -/
def reference (id : Ident) : Walk σ ε Ident :=
  Replacement.rename id <$> ident id .reference

/-- An identifier that declares a name. -/
def declaration (id : Ident) : Walk σ ε Ident :=
  Replacement.rename id <$> ident id .declaration

/-- An identifier in a pattern, which declares a name unless the pattern is assigned to. -/
def patternIdent (id : Ident) : Walk σ ε Ident :=
  fun env s => if env.inTarget then reference id env s else declaration id env s

/-- A property `x` of an object literal; if its value changes its name, it is spelled out. -/
def shorthand (id : Ident) : Walk σ ε Property :=
  (fun
    | .keep => .shorthand id
    | .reserved name | .imported name => id.spelledOut name) <$>
  ident id .shorthand

/-- An access `x.default`; for an imported module it is the import of its default. -/
def defaultAccess (span : Span) (id : Ident) : Walk σ ε Expr :=
  (fun
    | .imported name => .ident ⟨name, span⟩
    | r => .member span (.ident (r.rename id)) (.named "default")) <$>
  ident id (.defaultObject span)

-- ---------------------------------------------------------------------------
-- Modules
-- ---------------------------------------------------------------------------

/-- Hands a module to the sink. -/
def deliver (env : Env σ ε) (m : Module) (s : State σ ε) : State σ ε :=
  let d := env.sink s.sink m
  let s := { s with sink := d.state, log := s.log ++ d.events }
  match d.refusal with
  | some refusal => { s with refusal := some refusal, stopped := true }
  | none =>
    let s := { s with emitted := s.emitted + 1 }
    if env.settings.limit.any (· ≤ s.emitted) then
      { s with log := s.log.push (.limitReached s.emitted), stopped := true }
    else s

/-- Emits a text asset. -/
def textAsset (path text : String) : Walk σ ε Unit :=
  fun env s => (fun _ => (), deliver env ⟨path, .text text⟩ (s.report [.textAsset path]))

/-- Walks the factory of a module and emits what it drafts. -/
def module (d : Amd.Definition) (scope : Scope) (factory : Walk σ ε (List Stmt)) : Walk σ ε Unit :=
  fun env s =>
    let binding := Amd.Binding.ofDefinition d
    let depth := env.scopes.length
    let s := { s with findings := .empty }
    let s := s.report [.enteringModule d.name binding.size, .factoryScope d.name depth]
    let (draft, s) := function scope factory { env with active := some ⟨d, binding, depth⟩ } s
    let names := Imports.ofFindings binding env.settings.logging s.findings
    let imports := names.locals.imports
    let replacements := Imports.replacements binding s.findings
    let s := s.report
      (names.events ++ [.synthesized d.name imports.length replacements, .leavingModule d.name])
    (fun _ => (), deliver env ⟨d.name, .code imports (draft (.complete names.locals))⟩ s)

/-- Chooses a walk by what a call defines; inside of a module nothing is defined. -/
def definition (callee : Expr) (args : List Expr) (parts whole : Walk σ ε α)
    (factory : Amd.Definition → Walk σ ε α) : Walk σ ε α :=
  fun env s =>
    match env.active, Amd.recognize callee args with
    | some _, _ | none, .other => parts env s
    | none, .module d => factory d env s
    | none, .textAsset path text => (textAsset path text *> whole) env s
    | none, .unhandled arguments =>
      (report (env.settings.logging.warnings [.unhandledDefine arguments]) *> parts) env s

end Walk
end Unbundle.Engine

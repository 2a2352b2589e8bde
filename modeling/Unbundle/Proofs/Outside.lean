-- SUMMARY: Outside of modules, the walk hands the modules it finds to the sink until it stops.
import Unbundle.Proofs.Definitions
import Unbundle.Proofs.Inside
import Unbundle.Proofs.Locals

/-!
# The walk outside of modules

Outside of modules a walk has one lasting effect: it hands modules to the sink, until the limit is
reached or the sink refuses one. `Finds w found` says which modules a walk hands over: its progress
is that of offering the modules of `found` in order. A run that has stopped takes no more offers, so
the predicate holds no matter where in the tree the walk stops.

A relation between walks and definitions `Gathers` if the operations of walks keep it. It then holds
of the walk over any statements and of the definitions in them (`Gathers.holds_visitStmts`). `Finds`
is one of these relations (`gathers_finds`).
-/

namespace Unbundle.Engine

open Script

variable {σ ε α β : Type}

-- ---------------------------------------------------------------------------
-- Progress
-- ---------------------------------------------------------------------------

/-- How far a run has got. -/
structure Progress (σ ε : Type) where
  sink : σ
  /-- How many modules were accepted. -/
  emitted : Nat
  stopped : Bool
  refusal : Option ε

/-- Offers a module to the sink, unless the run has stopped. -/
def Progress.offer (sink : Sink σ ε) (limit : Option Nat) (p : Progress σ ε) (m : Module) :
    Progress σ ε :=
  if p.stopped then p
  else
    match (sink p.sink m).refusal with
    | some refusal => ⟨(sink p.sink m).state, p.emitted, true, some refusal⟩
    | none => ⟨(sink p.sink m).state, p.emitted + 1, limit.any (· ≤ p.emitted + 1), p.refusal⟩

/-- Offers modules one after the other. -/
def Progress.offerAll (sink : Sink σ ε) (limit : Option Nat) (p : Progress σ ε)
    (modules : List Module) : Progress σ ε :=
  modules.foldl (Progress.offer sink limit) p

def State.progress (s : State σ ε) : Progress σ ε :=
  ⟨s.sink, s.emitted, s.stopped, s.refusal⟩

@[simp] theorem State.progress_report (s : State σ ε) (events : List Event) :
    (s.report events).progress = s.progress := rfl

@[simp] theorem State.progress_after (f : Factory) (s : State σ ε) (steps : List Step) :
    (s.after f steps).progress = s.progress := rfl

namespace Progress

variable (sink : Sink σ ε) (limit : Option Nat) (p : Progress σ ε)

@[simp] theorem offerAll_nil : p.offerAll sink limit [] = p := rfl

@[simp] theorem offerAll_cons (m : Module) (rest : List Module) :
    p.offerAll sink limit (m :: rest) = (p.offer sink limit m).offerAll sink limit rest := rfl

@[simp] theorem offerAll_append (modules rest : List Module) :
    p.offerAll sink limit (modules ++ rest) =
      (p.offerAll sink limit modules).offerAll sink limit rest :=
  List.foldl_append ..

/-- A run that has stopped stays as it is. -/
theorem offerAll_of_stopped {p : Progress σ ε} (h : p.stopped = true) (modules : List Module) :
    p.offerAll sink limit modules = p := by
  induction modules with
  | nil => rfl
  | cons m rest ih => rw [offerAll_cons, offer, if_pos h, ih]

end Progress

/-- Handing a module to the sink is an offer. -/
theorem progress_deliver (env : Env σ ε) (m : Module) {s : State σ ε} (hs : s.stopped = false) :
    (Walk.deliver env m s).progress = s.progress.offer env.sink env.settings.limit m := by
  simp only [Walk.deliver, Progress.offer, State.progress, hs]
  cases (env.sink s.sink m).refusal with
  | some refusal => rfl
  | none =>
    cases hl : env.settings.limit.any (· ≤ s.emitted + 1) with
    | true => simp
    | false => simp

-- ---------------------------------------------------------------------------
-- Walks and what they come across
-- ---------------------------------------------------------------------------

/-- The operations that walks are made of keep a relation between a walk and the definitions that it
comes across, in order. Whether the call of `define` itself keeps the relation is up to it. -/
structure Gathers (P : {α : Type} → Walk σ ε α → List Found → Prop) : Prop where
  pure {α : Type} (a : α) : P (Pure.pure a : Walk σ ε α) []
  map {α β : Type} (g : α → β) {w : Walk σ ε α} {found : List Found} : P w found → P (g <$> w) found
  seq {α β : Type} {wg : Walk σ ε (α → β)} {w : Walk σ ε α} {found rest : List Found} :
    P wg found → P w rest → P (wg <*> w) (found ++ rest)
  unlessStopped {α : Type} (a : α) {w : Walk σ ε α} {found : List Found} :
    P w found → P (Walk.unlessStopped a w) found
  targeting {α : Type} (b : Bool) {w : Walk σ ε α} {found : List Found} :
    P w found → P (Walk.targeting b w) found
  within {α : Type} (scope : Scope) {w : Walk σ ε α} {found : List Found} :
    P w found → P (Walk.within scope w) found
  ident (id : Ident) (site : Site) : P (Walk.ident id site : Walk σ ε Replacement) []
  patternIdent (id : Ident) : P (Walk.reference id : Walk σ ε Ident) [] →
    P (Walk.declaration id : Walk σ ε Ident) [] → P (Walk.patternIdent id : Walk σ ε Ident) []
  call (span : Span) {callee : Expr} {args : List Expr} :
    P (visitExpr callee : Walk σ ε Expr) (definitionsExpr callee) →
      P (visitExprs args : Walk σ ε (List Expr)) (definitionsExprs args) →
        P (visitExpr (.call span callee args) : Walk σ ε Expr)
          (definitionsExpr (.call span callee args))

namespace Gathers

variable {P : {α : Type} → Walk σ ε α → List Found → Prop} (h : Gathers P)

include h

theorem holds_reference (id : Ident) : P (Walk.reference id : Walk σ ε Ident) [] :=
  h.map _ (h.ident id .reference)

theorem holds_declaration (id : Ident) : P (Walk.declaration id : Walk σ ε Ident) [] :=
  h.map _ (h.ident id .declaration)

theorem of_interior {around : Around} {scope : Scope} {names : List String} {p : Piece σ ε α}
    (hp : Interior (fun _ _ p => P p.walk p.found) around scope names p) : P p.walk p.found := by
  induction hp with
  | part _ hpart => exact hpart
  | map g _ ih => exact h.map g ih
  | seq _ _ ih ih' => exact h.seq ih ih'

/-- Such a relation is a property of code that looks at two of its readings. -/
theorem compositional : Compositional fun _ _ (p : Piece σ ε _) => P p.walk p.found where
  pure _ a := h.pure a
  map g hp := h.map g hp
  seq hg hp := h.seq hg hp
  unlessStopped a hp := h.unlessStopped a hp
  targeted hp := h.targeting true hp
  untargeted hp := h.targeting false hp
  ident _ id site := h.ident id site
  patternIdent _ id := h.patternIdent id (h.holds_reference id) (h.holds_declaration id)
  unary _ _ harg := h.unlessStopped _ (h.map _ harg)
  call span hcallee hargs _ := h.call span hcallee hargs
  scope hp := h.within _ (h.of_interior hp)
  block _ _ _ _ hp := hp
  staticBlock hp := hp
  handler g _ _ hparam hbody := h.within _ (h.seq (h.map g hparam) hbody)

theorem holds_visitStmts (body : List Stmt) :
    P (visitStmts body : Walk σ ε (List Stmt)) (definitionsStmts body) :=
  h.compositional.holds_stmts ⟨[], false, true⟩ rfl rfl body

end Gathers

-- ---------------------------------------------------------------------------
-- Walks that find modules
-- ---------------------------------------------------------------------------

/-- Outside of modules, a walk offers the modules of these definitions to the sink. -/
def Finds (w : Walk σ ε α) (found : List Found) : Prop :=
  ∀ (env : Env σ ε) (s : State σ ε), env.active = none →
    (w env s).2.progress =
      s.progress.offerAll env.sink env.settings.limit (found.map Found.toModule)

namespace Finds

variable {w : Walk σ ε α} {found rest : List Found}

theorem map (g : α → β) (h : Finds w found) : Finds (g <$> w) found :=
  fun env s henv => h env s henv

theorem seq {wg : Walk σ ε (α → β)} (hg : Finds wg found) (h : Finds w rest) :
    Finds (wg <*> w) (found ++ rest) := by
  intro env s henv
  rw [Walk.seq_apply, List.map_append, Progress.offerAll_append, ← hg env s henv]
  exact h env _ henv

theorem unlessStopped (a : α) (h : Finds w found) : Finds (Walk.unlessStopped a w) found := by
  intro env s henv
  unfold Walk.unlessStopped
  split
  · rename_i hs
    exact (Progress.offerAll_of_stopped _ _ hs _).symm
  · exact h env s henv

theorem ident (id : Ident) (site : Site) : Finds (Walk.ident id site : Walk σ ε Replacement) [] := by
  intro env s henv
  simp only [Walk.ident, henv]
  rfl

theorem patternIdent (id : Ident) (href : Finds (Walk.reference id : Walk σ ε Ident) [])
    (hdecl : Finds (Walk.declaration id : Walk σ ε Ident) []) :
    Finds (Walk.patternIdent id : Walk σ ε Ident) [] := by
  intro env s henv
  unfold Walk.patternIdent
  split
  · exact href env s henv
  · exact hdecl env s henv

end Finds

-- ---------------------------------------------------------------------------
-- Definitions
-- ---------------------------------------------------------------------------

/-- A partial function has these values at these items, one by one. -/
theorem mapM_eq_some_iff {f : α → Option β} {items : List α} {values : List β} :
    items.mapM f = some values ↔ items.map f = values.map some := by
  induction items generalizing values with
  | nil => cases values <;> simp
  | cons item rest ih =>
    cases values with
    | nil => simp [Option.bind_eq_some_iff]
    | cons value others => simp [Option.bind_eq_some_iff, ih]

/-- All parameters are plain names. -/
theorem patNames_of_mapM {params : List Pat} {names : List String}
    (h : params.mapM Amd.paramName? = some names) : patNames params = names := by
  rw [mapM_eq_some_iff] at h
  induction params generalizing names with
  | nil =>
    obtain rfl : names = [] := by simpa using h
    rfl
  | cons p rest ih =>
    cases names with
    | nil => cases h
    | cons name others =>
      obtain ⟨hname, hothers⟩ := List.cons.inj h
      cases p with
      | ident id =>
        obtain rfl := Option.some.inj hname
        simp [patNames, Pat.names, ih hothers]
      | _ => cases hname

theorem moduleDefinition?_of_recognize {callee : Expr} {args : List Expr} {d : Amd.Definition}
    (h : Amd.recognize callee args = .module d) : Amd.moduleDefinition? args = some d := by
  unfold Amd.recognize at h
  split at h
  · cases h
  · split at h
    · cases h
    · split at h
      · rename_i d' hd
        cases h
        exact hd
      · cases h

/-- What arguments define a module, and which. -/
theorem moduleDefinition?_eq_some_iff {args : List Expr} {d : Amd.Definition} :
    Amd.moduleDefinition? args = some d ↔
      ∃ name span elems own at_ isAsync isGenerator params body,
        args = [name, .array span elems, .fn own (.mk at_ isAsync isGenerator params body)] ∧
          Amd.stringValue? name = some d.name ∧
          elems.mapM Amd.stringValue? = some d.dependencies ∧
          params.mapM Amd.paramName? = some d.params ∧ d.params ≠ [] := by
  constructor
  · intro h
    unfold Amd.moduleDefinition? at h
    split at h
    · rename_i name span elems own at_ isAsync isGenerator params body
      simp only [Option.bind_eq_bind, Option.bind_eq_some_iff] at h
      obtain ⟨value, hname, dependencies, hdeps, names, hparams, h⟩ := h
      split at h
      · cases h
      · rename_i hne
        cases h
        exact ⟨name, span, elems, own, at_, isAsync, isGenerator, params, body, rfl, hname, hdeps,
          hparams, by simpa using hne⟩
    · cases h
  · rintro ⟨name, span, elems, own, at_, isAsync, isGenerator, params, body, rfl, hname, hdeps,
      hparams, hne⟩
    simp [Amd.moduleDefinition?, hname, hdeps, hparams, hne]

/-- The shape of arguments that define a module. -/
theorem moduleDefinition?_eq_some {args : List Expr} {d : Amd.Definition}
    (h : Amd.moduleDefinition? args = some d) :
    ∃ name deps own span isAsync isGenerator params body,
      args = [name, deps, .fn own (.mk span isAsync isGenerator params body)] ∧
        params.mapM Amd.paramName? = some d.params := by
  obtain ⟨name, atArray, elems, own, span, isAsync, isGenerator, params, body, hargs, -, -, hparams,
    -⟩ := moduleDefinition?_eq_some_iff.1 h
  exact ⟨name, .array atArray elems, own, span, isAsync, isGenerator, params, body, hargs, hparams⟩

/-- The shape of a call that defines a module. -/
theorem recognize_eq_module {callee : Expr} {args : List Expr} {d : Amd.Definition}
    (h : Amd.recognize callee args = .module d) :
    ∃ name deps own span isAsync isGenerator params body,
      args = [name, deps, .fn own (.mk span isAsync isGenerator params body)] ∧
        d.params = patNames params := by
  obtain ⟨name, deps, own, span, isAsync, isGenerator, params, body, hargs, hnames⟩ :=
    moduleDefinition?_eq_some (moduleDefinition?_of_recognize h)
  exact ⟨name, deps, own, span, isAsync, isGenerator, params, body, hargs,
    (patNames_of_mapM hnames).symm⟩

/-- The walk over a factory. -/
theorem function_factory (f : Factory) {env : Env σ ε} {s : State σ ε} (hs : s.stopped = false) :
    Walk.function f.scope f.piece.walk { env with active := some (f.active env.scopes) } s =
      (fun filling => rewriteStmts (f.filled filling) f.around f.body,
        (s.after f f.steps).report [.leftScope f.scope.span]) := by
  have hwalk := f.follows_piece env.scopes
    { env with
      scopes := env.scopes.enter f.scope
      inTarget := false
      active := some (f.active env.scopes) } s ⟨rfl, rfl, rfl⟩ hs
  exact congrArg (fun r => (r.1, r.2.report [.leftScope f.scope.span])) hwalk

/-- What is reported from entering a module to leaving it. -/
def Factory.log (f : Factory) (logging : Logging) (depth : Nat) : List Event :=
  [.enteringModule f.name f.binding.size, .factoryScope f.name depth] ++
    (f.steps.flatMap f.events ++ ([.leftScope f.scope.span] ++
      ((Imports.ofFindings f.binding logging f.findings).events ++
        [.synthesized f.name f.locals.imports.length (Imports.replacements f.binding f.findings),
          .leavingModule f.name])))

/-- When the walk over a factory ends, its module is handed over. -/
theorem state_module (f : Factory) {env : Env σ ε} {s : State σ ε} (hs : s.stopped = false) :
    (Walk.module f.definition f.scope f.piece.walk env s).2 =
      Walk.deliver env f.module
        ({ s with findings := f.findings }.report
          (f.log env.settings.logging env.scopes.length)) := by
  have hrun : Walk.function f.scope f.piece.walk
      { env with
        active := some ⟨f.definition, Amd.Binding.ofDefinition f.definition, env.scopes.length⟩ }
      ({ s with findings := .empty }.report
        [.enteringModule f.definition.name (Amd.Binding.ofDefinition f.definition).size,
          .factoryScope f.definition.name env.scopes.length]) = _ := function_factory f hs
  have hlocals : (Imports.ofFindings f.binding env.settings.logging f.findings).locals = f.locals :=
    Imports.locals_ofFindings f.findings
  unfold Walk.module
  simp only [hrun]
  rw [Factory.log, Factory.module, ← hlocals]
  simp only [← State.report_report]
  rfl

/-- What comes of the state at a call outside of modules, according to what the call defines. -/
inductive AtCall (env : Env σ ε) (s : State σ ε) (parts : Walk σ ε α) :
    Option Found → State σ ε → Prop where
  /-- The parts of the call are searched, after at most a warning. -/
  | parts (events : List Event)
    (h : ∀ e ∈ events, ∃ arguments, e = .unhandledDefine arguments) :
    AtCall env s parts none (parts env (s.report events)).2
  | textAsset (path text : String) :
    AtCall env s parts (some (.textAsset path text))
      (Walk.deliver env ⟨path, .text text⟩ (s.report [.textAsset path]))
  | module (f : Factory) :
    AtCall env s parts (some (.module f))
      (Walk.deliver env f.module
        ({ s with findings := f.findings }.report (f.log env.settings.logging env.scopes.length)))

/-- What happens at a call is settled by what it defines. -/
theorem atCall_visitExpr (span : Span) (callee : Expr) (args : List Expr) {env : Env σ ε}
    {s : State σ ε} (henv : env.active = none) (hs : s.stopped = false) :
    AtCall env s (Expr.call span <$> visitExpr callee <*> visitExprs args) (found? callee args)
      (visitExpr (.call span callee args) env s).2 := by
  simp only [visitExpr, Walk.unlessStopped, hs, Bool.false_eq_true, if_false, Walk.definition, henv]
  cases hr : Amd.recognize callee args with
  | other =>
    rw [show found? callee args = none by simp [found?, hr]]
    have hparts : AtCall env s (Expr.call span <$> visitExpr callee <*> visitExprs args) none _ :=
      .parts [] (by simp)
    rwa [show s.report [] = s by simp [State.report]] at hparts
  | unhandled arguments =>
    rw [show found? callee args = none by simp [found?, hr]]
    refine .parts _ fun e he => ⟨arguments, ?_⟩
    cases hlogging : env.settings.logging <;> simp_all [Logging.warnings, Logging.isVerbose]
  | textAsset path text =>
    rw [show found? callee args = some (.textAsset path text) by simp [found?, hr]]
    exact .textAsset path text
  | module d =>
    obtain ⟨name, deps, own, at_, isAsync, isGenerator, params, body, rfl, hparams⟩ :=
      recognize_eq_module hr
    let f : Factory := ⟨d.name, d.dependencies, own, at_, params, body⟩
    have hd : d = f.definition := by simp [f, Factory.definition, ← hparams]
    rw [show found? callee [name, deps, .fn own (.mk at_ isAsync isGenerator params body)] =
      some (.module f) by simp [found?, hr, f]]
    simp only [visitFactory]
    rw [hd]
    exact state_module f hs ▸ .module f

theorem finds_call (span : Span) {callee : Expr} {args : List Expr}
    (hcallee : Finds (visitExpr callee : Walk σ ε Expr) (definitionsExpr callee))
    (hargs : Finds (visitExprs args : Walk σ ε (List Expr)) (definitionsExprs args)) :
    Finds (visitExpr (.call span callee args) : Walk σ ε Expr)
      (definitionsExpr (.call span callee args)) := by
  have hparts := (hcallee.map (Expr.call span)).seq hargs
  intro env s henv
  cases hs : s.stopped with
  | true =>
    rw [Progress.offerAll_of_stopped _ _ hs]
    simp [visitExpr, Walk.unlessStopped, hs]
  | false =>
    have hcall := atCall_visitExpr span callee args henv hs
    simp only [definitionsExpr]
    generalize found? callee args = found at hcall ⊢
    generalize (visitExpr (.call span callee args) env s).2 = after at hcall ⊢
    cases hcall with
    | parts events _ => exact hparts env _ henv
    | textAsset path text => exact progress_deliver env _ hs
    | module f => exact progress_deliver env _ hs

theorem gathers_finds : @Gathers σ ε Finds where
  pure _ := fun _ _ _ => rfl
  map g _ _ := Finds.map g
  seq := Finds.seq
  unlessStopped a _ _ := Finds.unlessStopped a
  targeting _ _ _ h := fun _ s henv => h _ s henv
  within _ _ _ h := fun _ s henv => h _ s henv
  ident := Finds.ident
  patternIdent := Finds.patternIdent
  call := finds_call

/-- A walk over statements offers the modules that they define to the sink. -/
theorem finds_visitStmts (ss : List Stmt) :
    Finds (visitStmts ss : Walk σ ε (List Stmt)) (definitionsStmts ss) :=
  gathers_finds.holds_visitStmts ss

end Unbundle.Engine

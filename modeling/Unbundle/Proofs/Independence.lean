-- SUMMARY: Modules depend on the calls that define them, and on nothing else around.
import Mathlib.Logic.Relator
import Unbundle.Proofs.Closure
import Unbundle.Proofs.Frame
import Unbundle.Proofs.Spans

/-!
# Independence of modules

The walk goes through a script with one state, and it resolves names in all scopes that are open,
also in those around a module. Nothing of this shows in the modules: the same code gives the same
modules and leaves the same code, up to spans, wherever it stands.

The proof compares the walk over a tree with the walk over the same tree without spans.
`Simulates R w w'` says that from alike surroundings and states, the drafts of two walks are related
by `R` and their states are alike again; scopes are alike if they declare the same names. The
relation is closed under the operations that walks are made of, so one induction over the tree gives
`erases_visitStmts`.
-/

namespace Unbundle

-- ---------------------------------------------------------------------------
-- Findings without spans
-- ---------------------------------------------------------------------------

def Use.erase (use : Use) : Use :=
  { use with span := .nowhere }

namespace Findings

/-- Findings in code that stands nowhere. -/
def erase (findings : Findings) : Findings where
  uses := findings.uses.map Use.erase
  taken := findings.taken
  spelledOut := findings.spelledOut.map fun entry => (.nowhere, entry.2)

variable (findings : Findings)

@[simp] theorem erase_empty : empty.erase = empty := by
  simp [erase, empty]

theorem erase_addName (name : String) :
    (findings.addName name).erase = findings.erase.addName name :=
  rfl

theorem erase_addUse (use : Use) :
    (findings.addUse use).erase = findings.erase.addUse use.erase := by
  simp [erase, addUse]

theorem erase_spellOut (span : Span) (word : String) :
    (findings.spellOut span word).erase = findings.erase.spellOut .nowhere word := by
  simp [erase, spellOut]

/-- The names of imports do not depend on where the uses are. -/
theorem locals_erase (binding : Amd.Binding) (logging : Logging) :
    (Imports.ofFindings binding logging findings.erase).locals =
      (Imports.ofFindings binding logging findings).locals := by
  have huses : List.Forall₂ (Use.Same binding binding) findings.erase.uses.toList
      findings.uses.toList := by
    rw [erase, Array.toList_map, List.forall₂_map_left_iff]
    exact List.forall₂_same.2 fun _ _ => ⟨rfl, rfl⟩
  calc (Imports.ofFindings binding logging findings.erase).locals
      = (Imports.ofFindings binding .none findings.erase).locals := Imports.locals_ofFindings _
    _ = (Imports.ofFindings binding .none findings).locals :=
      congrArg Imports.Names.locals (Imports.ofFindings_congr rfl huses)
    _ = (Imports.ofFindings binding logging findings).locals := Imports.locals_ofFindings _

end Findings

namespace Engine

open Script

open scoped Relator

/-- A walk of a run that keeps all modules. -/
abbrev Keep (α : Type) := Walk (List Module) Empty α

-- ---------------------------------------------------------------------------
-- Alike runs
-- ---------------------------------------------------------------------------

/-- The surroundings of two runs that keep all modules; their scopes declare the same names. -/
structure Env.Alike (env env' : Env (List Module) Empty) : Prop where
  sink : env.sink = keepAll ∧ env'.sink = keepAll
  limit : env.settings.limit = none
  settings : env'.settings = env.settings
  declared : env'.scopes.map Scope.declared = env.scopes.map Scope.declared
  inTarget : env'.inTarget = env.inTarget
  active : env'.active = env.active

/-- Two runs have kept the same modules and have found the same in the active one, up to spans. -/
structure State.Alike (s s' : State (List Module) Empty) : Prop where
  stopped : s.stopped = false ∧ s'.stopped = false
  kept : s'.sink = s.sink.map Module.erase
  findings : s'.findings = s.findings.erase

/-- How a name resolves depends on the declared names only. -/
theorem resolve_congr {stack stack' : Scope.Stack} (name : String)
    (h : stack'.map Scope.declared = stack.map Scope.declared) :
    stack'.resolve name = stack.resolve name := by
  induction stack generalizing stack' with
  | nil =>
    rw [List.map_nil, List.map_eq_nil_iff] at h
    rw [h]
  | cons scope outer ih =>
    obtain ⟨scope', outer', rfl, hscope, houter⟩ := List.map_eq_cons_iff.1 h
    have hlength : outer'.length = outer.length := by simpa using congrArg List.length houter
    rw [Scope.Stack.resolve, Scope.Stack.resolve, Scope.declares, Scope.declares, hscope, hlength,
      ih houter]

/-- The depth of the next scope. -/
theorem Env.Alike.depth {env env' : Env (List Module) Empty} (h : env.Alike env') :
    env'.scopes.length = env.scopes.length := by
  simpa using congrArg List.length h.declared

theorem State.Alike.report {s s' : State (List Module) Empty} (hs : s.Alike s')
    (events events' : List Event) : (s.report events).Alike (s'.report events') :=
  ⟨hs.stopped, hs.kept, hs.findings⟩

/-- Modules that are the same up to spans are kept. -/
theorem State.Alike.deliver {s s' : State (List Module) Empty} (hs : s.Alike s')
    {env env' : Env (List Module) Empty} (henv : env.Alike env') (m : Module) :
    (Walk.deliver env m s).Alike (Walk.deliver env' m.erase s') := by
  have hlimit : env'.settings.limit = none := by rw [henv.settings, henv.limit]
  simp only [Walk.deliver, henv.sink.1, henv.sink.2, keepAll, collect, henv.limit, hlimit]
  refine ⟨hs.stopped, ?_, hs.findings⟩
  simp [hs.kept]

-- ---------------------------------------------------------------------------
-- Related walks
-- ---------------------------------------------------------------------------

/-- From alike surroundings and states, two walks give related drafts and alike states. -/
def Simulates {α α' : Type} (R : α → α' → Prop) (w : Keep α) (w' : Keep α') : Prop :=
  ∀ (env env' : Env (List Module) Empty) (s s' : State (List Module) Empty),
    env.Alike env' → s.Alike s' →
      (∀ filling, R ((w env s).1 filling) ((w' env' s').1 filling)) ∧
        (w env s).2.Alike (w' env' s').2

namespace Simulates

variable {α α' β β' : Type} {R : α → α' → Prop} {S : β → β' → Prop} {w : Keep α} {w' : Keep α'}

theorem pure {a : α} {a' : α'} (h : R a a') : Simulates R (Pure.pure a) (Pure.pure a') :=
  fun _ _ _ _ _ hs => ⟨fun _ => h, hs⟩

theorem map {g : α → β} {g' : α' → β'} (hg : (R ⇒ S) g g') (h : Simulates R w w') :
    Simulates S (g <$> w) (g' <$> w') := by
  intro env env' s s' henv hs
  obtain ⟨hdraft, hstate⟩ := h env env' s s' henv hs
  exact ⟨fun filling => hg (hdraft filling), hstate⟩

theorem seq {wg : Keep (α → β)} {wg' : Keep (α' → β')} (hg : Simulates (R ⇒ S) wg wg')
    (h : Simulates R w w') : Simulates S (wg <*> w) (wg' <*> w') := by
  intro env env' s s' henv hs
  obtain ⟨hdraft₁, hstate₁⟩ := hg env env' s s' henv hs
  obtain ⟨hdraft₂, hstate₂⟩ := h env env' _ _ henv hstate₁
  exact ⟨fun filling => hdraft₁ filling (hdraft₂ filling), hstate₂⟩

theorem unlessStopped {a : α} {a' : α'} (h : Simulates R w w') :
    Simulates R (Walk.unlessStopped a w) (Walk.unlessStopped a' w') := by
  intro env env' s s' henv hs
  simp only [Walk.unlessStopped, hs.stopped.1, hs.stopped.2]
  exact h env env' s s' henv hs

theorem targeting {b : Bool} (h : Simulates R w w') :
    Simulates R (Walk.targeting b w) (Walk.targeting b w') := by
  intro env env' s s' henv hs
  exact h _ _ s s' ⟨henv.sink, henv.limit, henv.settings, henv.declared, rfl, henv.active⟩ hs

theorem within {scope scope' : Scope} (hscope : scope'.declared = scope.declared)
    (h : Simulates R w w') : Simulates R (Walk.within scope w) (Walk.within scope' w') := by
  intro env env' s s' henv hs
  have hdeclared : (env'.scopes.enter scope').map Scope.declared =
      (env.scopes.enter scope).map Scope.declared := by
    simp only [Scope.Stack.enter, List.map_cons, hscope, henv.declared]
  obtain ⟨hdraft, hstate⟩ := h { env with scopes := env.scopes.enter scope }
    { env' with scopes := env'.scopes.enter scope' } s s'
    ⟨henv.sink, henv.limit, henv.settings, hdeclared, henv.inTarget, henv.active⟩ hs
  exact ⟨hdraft, hstate.report _ _⟩

theorem function {scope scope' : Scope} (hscope : scope'.declared = scope.declared)
    (h : Simulates R w w') : Simulates R (Walk.function scope w) (Walk.function scope' w') :=
  (h.within hscope).targeting

end Simulates

/-- The second walk drafts what the first one does, without spans. -/
def Erases {α : Type} (erase : α → α) (w w' : Keep α) : Prop :=
  Simulates (fun a a' => a' = erase a) w w'

namespace Erases

variable {α β γ δ τ : Type} {e₁ : α → α} {e₂ : β → β} {e₃ : γ → γ} {e₄ : δ → δ} {e : τ → τ}
  {w₁ w₁' : Keep α} {w₂ w₂' : Keep β} {w₃ w₃' : Keep γ} {w₄ w₄' : Keep δ}

theorem pure {a a' : τ} (h : a' = e a) : Erases e (Pure.pure a) (Pure.pure a') :=
  Simulates.pure h

theorem map {g g' : α → τ} (hg : ∀ a, g' (e₁ a) = e (g a)) (h₁ : Erases e₁ w₁ w₁') :
    Erases e (g <$> w₁) (g' <$> w₁') := by
  refine Simulates.map ?_ h₁
  rintro a _ rfl
  exact hg a

theorem map₂ {g g' : α → β → τ} (hg : ∀ a b, g' (e₁ a) (e₂ b) = e (g a b))
    (h₁ : Erases e₁ w₁ w₁') (h₂ : Erases e₂ w₂ w₂') :
    Erases e (g <$> w₁ <*> w₂) (g' <$> w₁' <*> w₂') := by
  refine Simulates.seq (Simulates.map ?_ h₁) h₂
  rintro a _ rfl b _ rfl
  exact hg a b

theorem map₃ {g g' : α → β → γ → τ} (hg : ∀ a b c, g' (e₁ a) (e₂ b) (e₃ c) = e (g a b c))
    (h₁ : Erases e₁ w₁ w₁') (h₂ : Erases e₂ w₂ w₂') (h₃ : Erases e₃ w₃ w₃') :
    Erases e (g <$> w₁ <*> w₂ <*> w₃) (g' <$> w₁' <*> w₂' <*> w₃') := by
  refine Simulates.seq (Simulates.seq (Simulates.map ?_ h₁) h₂) h₃
  rintro a _ rfl b _ rfl c _ rfl
  exact hg a b c

theorem map₄ {g g' : α → β → γ → δ → τ}
    (hg : ∀ a b c d, g' (e₁ a) (e₂ b) (e₃ c) (e₄ d) = e (g a b c d))
    (h₁ : Erases e₁ w₁ w₁') (h₂ : Erases e₂ w₂ w₂') (h₃ : Erases e₃ w₃ w₃')
    (h₄ : Erases e₄ w₄ w₄') :
    Erases e (g <$> w₁ <*> w₂ <*> w₃ <*> w₄) (g' <$> w₁' <*> w₂' <*> w₃' <*> w₄') := by
  refine Simulates.seq (Simulates.seq (Simulates.seq (Simulates.map ?_ h₁) h₂) h₃) h₄
  rintro a _ rfl b _ rfl c _ rfl d _ rfl
  exact hg a b c d

theorem seqRight (h₁ : Erases e₁ w₁ w₁') (h₂ : Erases e₂ w₂ w₂') :
    Erases e₂ (w₁ *> w₂) (w₁' *> w₂') :=
  map₂ (fun _ _ => rfl) h₁ h₂

theorem unlessStopped {a a' : α} (h : Erases e₁ w₁ w₁') :
    Erases e₁ (Walk.unlessStopped a w₁) (Walk.unlessStopped a' w₁') :=
  Simulates.unlessStopped h

theorem targeting {b : Bool} (h : Erases e₁ w₁ w₁') :
    Erases e₁ (Walk.targeting b w₁) (Walk.targeting b w₁') :=
  Simulates.targeting h

theorem within {scope scope' : Scope} (hscope : scope'.declared = scope.declared)
    (h : Erases e₁ w₁ w₁') : Erases e₁ (Walk.within scope w₁) (Walk.within scope' w₁') :=
  Simulates.within hscope h

theorem function {scope scope' : Scope} (hscope : scope'.declared = scope.declared)
    (h : Erases e₁ w₁ w₁') : Erases e₁ (Walk.function scope w₁) (Walk.function scope' w₁') :=
  Simulates.function hscope h

end Erases

-- ---------------------------------------------------------------------------
-- Identifiers
-- ---------------------------------------------------------------------------

def Site.erase : Site → Site
  | .defaultObject _ => .defaultObject .nowhere
  | site => site

theorem record_erase (findings : Findings) (meaning : Meaning) (id : Ident) (site : Site) :
    record findings.erase meaning id.erase site.erase =
      (record findings meaning id site).erase := by
  cases meaning with
  | foreign => rfl
  | unbound isParam =>
    cases isParam <;> cases site <;>
      simp only [record, Findings.erase_addName, Findings.erase_addUse] <;> rfl
  | bound target =>
    cases target <;> cases site <;>
      simp only [record, Findings.erase_addUse, Findings.erase_spellOut] <;> rfl

theorem at_erase (meaning : Meaning) (site : Site) (filling : Filling) :
    filling.at meaning site.erase = filling.at meaning site := by
  cases meaning with
  | foreign => cases filling <;> rfl
  | unbound isParam => cases filling <;> rfl
  | bound target => cases filling <;> cases target <;> cases site <;> rfl

theorem erases_ident (id : Ident) (site : Site) :
    Erases (fun r => r) (Walk.ident id site) (Walk.ident id.erase site.erase) := by
  intro env env' s s' henv hs
  unfold Walk.ident
  rw [henv.active]
  cases env.active with
  | none => exact ⟨fun _ => rfl, hs⟩
  | some active =>
    have hmeaning : active.meaning env'.scopes id.erase.name =
        active.meaning env.scopes id.name := by
      simp only [Active.meaning, Ident.name_erase, resolve_congr id.name henv.declared]
    refine ⟨fun filling => ?_, hs.stopped, hs.kept, ?_⟩
    · simp only [hmeaning, at_erase]
    · simp only [hmeaning, record_erase, hs.findings]

theorem erase_rename (id : Ident) (r : Replacement) :
    r.rename id.erase = (r.rename id).erase := by
  cases r <;> rfl

theorem erases_reference (id : Ident) :
    Erases Ident.erase (Walk.reference id) (Walk.reference id.erase) :=
  .map (erase_rename id) (erases_ident id .reference)

theorem erases_declaration (id : Ident) :
    Erases Ident.erase (Walk.declaration id) (Walk.declaration id.erase) :=
  .map (erase_rename id) (erases_ident id .declaration)

theorem erases_patternIdent (id : Ident) :
    Erases Ident.erase (Walk.patternIdent id) (Walk.patternIdent id.erase) := by
  intro env env' s s' henv hs
  simp only [Walk.patternIdent, henv.inTarget]
  split
  · exact erases_reference id env env' s s' henv hs
  · exact erases_declaration id env env' s s' henv hs

theorem erases_shorthand (id : Ident) :
    Erases eraseProperty (Walk.shorthand id) (Walk.shorthand id.erase) := by
  refine .map ?_ (erases_ident id .shorthand)
  intro r
  cases r <;> rfl

theorem erases_defaultAccess (span : Span) (id : Ident) :
    Erases eraseExpr (Walk.defaultAccess span id) (Walk.defaultAccess .nowhere id.erase) := by
  refine .map ?_ (erases_ident id (.defaultObject span))
  intro r
  cases r <;> rfl

theorem erases_visitName (name : Option Ident) :
    Erases (Option.map Ident.erase) (visitName name) (visitName (name.map Ident.erase)) := by
  cases name with
  | none => exact .pure rfl
  | some id => exact .map (fun _ => rfl) (erases_declaration id)

-- ---------------------------------------------------------------------------
-- Definitions
-- ---------------------------------------------------------------------------

/-- The scopes of the same function. -/
theorem declared_ofFunction (span : Span) (own : Option Ident) (params : List Pat)
    (body : List Stmt) :
    (Scope.ofFunction .nowhere (own.map Ident.erase) (erasePats params)
        (eraseStmts body)).declared =
      (Scope.ofFunction span own params body).declared := by
  cases own <;> simp [Scope.ofFunction]

theorem declared_ofCatch (span : Span) (param : Option Pat) :
    (Scope.ofCatch .nowhere (eraseOptPat param)).declared =
      (Scope.ofCatch span param).declared := by
  cases param <;> simp [Scope.ofCatch, eraseOptPat]

/-- The same factory gives the same module: the walk over it starts with no findings, and the local
names of its imports depend on what it finds. -/
theorem erases_module (d : Amd.Definition) {scope scope' : Scope}
    (hscope : scope'.declared = scope.declared) {factory factory' : Keep (List Stmt)}
    (h : Erases eraseStmts factory factory') :
    Erases (fun u => u) (Walk.module d scope factory) (Walk.module d scope' factory') := by
  intro env env' s s' henv hs
  refine ⟨fun _ => rfl, ?_⟩
  have henv' : Env.Alike
      { env with active := some ⟨d, .ofDefinition d, env.scopes.length⟩ }
      { env' with active := some ⟨d, .ofDefinition d, env'.scopes.length⟩ } := by
    refine ⟨henv.sink, henv.limit, henv.settings, henv.declared, henv.inTarget, ?_⟩
    simp only [henv.depth]
  obtain ⟨hdraft, hstate⟩ := Simulates.function hscope h _ _
    ({ s with findings := .empty }.report
      [.enteringModule d.name (Amd.Binding.ofDefinition d).size,
        .factoryScope d.name env.scopes.length])
    ({ s' with findings := .empty }.report
      [.enteringModule d.name (Amd.Binding.ofDefinition d).size,
        .factoryScope d.name env'.scopes.length])
    henv' ⟨hs.stopped, hs.kept, Findings.erase_empty.symm⟩
  have hlogging : env'.settings.logging = env.settings.logging := by rw [henv.settings]
  simp only [Walk.module, hlogging, hstate.findings, Findings.locals_erase, hdraft]
  exact (hstate.report _ _).deliver henv _

/-- A call defines the same wherever it stands. -/
theorem erases_call (span : Span) {callee : Expr} {args : List Expr}
    (hcallee : Erases eraseExpr (visitExpr callee) (visitExpr (eraseExpr callee)))
    (hargs : Erases eraseExprs (visitExprs args) (visitExprs (eraseExprs args)))
    (hfactory : ∀ d, Erases eraseExprs (visitFactory d args) (visitFactory d (eraseExprs args))) :
    Erases eraseExpr (visitExpr (.call span callee args))
      (visitExpr (eraseExpr (.call span callee args))) := by
  have hparts : Erases eraseExpr (.call span <$> visitExpr callee <*> visitExprs args)
      (.call .nowhere <$> visitExpr (eraseExpr callee) <*> visitExprs (eraseExprs args)) :=
    .map₂ (fun _ _ => rfl) hcallee hargs
  refine Simulates.unlessStopped ?_
  intro env env' s s' henv hs
  simp only [Walk.definition, henv.active, Amd.recognize_erase]
  cases env.active with
  | some active => exact hparts env env' s s' henv hs
  | none =>
    cases Amd.recognize callee args with
    | other => exact hparts env env' s s' henv hs
    | unhandled arguments => exact hparts env env' _ _ henv (hs.report _ _)
    | textAsset path text =>
      exact ⟨fun _ => rfl, (hs.report _ _).deliver henv ⟨path, .text text⟩⟩
    | module d =>
      have hmodule : Erases eraseExpr (.call span callee <$> visitFactory d args)
          (.call .nowhere (eraseExpr callee) <$> visitFactory d (eraseExprs args)) :=
        .map (fun _ => rfl) (hfactory d)
      exact hmodule env env' s s' henv hs

mutual

theorem erases_visitExpr (e : Expr) :
    Erases eraseExpr (visitExpr e) (visitExpr (eraseExpr e)) := by
  cases e with
  | ident id => exact .unlessStopped (.map (fun _ => rfl) (erases_reference id))
  | lit span value => exact .pure rfl
  | word span word => exact .pure rfl
  | privateName span name => exact .pure rfl
  | hole => exact .pure rfl
  | array span elems => exact .unlessStopped (.map (fun _ => rfl) (erases_visitExprs elems))
  | spread span arg => exact .map (fun _ => rfl) (erases_visitExpr arg)
  | object span props => exact .unlessStopped (.map (fun _ => rfl) (erases_visitProperties props))
  | fn name f => exact .unlessStopped (.map (fun _ => rfl) (erases_visitFunction name f))
  | arrow span isAsync params body =>
    exact .unlessStopped (.function (declared_ofFunction span none params body)
      (.map₂ (fun _ _ => rfl) (erases_visitPats params) (erases_visitStmts body)))
  | arrowExpr span isAsync params body =>
    exact .unlessStopped (.function (names_erasePats params)
      (.map₂ (fun _ _ => rfl) (erases_visitPats params) (erases_visitExpr body)))
  | cls name cls =>
    cases name with
    | none => exact .unlessStopped (.map (fun _ => rfl) (erases_visitClass cls))
    | some name =>
      exact .unlessStopped (.within rfl
        (.map₂ (fun _ _ => rfl) (erases_declaration name) (erases_visitClass cls)))
  | template span quasis exprs =>
    exact .unlessStopped (.map (fun _ => rfl) (erases_visitExprs exprs))
  | tagged span tag quasis exprs =>
    exact .unlessStopped (.map₂ (fun _ _ => rfl) (erases_visitExpr tag) (erases_visitExprs exprs))
  | unary span op arg =>
    exact .unlessStopped (.map (fun a => (eraseExpr_simplifyUnary span op a).symm)
      (erases_visitExpr arg))
  | update span op before arg => exact .unlessStopped (.map (fun _ => rfl) (erases_visitExpr arg))
  | binary span op left right =>
    exact .unlessStopped (.map₂ (fun _ _ => rfl) (erases_visitExpr left) (erases_visitExpr right))
  | assign span op target value =>
    exact .unlessStopped (.map₂ (fun _ _ => rfl) (.targeting (erases_visitTarget target))
      (erases_visitExpr value))
  | cond span test cons alt =>
    exact .unlessStopped (.map₃ (fun _ _ _ => rfl) (erases_visitExpr test)
      (erases_visitExpr cons) (erases_visitExpr alt))
  | seq span exprs => exact .unlessStopped (.map (fun _ => rfl) (erases_visitExprs exprs))
  | yield span delegate arg =>
    cases arg with
    | none => exact .pure rfl
    | some arg => exact .unlessStopped (.map (fun _ => rfl) (erases_visitExpr arg))
  | await span arg => exact .unlessStopped (.map (fun _ => rfl) (erases_visitExpr arg))
  | call span callee args =>
    exact erases_call span (erases_visitExpr callee) (erases_visitExprs args)
      fun d => erases_visitFactory d args
  | newCall span callee args =>
    exact .unlessStopped (.map₂ (fun _ _ => rfl) (erases_visitExpr callee)
      (erases_visitExprs args))
  | newBare span callee => exact .unlessStopped (.map (fun _ => rfl) (erases_visitExpr callee))
  | member span object key =>
    have hparts : Erases eraseExpr (.member span <$> visitExpr object <*> visitKey key)
        (.member .nowhere <$> visitExpr (eraseExpr object) <*> visitKey (eraseKey key)) :=
      .map₂ (fun _ _ => rfl) (erases_visitExpr object) (erases_visitKey key)
    simp only [eraseExpr, visitExpr, defaultObject?_erase]
    cases defaultObject? object key with
    | none => exact hparts.unlessStopped
    | some id => exact (erases_defaultAccess span id).unlessStopped
  | optMember span optional object key =>
    exact .unlessStopped (.map₂ (fun _ _ => rfl) (erases_visitExpr object) (erases_visitKey key))
  | optCall span optional callee args =>
    exact .unlessStopped (.map₂ (fun _ _ => rfl) (erases_visitExpr callee)
      (erases_visitExprs args))
  | paren span inner => exact .unlessStopped (.map (fun _ => rfl) (erases_visitExpr inner))

theorem erases_visitExprs (es : List Expr) :
    Erases eraseExprs (visitExprs es) (visitExprs (eraseExprs es)) := by
  cases es with
  | nil => exact .pure rfl
  | cons e rest => exact .map₂ (fun _ _ => rfl) (erases_visitExpr e) (erases_visitExprs rest)

theorem erases_visitOptExpr (e : Option Expr) :
    Erases eraseOptExpr (visitOptExpr e) (visitOptExpr (eraseOptExpr e)) := by
  cases e with
  | none => exact .pure rfl
  | some e => exact .map (fun _ => rfl) (erases_visitExpr e)

theorem erases_visitFactory (d : Amd.Definition) (args : List Expr) :
    Erases eraseExprs (visitFactory d args) (visitFactory d (eraseExprs args)) := by
  match args with
  | [] | [_] | [_, _] | _ :: _ :: _ :: _ :: _ =>
    rw [visitFactory_of_ne d (by simp), visitFactory_of_ne d (by simp [eraseExprs])]
    exact .pure rfl
  | [name, deps, factory] =>
    cases factory with
    | fn own f =>
      cases f with
      | mk span isAsync isGenerator params body =>
        refine .map (fun _ => rfl) (erases_module d (declared_ofFunction span own params body) ?_)
        exact ((erases_visitName own).seqRight (erases_visitPats params)).seqRight
          (erases_visitStmts body)
    | _ =>
      rw [visitFactory_of_ne d (by simp), visitFactory_of_ne d (by simp [eraseExprs, eraseExpr])]
      exact .pure rfl

theorem erases_visitKey (key : Key) :
    Erases eraseKey (visitKey key) (visitKey (eraseKey key)) := by
  cases key with
  | computed e => exact .map (fun _ => rfl) (erases_visitExpr e)
  | named name => exact .pure rfl
  | str raw => exact .pure rfl
  | num raw => exact .pure rfl
  | privateName name => exact .pure rfl

theorem erases_visitProperty (p : Property) :
    Erases eraseProperty (visitProperty p) (visitProperty (eraseProperty p)) := by
  cases p with
  | shorthand id => exact erases_shorthand id
  | keyValue key value =>
    exact .map₂ (fun _ _ => rfl) (erases_visitKey key) (erases_visitExpr value)
  | initialized id value => exact .map (fun _ => rfl) (erases_visitExpr value)
  | getter span key body =>
    simp only [visitProperty, eraseProperty]
    refine .within (declared_ofFunction span none [] body) ?_
    exact .map₂ (fun _ _ => rfl) (erases_visitKey key) (erases_visitStmts body)
  | setter span key param body =>
    simp only [visitProperty, eraseProperty]
    refine .within (declared_ofFunction span none [param] body) ?_
    exact .map₃ (fun _ _ _ => rfl) (erases_visitKey key) (erases_visitPat param)
      (erases_visitStmts body)
  | method key f =>
    exact .map₂ (fun _ _ => rfl) (erases_visitKey key) (erases_visitFunction none f)
  | spread span arg => exact .map (fun _ => rfl) (erases_visitExpr arg)

theorem erases_visitProperties (ps : List Property) :
    Erases eraseProperties (visitProperties ps) (visitProperties (eraseProperties ps)) := by
  cases ps with
  | nil => exact .pure rfl
  | cons p rest =>
    exact .map₂ (fun _ _ => rfl) (erases_visitProperty p) (erases_visitProperties rest)

theorem erases_visitPat (p : Pat) :
    Erases erasePat (visitPat p) (visitPat (erasePat p)) := by
  cases p with
  | ident id => exact .map (fun _ => rfl) (erases_patternIdent id)
  | array span elems => exact .map (fun _ => rfl) (erases_visitPats elems)
  | hole => exact .pure rfl
  | object span props => exact .map (fun _ => rfl) (erases_visitPatProperties props)
  | rest span arg => exact .map (fun _ => rfl) (erases_visitPat arg)
  | default span left right =>
    exact .map₂ (fun _ _ => rfl) (erases_visitPat left) (erases_visitExpr right)
  | expr e => exact .map (fun _ => rfl) (erases_visitExpr e)

theorem erases_visitPats (ps : List Pat) :
    Erases erasePats (visitPats ps) (visitPats (erasePats ps)) := by
  cases ps with
  | nil => exact .pure rfl
  | cons p rest => exact .map₂ (fun _ _ => rfl) (erases_visitPat p) (erases_visitPats rest)

theorem erases_visitTarget (p : Pat) :
    Erases erasePat (visitTarget p) (visitTarget (erasePat p)) := by
  cases p with
  | ident id => exact .map (fun _ => rfl) (erases_patternIdent id)
  | array span elems => exact .map (fun _ => rfl) (erases_visitPats elems)
  | hole => exact .pure rfl
  | object span props => exact .map (fun _ => rfl) (erases_visitPatProperties props)
  | rest span arg => exact .map (fun _ => rfl) (erases_visitPat arg)
  | default span left right =>
    exact .map₂ (fun _ _ => rfl) (erases_visitPat left) (erases_visitExpr right)
  | expr e =>
    cases e with
    | member span object key =>
      exact .map₂ (fun _ _ => rfl) (erases_visitExpr object) (erases_visitKey key)
    | _ => exact .map (fun _ => rfl) (erases_visitExpr _)

theorem erases_visitPatProperty (p : PatProperty) :
    Erases erasePatProperty (visitPatProperty p) (visitPatProperty (erasePatProperty p)) := by
  cases p with
  | keyValue key value =>
    exact .map₂ (fun _ _ => rfl) (erases_visitKey key) (erases_visitPat value)
  | shorthand id default =>
    exact .map₂ (fun _ _ => rfl) (erases_patternIdent id) (erases_visitOptExpr default)
  | rest span arg => exact .map (fun _ => rfl) (erases_visitPat arg)

theorem erases_visitPatProperties (ps : List PatProperty) :
    Erases erasePatProperties (visitPatProperties ps)
      (visitPatProperties (erasePatProperties ps)) := by
  cases ps with
  | nil => exact .pure rfl
  | cons p rest =>
    exact .map₂ (fun _ _ => rfl) (erases_visitPatProperty p) (erases_visitPatProperties rest)

theorem erases_visitFunction (name : Option Ident) (f : Function) :
    Erases (Prod.map (Option.map Ident.erase) eraseFunction) (visitFunction name f)
      (visitFunction (name.map Ident.erase) (eraseFunction f)) := by
  cases f with
  | mk span isAsync isGenerator params body =>
    exact .function (declared_ofFunction span name params body)
      (.map₃ (fun _ _ _ => rfl) (erases_visitName name) (erases_visitPats params)
        (erases_visitStmts body))

theorem erases_visitClass (cls : Script.Class) :
    Erases eraseClass (visitClass cls) (visitClass (eraseClass cls)) := by
  cases cls with
  | mk span superClass members =>
    exact .map₂ (fun _ _ => rfl) (erases_visitMembers members) (erases_visitOptExpr superClass)

theorem erases_visitMember (m : ClassMember) :
    Erases eraseMember (visitMember m) (visitMember (eraseMember m)) := by
  cases m with
  | ctor span params body =>
    simp only [visitMember, eraseMember]
    refine .within (declared_ofFunction span none params body) ?_
    exact .map₂ (fun _ _ => rfl) (erases_visitPats params) (erases_visitStmts body)
  | method isStatic kind key f =>
    exact .map₂ (fun _ _ => rfl) (erases_visitKey key) (erases_visitFunction none f)
  | field isStatic key value =>
    exact .map₂ (fun _ _ => rfl) (erases_visitKey key) (erases_visitOptExpr value)
  | staticBlock body => exact .map (fun _ => rfl) (erases_visitStmts body)
  | empty => exact .pure rfl

theorem erases_visitMembers (ms : List ClassMember) :
    Erases eraseMembers (visitMembers ms) (visitMembers (eraseMembers ms)) := by
  cases ms with
  | nil => exact .pure rfl
  | cons m rest => exact .map₂ (fun _ _ => rfl) (erases_visitMember m) (erases_visitMembers rest)

theorem erases_visitStmt (s : Stmt) :
    Erases eraseStmt (visitStmt s) (visitStmt (eraseStmt s)) := by
  cases s with
  | expr e => exact .unlessStopped (.map (fun _ => rfl) (erases_visitExpr e))
  | block body => exact .unlessStopped (.map (fun _ => rfl) (erases_visitStmts body))
  | empty => exact .pure rfl
  | debugger => exact .pure rfl
  | withStmt object body =>
    exact .unlessStopped (.map₂ (fun _ _ => rfl) (erases_visitExpr object) (erases_visitStmt body))
  | returnStmt arg => exact .unlessStopped (.map (fun _ => rfl) (erases_visitOptExpr arg))
  | labeled label body => exact .unlessStopped (.map (fun _ => rfl) (erases_visitStmt body))
  | breakStmt label => exact .pure rfl
  | continueStmt label => exact .pure rfl
  | ifStmt test cons alt =>
    exact .unlessStopped (.map₃ (fun _ _ _ => rfl) (erases_visitExpr test)
      (erases_visitStmt cons) (erases_visitOptStmt alt))
  | switch discriminant cases =>
    exact .unlessStopped (.map₂ (fun _ _ => rfl) (erases_visitExpr discriminant)
      (erases_visitCases cases))
  | throwStmt arg => exact .unlessStopped (.map (fun _ => rfl) (erases_visitExpr arg))
  | tryStmt block handler finalizer =>
    exact .unlessStopped (.map₃ (fun _ _ _ => rfl) (erases_visitStmts block)
      (erases_visitHandler handler) (erases_visitFinalizer finalizer))
  | whileLoop test body =>
    exact .unlessStopped (.map₂ (fun _ _ => rfl) (erases_visitExpr test) (erases_visitStmt body))
  | doWhile test body =>
    exact .unlessStopped (.map₂ (fun _ _ => rfl) (erases_visitExpr test) (erases_visitStmt body))
  | forLoop init test update body =>
    exact .unlessStopped (.map₄ (fun _ _ _ _ => rfl) (erases_visitForInit init)
      (erases_visitOptExpr test) (erases_visitOptExpr update) (erases_visitStmt body))
  | forIn left right body =>
    exact .unlessStopped (.map₃ (fun _ _ _ => rfl) (erases_visitForHead left)
      (erases_visitExpr right) (erases_visitStmt body))
  | forOf isAwait left right body =>
    exact .unlessStopped (.map₃ (fun _ _ _ => rfl) (erases_visitForHead left)
      (erases_visitExpr right) (erases_visitStmt body))
  | varDecl kind decls => exact .unlessStopped (.map (fun _ => rfl) (erases_visitDeclarators decls))
  | fnDecl name f =>
    exact .unlessStopped (.map₂ (fun _ _ => rfl) (erases_declaration name)
      (erases_visitFunction none f))
  | classDecl name cls =>
    exact .unlessStopped (.map₂ (fun _ _ => rfl) (erases_declaration name) (erases_visitClass cls))

theorem erases_visitStmts (ss : List Stmt) :
    Erases eraseStmts (visitStmts ss) (visitStmts (eraseStmts ss)) := by
  cases ss with
  | nil => exact .pure rfl
  | cons s rest => exact .map₂ (fun _ _ => rfl) (erases_visitStmt s) (erases_visitStmts rest)

theorem erases_visitOptStmt (s : Option Stmt) :
    Erases eraseOptStmt (visitOptStmt s) (visitOptStmt (eraseOptStmt s)) := by
  cases s with
  | none => exact .pure rfl
  | some s => exact .map (fun _ => rfl) (erases_visitStmt s)

theorem erases_visitCases (cs : List Case) :
    Erases eraseCases (visitCases cs) (visitCases (eraseCases cs)) := by
  cases cs with
  | nil => exact .pure rfl
  | cons c rest =>
    cases c with
    | mk test body =>
      exact .map₃ (fun _ _ _ => rfl) (erases_visitOptExpr test) (erases_visitStmts body)
        (erases_visitCases rest)

theorem erases_visitHandler (h : Option Catch) :
    Erases eraseHandler (visitHandler h) (visitHandler (eraseHandler h)) := by
  cases h with
  | none => exact .pure rfl
  | some h =>
    cases h with
    | mk span param body =>
      simp only [visitHandler, eraseHandler]
      refine .within (declared_ofCatch span param) ?_
      exact .map₂ (fun _ _ => rfl) (erases_visitOptPat param) (erases_visitStmts body)

theorem erases_visitOptPat (p : Option Pat) :
    Erases eraseOptPat (visitOptPat p) (visitOptPat (eraseOptPat p)) := by
  cases p with
  | none => exact .pure rfl
  | some p => exact .map (fun _ => rfl) (erases_visitPat p)

theorem erases_visitFinalizer (ss : Option (List Stmt)) :
    Erases eraseFinalizer (visitFinalizer ss) (visitFinalizer (eraseFinalizer ss)) := by
  cases ss with
  | none => exact .pure rfl
  | some body => exact .map (fun _ => rfl) (erases_visitStmts body)

theorem erases_visitDeclarators (ds : List Declarator) :
    Erases eraseDeclarators (visitDeclarators ds) (visitDeclarators (eraseDeclarators ds)) := by
  cases ds with
  | nil => exact .pure rfl
  | cons d rest =>
    cases d with
    | mk name init =>
      exact .map₃ (fun _ _ _ => rfl) (erases_visitPat name) (erases_visitOptExpr init)
        (erases_visitDeclarators rest)

theorem erases_visitForInit (init : ForInit) :
    Erases eraseForInit (visitForInit init) (visitForInit (eraseForInit init)) := by
  cases init with
  | empty => exact .pure rfl
  | var kind decls => exact .map (fun _ => rfl) (erases_visitDeclarators decls)
  | expr e => exact .map (fun _ => rfl) (erases_visitExpr e)

theorem erases_visitForHead (head : ForHead) :
    Erases eraseForHead (visitForHead head) (visitForHead (eraseForHead head)) := by
  cases head with
  | var kind decls => exact .targeting (.map (fun _ => rfl) (erases_visitDeclarators decls))
  | pat pat => exact .targeting (.map (fun _ => rfl) (erases_visitPat pat))

end

-- ---------------------------------------------------------------------------
-- Scripts
-- ---------------------------------------------------------------------------

/-- A sink that refuses nothing keeps all modules. -/
theorem Progress.sink_offerAll_keepAll {p : Progress (List Module) Empty}
    (hp : p.stopped = false) (modules : List Module) :
    (p.offerAll keepAll none modules).sink = p.sink ++ modules := by
  induction modules generalizing p with
  | nil => simp
  | cons m rest ih =>
    have hoffer : p.offer keepAll none m = ⟨p.sink ++ [m], p.emitted + 1, false, p.refusal⟩ := by
      simp [Progress.offer, hp, keepAll, collect]
    rw [Progress.offerAll_cons, hoffer, ih rfl, List.append_assoc, List.singleton_append]

/-- The walk over a script without spans keeps the same modules and leaves the same code. -/
theorem modules_remains_erase (script : Script) :
    modules script.erase = (modules script).map Module.erase ∧
      script.erase.remains = script.remains.erase := by
  have henv : (Env.ofScript keepAll ⟨none, .none⟩ script).Alike
      (Env.ofScript keepAll ⟨none, .none⟩ script.erase) := by
    refine ⟨⟨rfl, rfl⟩, rfl, rfl, ?_, rfl, rfl⟩
    simp [Env.ofScript, Scope.Stack.enter, Scope.ofScript, Script.erase]
  obtain ⟨hdraft, hstate⟩ := erases_visitStmts script.body _ _ (.initial []) (.initial []) henv
    ⟨⟨rfl, rfl⟩, rfl, Findings.erase_empty.symm⟩
  have hkept : ∀ script : Script, (visitStmts script.body
      (Env.ofScript keepAll ⟨none, .none⟩ script) (.initial [])).2.sink = modules script := by
    intro script
    exact (congrArg Progress.sink (progress_visitStmts keepAll ⟨none, .none⟩ [] script)).trans
      (Progress.sink_offerAll_keepAll rfl (modules script))
  refine ⟨?_, ?_⟩
  · rw [← hkept script, ← hkept script.erase]
    exact hstate.kept
  · have hleft := hdraft (.complete ⟨[], []⟩)
    rw [(leaves_visitStmts script.body).draft _ _ rfl hstate.stopped.1,
      (leaves_visitStmts (eraseStmts script.body)).draft _ _ rfl hstate.stopped.2] at hleft
    rw [Script.remains, Script.erase, hleft]
    rfl

/-- Scripts whose code is that of two others have the modules of both, and leave what both leave. -/
theorem modules_remains_of_append {first second whole : Script}
    (h : eraseStmts whole.body = eraseStmts (first.body ++ second.body)) :
    (modules whole).map Module.erase = (modules first ++ modules second).map Module.erase ∧
      eraseStmts whole.remains.body =
        eraseStmts (first.remains.body ++ second.remains.body) := by
  have hbody : whole.erase.body = first.erase.body ++ second.erase.body := by
    rw [Script.erase, h, eraseStmts_append]
    rfl
  constructor
  · rw [List.map_append, ← (modules_remains_erase whole).1, ← (modules_remains_erase first).1,
      ← (modules_remains_erase second).1, modules, Script.definitions, hbody,
      definitionsStmts_append, List.map_append]
    rfl
  · calc eraseStmts whole.remains.body
      _ = whole.erase.remains.body := by rw [(modules_remains_erase whole).2]; rfl
      _ = first.erase.remains.body ++ second.erase.remains.body := by
        simp only [Script.remains, hbody, remainsStmts_eq_map, List.map_append]
      _ = eraseStmts first.remains.body ++ eraseStmts second.remains.body := by
        rw [(modules_remains_erase first).2, (modules_remains_erase second).2]; rfl
      _ = _ := (eraseStmts_append ..).symm

/-- A call defines the same module wherever it stands. -/
theorem toModule_congr {callee callee' : Expr} {args args' : List Expr} {d d' : Found}
    (hcallee : eraseExpr callee' = eraseExpr callee) (hargs : eraseExprs args' = eraseExprs args)
    (hd : found? callee args = some d) (hd' : found? callee' args' = some d') :
    d'.toModule.erase = d.toModule.erase := by
  -- Compare the scripts that consist of the calls alone.
  have halone : ∀ {callee : Expr} {args : List Expr} {d : Found}, found? callee args = some d →
      modules ⟨.nowhere, [.expr (.call .nowhere callee args)]⟩ = [d.toModule] := by
    intro callee args d hd
    simp [modules, Script.definitions, definitionsStmts, definitionsStmt, definitionsExpr, hd]
  have hscript : Script.erase ⟨.nowhere, [.expr (.call .nowhere callee' args')]⟩ =
      Script.erase ⟨.nowhere, [.expr (.call .nowhere callee args)]⟩ := by
    simp only [Script.erase, eraseStmts, eraseStmt, eraseExpr, hcallee, hargs]
  have hmodules := congrArg modules hscript
  rw [(modules_remains_erase _).1, (modules_remains_erase _).1, halone hd, halone hd'] at hmodules
  simpa using hmodules

/-- Modules are independent of each other and of their surroundings. A run without a limit, with a
sink that refuses nothing, splits code that consists of two parts as it splits the parts. And what
is handed over for a call depends on that call alone, up to spans, wherever it stands outside of
other definitions. -/
theorem modules_independent :
    (∀ {σ ε : Type} (sink : Sink σ ε) (settings : Settings) (start : σ)
        (first second whole : Script),
      settings.limit = none → (∀ s m, (sink s m).refusal = none) →
      eraseStmts whole.body = eraseStmts (first.body ++ second.body) →
        (handed sink settings start whole).map Module.erase =
            (handed sink settings start first ++
              handed sink settings start second).map Module.erase ∧
          eraseStmts (run sink settings start whole).script.body =
            eraseStmts ((run sink settings start first).script.body ++
              (run sink settings start second).script.body)) ∧
      ∀ (callee : Expr) (args : List Expr) (d : Found), found? callee args = some d →
        ∃ made : Module,
          ∀ {σ ε : Type} (sink : Sink σ ε) (settings : Settings) (start : σ) (script : Script)
            (k : Nat) (callee' : Expr) (args' : List Expr) (d' : Found),
            eraseExpr callee' = eraseExpr callee → eraseExprs args' = eraseExprs args →
            found? callee' args' = some d' → script.definitions[k]? = some d' →
              (∀ m, (handed sink settings start script)[k]? = some m → m.erase = made) ∧
                (settings.limit = none → (∀ s m, (sink s m).refusal = none) →
                  ∃ m, (handed sink settings start script)[k]? = some m) := by
  constructor
  · intro σ ε sink settings start first second whole hlimit hsink hbody
    have hhanded : ∀ script, handed sink settings start script = modules script :=
      fun script => handed_eq_modules start script hlimit hsink
    have hleft : ∀ script, (run sink settings start script).script = script.remains :=
      fun script => script_run_of_accepts hlimit (Sink.accepts_of_forall hsink start _)
    simp only [hhanded, hleft]
    exact modules_remains_of_append hbody
  · intro callee args d hd
    refine ⟨d.toModule.erase, ?_⟩
    intro σ ε sink settings start script k callee' args' d' hcallee hargs hd' hk
    refine ⟨?_, ?_⟩
    · intro m hm
      rw [toModule_of_handed hk hm]
      exact toModule_congr hcallee hargs hd hd'
    · intro hlimit hsink
      refine ⟨d'.toModule, ?_⟩
      rw [handed_eq_modules start script hlimit hsink, modules, List.getElem?_map, hk]
      rfl

/-- The arguments of the call that defines the sample module. -/
def sampleArgs : List Expr :=
  [.lit sample.span (.str (quote "m") "m"),
    .array sample.span [.lit sample.span (.str (quote "lib/x") "lib/x")],
    .fn none (.mk sample.span false false sample.params sample.body)]

/-- The same call elsewhere, in a function that declares the names that the module uses. -/
def nestedSample : Script :=
  ⟨⟨0, 200⟩, [.fnDecl ⟨"f", ⟨9, 10⟩⟩ (.mk ⟨0, 200⟩ false false
    [.ident ⟨"x", ⟨11, 12⟩⟩, .ident ⟨"X", ⟨14, 15⟩⟩]
    [.expr (.call .nowhere (.ident ⟨"define", .nowhere⟩) (eraseExprs sampleArgs))])]⟩

/-- Two scripts, one after the other. -/
def joinedSample : Script :=
  ⟨⟨0, 300⟩, eraseStmts sample.script.body ++ framedSample.body⟩

theorem modules_independent_sample :
    ((handed keepAll ⟨none, .none⟩ [] joinedSample).map Module.erase =
        (handed keepAll ⟨none, .none⟩ [] sample.script ++
          handed keepAll ⟨none, .none⟩ [] framedSample).map Module.erase ∧
      eraseStmts (run keepAll ⟨none, .none⟩ [] joinedSample).script.body =
        eraseStmts ((run keepAll ⟨none, .none⟩ [] sample.script).script.body ++
          (run keepAll ⟨none, .none⟩ [] framedSample).script.body)) ∧
      ∃ made : Module,
        ((∀ m, (handed keepAll ⟨none, .none⟩ [] sample.script)[0]? = some m → m.erase = made) ∧
            ∃ m, (handed keepAll ⟨none, .none⟩ [] sample.script)[0]? = some m) ∧
          (∀ m, (handed keepAll ⟨none, .none⟩ [] nestedSample)[0]? = some m → m.erase = made) ∧
            ∃ m, (handed keepAll ⟨none, .none⟩ [] nestedSample)[0]? = some m := by
  refine ⟨modules_independent.1 keepAll ⟨none, .none⟩ [] sample.script framedSample joinedSample rfl
    (fun _ _ => rfl) rfl, ?_⟩
  obtain ⟨made, hmade⟩ := modules_independent.2 (.ident ⟨"define", sample.span⟩) sampleArgs
    (.module sample) rfl
  refine ⟨made, ?_, ?_⟩
  · obtain ⟨heq, hsome⟩ := hmade keepAll ⟨none, .none⟩ [] sample.script 0
      (.ident ⟨"define", sample.span⟩) sampleArgs (.module sample) rfl rfl rfl rfl
    exact ⟨heq, hsome rfl fun _ _ => rfl⟩
  · obtain ⟨heq, hsome⟩ := hmade keepAll ⟨none, .none⟩ [] nestedSample 0
      (.ident ⟨"define", .nowhere⟩) (eraseExprs sampleArgs) _ rfl rfl rfl rfl
    exact ⟨heq, hsome rfl fun _ _ => rfl⟩

end Engine
end Unbundle

-- SUMMARY: A walker does what the walk does, and meets each identifier with the scopes around it.
import Unbundle.Proofs.Outside
import Unbundle.Proofs.Surroundings

/-!
# Encounters of a walker

`Outlined` ties a walker to the walk over the same code: it leaves the state that the walk leaves, and
each identifier that it meets is one of the code, met with the scopes that enclose it there. This is
a compositional property of code (`compositional_outlined`). What holds of a whole script is put
together in `surroundings_in_step`.
-/

namespace Unbundle.Engine

open Script

variable {σ ε α β : Type}

-- ---------------------------------------------------------------------------
-- What is met
-- ---------------------------------------------------------------------------

/-- An identifier with the scopes that enclose it, the outermost first. -/
structure Position where
  id : Ident
  site : Site
  scopes : List Scope

def Encounter.position (e : Encounter) : Position :=
  ⟨e.id, e.site, e.tracker.scopes⟩

/-- The identifier that is met at a step, where the scopes `base` enclose all of the code. -/
def Step.position? (base : Scope.Stack) : Step → Option Position
  | .ident p => some ⟨p.id, p.site, (p.scopes ++ base).reverse⟩
  | .enter _ | .leave _ | .undefined _ => none

/-- The index that the walker has for the factory's scope is the index of that scope. -/
def Encounter.IsGrounded (e : Encounter) : Prop :=
  ∀ f id, e.entered = some ⟨f, some id⟩ → e.tracker.scope? id = some f.scope

/-- In between, the walker met identifiers of these steps: some of them, in order. -/
def Walker.Meets (base : Scope.Stack) (steps : List Step) (before after : Walker σ ε) : Prop :=
  ∃ met, after.encounters = before.encounters ++ met ∧
    (met.map Encounter.position).Sublist (steps.filterMap (Step.position? base)) ∧
      ∀ e ∈ met, e.IsGrounded

namespace Walker.Meets

variable {base : Scope.Stack} {steps rest : List Step} {w w' w'' : Walker σ ε}

/-- Nothing needs to be met. -/
theorem of_eq (h : w'.encounters = w.encounters) : Meets base steps w w' :=
  ⟨[], by rw [h, List.append_nil], List.nil_sublist _, fun _ he => by cases he⟩

theorem trans (h : Meets base steps w w') (h' : Meets base rest w' w'') :
    Meets base (steps ++ rest) w w'' := by
  obtain ⟨met, hmet, hpositions, hgrounded⟩ := h
  obtain ⟨met', hmet', hpositions', hgrounded'⟩ := h'
  refine ⟨met ++ met', ?_, ?_, ?_⟩
  · rw [hmet', hmet, List.append_assoc]
  · rw [List.map_append, List.filterMap_append]
    exact hpositions.append hpositions'
  · intro e he
    rcases List.mem_append.1 he with he | he
    · exact hgrounded e he
    · exact hgrounded' e he

/-- Opening and leaving a scope are steps, too, but no identifiers. -/
theorem within {scope : Scope} (h : Meets base steps w w') :
    Meets base (stepsWithin scope steps) w w' := by
  obtain ⟨met, hmet, hpositions, hgrounded⟩ := h
  refine ⟨met, hmet, ?_, hgrounded⟩
  rw [stepsWithin]
  simpa [List.filterMap_cons, List.filterMap_append, Step.position?] using hpositions

/-- Only the notes of a walker tell what it has met. -/
theorem congr {v v' : Walker σ ε} (h : Meets base steps v v') (hv : v.encounters = w.encounters)
    (hv' : v'.encounters = w'.encounters) : Meets base steps w w' := by
  unfold Meets at h ⊢
  rwa [hv, hv'] at h

end Walker.Meets

-- ---------------------------------------------------------------------------
-- Outlines of walks
-- ---------------------------------------------------------------------------

/-- Inside of the scopes `scopes`, and of `base` around all of the code, a walker that follows the
outline of a piece of code does what the walk does, and meets identifiers of its steps. -/
def Outlined (base scopes : Scope.Stack) (inTarget : Bool) (p : Piece σ ε α) : Prop :=
  ∀ (env : Env σ ε) (w : Walker σ ε), w.Has env → env.scopes = scopes ++ base →
    env.inTarget = inTarget →
      (p.outline.drive env.sink env.settings w).state = (p.walk env w.state).2 ∧
        w.Meets base p.steps (p.outline.drive env.sink env.settings w)

namespace Outlined

variable {base scopes : Scope.Stack} {inTarget : Bool} {p : Piece σ ε α}

theorem pure (a : α) : Outlined base scopes inTarget (.pure a : Piece σ ε α) :=
  fun _ _ _ _ _ => ⟨rfl, .of_eq rfl⟩

theorem map (g : α → β) (h : Outlined base scopes inTarget p) :
    Outlined base scopes inTarget (p.map g) :=
  h

theorem seq {pg : Piece σ ε (α → β)} (hg : Outlined base scopes inTarget pg)
    (h : Outlined base scopes inTarget p) : Outlined base scopes inTarget (pg.seq p) := by
  intro env w hw hscopes htarget
  obtain ⟨hstate, hmeets⟩ := hg env w hw hscopes htarget
  have hrestored := restored_drive env.sink env.settings pg.outline w
  obtain ⟨hstate', hmeets'⟩ := h env _ (hw.restored hrestored) hscopes htarget
  refine ⟨?_, hmeets.trans hmeets'⟩
  simp only [Piece.seq, Walk.seq_apply, ← hstate]
  exact hstate'

theorem unlessStopped (a : α) (h : Outlined base scopes inTarget p) :
    Outlined base scopes inTarget (p.unlessStopped a) := by
  intro env w hw hscopes htarget
  simp only [Piece.unlessStopped, Outline.drive, Walk.unlessStopped]
  split
  · exact ⟨rfl, .of_eq rfl⟩
  · exact h env w hw hscopes htarget

theorem targeting {b : Bool} (h : Outlined base scopes b p) :
    Outlined base scopes inTarget (p.targeting b) :=
  fun _ _ hw hscopes _ => h _ _ (hw.targeting b) hscopes rfl

theorem within {scope : Scope} (h : Outlined base (scope :: scopes) inTarget p) :
    Outlined base scopes inTarget (p.within scope) := by
  intro env w hw hscopes htarget
  have hin : (env.scopes.enter scope) = scope :: scopes ++ base := by
    rw [hscopes]
    rfl
  obtain ⟨hstate, hmeets⟩ := h _ _ (hw.within scope) hin htarget
  have hrestored := restored_drive env.sink env.settings p.outline (w.openScope scope)
  have hclose := Walker.closeScope_of_enter (hrestored.tracker.trans (w.tracker_openScope scope))
  simp only [Piece.within, Outline.drive, hclose]
  rw [hw.openScope_eq] at hstate hmeets ⊢
  refine ⟨?_, hmeets.within.congr rfl rfl⟩
  simp only [Walk.within, Walker.report, hstate]

theorem of_interior {around : Around} {scope : Scope} {names : List String} {p : Piece σ ε α}
    (h : Interior (fun around _ p => Outlined base around.scopes around.inTarget p) around scope
      names p) : Outlined base (scope :: around.scopes) around.inTarget p := by
  induction h with
  | part hscope hpart => exact around.scopes_enter hscope ▸ hpart
  | map g _ ih => exact ih.map g
  | seq _ _ ih ih' => exact ih.seq ih'

end Outlined

-- ---------------------------------------------------------------------------
-- Identifiers
-- ---------------------------------------------------------------------------

section Identifiers

variable (base : Scope.Stack) (around : Around)

@[simp] theorem Walker.encounters_meet (w : Walker σ ε) (id : Ident) (site : Site) :
    (w.meet id site).encounters = w.encounters ++ [⟨id, site, w.tracker, w.entered⟩] := by
  unfold Walker.meet
  simp only
  split <;> rfl

theorem meets_meet {w : Walker σ ε} (htracker : w.tracker = .ofStack (around.scopes ++ base))
    (id : Ident) (site : Site) (hgrounded : Encounter.IsGrounded ⟨id, site, w.tracker, w.entered⟩) :
    w.Meets base [.ident (around.place id site)] (w.meet id site) := by
  have hposition : Encounter.position ⟨id, site, w.tracker, w.entered⟩ =
      ⟨id, site, (around.scopes ++ base).reverse⟩ := by
    rw [Encounter.position, htracker, Scope.Tracker.scopes_ofStack]
  refine ⟨[⟨id, site, w.tracker, w.entered⟩], w.encounters_meet id site, ?_, ?_⟩
  · rw [List.map_singleton, hposition]
    exact List.Sublist.refl _
  · intro e he
    obtain rfl := List.mem_singleton.1 he
    exact hgrounded

theorem grounded_of_has {env : Env σ ε} {w : Walker σ ε} (hw : w.Has env) (id : Ident)
    (site : Site) : Encounter.IsGrounded ⟨id, site, w.tracker, w.entered⟩ := by
  intro f scope hentered
  have hstands := hw.entered
  rw [show w.entered = some ⟨f, some scope⟩ from hentered] at hstands
  rw [hw.tracker]
  exact hstands.scope?_eq

theorem outlined_ident (id : Ident) (site : Site) :
    Outlined base around.scopes around.inTarget (.ident around id site : Piece σ ε _) := by
  intro env w hw hscopes _
  refine ⟨?_, meets_meet base around (hscopes ▸ hw.tracker) id site (grounded_of_has hw id site)⟩
  simp only [Piece.ident, Outline.drive, Walker.meet, Walk.ident]
  cases hentered : w.entered with
  | none =>
    have hstands := hw.entered
    rw [hentered] at hstands
    rw [hstands.of_none]
  | some e =>
    obtain ⟨f, scope⟩ := e
    cases scope with
    | none => exact absurd (hentered ▸ hw.entered) Entered.Stands.not_pending
    | some scope =>
      obtain ⟨active, hactive, hmeaning⟩ := hw.meaning_eq hentered id.name
      simp only [hactive, hmeaning]

theorem outlined_patternIdent (id : Ident) :
    Outlined base around.scopes around.inTarget (.patternIdent around id : Piece σ ε _) := by
  intro env w hw hscopes htarget
  simp only [Piece.patternIdent, Outline.drive, Walk.patternIdent, hw.inTarget, htarget,
    Around.patternPlace]
  split
  · exact outlined_ident base around id .reference env w hw hscopes htarget
  · exact outlined_ident base around id .declaration env w hw hscopes htarget

end Identifiers

-- ---------------------------------------------------------------------------
-- Definitions
-- ---------------------------------------------------------------------------

@[simp] theorem Walker.report_nil (w : Walker σ ε) : w.report [] = w := by
  simp [Walker.report, State.report]

theorem literal_of_stringValue? {e : Expr} {value : String} (h : Amd.stringValue? e = some value) :
    ∃ span raw, e = .lit span (.str raw value) := by
  unfold Amd.stringValue? at h
  split at h
  · cases h
    exact ⟨_, _, rfl⟩
  · cases h

theorem ident_of_recognize {callee : Expr} {args : List Expr} {d : Amd.Definition}
    (h : Amd.recognize callee args = .module d) : ∃ id, callee = .ident id := by
  cases callee with
  | ident id => exact ⟨id, rfl⟩
  | _ => cases h

/-- The shape of a call that defines the module of a factory. -/
theorem call_of_found? {callee : Expr} {args : List Expr} {f : Factory}
    (h : found? callee args = some (.module f)) :
    ∃ id at_ raw value span elems values isAsync isGenerator,
      callee = .ident id ∧
        args = [.lit at_ (.str raw value), .array span elems,
          .fn f.own (.mk f.span isAsync isGenerator f.params f.body)] ∧
        elems.mapM Amd.stringValue? = some values ∧
        Amd.recognize callee args = .module f.definition := by
  unfold found? at h
  split at h
  · rename_i d name deps own at_ isAsync isGenerator params body hrecognized
    cases h
    have hargs := moduleDefinition?_of_recognize hrecognized
    unfold Amd.moduleDefinition? at hargs
    split at hargs
    · rename_i heq
      cases heq
      simp only [Option.bind_eq_bind, Option.bind_eq_some_iff] at hargs
      obtain ⟨text, htext, values, hvalues, names, hnames, hargs⟩ := hargs
      obtain ⟨at_, raw, rfl⟩ := literal_of_stringValue? htext
      obtain ⟨id, rfl⟩ := ident_of_recognize hrecognized
      split at hargs
      · cases hargs
      · cases hargs
        refine ⟨id, at_, raw, _, _, _, _, _, _, rfl, rfl, hvalues, ?_⟩
        rw [hrecognized, Factory.definition, patNames_of_mapM hnames]
    · cases hargs
  · cases h
  · cases h

/-- What a factory encloses, as seen from where it stands in the script. -/
def Factory.pieceAt (f : Factory) (around : Around) : Piece σ ε (List Stmt) :=
  .factory (around.targeting false) f.span f.own f.params f.body

theorem drive_unlessStopped (sink : Sink σ ε) (settings : Settings) (part : Outline)
    {w : Walker σ ε} (h : w.state.stopped = false) :
    (Outline.unlessStopped part).drive sink settings w = part.drive sink settings w := by
  simp [Outline.drive, h]

/-- Nothing happens at string literals. -/
theorem drive_literals (sink : Sink σ ε) (settings : Settings) {elems : List Expr}
    {values : List String} (h : elems.mapM Amd.stringValue? = some values)
    (w : Walker σ ε) : (outlineExprs elems).drive sink settings w = w := by
  induction elems generalizing values with
  | nil => rfl
  | cons e rest ih =>
    simp only [List.mapM_cons, Option.bind_eq_bind, Option.bind_eq_some_iff] at h
    obtain ⟨value, hvalue, values, hvalues, -⟩ := h
    obtain ⟨span, raw, rfl⟩ := literal_of_stringValue? hvalue
    simp only [outlineExprs, outlineExpr, Outline.drive, ih hvalues]

section Definitions

variable {base : Scope.Stack} {around : Around}

/-- The scope of the factory is opened. -/
theorem openScope_factory {w : Walker σ ε} {f : Factory} (h : w.entered = some ⟨f, none⟩) :
    (w.openScope f.scope).entered = some ⟨f, some w.tracker.depth⟩ ∧
      (w.openScope f.scope).state = w.state.report [.factoryScope f.name w.tracker.depth] ∧
      (w.openScope f.scope).encounters = w.encounters := by
  simp [Walker.openScope, h, Factory.scope, Scope.ofFunction, Walker.report]

/-- On the way to the factory stand literals only. -/
theorem drive_arguments (sink : Sink σ ε) (settings : Settings) {f : Factory} {at_ span : Span}
    {raw value : String} {elems : List Expr} {values : List String} {isAsync isGenerator : Bool}
    (h : elems.mapM Amd.stringValue? = some values) {w : Walker σ ε}
    (hs : w.state.stopped = false) :
    (outlineExprs [.lit at_ (.str raw value), .array span elems,
        .fn f.own (.mk f.span isAsync isGenerator f.params f.body)]).drive sink settings w =
      (Outline.function f.scope (f.pieceAt around : Piece σ ε _).outline).drive sink settings w := by
  have hdeps : (outlineExpr (.array span elems)).drive sink settings w = w := by
    rw [outlineExpr, drive_unlessStopped _ _ _ hs, drive_literals _ _ h]
  change (outlineExpr (.fn f.own _)).drive sink settings
    ((outlineExpr (.array span elems)).drive sink settings w) = _
  rw [hdeps, outlineExpr, drive_unlessStopped _ _ _ hs]
  rfl

/-- A walker opens the scope of the factory that it has entered, and follows what that encloses. -/
theorem drive_factory {env : Env σ ε} {w : Walker σ ε} {f : Factory}
    (htracker : w.tracker = .ofStack env.scopes) (hentered : w.entered = some ⟨f, none⟩)
    (hscopes : env.scopes = around.scopes ++ base)
    (hinside : Outlined base (f.scope :: around.scopes) false (f.pieceAt around : Piece σ ε _)) :
    let p : Piece σ ε (List Stmt) := f.pieceAt around
    let after := (Outline.function f.scope p.outline).drive env.sink env.settings w
    after.state = (Walk.function f.scope p.walk { env with active := some (f.active env.scopes) }
        (w.state.report [.factoryScope f.name env.scopes.length])).2 ∧
      after.entered = some ⟨f, some env.scopes.length⟩ ∧
      w.Meets base (stepsWithin f.scope p.steps) after := by
  have hdepth : w.tracker.depth = env.scopes.length := by
    rw [htracker, Scope.Tracker.depth_ofStack]
  obtain ⟨hopen, hstart, hnotes⟩ :=
    openScope_factory (w := { w with inTarget := false }) hentered
  have htracker' := Walker.tracker_openScope { w with inTarget := false } f.scope
  have htarget := Walker.inTarget_openScope { w with inTarget := false } f.scope
  generalize hinner : { w with inTarget := false }.openScope f.scope = inner at *
  simp only [hdepth] at hopen hstart
  have hin : inner.Has { env with
      scopes := env.scopes.enter f.scope
      inTarget := false
      active := some (f.active env.scopes) } := by
    refine ⟨?_, htarget, ?_⟩
    · rw [htracker', htracker]
      rfl
    · rw [hopen]
      exact .inside f [] env.scopes rfl
  obtain ⟨hstate, hmeets⟩ := hinside _ inner hin (congrArg (f.scope :: ·) hscopes) rfl
  have hrestored := restored_drive env.sink env.settings (f.pieceAt around : Piece σ ε _).outline inner
  have hclose := Walker.closeScope_of_enter (hrestored.tracker.trans htracker')
  simp only [Outline.function, Outline.drive, hinner, hclose]
  refine ⟨?_, ?_, hmeets.within.congr hnotes rfl⟩
  · simp only [Walker.report, hstate, hstart]
    rfl
  · exact (hopen ▸ hrestored.entered).of_open

/-- A walker goes through the definition of a module as the walk does. -/
theorem outlined_module {env : Env σ ε} {w : Walker σ ε}
    (htracker : w.tracker = .ofStack env.scopes) (hscopes : env.scopes = around.scopes ++ base)
    (hs : w.state.stopped = false) {callee : Expr} {args : List Expr} {f : Factory}
    (hfound : found? callee args = some (.module f))
    (hinside : Outlined base (f.scope :: around.scopes) false (f.pieceAt around : Piece σ ε _)) :
    let after := (((Outline.both (outlineExpr callee) (outlineExprs args)).drive env.sink
      env.settings (w.openModule f)).closeModule env.sink env.settings)
    after.state = (Walk.module f.definition f.scope f.piece.walk env w.state).2 ∧
      w.Meets base (stepsExpr around callee ++ stepsExprs around args) after := by
  obtain ⟨id, at_, raw, value, span, elems, values, isAsync, isGenerator, rfl, rfl, hvalues, -⟩ :=
    call_of_found? hfound
  let start := (w.openModule f).meet id .reference
  have hdrive : (Outline.both (outlineExpr (.ident id)) (outlineExprs [.lit at_ (.str raw value),
      .array span elems, .fn f.own (.mk f.span isAsync isGenerator f.params f.body)])).drive env.sink
        env.settings (w.openModule f) =
      (Outline.function f.scope (f.pieceAt around : Piece σ ε _).outline).drive env.sink env.settings
        start := by
    have hopen : (w.openModule f).state.stopped = false := hs
    have hstart : start.state.stopped = false := hs
    rw [Outline.drive, outlineExpr, drive_unlessStopped _ _ _ hopen]
    exact drive_arguments _ _ hvalues hstart
  have hcallee : (w.openModule f).Meets base [.ident (around.place id .reference)] start :=
    meets_meet base around (hscopes ▸ htracker) id .reference
      (fun _ _ hentered => by cases hentered)
  obtain ⟨hstate, hentered, hmeets⟩ := drive_factory (w := start) htracker rfl hscopes hinside
  have hreport : start.state.report [.factoryScope f.name env.scopes.length] =
      { w.state with findings := .empty }.report
        [.enteringModule f.name f.binding.size, .factoryScope f.name env.scopes.length] :=
    State.report_report _ _ _
  have hrun : Walk.function f.scope f.piece.walk
      { env with
        active := some ⟨f.definition, Amd.Binding.ofDefinition f.definition, env.scopes.length⟩ }
      ({ w.state with findings := .empty }.report
        [.enteringModule f.definition.name (Amd.Binding.ofDefinition f.definition).size,
          .factoryScope f.definition.name env.scopes.length]) = _ :=
    function_factory f hs
  rw [hreport] at hstate
  replace hstate := hstate.trans (congrArg Prod.snd hrun)
  simp only [hdrive, Walker.closeModule, hentered]
  refine ⟨?_, ?_⟩
  · unfold Walk.module
    simp only [hrun, Walker.deliver, Walker.report, hstate]
    rfl
  · -- The literals before the factory have no identifiers.
    have hliterals : start.Meets base (stepsExprs around elems) start := .of_eq rfl
    have hclosed := hmeets.trans (.of_eq rfl : Walker.Meets base [] _ _)
    exact (hcallee.trans (hliterals.trans hclosed)).congr rfl rfl

/-- What a walker does at a call is settled by what the call defines. -/
theorem outlined_call (span : Span) {callee : Expr} {args : List Expr}
    (hcallee : Outlined base around.scopes around.inTarget (.expr around callee : Piece σ ε _))
    (hargs : Outlined base around.scopes around.inTarget (.exprs around args : Piece σ ε _))
    (hfactory : InFactory (fun around _ (p : Piece σ ε _) =>
      Outlined base around.scopes around.inTarget p) around args) :
    Outlined base around.scopes around.inTarget
      (.expr around (.call span callee args) : Piece σ ε _) := by
  have hparts := (hcallee.map (Expr.call span)).seq hargs
  intro env w hw hscopes htarget
  simp only [Piece.expr, outlineExpr, visitExpr, Walk.unlessStopped, Outline.drive]
  split
  · exact ⟨rfl, .of_eq rfl⟩
  · rename_i hs
    rw [Bool.not_eq_true] at hs
    cases hentered : w.entered with
    | some entered =>
      have hstands := hw.entered
      rw [hentered] at hstands
      obtain ⟨active, hactive⟩ := hstands.of_some
      simp only [Walk.definition, hactive]
      exact hparts env w hw hscopes htarget
    | none =>
      have hstands := hw.entered
      rw [hentered] at hstands
      have hactive := hstands.of_none
      simp only [Walk.definition, hactive]
      cases hr : Amd.recognize callee args with
      | other =>
        have hfound : found? callee args = none := by simp [found?, hr]
        simp only [hfound, unhandledEvents, hr, Walker.report_nil]
        exact hparts env w hw hscopes htarget
      | unhandled arguments =>
        have hfound : found? callee args = none := by simp [found?, hr]
        simp only [hfound, unhandledEvents, hr]
        obtain ⟨hstate, hmeets⟩ := hparts env _ (hw.report _) hscopes htarget
        exact ⟨hstate, hmeets.congr rfl rfl⟩
      | textAsset path text =>
        have hfound : found? callee args = some (.textAsset path text) := by simp [found?, hr]
        simp only [hfound]
        exact ⟨rfl, .of_eq rfl⟩
      | module d =>
        obtain ⟨name, deps, own, at_, isAsync, isGenerator, params, body, rfl, hparams⟩ :=
          recognize_eq_module hr
        let f : Factory := ⟨d.name, d.dependencies, own, at_, params, body⟩
        have hfound : found? callee
            [name, deps, .fn own (.mk at_ isAsync isGenerator params body)] = some (.module f) := by
          simp [found?, hr, f]
        have hd : d = f.definition := by simp [f, Factory.definition, ← hparams]
        have hmodule := outlined_module hw.tracker hscopes hs hfound (Outlined.of_interior hfactory)
        simp only [hfound, visitFactory]
        rw [hd]
        exact hmodule

/-- A constant is made of a literal, so nothing is met in it. -/
theorem outlined_unary (span : Span) (op : UnaryOp) {arg : Expr}
    (h : Outlined base around.scopes around.inTarget (.expr around arg : Piece σ ε _)) :
    Outlined base around.scopes around.inTarget
      (.expr around (.unary span op arg) : Piece σ ε _) := by
  have hmapped := (h.map (simplifyUnary span op)).unlessStopped (.unary span op arg)
  intro env w hw hscopes htarget
  obtain ⟨hstate, hmeets⟩ := hmapped env w hw hscopes htarget
  refine ⟨hstate, ?_⟩
  simp only [Piece.expr, stepsExpr]
  split
  · rename_i value hvalue
    obtain ⟨at_, raw, rfl, -⟩ := constant?_eq_some hvalue
    obtain ⟨met, hmet, hpositions, hgrounded⟩ := hmeets
    exact ⟨met, hmet, hpositions.trans (List.nil_sublist _), hgrounded⟩
  · exact hmeets

end Definitions

/-- A walker is in step with the walk over any code. -/
theorem compositional_outlined (base : Scope.Stack) :
    Compositional fun around _ (p : Piece σ ε _) =>
      Outlined base around.scopes around.inTarget p where
  pure _ a := .pure a
  map g h := h.map g
  seq hg h := hg.seq h
  unlessStopped a h := h.unlessStopped a
  targeted h := h.targeting
  untargeted h := h.targeting
  ident := outlined_ident base
  patternIdent := outlined_patternIdent base
  unary span op h := outlined_unary span op h
  call span hcallee hargs hfactory := outlined_call span hcallee hargs hfactory
  scope h := (Outlined.of_interior h).within
  block hscope _ _ _ h := Around.scopes_enter_of_none hscope _ ▸ h
  staticBlock h := h
  handler g _ _ hparam hbody := ((hparam.map g).seq hbody).within

-- ---------------------------------------------------------------------------
-- Scripts
-- ---------------------------------------------------------------------------

/-- The identifiers of a script with the scopes that enclose them, in the order of the walk. -/
def positions (script : Script) : List Position :=
  (stepsStmts ⟨[], false, true⟩ script.body).filterMap (Step.position? [.ofScript script])

/-- Following the outline of a script is walking it. -/
theorem drive_script (sink : Sink σ ε) (settings : Settings) (start : σ) (script : Script) :
    let after := (outlineStmts script.body).drive sink settings
      ((Walker.initial start).openScope (.ofScript script))
    after.state =
        (visitStmts script.body (Env.ofScript sink settings script) (.initial start)).2 ∧
      (after.encounters.map Encounter.position).Sublist (positions script) ∧
      ∀ e ∈ after.encounters, e.IsGrounded := by
  have hopen : ((Walker.initial start : Walker σ ε).openScope (.ofScript script)).Has
      (Env.ofScript sink settings script) :=
    ⟨rfl, rfl, .outside⟩
  obtain ⟨hstate, met, hmet, hpositions, hgrounded⟩ :=
    (compositional_outlined [.ofScript script]).holds_stmts ⟨[], false, true⟩ rfl rfl script.body _ _
      hopen rfl rfl
  intro after
  have hencounters : after.encounters = met := hmet
  rw [hencounters]
  exact ⟨hstate, hpositions, hgrounded⟩

/-- A walker is in step with the tree, whatever the script, the limit and the sink. Following any
outline gives back the surroundings. Over a script, the walker does what the run does; it meets each
identifier with exactly those scopes open that enclose it, and inside of a module the index that it
has for the factory's scope is the index of that scope. In the end no scope is open, and all were
given up in order. -/
theorem surroundings_in_step (sink : Sink σ ε) (settings : Settings) :
    (∀ (part : Outline) (w : Walker σ ε), w.Restored (part.drive sink settings w)) ∧
      ∀ (start : σ) (script : Script),
        let w := Walker.run sink settings start script
        let outcome := run sink settings start script
        w.result = outcome.result ∧ w.state.sink = outcome.sink ∧
          w.state.log.toList = outcome.log ∧
          (w.encounters.map Encounter.position).Sublist (positions script) ∧
          (∀ e ∈ w.encounters, e.IsGrounded) ∧
          w.tracker.depth = 0 ∧ w.inOrder = true := by
  refine ⟨restored_drive sink settings, fun start script => ?_⟩
  unfold Walker.run run
  by_cases hlimit : settings.limit = some 0
  · simp only [hlimit, beq_self_eq_true, if_true]
    refine ⟨rfl, rfl, rfl, List.nil_sublist _, ?_, rfl, rfl⟩
    intro e he
    cases he
  · simp only [beq_iff_eq, hlimit, if_false]
    obtain ⟨hstate, hpositions, hgrounded⟩ := drive_script (ε := ε) sink settings start script
    have hrestored := restored_drive sink settings (outlineStmts script.body)
      ((Walker.initial start : Walker σ ε).openScope (.ofScript script))
    have hclose := Walker.closeScope_of_enter
      (hrestored.tracker.trans (Walker.tracker_openScope _ _))
    simp only [Outline.drive, hclose]
    refine ⟨?_, ?_, ?_, hpositions, hgrounded, rfl, hrestored.inOrder⟩
    · rw [← hstate]
      rfl
    · simp only [Walker.report, State.report, hstate]
    · simp only [Walker.report, State.report, hstate]
      simp [Scope.ofScript]

end Unbundle.Engine

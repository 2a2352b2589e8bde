-- SUMMARY: Parameters that nothing is passed for are left alone, and each of their uses is reported.
import Unbundle.Proofs.Diagnostics
import Unbundle.Proofs.Unsupplied
import Unbundle.Writer

/-!
# Warnings about parameters

A run with diagnostics warns about the parameters that nothing is passed for, module by module: when
a definition is handed over, the warnings about it have just been reported. `Progress.warned` says
which warnings these are, given how far a run has got, and `Warns w found` that they are what a walk
reports. The relation is kept by the operations of walks (`gathers_warns`), so it holds of the walk
over a script, wherever this stops (`unhandledUses_run`).
-/

namespace Unbundle.Engine

open Script

variable {σ ε α β : Type}

-- ---------------------------------------------------------------------------
-- What there is to warn about
-- ---------------------------------------------------------------------------

/-- The warnings about a definition. -/
def Found.reported : Found → List Event
  | .module f => f.reported
  | .textAsset _ _ => []

/-- The sink does not warn about uses of parameters itself. -/
def Sink.IsSilent (sink : Sink σ ε) : Prop :=
  ∀ e, sink.Reports e → e.isUnhandledUse = false

theorem isSilent_collect (refusal : Nat → Module → Option ε) :
    (collect refusal).IsSilent := by
  rintro e ⟨kept, m, he⟩
  unfold collect at he
  split at he <;> cases he

/-- Writing modules to a disk is silent, too: all that is reported is that a module is written. -/
theorem isSilent_sink (launch : Program.Launcher) (w : Writer) : (w.sink launch).IsSilent := by
  rintro e ⟨disk, m, he⟩
  unfold Writer.sink at he
  split at he
  · cases he
  · have hemitting : e = .emitting m.name := by
      split at he
      · exact List.mem_singleton.1 he
      · split at he <;> exact List.mem_singleton.1 he
    rw [hemitting]
    rfl

namespace Progress

/-- The warnings about those of the definitions that are handed over. -/
def warned (sink : Sink σ ε) (limit : Option Nat) : Progress σ ε → List Found → List Event
  | _, [] => []
  | p, d :: rest =>
    if p.stopped then []
    else d.reported ++ warned sink limit (p.offer sink limit d.toModule) rest

variable (sink : Sink σ ε) (limit : Option Nat)

@[simp] theorem warned_nil (p : Progress σ ε) : p.warned sink limit [] = [] := rfl

theorem warned_of_stopped {p : Progress σ ε} (h : p.stopped = true) (found : List Found) :
    p.warned sink limit found = [] := by
  cases found with
  | nil => rfl
  | cons d rest => rw [warned, if_pos h]

theorem warned_append (p : Progress σ ε) (found rest : List Found) :
    p.warned sink limit (found ++ rest) =
      p.warned sink limit found ++
        (p.offerAll sink limit (found.map Found.toModule)).warned sink limit rest := by
  induction found generalizing p with
  | nil => rfl
  | cons d found ih =>
    cases hp : p.stopped with
    | true =>
      rw [offerAll_of_stopped _ _ hp, warned_of_stopped _ _ hp, warned_of_stopped _ _ hp,
        warned_of_stopped _ _ hp]
      rfl
    | false =>
      rw [List.cons_append, warned, warned, if_neg (by simp [hp]), if_neg (by simp [hp]), ih,
        List.append_assoc]
      rfl

/-- Taking notes makes no difference to the warnings. -/
theorem warned_forget (p : Progress (σ × List Module) ε) (found : List Found) :
    p.forget.warned sink limit found = p.warned sink.recording limit found := by
  induction found generalizing p with
  | nil => rfl
  | cons d rest ih => rw [warned, warned, ← forget_offer, ih]; rfl

/-- A sink that takes notes receives what is offered. -/
theorem notes_offer {p : Progress (σ × List Module) ε} (hp : p.stopped = false) (m : Module) :
    (p.offer sink.recording limit m).sink.2 = p.sink.2 ++ [m] := by
  unfold offer
  rw [if_neg (by simp [hp])]
  split <;> rfl

/-- The definitions that there are warnings about are those whose modules are noted. -/
theorem warned_recording (p : Progress (σ × List Module) ε) (found : List Found) :
    ∃ dealt, dealt <+: found ∧
      (p.offerAll sink.recording limit (found.map Found.toModule)).sink.2 =
        p.sink.2 ++ dealt.map Found.toModule ∧
      p.warned sink.recording limit found = dealt.flatMap Found.reported := by
  induction found generalizing p with
  | nil => exact ⟨[], List.prefix_refl _, by simp, rfl⟩
  | cons d rest ih =>
    cases hp : p.stopped with
    | true =>
      rw [offerAll_of_stopped _ _ hp, warned_of_stopped _ _ hp]
      exact ⟨[], List.nil_prefix, by simp, rfl⟩
    | false =>
      obtain ⟨dealt, hpre, hnotes, hwarned⟩ := ih (p.offer sink.recording limit d.toModule)
      refine ⟨d :: dealt, List.cons_prefix_cons.2 ⟨rfl, hpre⟩, ?_, ?_⟩
      · rw [List.map_cons, offerAll_cons, hnotes, notes_offer sink limit hp]
        simp
      · rw [warned, if_neg (by simp [hp]), hwarned, List.flatMap_cons]

end Progress

-- ---------------------------------------------------------------------------
-- The log of a walk
-- ---------------------------------------------------------------------------

/-- Outside of modules, a walk with diagnostics warns about the definitions that it hands over. -/
def Warns (w : Walk σ ε α) (found : List Found) : Prop :=
  ∀ (env : Env σ ε) (s : State σ ε), env.active = none → env.settings.logging = .verbose →
    env.sink.IsSilent →
      unhandledUses (w env s).2.log.toList =
        unhandledUses s.log.toList ++ s.progress.warned env.sink env.settings.limit found

theorem State.unhandledUses_report (s : State σ ε) (events : List Event) :
    unhandledUses (s.report events).log.toList =
      unhandledUses s.log.toList ++ unhandledUses events := by
  simp [State.report]

theorem State.unhandledUses_report_of_none {s : State σ ε} {events : List Event}
    (h : ∀ e ∈ events, e.isUnhandledUse = false) :
    unhandledUses (s.report events).log.toList = unhandledUses s.log.toList := by
  rw [unhandledUses_report, unhandledUses_eq_nil h, List.append_nil]

/-- Handing over a module gives rise to no warnings. -/
theorem unhandledUses_deliver {env : Env σ ε} (hsink : env.sink.IsSilent) (m : Module)
    (s : State σ ε) :
    unhandledUses (Walk.deliver env m s).log.toList = unhandledUses s.log.toList := by
  have hevents : unhandledUses (env.sink s.sink m).events = [] :=
    unhandledUses_eq_nil fun e he => hsink e ⟨_, _, he⟩
  have hlimit : unhandledUses [.limitReached (s.emitted + 1)] = [] := rfl
  unfold Walk.deliver
  simp only
  split
  · simp [hevents]
  · split
    · simp [hevents, hlimit]
    · simp [hevents]

/-- From entering a module to leaving it, the warnings about it are reported. -/
theorem Factory.unhandledUses_log {f : Factory} (hplain : ∀ p ∈ f.params, (Amd.paramName? p).isSome)
    (depth : Nat) : unhandledUses (f.log .verbose depth) = f.reported := by
  have hsteps : unhandledUses (f.steps.flatMap f.events) = [] := by
    refine unhandledUses_eq_nil fun e he => ?_
    obtain ⟨step, -, he⟩ := List.mem_flatMap.1 he
    cases step with
    | ident p =>
      have hident : e ∈ identEvents (f.meaning p) p.id p.site := he
      unfold identEvents at hident
      split at hident
      · cases hident
      · obtain rfl := List.mem_singleton.1 hident
        rfl
      · cases hident
    | leave scope =>
      obtain rfl := List.mem_singleton.1 he
      rfl
    | enter scope | undefined p => cases he
  simp only [Factory.log, unhandledUses_append, hsteps, unhandledUses_findings hplain]
  simp [unhandledUses, Event.isUnhandledUse]

namespace Warns

variable {w : Walk σ ε α} {found rest : List Found}

theorem map (g : α → β) (h : Warns w found) : Warns (g <$> w) found :=
  fun env s henv => h env s henv

theorem seq {wg : Walk σ ε (α → β)} (hfinds : Finds wg found) (hg : Warns wg found)
    (h : Warns w rest) : Warns (wg <*> w) (found ++ rest) := by
  intro env s henv hlogging hsink
  rw [Progress.warned_append, ← List.append_assoc, ← hg env s henv hlogging hsink,
    ← hfinds env s henv]
  exact h env _ henv hlogging hsink

theorem unlessStopped (a : α) (h : Warns w found) : Warns (Walk.unlessStopped a w) found := by
  intro env s henv hlogging hsink
  unfold Walk.unlessStopped
  split
  · rename_i hs
    rw [Progress.warned_of_stopped _ _ hs, List.append_nil]
  · exact h env s henv hlogging hsink

theorem within (scope : Scope) (h : Warns w found) : Warns (Walk.within scope w) found := by
  intro env s henv hlogging hsink
  refine (State.unhandledUses_report_of_none ?_).trans
    (h { env with scopes := env.scopes.enter scope } s henv hlogging hsink)
  simp [Event.isUnhandledUse]

theorem ident (id : Ident) (site : Site) : Warns (Walk.ident id site : Walk σ ε Replacement) [] := by
  intro env s henv hlogging hsink
  simp [Walk.ident, henv]

theorem patternIdent (id : Ident) (href : Warns (Walk.reference id : Walk σ ε Ident) [])
    (hdecl : Warns (Walk.declaration id : Walk σ ε Ident) []) :
    Warns (Walk.patternIdent id : Walk σ ε Ident) [] := by
  intro env s henv
  unfold Walk.patternIdent
  split
  · exact href env s henv
  · exact hdecl env s henv

theorem call (span : Span) {callee : Expr} {args : List Expr}
    (hfinds : Finds (visitExpr callee : Walk σ ε Expr) (definitionsExpr callee))
    (hcallee : Warns (visitExpr callee : Walk σ ε Expr) (definitionsExpr callee))
    (hargs : Warns (visitExprs args : Walk σ ε (List Expr)) (definitionsExprs args)) :
    Warns (visitExpr (.call span callee args) : Walk σ ε Expr)
      (definitionsExpr (.call span callee args)) := by
  have hparts := Warns.seq (hfinds.map (Expr.call span)) (hcallee.map (Expr.call span)) hargs
  intro env s henv hlogging hsink
  cases hs : s.stopped with
  | true =>
    rw [Progress.warned_of_stopped _ _ hs]
    simp [visitExpr, Walk.unlessStopped, hs]
  | false =>
    have hcall := atCall_visitExpr span callee args henv hs
    have hoffered : s.progress.stopped = false := hs
    simp only [definitionsExpr]
    generalize hfound : found? callee args = found at hcall ⊢
    generalize (visitExpr (.call span callee args) env s).2 = after at hcall ⊢
    cases hcall with
    | parts events hevents =>
      rw [hparts env _ henv hlogging hsink, State.progress_report,
        State.unhandledUses_report_of_none]
      intro e he
      obtain ⟨arguments, rfl⟩ := hevents e he
      rfl
    | textAsset path text =>
      have hevents : unhandledUses [.textAsset path] = [] := rfl
      rw [unhandledUses_deliver hsink, State.unhandledUses_report, hevents]
      simp [Progress.warned, hoffered, Found.reported]
    | module f =>
      rw [unhandledUses_deliver hsink, State.unhandledUses_report, hlogging,
        Factory.unhandledUses_log (Factory.paramName?_of_found hfound)]
      simp [Progress.warned, hoffered, Found.reported]

end Warns

/-- What a walk warns about depends on how far it gets, so both are told together. -/
structure FindsAndWarns (w : Walk σ ε α) (found : List Found) : Prop where
  finds : Finds w found
  warns : Warns w found

theorem gathers_warns : @Gathers σ ε FindsAndWarns where
  pure a := ⟨gathers_finds.pure a, fun _ _ _ _ _ => (List.append_nil _).symm⟩
  map g _ _ h := ⟨h.finds.map g, h.warns.map g⟩
  seq hg h := ⟨hg.finds.seq h.finds, Warns.seq hg.finds hg.warns h.warns⟩
  unlessStopped a _ _ h := ⟨h.finds.unlessStopped a, h.warns.unlessStopped a⟩
  targeting b _ _ h := ⟨gathers_finds.targeting b h.finds, fun env s henv =>
    h.warns { env with inTarget := b } s henv⟩
  within scope _ _ h := ⟨gathers_finds.within scope h.finds, h.warns.within scope⟩
  ident id site := ⟨.ident id site, .ident id site⟩
  patternIdent id href hdecl :=
    ⟨.patternIdent id href.finds hdecl.finds, .patternIdent id href.warns hdecl.warns⟩
  call span _ _ hcallee hargs :=
    ⟨finds_call span hcallee.finds hargs.finds,
      .call span hcallee.finds hcallee.warns hargs.warns⟩

-- ---------------------------------------------------------------------------
-- Runs
-- ---------------------------------------------------------------------------

/-- The definitions whose modules are handed over, and no others, are warned about in a run. -/
theorem unhandledUses_run {sink : Sink σ ε} {settings : Settings} (start : σ) (script : Script)
    (hlogging : settings.logging = .verbose) (hsink : sink.IsSilent) :
    unhandledUses (run sink settings start script).log =
      (script.definitions.take (handed sink settings start script).length).flatMap
        Found.reported := by
  by_cases hlimit : settings.limit = some 0
  · rw [handed_of_limit_zero sink start script hlimit, run_of_limit_zero sink start script hlimit]
    rfl
  · have hwalk := (gathers_warns.holds_visitStmts script.body).warns
      (Env.ofScript sink settings script) (.initial start) rfl hlogging hsink
    obtain ⟨dealt, hpre, hnotes, hwarned⟩ := Progress.warned_recording sink settings.limit
      ⟨(start, []), 0, false, none⟩ script.definitions
    have hhanded : handed sink settings start script = dealt.map Found.toModule := by
      rw [handed, (run_of_limit_ne_zero sink.recording (start, []) script hlimit).1]
      exact hnotes
    rw [hhanded, List.length_map, ← List.prefix_iff_eq_take.1 hpre, ← hwarned,
      ← Progress.warned_forget]
    simp only [run, beq_iff_eq, hlimit, if_false, unhandledUses_append, hwalk]
    rw [show unhandledUses [.leftScope script.span] = [] from rfl, List.append_nil]
    rfl

/-- Parameters that nothing is passed for are left alone in every module that is handed over. With
diagnostics a run warns about all of their uses in these modules: module by module, about each use by
name in order, then about each use of `default`. No bound parameter is warned about. Among the uses
by name there are warnings about declarations, too, namely those in static blocks that the walk takes
to be uses: without such a declaration, the warnings are just those that are called for. -/
theorem unsupplied_reported_and_left_alone (sink : Sink σ ε) (settings : Settings) (start : σ)
    (script : Script) :
    (∀ (k : Nat) (f : Factory) (m : Module), script.definitions[k]? = some (.module f) →
        (handed sink settings start script)[k]? = some m →
          ∃ imports body, m = ⟨f.name, .code imports body⟩ ∧ f.LeavesAlone imports body) ∧
      (settings.logging = .verbose → sink.IsSilent →
        unhandledUses (run sink settings start script).log =
          (script.definitions.take (handed sink settings start script).length).flatMap
            Found.reported) ∧
      ∀ f : Factory,
        f.warnings.Sublist f.reported ∧
          (f.reported = f.warnings ↔ ∀ p ∈ f.places, ¬ f.IsRedeclared p) ∧
          (∀ p ∈ f.places, f.IsRedeclared p → p.site = .reference ∧ p.inStaticBlock = true) ∧
          ∀ (x : String) (target : Amd.Target), f.binding.get? x = some target →
            .unhandledNamespace x ∉ f.reported ∧ .unhandledDefault x ∉ f.reported := by
  refine ⟨fun k f m hf hm => ?_, unhandledUses_run start script, fun f => ?_⟩
  · exact ⟨_, _, (toModule_of_handed hf hm).trans f.module_eq_rewrite,
      Factory.leavesAlone (Factory.paramName?_of_definition hf)⟩
  · refine ⟨f.warnings_sublist, Factory.reported_eq_warnings_iff, fun p hp h => ?_,
      fun x target => Factory.not_reported_of_bound⟩
    exact ⟨Factory.site_of_isRedeclared hp h, Factory.inStaticBlock_of_isRedeclared hp h⟩

/-- `function (a, x) { a(x, x.default, { x }); }` with one dependency -/
def overlongSample : Factory where
  name := "m"
  dependencies := ["a"]
  own := none
  span := ⟨20, 63⟩
  params := [.ident ⟨"a", ⟨30, 31⟩⟩, .ident ⟨"x", ⟨33, 34⟩⟩]
  body :=
    [.expr (.call ⟨38, 60⟩ (.ident ⟨"a", ⟨38, 39⟩⟩)
      [.ident ⟨"x", ⟨40, 41⟩⟩,
        .member ⟨43, 52⟩ (.ident ⟨"x", ⟨43, 44⟩⟩) (.named "default"),
        .object ⟨54, 59⟩ [.shorthand ⟨"x", ⟨56, 57⟩⟩]])]

theorem unsupplied_reported_and_left_alone_overlongSample :
    (∃ imports body, overlongSample.module = ⟨"m", .code imports body⟩ ∧
        overlongSample.LeavesAlone imports body) ∧
      unhandledUses (run keepAll ⟨none, .verbose⟩ [] overlongSample.script).log =
        [.unhandledNamespace "x", .unhandledNamespace "x", .unhandledDefault "x"] ∧
      .unhandledNamespace "a" ∉ overlongSample.reported := by
  have hdefinitions : overlongSample.script.definitions = [.module overlongSample] := rfl
  have hhanded : handed keepAll ⟨none, .verbose⟩ [] overlongSample.script =
      [overlongSample.module] := by
    rw [handed_eq_modules [] overlongSample.script rfl fun _ _ => rfl, modules, hdefinitions]
    rfl
  obtain ⟨hmodules, hlog, hreported⟩ :=
    unsupplied_reported_and_left_alone keepAll ⟨none, .verbose⟩ [] overlongSample.script
  refine ⟨?_, ?_, ((hreported overlongSample).2.2.2 "a" (.module "a") rfl).1⟩
  · exact hmodules 0 overlongSample overlongSample.module rfl (by rw [hhanded]; rfl)
  · rw [hlog rfl (isSilent_collect _), hhanded, hdefinitions]
    rfl

/-- `function (a, extra) { (class { static { var extra = 1; } }).p = 1; a(); }` with one dependency
-/
def redeclaredSample : Factory where
  name := "m"
  dependencies := ["a"]
  own := none
  span := ⟨20, 93⟩
  params := [.ident ⟨"a", ⟨30, 31⟩⟩, .ident ⟨"extra", ⟨33, 38⟩⟩]
  body :=
    [.expr (.assign ⟨42, 85⟩ .plain
        (.expr (.member ⟨42, 81⟩
          (.paren ⟨42, 79⟩ (.cls none (.mk ⟨43, 78⟩ none
            [.staticBlock [.varDecl .var
              [.mk (.ident ⟨"extra", ⟨64, 69⟩⟩) (some (.lit ⟨72, 73⟩ (.num "1")))]]])))
          (.named "p")))
        (.lit ⟨84, 85⟩ (.num "1"))),
      .expr (.call ⟨87, 90⟩ (.ident ⟨"a", ⟨87, 88⟩⟩) [])]

/-- There is a warning, although the parameter is not used at all. -/
theorem redeclaredSample_reports_declaration :
    unhandledUses (run keepAll ⟨none, .verbose⟩ [] redeclaredSample.script).log =
        [.unhandledNamespace "extra"] ∧
      redeclaredSample.warnings = [] := by
  refine ⟨?_, rfl⟩
  have hdefinitions : redeclaredSample.script.definitions = [.module redeclaredSample] := rfl
  have hsilent : keepAll.IsSilent := isSilent_collect _
  rw [unhandledUses_run [] redeclaredSample.script rfl hsilent,
    handed_eq_modules [] redeclaredSample.script rfl fun _ _ => rfl, modules, hdefinitions]
  rfl

end Unbundle.Engine

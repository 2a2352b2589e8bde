-- SUMMARY: Diagnostics decide about the warnings of a run, and about nothing else.
import Unbundle.Proofs.Closure
import Unbundle.Proofs.Emission

/-!
# Diagnostics

The walk asks whether diagnostics are wanted where it meets a call that it cannot handle, and where
it chooses the names of imports. Two runs that differ in the answer go hand in hand: `Indifferent w`
says that a walk drafts the same in both, and that their states still differ at most in warnings.
`Quiet w` says that without diagnostics a walk reports no warnings of its own. Both properties are
closed, so they hold of every tree.
-/

namespace Unbundle

-- ---------------------------------------------------------------------------
-- Warnings
-- ---------------------------------------------------------------------------

def Event.isWarning (e : Event) : Bool :=
  e.level == .warn

/-- Everything but the warnings. -/
def withoutWarnings (events : List Event) : List Event :=
  events.filter fun e => !e.isWarning

@[simp] theorem withoutWarnings_append (events rest : List Event) :
    withoutWarnings (events ++ rest) = withoutWarnings events ++ withoutWarnings rest :=
  List.filter_append ..

theorem isWarning_of_mem_withoutWarnings {events : List Event} {e : Event}
    (h : e ∈ withoutWarnings events) : e.isWarning = false := by
  simpa using (List.mem_filter.1 h).2

/-- Warnings that are reported only when they are wanted. -/
theorem withoutWarnings_warnings (logging : Logging) {events : List Event}
    (h : ∀ e ∈ events, e.isWarning = true) : withoutWarnings (logging.warnings events) = [] := by
  unfold Logging.warnings
  split
  · simpa [withoutWarnings] using h
  · rfl

namespace Imports

variable {binding : Amd.Binding} {logging : Logging}

/-- What choosing a name reports apart from warnings. -/
theorem events_choice (logging : Logging) (choice : Naming.Choice) (basis : String) :
    choice.events .none basis = withoutWarnings (choice.events logging basis) := by
  have hwarning : withoutWarnings (logging.warnings [.duplicateName choice.name]) = [] :=
    withoutWarnings_warnings logging (by simp [Event.isWarning, Event.level])
  unfold Naming.Choice.events
  rw [withoutWarnings_append]
  split
  · rfl
  · rw [hwarning]
    rfl

/-- The first names are the second ones without their warnings. -/
structure Names.Mutes (n m : Names) : Prop extends n.Same m where
  events : n.events = withoutWarnings m.events

namespace Names.Mutes

variable {n m : Names}

theorem addNamespace (h : n.Mutes m) (use : Use) :
    (n.addNamespace binding .none use).Mutes (m.addNamespace binding logging use) := by
  refine ⟨h.toSame.addNamespace use, ?_⟩
  have hwarning : withoutWarnings (logging.warnings [.unhandledNamespace use.param]) = [] :=
    withoutWarnings_warnings logging (by simp [Event.isWarning, Event.level])
  unfold Names.addNamespace
  split
  · simp only [Names.report, withoutWarnings_append, hwarning, h.events]
    rfl
  · simp only [h.locals]
    split
    · exact h.events
    · simp only [Names.allocate, withoutWarnings_append, h.taken, h.events,
        events_choice logging]

theorem addDefault (h : n.Mutes m) (use : Use) :
    (n.addDefault binding .none use).Mutes (m.addDefault binding logging use) := by
  refine ⟨h.toSame.addDefault use, ?_⟩
  have hwarning : withoutWarnings (logging.warnings [.unhandledDefault use.param]) = [] :=
    withoutWarnings_warnings logging (by simp [Event.isWarning, Event.level])
  unfold Names.addDefault
  split
  · simp only [Names.report, withoutWarnings_append, hwarning, h.events]
    rfl
  · simp only [h.locals]
    split
    · exact h.events
    · simp only [Names.allocate, withoutWarnings_append, h.taken, h.events,
        events_choice logging]

end Names.Mutes

/-- Choosing the names of imports without diagnostics reports everything but the warnings. -/
theorem events_ofFindings (logging : Logging) (findings : Findings) :
    (ofFindings binding .none findings).events =
      withoutWarnings (ofFindings binding logging findings).events := by
  have hstart : Names.Mutes ⟨⟨[], []⟩, findings.taken, []⟩ ⟨⟨[], []⟩, findings.taken, []⟩ :=
    ⟨⟨rfl, rfl⟩, rfl⟩
  unfold ofFindings
  -- The namespaces come first, then the defaults.
  refine (List.foldl_rel (List.foldl_rel hstart ?_) ?_).events
  · exact fun use _ _ _ h => h.addNamespace use
  · exact fun use _ _ _ h => h.addDefault use

end Imports

namespace Engine

open Script

variable {σ ε α β : Type}

-- ---------------------------------------------------------------------------
-- Runs that differ in their diagnostics
-- ---------------------------------------------------------------------------

/-- The same surroundings, but for the diagnostics that are wanted. -/
def Env.withLogging (env : Env σ ε) (logging : Logging) : Env σ ε :=
  { env with settings := { env.settings with logging := logging } }

/-- Two runs differ at most in the warnings that they have reported. -/
structure State.Agrees (s s' : State σ ε) : Prop where
  sink : s'.sink = s.sink
  emitted : s'.emitted = s.emitted
  stopped : s'.stopped = s.stopped
  refusal : s'.refusal = s.refusal
  findings : s'.findings = s.findings
  log : withoutWarnings s'.log.toList = withoutWarnings s.log.toList

theorem State.Agrees.report {s s' : State σ ε} (hs : s.Agrees s') {events events' : List Event}
    (h : withoutWarnings events' = withoutWarnings events) :
    (s.report events).Agrees (s'.report events') :=
  ⟨hs.sink, hs.emitted, hs.stopped, hs.refusal, hs.findings, by simp [State.report, hs.log, h]⟩

/-- The same module goes to the sink in both runs. -/
theorem State.Agrees.deliver {s s' : State σ ε} (hs : s.Agrees s') (env : Env σ ε)
    (logging : Logging) (m : Module) :
    (Walk.deliver env m s).Agrees (Walk.deliver (env.withLogging logging) m s') := by
  simp only [Walk.deliver, Env.withLogging, hs.sink]
  cases (env.sink s.sink m).refusal with
  | some refusal =>
    exact ⟨rfl, hs.emitted, rfl, rfl, hs.findings, by simp [hs.log]⟩
  | none =>
    simp only [hs.emitted]
    split
    · exact ⟨rfl, rfl, rfl, hs.refusal, hs.findings, by simp [hs.log]⟩
    · exact ⟨rfl, rfl, hs.stopped, hs.refusal, hs.findings, by simp [hs.log]⟩

/-- Whether diagnostics are wanted makes no difference to a walk, except for warnings. -/
def Indifferent (w : Walk σ ε α) : Prop :=
  ∀ (env : Env σ ε) (logging : Logging) (s s' : State σ ε), s.Agrees s' →
    (w (env.withLogging logging) s').1 = (w env s).1 ∧
      (w env s).2.Agrees (w (env.withLogging logging) s').2

namespace Indifferent

theorem map (g : α → β) {w : Walk σ ε α} (h : Indifferent w) : Indifferent (g <$> w) := by
  intro env logging s s' hs
  obtain ⟨hdraft, hstate⟩ := h env logging s s' hs
  refine ⟨?_, hstate⟩
  simp only [Walk.map_apply, hdraft]

theorem seq {wg : Walk σ ε (α → β)} {w : Walk σ ε α} (hg : Indifferent wg) (h : Indifferent w) :
    Indifferent (wg <*> w) := by
  intro env logging s s' hs
  obtain ⟨hdraft₁, hstate₁⟩ := hg env logging s s' hs
  obtain ⟨hdraft₂, hstate₂⟩ := h env logging _ _ hstate₁
  refine ⟨?_, hstate₂⟩
  simp only [Walk.seq_apply, hdraft₁, hdraft₂]

theorem unlessStopped (a : α) {w : Walk σ ε α} (h : Indifferent w) :
    Indifferent (Walk.unlessStopped a w) := by
  intro env logging s s' hs
  simp only [Walk.unlessStopped, hs.stopped]
  split
  · exact ⟨rfl, hs⟩
  · exact h env logging s s' hs

theorem targeting (b : Bool) {w : Walk σ ε α} (h : Indifferent w) :
    Indifferent (Walk.targeting b w) :=
  fun env => h { env with inTarget := b }

theorem within (scope : Scope) {w : Walk σ ε α} (h : Indifferent w) :
    Indifferent (Walk.within scope w) := by
  intro env logging s s' hs
  obtain ⟨hdraft, hstate⟩ := h { env with scopes := env.scopes.enter scope } logging s s' hs
  exact ⟨hdraft, hstate.report rfl⟩

theorem ident (id : Ident) (site : Site) :
    Indifferent (Walk.ident id site : Walk σ ε Replacement) := by
  intro env logging s s' hs
  simp only [Walk.ident, Env.withLogging]
  cases env.active with
  | none => exact ⟨rfl, hs⟩
  | some active =>
    refine ⟨rfl, hs.sink, hs.emitted, hs.stopped, hs.refusal, ?_, ?_⟩
    · simp only [hs.findings]
    · simp [hs.log]

/-- The names of a module's imports are the same in both runs. -/
theorem module (d : Amd.Definition) (scope : Scope) {factory : Walk σ ε (List Stmt)}
    (h : Indifferent factory) : Indifferent (Walk.module d scope factory) := by
  intro env logging s s' hs
  refine ⟨rfl, ?_⟩
  have hstart : State.Agrees { s with findings := .empty } { s' with findings := .empty } :=
    ⟨hs.sink, hs.emitted, hs.stopped, hs.refusal, rfl, hs.log⟩
  have hentered := hstart.report (show withoutWarnings [.enteringModule d.name
    (Amd.Binding.ofDefinition d).size, .factoryScope d.name env.scopes.length] = _ from rfl)
  obtain ⟨hdraft, hstate⟩ := ((h.within scope).targeting false)
    { env with active := some ⟨d, .ofDefinition d, env.scopes.length⟩ } logging _ _ hentered
  have hlocals : ∀ findings : Findings,
      (Imports.ofFindings (.ofDefinition d) logging findings).locals =
        (Imports.ofFindings (.ofDefinition d) env.settings.logging findings).locals :=
    fun findings => Imports.locals_ofFindings findings
  have hevents : ∀ findings : Findings,
      withoutWarnings (Imports.ofFindings (.ofDefinition d) logging findings).events =
        withoutWarnings
          (Imports.ofFindings (.ofDefinition d) env.settings.logging findings).events := by
    intro findings
    rw [← Imports.events_ofFindings logging, ← Imports.events_ofFindings env.settings.logging]
  simp only [Env.withLogging] at hdraft hstate
  simp only [Walk.module, Env.withLogging, Walk.function, hdraft, hstate.findings, hlocals]
  refine State.Agrees.deliver (hstate.report ?_) env logging _
  simp only [withoutWarnings_append, hevents]

theorem definition (callee : Expr) (args : List Expr) {parts whole : Walk σ ε α}
    {factory : Amd.Definition → Walk σ ε α} (hparts : Indifferent parts)
    (hwhole : Indifferent whole) (hfactory : ∀ d, Indifferent (factory d)) :
    Indifferent (Walk.definition callee args parts whole factory) := by
  intro env logging s s' hs
  have hwarning : ∀ logging : Logging, ∀ arguments : String,
      withoutWarnings (logging.warnings [.unhandledDefine arguments]) = [] :=
    fun logging _ => withoutWarnings_warnings logging (by simp [Event.isWarning, Event.level])
  unfold Walk.definition
  simp only [show (env.withLogging logging).active = env.active from rfl]
  cases env.active with
  | some active => exact hparts env logging s s' hs
  | none =>
    cases Amd.recognize callee args with
    | other => exact hparts env logging s s' hs
    | module d => exact hfactory d env logging s s' hs
    | textAsset path text =>
      exact hwhole env logging _ _ ((hs.report rfl).deliver env logging ⟨path, .text text⟩)
    | unhandled arguments =>
      refine hparts env logging _ _ (hs.report ?_)
      rw [hwarning, hwarning]

theorem closed : @Closed σ ε Indifferent where
  pure _ := fun _ _ _ _ hs => ⟨rfl, hs⟩
  map := map
  seq := seq
  unlessStopped := unlessStopped
  targeting := targeting
  within := within
  ident := ident
  patternIdent id hreference hdeclaration := by
    intro env logging s s' hs
    simp only [Walk.patternIdent, show (env.withLogging logging).inTarget = env.inTarget from rfl]
    split
    · exact hreference env logging s s' hs
    · exact hdeclaration env logging s s' hs
  module := module
  definition := definition

end Indifferent

-- ---------------------------------------------------------------------------
-- Runs without diagnostics
-- ---------------------------------------------------------------------------

/-- The sink reports this event when it receives some module. -/
def Sink.Reports (sink : Sink σ ε) (e : Event) : Prop :=
  ∃ (s : σ) (m : Module), e ∈ (sink s m).events

/-- Without diagnostics, a walk reports no warnings but those of the sink. -/
def Quiet (w : Walk σ ε α) : Prop :=
  ∀ (env : Env σ ε) (s : State σ ε), env.settings.logging = .none →
    ∀ e ∈ (w env s).2.log.toList, e.isWarning = true → e ∈ s.log.toList ∨ env.sink.Reports e

namespace Quiet

/-- Events that are no warnings may be reported. -/
theorem mem_of_report {s : State σ ε} {events : List Event} {e : Event}
    (h : ∀ e ∈ events, e.isWarning = false) (he : e ∈ (s.report events).log.toList)
    (hwarning : e.isWarning = true) : e ∈ s.log.toList := by
  rw [State.report, Array.toList_appendList, List.mem_append] at he
  rcases he with he | he
  · exact he
  · rw [h e he] at hwarning
    cases hwarning

theorem of_deliver {env : Env σ ε} {m : Module} {s : State σ ε} {e : Event}
    (he : e ∈ (Walk.deliver env m s).log.toList) (hwarning : e.isWarning = true) :
    e ∈ s.log.toList ∨ env.sink.Reports e := by
  have hsplit : e ∈ s.log.toList ∨ e ∈ (env.sink s.sink m).events ∨
      e = .limitReached (s.emitted + 1) := by
    simp only [Walk.deliver] at he
    split at he
    · simp only [Array.toList_appendList, List.mem_append] at he
      tauto
    · split at he
      · simp only [Array.toList_push, Array.toList_appendList, List.mem_append,
          List.mem_singleton] at he
        tauto
      · simp only [Array.toList_appendList, List.mem_append] at he
        tauto
  rcases hsplit with he | he | rfl
  · exact .inl he
  · exact .inr ⟨s.sink, m, he⟩
  · cases hwarning

theorem map (g : α → β) {w : Walk σ ε α} (h : Quiet w) : Quiet (g <$> w) :=
  h

theorem seq {wg : Walk σ ε (α → β)} {w : Walk σ ε α} (hg : Quiet wg) (h : Quiet w) :
    Quiet (wg <*> w) := by
  intro env s henv e he hwarning
  rcases h env _ henv e he hwarning with he | hsink
  · exact hg env s henv e he hwarning
  · exact .inr hsink

theorem unlessStopped (a : α) {w : Walk σ ε α} (h : Quiet w) :
    Quiet (Walk.unlessStopped a w) := by
  intro env s henv e he hwarning
  unfold Walk.unlessStopped at he
  split at he
  · exact .inl he
  · exact h env s henv e he hwarning

theorem targeting (b : Bool) {w : Walk σ ε α} (h : Quiet w) : Quiet (Walk.targeting b w) :=
  fun env s henv => h { env with inTarget := b } s henv

theorem within (scope : Scope) {w : Walk σ ε α} (h : Quiet w) : Quiet (Walk.within scope w) := by
  intro env s henv e he hwarning
  refine h { env with scopes := env.scopes.enter scope } s henv e ?_ hwarning
  exact mem_of_report (by simp [Event.isWarning, Event.level]) he hwarning

theorem ident (id : Ident) (site : Site) : Quiet (Walk.ident id site : Walk σ ε Replacement) := by
  intro env s henv e he hwarning
  unfold Walk.ident at he
  split at he
  · exact .inl he
  · rename_i active hactive
    refine .inl (mem_of_report ?_ he hwarning)
    unfold identEvents
    split <;> simp [Event.isWarning, Event.level]

theorem module (d : Amd.Definition) (scope : Scope) {factory : Walk σ ε (List Stmt)}
    (h : Quiet factory) : Quiet (Walk.module d scope factory) := by
  intro env s henv e he hwarning
  rcases of_deliver he hwarning with he | hsink
  · -- The events of the names are those of a run with diagnostics, without their warnings.
    replace he := mem_of_report ?_ he hwarning
    · rcases (h.within scope).targeting false
        { env with active := some ⟨d, .ofDefinition d, env.scopes.length⟩ } _ henv e he hwarning
        with he | hsink
      · exact .inl (mem_of_report (by simp [Event.isWarning, Event.level]) he hwarning)
      · exact .inr hsink
    · intro e he
      rw [henv, Imports.events_ofFindings .verbose, List.mem_append] at he
      rcases he with he | he
      · exact isWarning_of_mem_withoutWarnings he
      · simp only [List.mem_cons, List.not_mem_nil, or_false] at he
        rcases he with rfl | rfl <;> rfl
  · exact .inr hsink

theorem definition (callee : Expr) (args : List Expr) {parts whole : Walk σ ε α}
    {factory : Amd.Definition → Walk σ ε α} (hparts : Quiet parts) (hwhole : Quiet whole)
    (hfactory : ∀ d, Quiet (factory d)) :
    Quiet (Walk.definition callee args parts whole factory) := by
  intro env s henv e he hwarning
  unfold Walk.definition at he
  split at he
  · exact hparts env s henv e he hwarning
  · exact hparts env s henv e he hwarning
  · exact hfactory _ env s henv e he hwarning
  · rcases hwhole env _ henv e he hwarning with he | hsink
    · rcases of_deliver he hwarning with he | hsink
      · exact .inl (mem_of_report (by simp [Event.isWarning, Event.level]) he hwarning)
      · exact .inr hsink
    · exact .inr hsink
  · rcases hparts env _ henv e he hwarning with he | hsink
    · exact .inl (mem_of_report (by simp [henv, Logging.warnings, Logging.isVerbose]) he hwarning)
    · exact .inr hsink

theorem closed : @Closed σ ε Quiet where
  pure _ := fun _ _ _ _ he _ => .inl he
  map := map
  seq := seq
  unlessStopped := unlessStopped
  targeting := targeting
  within := within
  ident := ident
  patternIdent id hreference hdeclaration := by
    intro env s henv e he hwarning
    unfold Walk.patternIdent at he
    split at he
    · exact hreference env s henv e he hwarning
    · exact hdeclaration env s henv e he hwarning
  module := module
  definition := definition

end Quiet

-- ---------------------------------------------------------------------------
-- Runs
-- ---------------------------------------------------------------------------

/-- How modules are handed over does not depend on the diagnostics that are wanted. -/
theorem handed_congr_logging (sink : Sink σ ε) (limit : Option Nat) (logging logging' : Logging)
    (start : σ) (script : Script) :
    handed sink ⟨limit, logging'⟩ start script = handed sink ⟨limit, logging⟩ start script := by
  by_cases hlimit : limit = some 0
  · rw [handed_of_limit_zero sink start script hlimit,
      handed_of_limit_zero sink start script hlimit]
  · rw [handed, handed,
      (run_of_limit_ne_zero sink.recording (start, []) script
        (show (⟨limit, logging⟩ : Settings).limit ≠ some 0 from hlimit)).1,
      (run_of_limit_ne_zero sink.recording (start, []) script
        (show (⟨limit, logging'⟩ : Settings).limit ≠ some 0 from hlimit)).1]

/-- Diagnostics have no influence: a run that wants them and one that does not hand the same modules
to the sink, end with the same result, leave the same script, and report the same but for warnings.
Without diagnostics there are no warnings, except for those that the sink reports itself. -/
theorem diagnostics_have_no_influence (sink : Sink σ ε) (limit : Option Nat) (start : σ)
    (script : Script) :
    let verbose := run sink ⟨limit, .verbose⟩ start script
    let quiet := run sink ⟨limit, .none⟩ start script
    handed sink ⟨limit, .none⟩ start script = handed sink ⟨limit, .verbose⟩ start script ∧
      quiet.sink = verbose.sink ∧ quiet.result = verbose.result ∧
      quiet.script = verbose.script ∧
      withoutWarnings quiet.log = withoutWarnings verbose.log ∧
      ∀ e ∈ quiet.log, e.isWarning = true → sink.Reports e := by
  refine ⟨handed_congr_logging sink limit .verbose .none start script, ?_⟩
  by_cases hlimit : limit = some 0
  · rw [run_of_limit_zero sink start script hlimit, run_of_limit_zero sink start script hlimit]
    simp [Event.isWarning, Event.level]
  · have hstart : (State.initial start : State σ ε).Agrees (.initial start) :=
      ⟨rfl, rfl, rfl, rfl, rfl, rfl⟩
    obtain ⟨hdraft, hstate⟩ := Indifferent.closed.holds_visitStmts script.body
      (Env.ofScript sink ⟨limit, .verbose⟩ script) .none _ _ hstart
    have hquiet := Quiet.closed.holds_visitStmts script.body
      (Env.ofScript sink ⟨limit, .none⟩ script) (.initial start) rfl
    simp only [show (Env.ofScript sink ⟨limit, .verbose⟩ script).withLogging .none =
      Env.ofScript sink ⟨limit, .none⟩ script from rfl] at hdraft hstate
    simp only [run, beq_iff_eq, hlimit, if_false, hdraft, hstate.sink, hstate.refusal,
      hstate.emitted, withoutWarnings_append, hstate.log, true_and]
    intro e he hwarning
    rcases List.mem_append.1 he with he | he
    · rcases hquiet e he hwarning with he | hsink
      · simp [State.initial] at he
      · exact hsink
    · simp only [List.mem_singleton] at he
      subst he
      cases hwarning

end Engine
end Unbundle

-- SUMMARY: Parameters that nothing is passed for stay in a module as they stand in its factory.
import Unbundle.Proofs.Allocation

/-!
# Parameters without a dependency

A factory may have more parameters than its module has dependencies. The uses of such a parameter are
recorded together with those of the other ones, but nothing comes of them: they stay where they are,
no import is for them, and none takes the name of the parameter (`Factory.LeavesAlone`). What they do
give rise to is a warning for each of them: first for those by name, then for those of `default`
(`unhandledUses_ofFindings`).
-/

namespace Unbundle

-- ---------------------------------------------------------------------------
-- Warnings about uses
-- ---------------------------------------------------------------------------

/-- The event says that a parameter is used which nothing is passed for. -/
def Event.isUnhandledUse : Event → Bool
  | .unhandledNamespace _ | .unhandledDefault _ => true
  | _ => false

/-- The events among these that say so of some use. -/
def unhandledUses (events : List Event) : List Event :=
  events.filter Event.isUnhandledUse

@[simp] theorem unhandledUses_append (events rest : List Event) :
    unhandledUses (events ++ rest) = unhandledUses events ++ unhandledUses rest :=
  List.filter_append ..

theorem unhandledUses_eq_nil {events : List Event} (h : ∀ e ∈ events, e.isUnhandledUse = false) :
    unhandledUses events = [] :=
  List.filter_eq_nil_iff.2 fun e he => by simp [h e he]

namespace Imports

variable {binding : Amd.Binding}

/-- What there is to report about those of the uses that are for no path. -/
def reports (binding : Amd.Binding) (event : String → Event) (uses : List Use) : List Event :=
  (uses.filter fun use => (binding.path? use.param).isNone).map fun use => event use.param

theorem reports_cons (event : String → Event) (use : Use) (rest : List Use) :
    reports binding event (use :: rest) =
      reports binding event [use] ++ reports binding event rest := by
  simp only [reports, List.filter_cons]
  split <;> rfl

namespace Names

/-- Choosing a name gives rise to reports of other kinds. -/
theorem unhandledUses_allocate (n : Names) (logging : Logging) (basis : String) :
    unhandledUses (n.allocate logging basis).2.events = unhandledUses n.events := by
  have hchoice : unhandledUses ((Naming.choose n.taken basis).events logging basis) = [] := by
    refine unhandledUses_eq_nil fun e he => ?_
    unfold Naming.Choice.events at he
    cases logging <;> grind [Event.isUnhandledUse, Logging.warnings, Logging.isVerbose]
  rw [allocate, unhandledUses_append, hchoice, List.append_nil]

theorem unhandledUses_addNamespace (n : Names) (use : Use) :
    unhandledUses (n.addNamespace binding .verbose use).events =
      unhandledUses n.events ++ reports binding .unhandledNamespace [use] := by
  unfold addNamespace
  cases hpath : binding.path? use.param with
  | none => simp [report, reports, hpath, unhandledUses, Logging.warnings, Logging.isVerbose,
      Event.isUnhandledUse]
  | some path =>
    rw [show reports binding .unhandledNamespace [use] = [] by simp [reports, hpath],
      List.append_nil]
    simp only
    split
    · rfl
    · exact unhandledUses_allocate n .verbose path

theorem unhandledUses_addDefault (n : Names) (use : Use) :
    unhandledUses (n.addDefault binding .verbose use).events =
      unhandledUses n.events ++ reports binding .unhandledDefault [use] := by
  unfold addDefault
  cases hpath : binding.path? use.param with
  | none => simp [report, reports, hpath, unhandledUses, Logging.warnings, Logging.isVerbose,
      Event.isUnhandledUse]
  | some path =>
    rw [show reports binding .unhandledDefault [use] = [] by simp [reports, hpath],
      List.append_nil]
    simp only
    split
    · rfl
    · exact unhandledUses_allocate n .verbose _

/-- If a step reports its use where there is no path for it, the steps for several uses report all
such uses, in order. -/
theorem unhandledUses_foldl {step : Names → Use → Names} {event : String → Event}
    (hstep : ∀ n use, unhandledUses (step n use).events =
      unhandledUses n.events ++ reports binding event [use])
    (n : Names) (uses : List Use) :
    unhandledUses (uses.foldl step n).events =
      unhandledUses n.events ++ reports binding event uses := by
  induction uses generalizing n with
  | nil => simp [reports]
  | cons use rest ih =>
    rw [List.foldl_cons, ih, hstep, List.append_assoc, ← reports_cons]

end Names

/-- With diagnostics, all uses without a path are reported: those by name first. -/
theorem unhandledUses_ofFindings (findings : Findings) :
    unhandledUses (ofFindings binding .verbose findings).events =
      reports binding .unhandledNamespace
          (findings.uses.toList.filter (·.kind.isDefault == false)) ++
        reports binding .unhandledDefault
          (findings.uses.toList.filter (·.kind.isDefault == true)) := by
  unfold ofFindings
  simp only [List.partition_eq_filter_filter]
  rw [Names.unhandledUses_foldl Names.unhandledUses_addDefault,
    Names.unhandledUses_foldl Names.unhandledUses_addNamespace]
  simp [unhandledUses, Function.comp_def]

end Imports

namespace Engine

open Script

-- ---------------------------------------------------------------------------
-- Uses that nothing is passed for
-- ---------------------------------------------------------------------------

namespace Factory

/-- The identifier stands for a parameter that nothing is passed for: no scope in between declares
its name. -/
structure LacksDependency (f : Factory) (p : Place) : Prop where
  notShadowed : p.isShadowed = false
  isParam : p.id.name ∈ patNames f.params
  unbound : f.binding.get? p.id.name = none

instance (f : Factory) (p : Place) : Decidable (f.LacksDependency p) :=
  decidable_of_iff (p.isShadowed = false ∧ p.id.name ∈ patNames f.params ∧
      f.binding.get? p.id.name = none)
    ⟨fun ⟨h₁, h₂, h₃⟩ => ⟨h₁, h₂, h₃⟩, fun h => ⟨h.notShadowed, h.isParam, h.unbound⟩⟩

/-- Such a parameter is used at this place. -/
structure IsUnsupplied (f : Factory) (p : Place) : Prop extends LacksDependency f p where
  notBinding : p.binds = false

instance (f : Factory) (p : Place) : Decidable (f.IsUnsupplied p) :=
  decidable_of_iff (f.LacksDependency p ∧ p.binds = false)
    ⟨fun ⟨h₁, h₂⟩ => ⟨h₁, h₂⟩, fun h => ⟨h.toLacksDependency, h.notBinding⟩⟩

/-- The name of such a parameter is introduced again at this place, but the walk takes it to be
used. -/
structure IsRedeclared (f : Factory) (p : Place) : Prop extends LacksDependency f p where
  isMisread : p.isMisread = true

instance (f : Factory) (p : Place) : Decidable (f.IsRedeclared p) :=
  decidable_of_iff (f.LacksDependency p ∧ p.isMisread = true)
    ⟨fun ⟨h₁, h₂⟩ => ⟨h₁, h₂⟩, fun h => ⟨h.toLacksDependency, h.isMisread⟩⟩

/-- The places of such uses of `default`, or of the others, in the order of the walk. -/
def unsupplied (f : Factory) (isDefault : Bool) : List Place :=
  f.places.filter fun p => p.site.kind.isDefault == isDefault && f.IsUnsupplied p

/-- The warnings that a factory calls for: one for each use by name, then one for each use of
`default`. -/
def warnings (f : Factory) : List Event :=
  (f.unsupplied false).map (fun p => .unhandledNamespace p.id.name) ++
    (f.unsupplied true).map (fun p => .unhandledDefault p.id.name)

/-- The places that are reported as uses by name, in the order of the walk. -/
def reportedPlaces (f : Factory) : List Place :=
  f.places.filter fun p => !p.site.kind.isDefault && (f.IsUnsupplied p || f.IsRedeclared p)

/-- The warnings that there are: those that the factory calls for, and among those by name one for
each redeclaration. -/
def reported (f : Factory) : List Event :=
  f.reportedPlaces.map (fun p => .unhandledNamespace p.id.name) ++
    (f.unsupplied true).map (fun p => .unhandledDefault p.id.name)

variable {f : Factory} {p : Place}

-- ---------------------------------------------------------------------------
-- Redeclarations
-- ---------------------------------------------------------------------------

theorem not_isUnsupplied_of_isRedeclared (h : f.IsRedeclared p) : ¬ f.IsUnsupplied p := by
  intro hp
  have hbinds := (Bool.and_eq_true_iff.1 h.isMisread).1
  rw [hp.notBinding] at hbinds
  cases hbinds

/-- A redeclaration is met as a use by name. -/
theorem site_of_isRedeclared (hp : p ∈ f.places) (h : f.IsRedeclared p) : p.site = .reference :=
  (spotted hp).reference h.isMisread

/-- Redeclarations stand in static blocks. -/
theorem inStaticBlock_of_isRedeclared (hp : p ∈ f.places) (h : f.IsRedeclared p) :
    p.inStaticBlock = true :=
  inStaticBlock_of_misread hp h.isMisread h.notShadowed

theorem unsupplied_sublist (f : Factory) : (f.unsupplied false).Sublist f.reportedPlaces := by
  refine List.monotone_filter_right _ fun p hp => ?_
  simp_all

/-- No warning that is called for is missing. -/
theorem warnings_sublist (f : Factory) : f.warnings.Sublist f.reported :=
  List.Sublist.append (f.unsupplied_sublist.map _) (List.Sublist.refl _)

/-- Just the redeclarations give rise to warnings that are not called for. -/
theorem reported_eq_warnings_iff :
    f.reported = f.warnings ↔ ∀ p ∈ f.places, ¬ f.IsRedeclared p := by
  constructor
  · intro h p hp hredeclared
    have hlength : (f.unsupplied false).length = f.reportedPlaces.length := by
      simpa [reported, warnings] using (congrArg List.length h).symm
    have hreported : p ∈ f.reportedPlaces := by
      simp [reportedPlaces, hp, hredeclared, site_of_isRedeclared hp hredeclared, Site.kind,
        UseKind.isDefault]
    rw [← f.unsupplied_sublist.eq_of_length hlength] at hreported
    simp [unsupplied, not_isUnsupplied_of_isRedeclared hredeclared] at hreported
  · intro h
    have hplaces : f.reportedPlaces = f.unsupplied false := by
      refine List.filter_congr fun p hp => ?_
      simp [h p hp]
    rw [reported, hplaces, warnings]

/-- What is taken for a use of such a parameter is one, or a redeclaration. -/
theorem isUse_and_lacksDependency (hp : p ∈ f.places) :
    p.isUse = true ∧ f.LacksDependency p ↔ f.IsUnsupplied p ∨ f.IsRedeclared p := by
  rw [isUse_iff hp]
  constructor
  · rintro ⟨hbinds | hmisread, hlacks⟩
    · exact .inl ⟨hlacks, hbinds⟩
    · exact .inr ⟨hlacks, hmisread⟩
  · rintro (h | h)
    · exact ⟨.inl h.notBinding, h.toLacksDependency⟩
    · exact ⟨.inr h.isMisread, h.toLacksDependency⟩

-- ---------------------------------------------------------------------------
-- What is recorded
-- ---------------------------------------------------------------------------

/-- No bound parameter is reported. -/
theorem not_reported_of_bound {x : String} {target : Amd.Target}
    (hb : f.binding.get? x = some target) :
    .unhandledNamespace x ∉ f.reported ∧ .unhandledDefault x ∉ f.reported := by
  have hunbound : ∀ {p : Place}, f.LacksDependency p → p.id.name ≠ x := by
    rintro p hp rfl
    rw [hp.unbound] at hb
    cases hb
  simp only [reported, reportedPlaces, unsupplied, List.mem_append, List.mem_map, List.mem_filter,
    Bool.and_eq_true, Bool.or_eq_true, decide_eq_true_eq, reduceCtorEq, and_false, exists_false,
    or_false, false_or, Event.unhandledNamespace.injEq, Event.unhandledDefault.injEq]
  constructor
  · rintro ⟨p, ⟨-, -, hp | hp⟩, hx⟩ <;> exact hunbound hp.toLacksDependency hx
  · rintro ⟨p, ⟨-, -, hp⟩, hx⟩
    exact hunbound hp.toLacksDependency hx

/-- A parameter that nothing is passed for is told apart from other names of the factory. -/
theorem meaning_eq_unbound : f.meaning p = .unbound true ↔ f.LacksDependency p := by
  have hdeclares : p.id.name ∈ patNames f.params → f.scope.declares p.id.name = true := by
    intro hparam
    simp [scope, Scope.declares, Scope.ofFunction, hparam]
  unfold meaning
  constructor
  · intro h
    split at h
    · rename_i hp
      split at h
      · cases h
      · rename_i hb
        simp only [Meaning.unbound.injEq, List.contains_iff_mem] at h
        exact ⟨hp.1, h, hb⟩
    · cases h
  · rintro ⟨hs, hparam, hb⟩
    rw [if_pos ⟨hs, hdeclares hparam⟩, hb]
    simpa [definition] using hparam

/-- The uses that are recorded and for which there is no path are those of such parameters. -/
theorem isUse_and_lacksDependency_iff :
    p.isUse = true ∧ f.LacksDependency p ↔
      ∃ use, f.use? p = some use ∧ (f.binding.path? use.param).isNone = true := by
  constructor
  · rintro ⟨huse, hlacks⟩
    refine ⟨⟨p.id.name, p.site.kind, p.site.span p.id⟩, ?_, ?_⟩
    · simp [use?, meaning_eq_unbound.2 hlacks, Meaning.isRecorded, huse]
    · simp [Amd.Binding.path?, hlacks.unbound]
  · rintro ⟨use, hrecorded, hpath⟩
    unfold use? at hrecorded
    split at hrecorded
    · rename_i h
      cases hrecorded
      obtain ⟨hm, huse⟩ := Bool.and_eq_true_iff.1 h
      refine ⟨huse, ?_⟩
      cases hmeaning : f.meaning p with
      | foreign => simp [hmeaning, Meaning.isRecorded] at hm
      | unbound isParam =>
        cases isParam with
        | false => simp [hmeaning, Meaning.isRecorded] at hm
        | true => exact meaning_eq_unbound.1 hmeaning
      | bound target =>
        cases target with
        | require | exports => simp [hmeaning, Meaning.isRecorded] at hm
        | module path =>
          have hsome := Amd.Binding.path?_eq_some.2 (meaning_eq_bound.1 hmeaning).2
          simp [hsome] at hpath
    · cases hrecorded

theorem reports_uses (event : String → Event) (isDefault : Bool) (places : List Place) :
    Imports.reports f.binding event
        ((places.filterMap f.use?).filter (·.kind.isDefault == isDefault)) =
      (places.filter fun p =>
          p.site.kind.isDefault == isDefault && (p.isUse && f.LacksDependency p)).map
        fun p => event p.id.name := by
  induction places with
  | nil => rfl
  | cons p rest ih =>
    cases hrecorded : f.use? p with
    | none =>
      have hp : ¬ (p.isUse = true ∧ f.LacksDependency p) := by
        simp [isUse_and_lacksDependency_iff, hrecorded]
      rw [List.filterMap_cons_none hrecorded, ih, List.filter_cons_of_neg]
      simpa using fun _ => not_and.1 hp
    | some use =>
      obtain rfl : use = ⟨p.id.name, p.site.kind, p.site.span p.id⟩ := by
        unfold use? at hrecorded
        split at hrecorded
        · exact (Option.some.inj hrecorded).symm
        · cases hrecorded
      have hp : (p.isUse && f.LacksDependency p) = (f.binding.path? p.id.name).isNone := by
        rw [Bool.eq_iff_iff, Bool.and_eq_true, decide_eq_true_eq, isUse_and_lacksDependency_iff]
        simp [hrecorded]
      rw [List.filterMap_cons_some hrecorded, List.filter_cons, List.filter_cons, hp]
      cases hkind : p.site.kind.isDefault == isDefault with
      | false => simpa [hkind] using ih
      | true =>
        rw [if_pos rfl, Imports.reports_cons, ih]
        cases hnone : (f.binding.path? p.id.name).isNone with
        | true => simp [Imports.reports, hnone]
        | false => simp [Imports.reports, hnone]

/-- The uses that are recorded in a factory are those that are reported. -/
theorem unhandledUses_findings (hplain : ∀ p ∈ f.params, (Amd.paramName? p).isSome) :
    unhandledUses (Imports.ofFindings f.binding .verbose f.findings).events =
      f.reported := by
  have huse : ∀ p ∈ f.places,
      (p.isUse && f.LacksDependency p) = (f.IsUnsupplied p || f.IsRedeclared p) := by
    intro p hp
    rw [Bool.eq_iff_iff, Bool.and_eq_true, Bool.or_eq_true, decide_eq_true_eq, decide_eq_true_eq,
      decide_eq_true_eq]
    exact isUse_and_lacksDependency hp
  have hnames : (f.places.filter fun p =>
      p.site.kind.isDefault == false && (p.isUse && f.LacksDependency p)) = f.reportedPlaces := by
    refine List.filter_congr fun p hp => ?_
    rw [huse p hp, beq_false]
  have hdefaults : (f.places.filter fun p =>
      p.site.kind.isDefault == true && (p.isUse && f.LacksDependency p)) = f.unsupplied true := by
    refine List.filter_congr fun p hp => ?_
    rw [huse p hp]
    cases hkind : p.site.kind.isDefault with
    | false => rfl
    | true =>
      have hredeclared : ¬ f.IsRedeclared p := by
        intro h
        simp [site_of_isRedeclared hp h, Site.kind, UseKind.isDefault] at hkind
      simp [hredeclared]
  rw [Imports.unhandledUses_ofFindings, uses_findings hplain, reports_uses, reports_uses, hnames,
    hdefaults, reported]

-- ---------------------------------------------------------------------------
-- The module
-- ---------------------------------------------------------------------------

/-- A module that is made from the factory leaves the parameters alone that nothing is passed for. -/
structure LeavesAlone (f : Factory) (imports : List Import) (body : List Stmt) : Prop where
  /-- They stand in the body where they stood in the factory, and in the same way. -/
  kept : ∀ (n : Nat) (p : Place), f.origins[n]? = some (.ident p) → f.LacksDependency p →
    ∃ p', (Engine.origins (stepsStmts ⟨[.factory body], false, true⟩ body))[n]? = some (.ident p') ∧
      p'.id = p.id ∧ p'.site = p.site
  /-- Each import is for a use of another parameter. -/
  source : ∀ i ∈ imports, ∃ p ∈ f.places, ¬ f.LacksDependency p ∧ f.path? p = some i.source
  /-- So is each of its local names. -/
  named : ∀ i ∈ imports, ∀ isDefault, (i.name? isDefault).isSome →
    ∃ p ∈ f.places, ¬ f.LacksDependency p ∧ f.path? p = some i.source ∧
      p.site.kind.isDefault = isDefault
  /-- None of these is the name of such a parameter, unless the names for an import ran out. -/
  apart : ¬ f.Exhausted → ∀ x ∈ patNames f.params, f.binding.get? x = none →
    ∀ i ∈ imports, x ∉ i.localNames

theorem not_lacksDependency_of_path? {path : String} (h : f.path? p = some path) :
    ¬ f.LacksDependency p := by
  intro hp
  have hb := (path?_eq_some.1 h).2.2
  rw [hp.unbound] at hb
  cases hb

/-- A parameter that is not bound is taken: the walk meets it where it is declared. -/
theorem mem_taken_of_unbound {x : String} (hparam : x ∈ patNames f.params)
    (hb : f.binding.get? x = none) : x ∈ f.findings.taken := by
  obtain ⟨p, hp, rfl, -⟩ :=
    (compositional_traced.holds_pats ⟨[], false, true⟩ f.params).delivers x hparam
  refine mem_taken.2 ⟨p, ?_, rfl, ?_⟩
  · exact List.mem_append_left _ (List.mem_append_right _ hp)
  · cases hm : f.meaning p with
    | foreign | unbound isParam => rfl
    | bound target =>
      rw [(meaning_eq_bound.1 hm).2] at hb
      cases hb

theorem leavesAlone (hplain : ∀ p ∈ f.params, (Amd.paramName? p).isSome) :
    f.LeavesAlone f.locals.imports (rewriteStmts (f.reference f.locals.imports) f.around f.body) where
  kept n p hn hp := by
    refine (renders_stepsStmts .base (fun _ => rfl) f.body).exists_kept hn ?_
    simp [reference, hp.unbound]
  source i hi := by
    obtain ⟨hrequire, hexports, p, hp, huse, hs, hb⟩ :=
      ((exactImports hplain).mem_sources i.source).1 (List.mem_map_of_mem hi)
    have hpath : f.path? p = some i.source :=
      path?_eq_some.2 ⟨huse, hs, get?_eq_module_iff.2 ⟨hrequire, hexports, hb⟩⟩
    exact ⟨p, hp, not_lacksDependency_of_path? hpath, hpath⟩
  named i hi isDefault hname := by
    obtain ⟨p, hp, hkind, hpath⟩ := ((exactImports hplain).isSome_name? i hi isDefault).1 hname
    exact ⟨p, hp, not_lacksDependency_of_path? hpath, hpath, hkind⟩
  apart hfree x hparam hb i hi hx := by
    obtain ⟨isDefault, hname⟩ := Import.mem_localNames.1 hx
    exact (import_name hfree (Locals.mem_entries_of_import hi hname)).1
      (mem_taken_of_unbound hparam hb)

end Factory
end Engine
end Unbundle

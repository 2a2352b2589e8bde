-- SUMMARY: The import list of a module is exact: one entry for each path that is used.
import Mathlib.Data.List.Induction
import Unbundle.Proofs.Defining
import Unbundle.Proofs.Hygiene

/-!
# Import lists

The walk records the uses of parameters in order (`uses_findings`), and `Imports.ofFindings` goes
through the recorded uses twice, first those by name and then those of `default`. Each time it lists
the paths in the order of their first uses: `Lists entries paths` is the invariant, which seeing to
one use keeps (`lists_addNamespace`, `lists_addDefault`) and so seeing to all of them.

With this the import list of a module can be told from the places in its factory
(`import_list_exact`): there is one import for each path with a use, with a local name for each kind
of use that the path has, and every local name stands in the body of the module.
-/

namespace Unbundle

-- ---------------------------------------------------------------------------
-- Paths in the order of first uses
-- ---------------------------------------------------------------------------

/-- The entries are for these paths, each at the place where it comes first. -/
def Lists (entries : List (String × String)) (paths : List String) : Prop :=
  entries.map (·.1) = paths.eraseDups

namespace Lists

variable {entries : List (String × String)} {paths : List String}

theorem isSome_lookup_iff (entries : List (String × String)) (path : String) :
    (entries.lookup path).isSome ↔ path ∈ entries.map (·.1) := by
  induction entries with
  | nil => simp
  | cons entry rest ih =>
    obtain ⟨source, name⟩ := entry
    by_cases h : path = source
    · simp [h]
    · simp [List.lookup_cons, beq_false_of_ne h, h, ih]

theorem isSome_lookup (h : Lists entries paths) (path : String) :
    (entries.lookup path).isSome ↔ path ∈ paths := by
  rw [isSome_lookup_iff, h, List.mem_eraseDups]

/-- One more path gets an entry if it has none. -/
theorem extend (h : Lists entries paths) (path name : String) :
    Lists
      (match entries.lookup path with
        | some _ => entries
        | none => entries ++ [(path, name)])
      (paths ++ [path]) := by
  have hmem := h.isSome_lookup path
  unfold Lists at h ⊢
  rw [List.eraseDups_append]
  cases hl : entries.lookup path with
  | some other =>
    rw [hl] at hmem
    have : path ∈ paths := hmem.1 rfl
    simp [h, List.removeAll, this]
  | none =>
    rw [hl] at hmem
    have : path ∉ paths := fun hpath => by simpa using hmem.2 hpath
    simp [h, List.removeAll, this, List.eraseDups_cons]

theorem nodup (h : Lists entries paths) : (entries.map (·.1)).Nodup := by
  rw [h]
  clear h
  induction paths using List.reverseRecOn with
  | nil => exact List.nodup_nil
  | append_singleton rest path ih =>
    rw [List.eraseDups_append]
    by_cases hmem : path ∈ rest
    · simpa [List.removeAll, hmem] using ih
    · simp only [List.removeAll, List.elem_eq_mem, hmem, decide_false, Bool.not_false,
        List.filter_cons_of_pos, List.filter_nil, List.eraseDups_cons, List.eraseDups_nil]
      refine List.nodup_append.2 ⟨ih, List.nodup_singleton path, ?_⟩
      rintro a ha b hb rfl
      exact hmem (List.mem_singleton.1 hb ▸ List.mem_eraseDups.1 ha)

end Lists

namespace Imports

variable {binding : Amd.Binding} {logging : Logging}

/-- The path that a use is for. -/
def usedPath? (binding : Amd.Binding) (use : Use) : Option String :=
  binding.path? use.param

namespace Names

theorem lists_addNamespace {n : Names} {paths : List String}
    (h : Lists n.locals.namespaces paths) (use : Use) :
    Lists (n.addNamespace binding logging use).locals.namespaces
      (paths ++ (usedPath? binding use).toList) := by
  unfold addNamespace usedPath?
  cases binding.path? use.param with
  | none => simpa [report] using h
  | some path =>
    have hextend := h.extend path (n.allocate logging path).1
    simp only [Option.toList_some]
    revert hextend
    cases n.locals.namespaces.lookup path <;> exact id

theorem lists_addDefault {n : Names} {paths : List String}
    (h : Lists n.locals.defaults paths) (use : Use) :
    Lists (n.addDefault binding logging use).locals.defaults
      (paths ++ (usedPath? binding use).toList) := by
  unfold addDefault usedPath?
  cases binding.path? use.param with
  | none => simpa [report] using h
  | some path =>
    have hextend := h.extend path (n.allocate logging
      (if (n.locals.namespaces.lookup path).isSome then path ++ defaultMark else path)).1
    simp only [Option.toList_some]
    revert hextend
    cases n.locals.defaults.lookup path <;> exact id

/-- Seeing to uses one after the other lists their paths. -/
theorem lists_foldl (entries : Names → List (String × String)) {step : Names → Use → Names}
    (hstep : ∀ {n : Names} {paths : List String}, Lists (entries n) paths → ∀ use,
      Lists (entries (step n use)) (paths ++ (usedPath? binding use).toList))
    {n : Names} {paths : List String} (h : Lists (entries n) paths) (uses : List Use) :
    Lists (entries (uses.foldl step n)) (paths ++ uses.filterMap (usedPath? binding)) := by
  induction uses generalizing n paths with
  | nil => simpa using h
  | cons use rest ih =>
    have hrest := ih (hstep h use)
    rw [List.append_assoc] at hrest
    rw [List.foldl_cons]
    convert hrest using 2
    cases husedPath : usedPath? binding use <;> simp [husedPath]

theorem defaults_addNamespace (n : Names) (use : Use) :
    (n.addNamespace binding logging use).locals.defaults = n.locals.defaults := by
  unfold addNamespace
  split
  · rfl
  · split <;> rfl

theorem defaults_foldl_addNamespace (n : Names) (uses : List Use) :
    (uses.foldl (addNamespace binding logging) n).locals.defaults = n.locals.defaults := by
  induction uses generalizing n with
  | nil => rfl
  | cons use rest ih => rw [List.foldl_cons, ih, defaults_addNamespace]

end Names

/-- The paths of the uses of `default`, or of the other uses, in order. -/
def paths (binding : Amd.Binding) (isDefault : Bool) (uses : List Use) : List String :=
  (uses.filter (·.kind.isDefault == isDefault)).filterMap (usedPath? binding)

/-- Local names are chosen for the paths that are used, in the order of their first uses. -/
theorem lists_ofFindings (findings : Findings) (isDefault : Bool) :
    Lists ((ofFindings binding logging findings).locals.entries isDefault)
      (paths binding isDefault findings.uses.toList) := by
  unfold ofFindings paths
  simp only [List.partition_eq_filter_filter]
  cases isDefault with
  | false =>
    have hstart : Lists (⟨⟨[], []⟩, findings.taken, []⟩ : Names).locals.namespaces [] := rfl
    have h := Names.lists_foldl (fun n => n.locals.namespaces)
      (@Names.lists_addNamespace binding logging) hstart
      (findings.uses.toList.filter (not ∘ (·.kind.isDefault)))
    simp only [Locals.entries, Names.namespaces_foldl_addDefault]
    simpa [Function.comp_def] using h
  | true =>
    have hstart : Lists
        ((findings.uses.toList.filter (not ∘ (·.kind.isDefault))).foldl
          (Names.addNamespace binding logging)
          ⟨⟨[], []⟩, findings.taken, []⟩).locals.defaults [] := by
      rw [Names.defaults_foldl_addNamespace]
      rfl
    have h := Names.lists_foldl (fun n => n.locals.defaults)
      (@Names.lists_addDefault binding logging) hstart
      (findings.uses.toList.filter (·.kind.isDefault))
    simpa [Locals.entries, Function.comp_def] using h

end Imports

namespace Locals

/-- One import per path with a use by name, then one per path with uses of `default` only. -/
theorem sources_imports (l : Locals) :
    l.imports.map (·.source) =
      l.namespaces.map (·.1) ++
        (l.defaults.map (·.1)).filter fun path => (l.namespaces.lookup path).isNone := by
  simp [imports, List.filter_map, Function.comp_def]

section

variable {l : Locals} {paths : Bool → List String}
  (h : ∀ isDefault, Lists (l.entries isDefault) (paths isDefault))

include h

theorem sources_imports_eq :
    l.imports.map (·.source) =
      (paths false).eraseDups ++
        (paths true).eraseDups.filter fun path => path ∉ (paths false).eraseDups := by
  rw [sources_imports, ← h false, ← h true]
  congr 1
  refine List.filter_congr fun path _ => ?_
  rw [Bool.eq_iff_iff, decide_eq_true_iff, Option.isNone_iff_eq_none,
    ← Option.not_isSome_iff_eq_none, Lists.isSome_lookup_iff]
  rfl

theorem nodup_sources : (l.imports.map (·.source)).Nodup := by
  rw [sources_imports]
  refine List.nodup_append.2 ⟨(h false).nodup, (h true).nodup.filter _, ?_⟩
  rintro a ha b hb rfl
  have hnone := (List.mem_filter.1 hb).2
  have hsome := (Lists.isSome_lookup_iff l.namespaces a).2 ha
  simp [Option.isNone_iff_eq_none.1 hnone] at hsome

/-- An import has a local name for the kinds of uses that its path has. -/
theorem isSome_name? {i : Import} (hi : i ∈ l.imports) (isDefault : Bool) :
    (i.name? isDefault).isSome ↔ i.source ∈ paths isDefault := by
  have hlookup := (h isDefault).isSome_lookup i.source
  unfold imports at hi
  rcases List.mem_append.1 hi with hi | hi
  · obtain ⟨⟨path, named⟩, hmem, rfl⟩ := List.mem_map.1 hi
    cases isDefault with
    | true => exact hlookup
    | false =>
      rw [← hlookup, Lists.isSome_lookup_iff]
      simpa [Import.name?] using ⟨named, hmem⟩
  · obtain ⟨⟨path, named⟩, hmem, rfl⟩ := List.mem_map.1 hi
    obtain ⟨hmem, hnone⟩ := List.mem_filter.1 hmem
    cases isDefault with
    | true =>
      rw [← hlookup, Lists.isSome_lookup_iff]
      simpa [Import.name?] using ⟨named, hmem⟩
    | false =>
      have hlookupNone : l.namespaces.lookup path = none := Option.isNone_iff_eq_none.1 hnone
      rw [← hlookup, show l.entries false = l.namespaces from rfl, hlookupNone]
      rfl

end

end Locals

/-- If no two imports have the same source, an import declares the local names for its source. -/
theorem Import.local?_source {imports : List Import} (h : (imports.map (·.source)).Nodup)
    {i : Import} (hi : i ∈ imports) (kind : UseKind) :
    local? imports kind i.source = i.name? kind.isDefault := by
  unfold local?
  induction imports with
  | nil => cases hi
  | cons first rest ih =>
    rw [List.map_cons, List.nodup_cons] at h
    rcases List.mem_cons.1 hi with rfl | hi
    · simp
    · have hne : first.source ≠ i.source := by
        intro heq
        exact h.1 (heq ▸ List.mem_map_of_mem hi)
      rw [List.find?_cons_of_neg (by simpa using hne)]
      exact ih h.2 hi

namespace Engine

open Script

-- ---------------------------------------------------------------------------
-- Uses in order
-- ---------------------------------------------------------------------------

theorem uses_record (findings : Findings) (meaning : Meaning) (id : Ident) (site : Site) :
    (record findings meaning id site).uses.toList =
      findings.uses.toList ++
        if meaning.isRecorded && site != .declaration then [⟨id.name, site.kind, site.span id⟩]
        else [] := by
  cases meaning with
  | foreign => simp [record, Meaning.isRecorded]
  | unbound isParam =>
    cases isParam <;> cases site <;> simp [record, Meaning.isRecorded, Findings.addUse]
  | bound target =>
    cases target <;> cases site <;> simp [record, Meaning.isRecorded, Findings.addUse]

namespace Factory

variable {f : Factory}

/-- The use that is recorded at a place. -/
def use? (f : Factory) (p : Place) : Option Use :=
  if (f.meaning p).isRecorded && p.isUse then some ⟨p.id.name, p.site.kind, p.site.span p.id⟩
  else none

theorem uses_note (steps : List Step) (findings : Findings) :
    (steps.foldl f.note findings).uses.toList =
      findings.uses.toList ++ (steps.filterMap Step.place?).filterMap f.use? := by
  induction steps generalizing findings with
  | nil => simp
  | cons step rest ih =>
    rw [List.foldl_cons, ih]
    cases step with
    | ident p =>
      have hplace : Step.place? (.ident p) = some p := rfl
      rw [note, uses_record, List.filterMap_cons_some hplace, List.filterMap_cons, use?]
      cases hrecorded : (f.meaning p).isRecorded && p.isUse with
      | true => simp_all [Place.isUse]
      | false => simp_all [Place.isUse]
    | _ => rfl

theorem use?_of_declaration {p : Place} (h : p.isUse = false) : f.use? p = none := by
  simp [use?, h]

/-- Plain parameters are met as declarations. -/
theorem isUse_of_mem_params {params : List Pat}
    (hplain : ∀ p ∈ params, (Amd.paramName? p).isSome) :
    ∀ p ∈ (stepsPats ⟨[], false, true⟩ params).filterMap Step.place?, p.isUse = false := by
  induction params with
  | nil => simp [stepsPats]
  | cons p rest ih =>
    have hrest := ih fun q hq => hplain q (List.mem_cons_of_mem _ hq)
    cases p with
    | ident id =>
      rw [stepsPats, List.filterMap_append, List.forall_mem_append]
      refine ⟨?_, hrest⟩
      simp [stepsPat, Step.place?, Around.patternPlace, Place.isUse]
    | _ => simp [Amd.paramName?] at hplain

/-- Where parameters are plain names, the walk meets declarations and then the statements. -/
theorem exists_declared (hplain : ∀ p ∈ f.params, (Amd.paramName? p).isSome) :
    ∃ declared, f.steps.filterMap Step.place? = declared ++ f.places ∧
      ∀ p ∈ declared, p.isUse = false := by
  refine ⟨(stepsName ⟨[], false, true⟩ f.own).filterMap Step.place? ++
    (stepsPats ⟨[], false, true⟩ f.params).filterMap Step.place?, ?_, ?_⟩
  · rw [steps, List.filterMap_append, List.filterMap_append]
    rfl
  · rw [List.forall_mem_append]
    refine ⟨?_, isUse_of_mem_params hplain⟩
    cases f.own with
    | none => simp [stepsName]
    | some id => simp [stepsName, Step.place?, Around.place, Place.isUse]

/-- Where parameters are plain names, all uses are in the statements of the factory. -/
theorem uses_findings (hplain : ∀ p ∈ f.params, (Amd.paramName? p).isSome) :
    f.findings.uses.toList = f.places.filterMap f.use? := by
  obtain ⟨declared, hplaces, hdeclared⟩ := exists_declared hplain
  have hnone : declared.filterMap f.use? = [] :=
    List.filterMap_eq_nil_iff.2 fun p hp => use?_of_declaration (hdeclared p hp)
  rw [findings, uses_note, hplaces, List.filterMap_append, hnone]
  rfl

/-- The path that is used at a place: that of a parameter that no scope in between declares
again. -/
def path? (f : Factory) (p : Place) : Option String :=
  if p.isUse && !p.isShadowed then f.binding.path? p.id.name else none

/-- The paths of the uses of `default`, or of the other uses, in the order of the walk. -/
def usedPaths (f : Factory) (isDefault : Bool) : List String :=
  (f.places.filter (·.site.kind.isDefault == isDefault)).filterMap f.path?

theorem path?_eq_some {p : Place} {path : String} :
    f.path? p = some path ↔
      p.isUse = true ∧ p.isShadowed = false ∧ f.binding.get? p.id.name = some (.module path) := by
  unfold path?
  rw [← Amd.Binding.path?_eq_some]
  cases p.isUse <;> cases p.isShadowed <;> simp

theorem mem_usedPaths {isDefault : Bool} {path : String} :
    path ∈ f.usedPaths isDefault ↔
      ∃ p ∈ f.places, p.site.kind.isDefault = isDefault ∧ f.path? p = some path := by
  simp [usedPaths, and_assoc]

/-- A path is used by name or through `default`. -/
theorem mem_usedPaths_or {path : String} :
    path ∈ f.usedPaths false ∨ path ∈ f.usedPaths true ↔
      ∃ p ∈ f.places, f.path? p = some path := by
  rw [mem_usedPaths, mem_usedPaths]
  constructor
  · rintro (⟨p, hp, -, hpath⟩ | ⟨p, hp, -, hpath⟩) <;> exact ⟨p, hp, hpath⟩
  · rintro ⟨p, hp, hpath⟩
    cases hkind : p.site.kind.isDefault with
    | false => exact .inl ⟨p, hp, hkind, hpath⟩
    | true => exact .inr ⟨p, hp, hkind, hpath⟩

/-- The recorded uses with a path are those at the places where this path is used. -/
theorem usedPath?_use? (p : Place) :
    (f.use? p).bind (Imports.usedPath? f.binding) = f.path? p := by
  ext path
  rw [path?_eq_some, use?]
  constructor
  · intro h
    split at h
    · rename_i hrecorded
      obtain ⟨hrecorded, huse⟩ := Bool.and_eq_true_iff.1 hrecorded
      refine ⟨huse, ?_, Amd.Binding.path?_eq_some.1 h⟩
      rw [← Bool.not_eq_true]
      intro hs
      simp [meaning, hs, Meaning.isRecorded] at hrecorded
    · cases h
  · rintro ⟨huse, hs, hb⟩
    rw [meaning_eq_bound.2 ⟨hs, hb⟩, huse]
    exact Amd.Binding.path?_eq_some.2 hb

/-- The local names are for the paths that are used, in the order of their first uses. -/
theorem lists_locals (hplain : ∀ p ∈ f.params, (Amd.paramName? p).isSome) (isDefault : Bool) :
    Lists (f.locals.entries isDefault) (f.usedPaths isDefault) := by
  have hpaths :
      Imports.paths f.binding isDefault f.findings.uses.toList = f.usedPaths isDefault := by
    unfold usedPaths Imports.paths
    rw [uses_findings hplain, List.filterMap_filter, List.filterMap_filter,
      List.filterMap_filterMap]
    congr 1
    funext p
    rw [← usedPath?_use? p]
    unfold use?
    split <;> simp
  rw [← hpaths]
  exact Imports.lists_ofFindings f.findings isDefault

/-- A parameter stands for a module if its dependency has the path of that module, which is none of
the reserved ones. -/
theorem get?_eq_module_iff {name path : String} :
    f.binding.get? name = some (.module path) ↔
      path ≠ "require" ∧ path ≠ "exports" ∧ f.binding.get? name = some (.ofPath path) := by
  constructor
  · intro h
    obtain ⟨before, after, heq, -⟩ := List.lookup_eq_some_iff.1 h
    have hmem : (name, Amd.Target.module path) ∈ f.binding.entries.reverse := by simp [heq]
    obtain ⟨dependency, -, htarget⟩ :=
      List.mem_map.1 (List.of_mem_zip (List.mem_reverse.1 hmem)).2
    simp only [Amd.Target.ofPath, beq_iff_eq] at htarget
    split at htarget
    · cases htarget
    · split at htarget
      · cases htarget
      · cases htarget
        rename_i hrequire hexports
        refine ⟨hrequire, hexports, ?_⟩
        rw [h, Amd.Target.ofPath, beq_false_of_ne hrequire, beq_false_of_ne hexports]
        rfl
  · rintro ⟨hrequire, hexports, h⟩
    rw [h, Amd.Target.ofPath, beq_false_of_ne hrequire, beq_false_of_ne hexports]
    rfl

end Factory

-- ---------------------------------------------------------------------------
-- The import list of a module
-- ---------------------------------------------------------------------------

/-- These are just the imports that a body made from the factory needs. -/
structure ExactImports (f : Factory) (imports : List Import) (body : List Stmt) : Prop where
  /-- No two imports have the same source. -/
  nodup : (imports.map (·.source)).Nodup
  /-- The sources are the paths that are used through a parameter, but for the reserved ones. -/
  mem_sources : ∀ path,
    path ∈ imports.map (·.source) ↔
      path ≠ "require" ∧ path ≠ "exports" ∧
        ∃ p ∈ f.places, p.isUse = true ∧ p.isShadowed = false ∧
          f.binding.get? p.id.name = some (.ofPath path)
  /-- Paths with uses by name come first, then those with uses of `default` only, each at its first
  use of that kind. -/
  sources_eq :
    imports.map (·.source) =
      (f.usedPaths false).eraseDups ++
        (f.usedPaths true).eraseDups.filter fun path => path ∉ (f.usedPaths false).eraseDups
  /-- An import has a local name for each kind of use that its path has. -/
  isSome_name? : ∀ i ∈ imports, ∀ isDefault,
    (i.name? isDefault).isSome ↔
      ∃ p ∈ f.places, p.site.kind.isDefault = isDefault ∧ f.path? p = some i.source
  /-- Every use gives way to the local name for its kind, in the import of its path. -/
  replaced : ∀ (n : Nat) (p : Place) (path : String),
    f.origins[n]? = some (.ident p) → f.path? p = some path →
      ∃ i ∈ imports, i.source = path ∧
        ∃ name, i.name? p.site.kind.isDefault = some name ∧
          f.reference imports p = .imported name ∧ (identifiers body)[n]? = some ⟨name, true⟩
  /-- Every local name stands in the body. -/
  occurs : ∀ i ∈ imports, ∀ isDefault name, i.name? isDefault = some name →
    ⟨name, true⟩ ∈ identifiers body

namespace Factory

variable {f : Factory}

/-- A use of a path gives way to the local name for its kind, in the import of this path. -/
theorem exists_import {p : Place} {path : String} (hp : p ∈ f.places)
    (hpath : f.path? p = some path) :
    ∃ i ∈ f.locals.imports, i.source = path ∧
      ∃ name, i.name? p.site.kind.isDefault = some name ∧
        f.reference f.locals.imports p = .imported name := by
  obtain ⟨huse, hs, hb⟩ := path?_eq_some.1 hpath
  obtain ⟨name, hname⟩ := Option.isSome_iff_exists.1 (isSome_local? hp huse hs hb)
  obtain ⟨i, hfind, hi⟩ := Option.bind_eq_some_iff.1 hname
  refine ⟨i, List.mem_of_find?_eq_some hfind, by simpa using List.find?_some hfind, name, hi, ?_⟩
  simp [reference, huse, hs, hb, hname]

/-- What is written for a use that gives way to an import. -/
theorem identifiers_of_imported {imports : List Import} {n : Nat} {p : Place} {name : String}
    (hn : f.origins[n]? = some (.ident p)) (huse : p.isUse = true)
    (hr : f.reference imports p = .imported name) :
    (identifiers (rewriteStmts (f.reference imports) f.around f.body))[n]? =
      some ⟨name, true⟩ := by
  rw [identifiers_rewrite, List.getElem?_map, hn]
  simp [Origin.written, rewriteIdent, hr, Replacement.rename, huse]

theorem exists_origin {p : Place} (hp : p ∈ f.places) :
    ∃ n : Nat, f.origins[n]? = some (.ident p) := by
  refine List.mem_iff_getElem?.1 ?_
  exact List.mem_filterMap.2 ⟨.ident p, mem_places.1 hp, rfl⟩

theorem exactImports (hplain : ∀ p ∈ f.params, (Amd.paramName? p).isSome) :
    ExactImports f f.locals.imports
      (rewriteStmts (f.reference f.locals.imports) f.around f.body) := by
  have hlists := lists_locals hplain
  have hnodup := Locals.nodup_sources hlists
  have hsources := Locals.sources_imports_eq hlists
  have hname : ∀ i ∈ f.locals.imports, ∀ isDefault, (i.name? isDefault).isSome ↔
      ∃ p ∈ f.places, p.site.kind.isDefault = isDefault ∧ f.path? p = some i.source := by
    intro i hi isDefault
    rw [Locals.isSome_name? hlists hi, mem_usedPaths]
  refine ⟨hnodup, ?_, hsources, hname, ?_, ?_⟩
  · intro path
    have hmem : path ∈ f.locals.imports.map (·.source) ↔
        path ∈ f.usedPaths false ∨ path ∈ f.usedPaths true := by
      rw [hsources]
      simp only [List.mem_append, List.mem_filter, List.mem_eraseDups, decide_eq_true_eq]
      tauto
    rw [hmem, mem_usedPaths_or]
    simp only [path?_eq_some, get?_eq_module_iff]
    constructor
    · rintro ⟨p, hp, huse, hs, hrequire, hexports, hb⟩
      exact ⟨hrequire, hexports, p, hp, huse, hs, hb⟩
    · rintro ⟨hrequire, hexports, p, hp, huse, hs, hb⟩
      exact ⟨p, hp, huse, hs, hrequire, hexports, hb⟩
  · intro n p path hn hpath
    obtain ⟨i, hi, hsource, name, hlocal, hr⟩ := exists_import (mem_places_of_origin hn) hpath
    exact ⟨i, hi, hsource, name, hlocal, hr,
      identifiers_of_imported hn (path?_eq_some.1 hpath).1 hr⟩
  · intro i hi isDefault name hlocal
    obtain ⟨p, hp, rfl, hpath⟩ := (hname i hi isDefault).1 (by simp [hlocal])
    obtain ⟨j, hj, hsource, name', hlocal', hr⟩ := exists_import hp hpath
    obtain ⟨n, hn⟩ := exists_origin hp
    -- The import that the use gives way to is the only one with this source.
    have hij : i.name? p.site.kind.isDefault = j.name? p.site.kind.isDefault := by
      rw [← Import.local?_source hnodup hi, ← Import.local?_source hnodup hj, hsource]
    obtain rfl : name = name' := by
      rw [hlocal, hlocal'] at hij
      exact Option.some.inj hij
    exact List.mem_of_getElem? (identifiers_of_imported hn (path?_eq_some.1 hpath).1 hr)

end Factory

/-- The import list of a module is exact: one import for each path that is used, in the order of
first uses, with just the local names that the body uses. -/
theorem import_list_exact {σ ε : Type} {sink : Sink σ ε} {settings : Settings} {start : σ}
    {script : Script} {k : Nat} {f : Factory} {m : Module}
    (hf : script.definitions[k]? = some (.module f))
    (hm : (handed sink settings start script)[k]? = some m) :
    ∃ imports body,
      m = ⟨f.name, .code imports body⟩ ∧
        body = rewriteStmts (f.reference imports) f.around f.body ∧
        ExactImports f imports body :=
  ⟨f.locals.imports, _, (toModule_of_handed hf hm).trans f.module_eq_rewrite, rfl,
    Factory.exactImports (Factory.paramName?_of_definition hf)⟩

/-- `function (u, v, w) { w.default(v, u.default, { u }); }`, where `u` and `v` are one module -/
def sharedSample : Factory where
  name := "m"
  dependencies := ["lib/util", "lib/util", "b"]
  own := none
  span := ⟨41, 95⟩
  params := [.ident ⟨"u", ⟨51, 52⟩⟩, .ident ⟨"v", ⟨54, 55⟩⟩, .ident ⟨"w", ⟨57, 58⟩⟩]
  body :=
    [.expr (.call ⟨62, 92⟩ (.member ⟨62, 71⟩ (.ident ⟨"w", ⟨62, 63⟩⟩) (.named "default"))
      [.ident ⟨"v", ⟨72, 73⟩⟩,
        .member ⟨75, 84⟩ (.ident ⟨"u", ⟨75, 76⟩⟩) (.named "default"),
        .object ⟨86, 91⟩ [.shorthand ⟨"u", ⟨88, 89⟩⟩]])]

theorem import_list_exact_sharedSample :
    ∃ imports body,
      sharedSample.module = ⟨"m", .code imports body⟩ ∧
        body = rewriteStmts (sharedSample.reference imports) sharedSample.around sharedSample.body ∧
        ExactImports sharedSample imports body :=
  import_list_exact
    (show sharedSample.script.definitions[0]? = some (.module sharedSample) from rfl)
    (handed_of_definitions rfl)

example : sharedSample.locals.imports =
    [⟨"lib/util", some "UtilDefault", some "Util"⟩, ⟨"b", some "B", none⟩] := by
  decide +kernel

end Engine
end Unbundle

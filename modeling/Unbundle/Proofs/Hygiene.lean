-- SUMMARY: The local names of imports are never captured by the code that uses them.
import Unbundle.Proofs.Emission
import Unbundle.Proofs.Occurrences
import Unbundle.Proofs.Trace

/-!
# Hygiene

The name of an import must mean the import wherever it is put, and nothing else in the module may
have that name. The walk meets every name that a scope declares as an identifier inside of that
scope (`Traced.declared`), where it is no name of the factory; so it is taken when the imports
are named. The same holds of every name that is used and not replaced. What the walk itself writes
starts with a small letter, which no name of an import does.
-/

namespace Unbundle.Engine

open Script

-- ---------------------------------------------------------------------------
-- Taken names
-- ---------------------------------------------------------------------------

/-- The identifiers of a list of statements, in order. -/
def identifiers (body : List Stmt) : List Occurrence :=
  occurrences (stepsStmts ⟨[], false, true⟩ body)

namespace Factory

variable {f : Factory}

/-- What the identifiers of the module stem from, in order. -/
def origins (f : Factory) : List Origin :=
  Engine.origins (stepsStmts f.around f.body)

/-- The name for an import was chosen although it was taken, because no other was free. -/
def Exhausted (f : Factory) : Prop :=
  (Imports.ofFindings f.binding .verbose f.findings).Exhausted

/-- What a scope inside of the factory declares is taken. -/
theorem mem_taken_of_scope {scope : Scope} (hscope : .enter scope ∈ stepsStmts f.around f.body)
    {name : String} (hname : name ∈ scope.declared) : name ∈ f.findings.taken := by
  obtain ⟨place, hmem, hid, hplace⟩ :=
    (@traced_stmts f.around rfl rfl f.body).declared scope hscope name hname
  have hshadowed : place.isShadowed = true := by
    refine List.any_eq_true.2 ⟨scope, hplace, ?_⟩
    rw [hid, Scope.declares, List.contains_iff_mem]
    exact hname
  refine mem_taken.2 ⟨place, List.mem_append_right _ hmem, hid, ?_⟩
  simp [meaning, hshadowed, Meaning.isBound]

/-- A name that is used and kept is taken. -/
theorem mem_taken_of_keep {place : Place} (hplace : place ∈ f.places) (huse : place.isUse = true)
    (hkeep : f.reference f.locals.imports place = .keep) :
    place.id.name ∈ f.findings.taken := by
  refine mem_taken.2 ⟨place, ident_mem_steps hplace, rfl, ?_⟩
  cases hm : f.meaning place with
  | foreign => rfl
  | unbound isParam => rfl
  | bound target =>
    -- A bound name would have given way to what it is bound to.
    obtain ⟨hshadowed, hbound⟩ := meaning_eq_bound.1 hm
    cases target with
    | require | exports => simp [reference, huse, hshadowed, hbound] at hkeep
    | module path =>
      obtain ⟨name, hname⟩ := Option.isSome_iff_exists.1
        (isSome_local? hplace huse hshadowed hbound)
      simp [reference, huse, hshadowed, hbound, hname] at hkeep

/-- Apart from the names of imports, the walk puts only two words into a module. -/
theorem reference_reserved {imports : List Import} {place : Place} {word : String}
    (h : f.reference imports place = .reserved word) : word = "require" ∨ word = "exports" := by
  revert h
  fun_cases reference f imports place <;> grind

/-- The name of an import is put only where a parameter for its module is used. -/
theorem reference_imported {imports : List Import} {place : Place} {name : String}
    (h : f.reference imports place = .imported name) :
    place.isShadowed = false ∧
      ∃ path, f.binding.get? place.id.name = some (.module path) ∧
        Import.local? imports place.site.kind path = some name := by
  revert h
  fun_cases reference f imports place <;> grind

/-- The names of imports do not start with a small letter. -/
theorem startsSmall_local {isDefault : Bool} {path name : String}
    (h : (path, name) ∈ f.locals.entries isDefault) : Text.startsSmall name.toList = false := by
  have hmem : name ∈ (Imports.ofFindings f.binding .verbose f.findings).locals.names := by
    rw [Imports.locals_ofFindings f.findings]
    exact Locals.mem_names h
  obtain ⟨taken, basis, rfl⟩ := Imports.chosen_ofFindings f.findings name hmem
  exact Naming.toList_choose taken basis

/-- The names of imports are not taken, and they do not start with a small letter. -/
theorem import_name {isDefault : Bool} {path name : String} (hfree : ¬ f.Exhausted)
    (h : (path, name) ∈ f.locals.entries isDefault) :
    name ∉ f.findings.taken ∧ Text.startsSmall name.toList = false := by
  have hmem : name ∈ (Imports.ofFindings f.binding .verbose f.findings).locals.names := by
    rw [Imports.locals_ofFindings f.findings]
    exact Locals.mem_names h
  exact ⟨(Imports.fresh_ofFindings hfree).not_taken name hmem, startsSmall_local h⟩

theorem nodup_names (hfree : ¬ f.Exhausted) : f.locals.names.Nodup := by
  have hnodup := (Imports.fresh_ofFindings hfree).nodup
  rwa [Imports.locals_ofFindings f.findings] at hnodup

/-- The identifiers of the module are what the rewrite writes for those of the factory. -/
theorem identifiers_rewrite (f : Factory) (replace : Replacing) :
    identifiers (rewriteStmts replace f.around f.body) = f.origins.map (Origin.written replace) :=
  occurrences_rewriteStmts replace [] _ f.body

theorem mem_places_of_origin {n : Nat} {place : Place}
    (h : f.origins[n]? = some (.ident place)) : place ∈ f.places := by
  obtain ⟨step, hmem, hstep⟩ := List.mem_filterMap.1 (List.mem_of_getElem? h)
  cases step with
  | ident p =>
    cases hstep
    exact mem_places.2 hmem
  | _ => cases hstep

end Factory

/-- The names of the imports of a module are not captured by the code inside of it: no scope in the
factory declares such a name, and each use of it in the module was put there for its own import. -/
theorem import_names_not_captured {σ ε : Type} {sink : Sink σ ε} {settings : Settings} {start : σ}
    {script : Script} {k : Nat} {f : Factory} {m : Module}
    (hf : script.definitions[k]? = some (.module f))
    (hm : (handed sink settings start script)[k]? = some m) (hfree : ¬ f.Exhausted) :
    ∃ imports body,
      m = ⟨f.name, .code imports body⟩ ∧
        ∀ i ∈ imports, ∀ isDefault name, i.name? isDefault = some name →
          (∀ scope, .enter scope ∈ stepsStmts f.around f.body → scope.declares name = false) ∧
            ∀ n : Nat, (identifiers body)[n]? = some ⟨name, true⟩ →
              ∃ place,
                f.origins[n]? = some (.ident place) ∧
                  f.reference imports place = .imported name ∧
                  place.isShadowed = false ∧
                  f.binding.get? place.id.name = some (.module i.source) ∧
                  place.site.kind.isDefault = isDefault := by
  refine ⟨f.locals.imports, _, (toModule_of_handed hf hm).trans f.module_eq_rewrite, ?_⟩
  intro i hi isDefault name hname
  have hentry := Locals.mem_entries_of_import hi hname
  obtain ⟨hnew, hcapital⟩ := Factory.import_name hfree hentry
  constructor
  · intro scope hscope
    rw [← Bool.not_eq_true, Scope.declares, List.contains_iff_mem]
    exact fun hmem => hnew (Factory.mem_taken_of_scope hscope hmem)
  · intro n hn
    rw [Factory.identifiers_rewrite, List.getElem?_map, Option.map_eq_some_iff] at hn
    obtain ⟨origin, horigin, hwritten⟩ := hn
    cases origin with
    | undefined =>
      obtain rfl : "undefined" = name := congrArg Occurrence.name hwritten
      cases hcapital
    | ident place =>
      have hplace := Factory.mem_places_of_origin horigin
      have huse : place.isUse = true := congrArg Occurrence.isUse hwritten
      have hid : ((f.reference f.locals.imports place).rename place.id).name = name :=
        congrArg Occurrence.name hwritten
      cases hr : f.reference f.locals.imports place with
      | keep =>
        rw [hr] at hid
        exact absurd (hid ▸ Factory.mem_taken_of_keep hplace huse hr) hnew
      | reserved word =>
        rw [hr] at hid
        obtain rfl : word = name := hid
        rcases Factory.reference_reserved hr with rfl | rfl <;> cases hcapital
      | imported put =>
        rw [hr] at hid
        obtain rfl : put = name := hid
        obtain ⟨hshadowed, path, hpath, hlocal⟩ := Factory.reference_imported hr
        rw [Locals.local?_imports] at hlocal
        obtain ⟨rfl, hkind⟩ := Locals.entry_unique (Factory.nodup_names hfree)
          (Locals.mem_entries_of_get? hlocal) hentry
        exact ⟨place, horigin, hr, hshadowed, hpath, hkind⟩

theorem import_names_not_captured_sample :
    ∃ imports body,
      sample.module = ⟨"m", .code imports body⟩ ∧
        ∀ i ∈ imports, ∀ isDefault name, i.name? isDefault = some name →
          (∀ scope, .enter scope ∈ stepsStmts sample.around sample.body →
              scope.declares name = false) ∧
            ∀ n : Nat, (identifiers body)[n]? = some ⟨name, true⟩ →
              ∃ place,
                sample.origins[n]? = some (.ident place) ∧
                  sample.reference imports place = .imported name ∧
                  place.isShadowed = false ∧
                  sample.binding.get? place.id.name = some (.module i.source) ∧
                  place.site.kind.isDefault = isDefault := by
  have hfree : ¬ sample.Exhausted := by
    have hevents : (Imports.ofFindings sample.binding .verbose sample.findings).events =
        [.allocated "X" "lib/x"] := rfl
    rintro ⟨name, hname⟩
    simp [hevents] at hname
  exact import_names_not_captured
    (show sample.script.definitions[0]? = some (.module sample) from rfl)
    (handed_of_definitions rfl) hfree

end Unbundle.Engine

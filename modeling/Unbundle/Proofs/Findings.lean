-- SUMMARY: What the findings of a factory hold: uses of its parameters, and names that are taken.
import Unbundle.Proofs.Factory
import Unbundle.Proofs.Locals

/-!
# Findings of a factory

The walk records every identifier that it meets. The uses of parameters that it finds are those at
the places that `Meaning.isRecorded` tells (`mem_uses`), and the names that imports must not take
are those that are not bound (`mem_taken`).

With this, what replaces an identifier can be said in terms of the finished imports
(`replacing_eq_reference`), and every use that needs an import has one (`isSome_local?`).
-/

namespace Unbundle

theorem Amd.Binding.path?_eq_some {b : Amd.Binding} {param path : String} :
    b.path? param = some path ↔ b.get? param = some (.module path) := by
  unfold path?
  split
  · rename_i path' h
    simp [h]
  · rename_i hne
    simp only [reduceCtorEq, false_iff]
    exact hne path

namespace Findings

@[simp] theorem mem_taken_addName {f : Findings} {name x : String} :
    x ∈ (f.addName name).taken ↔ x ∈ f.taken ∨ x = name := by
  unfold addName
  split
  · rename_i h
    simp only [iff_self_or]
    rintro rfl
    simpa using h
  · simp [or_comm]

@[simp] theorem uses_addName (f : Findings) (name : String) : (f.addName name).uses = f.uses := rfl

@[simp] theorem taken_addUse (f : Findings) (use : Use) : (f.addUse use).taken = f.taken := rfl

@[simp] theorem taken_spellOut (f : Findings) (span : Span) (word : String) :
    (f.spellOut span word).taken = f.taken := rfl

@[simp] theorem uses_spellOut (f : Findings) (span : Span) (word : String) :
    (f.spellOut span word).uses = f.uses := rfl

@[simp] theorem mem_uses_addUse {f : Findings} {use u : Use} :
    u ∈ (f.addUse use).uses ↔ u ∈ f.uses ∨ u = use := by
  simp [addUse]

end Findings

namespace Engine

/-- An identifier with this meaning is recorded as a use, where it does not declare anything. -/
def Meaning.isRecorded : Meaning → Bool
  | .unbound true | .bound (.module _) => true
  | .foreign | .unbound false | .bound .require | .bound .exports => false

/-- The name is a parameter that is bound to a dependency. -/
def Meaning.isBound : Meaning → Bool
  | .bound _ => true
  | .foreign | .unbound _ => false

theorem mem_taken_record {findings : Findings} {meaning : Meaning} {id : Script.Ident} {site : Site}
    {x : String} :
    x ∈ (record findings meaning id site).taken ↔
      x ∈ findings.taken ∨ x = id.name ∧ meaning.isBound = false := by
  cases meaning with
  | foreign => simp [record, Meaning.isBound]
  | unbound isParam => cases isParam <;> cases site <;> simp [record, Meaning.isBound]
  | bound target => cases target <;> cases site <;> simp [record, Meaning.isBound]

theorem mem_uses_record {findings : Findings} {meaning : Meaning} {id : Script.Ident} {site : Site}
    {u : Use} :
    u ∈ (record findings meaning id site).uses ↔
      u ∈ findings.uses ∨
        u = ⟨id.name, site.kind, site.span id⟩ ∧ meaning.isRecorded = true ∧
          site ≠ .declaration := by
  cases meaning with
  | foreign => simp [record, Meaning.isRecorded]
  | unbound isParam => cases isParam <;> cases site <;> simp [record, Meaning.isRecorded]
  | bound target => cases target <;> cases site <;> simp [record, Meaning.isRecorded]

theorem mem_filterMap_place? {steps : List Step} {p : Place} :
    p ∈ steps.filterMap Step.place? ↔ .ident p ∈ steps := by
  rw [List.mem_filterMap]
  constructor
  · rintro ⟨step, hmem, hstep⟩
    cases step with
    | ident q =>
      cases hstep
      exact hmem
    | _ => cases hstep
  · intro h
    exact ⟨_, h, rfl⟩

namespace Factory

variable {f : Factory}

theorem mem_taken_note {steps : List Step} {findings : Findings} {x : String} :
    x ∈ (steps.foldl f.note findings).taken ↔
      x ∈ findings.taken ∨
        ∃ p, .ident p ∈ steps ∧ p.id.name = x ∧ (f.meaning p).isBound = false := by
  induction steps generalizing findings with
  | nil => simp
  | cons step rest ih =>
    rw [List.foldl_cons, ih]
    cases step with
    | ident p =>
      simp only [note, mem_taken_record, List.mem_cons, Step.ident.injEq]
      grind
    | _ => simp [note]

theorem mem_uses_note {steps : List Step} {findings : Findings} {u : Use} :
    u ∈ (steps.foldl f.note findings).uses ↔
      u ∈ findings.uses ∨
        ∃ p, .ident p ∈ steps ∧ u = ⟨p.id.name, p.site.kind, p.site.span p.id⟩ ∧
          (f.meaning p).isRecorded = true ∧ p.site ≠ .declaration := by
  induction steps generalizing findings with
  | nil => simp
  | cons step rest ih =>
    rw [List.foldl_cons, ih]
    cases step with
    | ident p =>
      simp only [note, mem_uses_record, List.mem_cons, Step.ident.injEq]
      grind
    | _ => simp [note]

/-- The names that are taken: all that are not bound. -/
theorem mem_taken {x : String} :
    x ∈ f.findings.taken ↔
      ∃ p, .ident p ∈ f.steps ∧ p.id.name = x ∧ (f.meaning p).isBound = false := by
  simp [findings, mem_taken_note, Findings.empty]

/-- The uses that are found. -/
theorem mem_uses {u : Use} :
    u ∈ f.findings.uses ↔
      ∃ p, .ident p ∈ f.steps ∧ u = ⟨p.id.name, p.site.kind, p.site.span p.id⟩ ∧
        (f.meaning p).isRecorded = true ∧ p.site ≠ .declaration := by
  simp [findings, mem_uses_note, Findings.empty]

theorem mem_places {p : Place} : p ∈ f.places ↔ .ident p ∈ stepsStmts f.around f.body :=
  mem_filterMap_place?

theorem ident_mem_steps {p : Place} (h : p ∈ f.places) : .ident p ∈ f.steps :=
  List.mem_append_right _ (mem_places.1 h)

-- ---------------------------------------------------------------------------
-- Replacements
-- ---------------------------------------------------------------------------

/-- What a module with these imports has in place of each identifier of its factory: a parameter
that no scope in between declares again gives way to what it is bound to. -/
def reference (f : Factory) (imports : List Import) : Replacing :=
  fun p =>
    if p.isUse && !p.isShadowed then
      match f.binding.get? p.id.name with
      | none => .keep
      | some .require => .reserved "require"
      | some .exports => .reserved "exports"
      | some (.module path) =>
        match Import.local? imports p.site.kind path with
        | some name => .imported name
        | none => .keep
    else .keep

/-- The walk puts the same at every place. -/
theorem replacing_eq_reference (f : Factory) (locals : Locals) :
    f.replacing locals = f.reference locals.imports := by
  funext p
  unfold replacing filled Filling.at reference
  by_cases hs : p.isShadowed = true
  · have hm : f.meaning p = .foreign := by simp [meaning, hs]
    simp [hm, hs, replacement]
  · rw [Bool.not_eq_true] at hs
    cases hb : f.binding.get? p.id.name with
    | some target =>
      rw [meaning_eq_bound.2 ⟨hs, hb⟩]
      cases hsite : p.site with
      | declaration => simp [replacement, Place.isUse, hsite]
      | _ =>
        cases target with
        | require => simp [replacement, Place.isUse, hs, hsite]
        | exports => simp [replacement, Place.isUse, hs, hsite]
        | module path =>
          simp only [replacement, Place.isUse, hs, hsite, Locals.local?_imports]
          cases locals.get? _ path <;> rfl
    | none =>
      cases hm : f.meaning p with
      | bound target => simp [(meaning_eq_bound.1 hm).2] at hb
      | _ => simp [replacement]

/-- The module of a factory is its rewrite. -/
theorem module_eq_rewrite (f : Factory) :
    f.module =
      ⟨f.name, .code f.locals.imports
        (rewriteStmts (f.reference f.locals.imports) f.around f.body)⟩ := by
  rw [← replacing_eq_reference]
  rfl

/-- Every use of a parameter that is bound to a module has a local name in the module's imports. -/
theorem isSome_local? {p : Place} {path : String} (hp : p ∈ f.places) (huse : p.isUse = true)
    (hs : p.isShadowed = false) (hb : f.binding.get? p.id.name = some (.module path)) :
    (Import.local? f.locals.imports p.site.kind path).isSome := by
  have hmem : ⟨p.id.name, p.site.kind, p.site.span p.id⟩ ∈ f.findings.uses := by
    refine mem_uses.2 ⟨p, ident_mem_steps hp, rfl, ?_, by simpa [Place.isUse] using huse⟩
    rw [meaning_eq_bound.2 ⟨hs, hb⟩]
    rfl
  rw [Locals.local?_imports]
  exact Imports.get?_ofFindings hmem (Amd.Binding.path?_eq_some.2 hb)

/-- Only the name of a bound parameter is replaced. -/
theorem bound_of_reference_ne_keep {imports : List Import} {p : Place}
    (h : f.reference imports p ≠ .keep) :
    p.isUse = true ∧ p.isShadowed = false ∧ (f.binding.get? p.id.name).isSome := by
  revert h
  fun_cases reference f imports p <;> simp_all

/-- Wherever it is used and no scope in between declares it again, it is replaced. -/
theorem reference_ne_keep_iff {p : Place} (hp : p ∈ f.places) :
    f.reference f.locals.imports p ≠ .keep ↔
      p.isUse = true ∧ p.isShadowed = false ∧ (f.binding.get? p.id.name).isSome := by
  refine ⟨bound_of_reference_ne_keep, ?_⟩
  rintro ⟨huse, hs, hbound⟩
  obtain ⟨target, htarget⟩ := Option.isSome_iff_exists.1 hbound
  cases target with
  | require | exports => simp [reference, huse, hs, htarget]
  | module path =>
    obtain ⟨name, hname⟩ := Option.isSome_iff_exists.1 (isSome_local? hp huse hs htarget)
    simp [reference, huse, hs, htarget, hname]

end Factory
end Engine
end Unbundle

-- SUMMARY: The local names of imports: which uses have one, and that they are new and distinct.
import Mathlib.Data.List.Forall2
import Mathlib.Data.List.Nodup
import Unbundle.Imports
import Unbundle.Proofs.Naming

/-!
# Local names of imports

`Imports.ofFindings` goes through the uses of a factory twice, first those by name and then those of
`default`, and chooses a name where a path has none yet.

* What is reported has no influence on the names (`locals_ofFindings`).
* Every use of an imported path has a local name (`get?_ofFindings`), the one that the import of
  this path declares (`local?_imports`).
* If no choice was exhausted, the local names are distinct from each other and from all names that
  were taken (`fresh_ofFindings`).
-/

namespace Unbundle

namespace Import

/-- The local name of an import, for uses of `default` or for other uses. -/
def name? (i : Import) (isDefault : Bool) : Option String :=
  if isDefault then i.defaultName else i.namespaceName

/-- The local name that a list of imports has for a use of a path. -/
def local? (imports : List Import) (kind : UseKind) (path : String) : Option String :=
  (imports.find? (·.source == path)).bind (·.name? kind.isDefault)

end Import

namespace Locals

/-- The local names of all imports. -/
def names (l : Locals) : List String :=
  (l.namespaces ++ l.defaults).map (·.2)

/-- The local names for uses of `default`, or for other uses, with their paths. -/
def entries (l : Locals) : Bool → List (String × String)
  | true => l.defaults
  | false => l.namespaces

/-- If all local names are distinct, a name tells which path it is for, and for which uses. -/
theorem entry_unique {l : Locals} (h : l.names.Nodup) {isDefault isDefault' : Bool}
    {path path' name : String} (hmem : (path, name) ∈ l.entries isDefault)
    (hmem' : (path', name) ∈ l.entries isDefault') : path = path' ∧ isDefault = isDefault' := by
  have hall : ∀ {b p}, (p, name) ∈ l.entries b → (p, name) ∈ l.namespaces ++ l.defaults := by
    rintro (_ | _) p hp
    · exact List.mem_append_left _ hp
    · exact List.mem_append_right _ hp
  obtain rfl : path = path' := congrArg Prod.fst
    (List.inj_on_of_nodup_map h (hall hmem) (hall hmem') rfl)
  refine ⟨rfl, ?_⟩
  -- An entry of both kinds would have its name twice.
  rw [names, List.map_append, List.nodup_append] at h
  cases isDefault <;> cases isDefault'
  · rfl
  · exact absurd rfl (h.2.2 _ (List.mem_map_of_mem hmem) _ (List.mem_map_of_mem hmem'))
  · exact absurd rfl (h.2.2 _ (List.mem_map_of_mem hmem') _ (List.mem_map_of_mem hmem))
  · rfl

theorem mem_names {l : Locals} {isDefault : Bool} {path name : String}
    (h : (path, name) ∈ l.entries isDefault) : name ∈ l.names := by
  cases isDefault with
  | false => exact List.mem_map_of_mem (List.mem_append_left _ h)
  | true => exact List.mem_map_of_mem (List.mem_append_right _ h)

theorem mem_of_lookup {entries : List (String × String)} {path name : String}
    (h : entries.lookup path = some name) : (path, name) ∈ entries := by
  obtain ⟨before, after, heq, -⟩ := List.lookup_eq_some_iff.1 h
  simp [heq]

theorem mem_entries_of_get? {l : Locals} {kind : UseKind} {path name : String}
    (h : l.get? kind path = some name) : (path, name) ∈ l.entries kind.isDefault := by
  unfold get? at h
  split at h
  · rename_i hkind
    rw [hkind]
    exact mem_of_lookup h
  · rename_i hkind
    rw [Bool.not_eq_true] at hkind
    rw [hkind]
    exact mem_of_lookup h

/-- The local name of an import is the one for its path. -/
theorem mem_entries_of_import {l : Locals} {i : Import} (hi : i ∈ l.imports) {isDefault : Bool}
    {name : String} (h : i.name? isDefault = some name) :
    (i.source, name) ∈ l.entries isDefault := by
  unfold imports at hi
  rcases List.mem_append.1 hi with hi | hi
  · obtain ⟨⟨path, named⟩, hmem, rfl⟩ := List.mem_map.1 hi
    cases isDefault with
    | true => exact mem_of_lookup h
    | false =>
      obtain rfl : named = name := Option.some.inj h
      exact hmem
  · obtain ⟨⟨path, named⟩, hmem, rfl⟩ := List.mem_map.1 hi
    cases isDefault with
    | true =>
      obtain rfl : named = name := Option.some.inj h
      exact (List.mem_filter.1 hmem).1
    | false => cases h

/-- Of several entries for a path the first one counts, for imports as for look-ups. -/
theorem find?_map_import (toImport : String × String → Import)
    (hsource : ∀ entry, (toImport entry).source = entry.1) (entries : List (String × String))
    (path : String) :
    (entries.map toImport).find? (·.source == path) =
      (entries.lookup path).map fun name => toImport (path, name) := by
  induction entries with
  | nil => rfl
  | cons entry rest ih =>
    obtain ⟨source, name⟩ := entry
    rw [List.map_cons, List.find?_cons, hsource, List.lookup_cons, ih]
    by_cases h : source = path
    · subst h
      simp
    · rw [beq_false_of_ne h, beq_false_of_ne (Ne.symm h)]

/-- What is found for a key after entries have been left out by their keys. -/
theorem lookup_filter {α β : Type} [BEq α] [LawfulBEq α] (keep : α → Bool)
    (entries : List (α × β)) (key : α) :
    (entries.filter fun entry => keep entry.1).lookup key =
      if keep key then entries.lookup key else none := by
  induction entries with
  | nil => simp
  | cons entry rest ih =>
    obtain ⟨other, value⟩ := entry
    by_cases hs : other = key
    · subst hs
      cases h : keep other with
      | true => simp [h]
      | false => simpa [h] using ih
    · rw [List.filter_cons]
      split
      · rw [List.lookup_cons, List.lookup_cons, ih, beq_false_of_ne (Ne.symm hs)]
      · rw [List.lookup_cons, beq_false_of_ne (Ne.symm hs), ih]

/-- The imports declare the local names under their paths. -/
theorem local?_imports (l : Locals) (kind : UseKind) (path : String) :
    Import.local? l.imports kind path = l.get? kind path := by
  have hnamed := find?_map_import (fun entry => ⟨entry.1, l.defaults.lookup entry.1, some entry.2⟩)
    (fun _ => rfl) l.namespaces path
  have hdefault := find?_map_import (fun entry => ⟨entry.1, some entry.2, none⟩) (fun _ => rfl)
    (l.defaults.filter fun entry => (l.namespaces.lookup entry.1).isNone) path
  unfold Import.local? Import.name? imports get?
  rw [List.find?_append, hnamed, hdefault]
  cases hl : l.namespaces.lookup path with
  | some name => simp
  | none =>
    rw [lookup_filter (fun p => (l.namespaces.lookup p).isNone), if_pos (by simp [hl])]
    cases l.defaults.lookup path <;> simp

end Locals

/-- A use of the same path, in the same way. -/
structure Use.Same (binding' binding : Amd.Binding) (use' use : Use) : Prop where
  path : binding'.path? use'.param = binding.path? use.param
  isDefault : use'.kind.isDefault = use.kind.isDefault

namespace Imports

variable {binding : Amd.Binding} {logging logging' : Logging}

-- ---------------------------------------------------------------------------
-- Reports have no influence
-- ---------------------------------------------------------------------------

/-- Two choices of names that differ at most in what they report. -/
structure Names.Same (n m : Names) : Prop where
  locals : n.locals = m.locals
  taken : n.taken = m.taken

namespace Names.Same

variable {n m : Names}

theorem addNamespace (h : n.Same m) (use : Use) :
    (n.addNamespace binding logging use).Same (m.addNamespace binding logging' use) := by
  unfold Names.addNamespace
  split
  · exact ⟨h.locals, h.taken⟩
  · simp only [h.locals]
    split
    · exact h
    · simp only [Names.allocate, h.taken]
      exact ⟨by simp only [h.locals], rfl⟩

theorem addDefault (h : n.Same m) (use : Use) :
    (n.addDefault binding logging use).Same (m.addDefault binding logging' use) := by
  unfold Names.addDefault
  split
  · exact ⟨h.locals, h.taken⟩
  · simp only [h.locals]
    split
    · exact h
    · simp only [Names.allocate, h.taken]
      exact ⟨by simp only [h.locals], rfl⟩

theorem foldl {step step' : Names → Use → Names}
    (hstep : ∀ {n m : Names}, n.Same m → ∀ use, (step n use).Same (step' m use))
    (h : n.Same m) (uses : List Use) : (uses.foldl step n).Same (uses.foldl step' m) := by
  induction uses generalizing n m with
  | nil => exact h
  | cons use rest ih => exact ih (hstep h use)

end Names.Same

/-- The names of the imports do not depend on what is reported. -/
theorem locals_ofFindings (findings : Findings) :
    (ofFindings binding logging findings).locals =
      (ofFindings binding logging' findings).locals := by
  have hstart : (⟨⟨[], []⟩, findings.taken, []⟩ : Names).Same ⟨⟨[], []⟩, findings.taken, []⟩ :=
    ⟨rfl, rfl⟩
  unfold ofFindings
  exact ((hstart.foldl Names.Same.addNamespace _).foldl Names.Same.addDefault _).locals

section Same

variable {binding' : Amd.Binding} {use' use : Use}

theorem Names.addNamespace_congr (n : Names) (h : Use.Same binding' binding use' use) :
    n.addNamespace binding' .none use' = n.addNamespace binding .none use := by
  unfold addNamespace
  rw [h.path]
  split <;> rfl

theorem Names.addDefault_congr (n : Names) (h : Use.Same binding' binding use' use) :
    n.addDefault binding' .none use' = n.addDefault binding .none use := by
  unfold addDefault
  rw [h.path]
  split <;> rfl

/-- The names of imports depend on the paths that are used and on the names that are taken. -/
theorem ofFindings_congr {findings' findings : Findings} (htaken : findings'.taken = findings.taken)
    (huses : List.Forall₂ (Use.Same binding' binding) findings'.uses.toList
      findings.uses.toList) :
    ofFindings binding' .none findings' = ofFindings binding .none findings := by
  have hdefaults : List.Forall₂ (Use.Same binding' binding)
      (findings'.uses.toList.filter (·.kind.isDefault))
      (findings.uses.toList.filter (·.kind.isDefault)) :=
    List.rel_filter (fun _ _ h => by simp only [h.isDefault]) huses
  have hnames : List.Forall₂ (Use.Same binding' binding)
      (findings'.uses.toList.filter (!·.kind.isDefault))
      (findings.uses.toList.filter (!·.kind.isDefault)) :=
    List.rel_filter (fun _ _ h => by simp only [h.isDefault]) huses
  simp only [ofFindings, List.partition_eq_filter_filter, htaken]
  refine List.rel_foldl ?_ (List.rel_foldl ?_ rfl hnames) hdefaults
  · rintro n _ rfl use' use huse
    exact n.addDefault_congr huse
  · rintro n _ rfl use' use huse
    exact n.addNamespace_congr huse

end Same

-- ---------------------------------------------------------------------------
-- Uses and their names
-- ---------------------------------------------------------------------------

namespace Names

/-- Seeing to a use keeps the names that there are, and gives one to the path that is used. -/
theorem isSome_lookup_addNamespace {n : Names} {use : Use} {path : String}
    (h : (n.locals.namespaces.lookup path).isSome ∨ binding.path? use.param = some path) :
    ((n.addNamespace binding logging use).locals.namespaces.lookup path).isSome := by
  unfold addNamespace
  split
  · rename_i hnone
    simpa [hnone, report] using h
  · rename_i path' hpath
    rw [hpath, Option.some.injEq] at h
    split
    · rename_i name hname
      rcases h with h | rfl
      · exact h
      · simp [hname]
    · simp only [allocate, List.lookup_append, Option.isSome_or]
      rcases h with h | rfl
      · simp [h]
      · simp

theorem isSome_lookup_addDefault {n : Names} {use : Use} {path : String}
    (h : (n.locals.defaults.lookup path).isSome ∨ binding.path? use.param = some path) :
    ((n.addDefault binding logging use).locals.defaults.lookup path).isSome := by
  unfold addDefault
  split
  · rename_i hnone
    simpa [hnone, report] using h
  · rename_i path' hpath
    rw [hpath, Option.some.injEq] at h
    split
    · rename_i name hname
      rcases h with h | rfl
      · exact h
      · simp [hname]
    · simp only [allocate, List.lookup_append, Option.isSome_or]
      rcases h with h | rfl
      · simp [h]
      · simp

theorem namespaces_addDefault (n : Names) (use : Use) :
    (n.addDefault binding logging use).locals.namespaces = n.locals.namespaces := by
  unfold addDefault
  split
  · rfl
  · split <;> rfl

theorem namespaces_foldl_addDefault (n : Names) (uses : List Use) :
    (uses.foldl (addDefault binding logging) n).locals.namespaces = n.locals.namespaces := by
  induction uses generalizing n with
  | nil => rfl
  | cons use rest ih => rw [List.foldl_cons, ih, namespaces_addDefault]

/-- If a step keeps what holds of a path and brings it about for the path that is used, then it
holds of the paths of all uses in the end. -/
theorem foldl_of_use {step : Names → Use → Names} (Has : String → Names → Prop)
    (hstep : ∀ {n use path}, Has path n ∨ binding.path? use.param = some path →
      Has path (step n use))
    {n : Names} {uses : List Use} {path : String}
    (h : Has path n ∨ ∃ use ∈ uses, binding.path? use.param = some path) :
    Has path (uses.foldl step n) := by
  induction uses generalizing n with
  | nil => simpa using h
  | cons use rest ih =>
    refine ih ?_
    rcases h with h | ⟨use', hmem, hpath⟩
    · exact .inl (hstep (.inl h))
    · rcases List.mem_cons.1 hmem with rfl | hrest
      · exact .inl (hstep (.inr hpath))
      · exact .inr ⟨use', hrest, hpath⟩

end Names

/-- Every use of an imported path has a local name of its kind. -/
theorem get?_ofFindings {findings : Findings} {use : Use} {path : String}
    (hmem : use ∈ findings.uses) (hpath : binding.path? use.param = some path) :
    ((ofFindings binding logging findings).locals.get? use.kind path).isSome := by
  unfold ofFindings Locals.get?
  simp only [List.partition_eq_filter_filter]
  split
  · rename_i hdefault
    refine Names.foldl_of_use (fun path n => (n.locals.defaults.lookup path).isSome)
      Names.isSome_lookup_addDefault (.inr ⟨use, ?_, hpath⟩)
    simpa using ⟨hmem, hdefault⟩
  · rename_i hname
    rw [Names.namespaces_foldl_addDefault]
    refine Names.foldl_of_use (fun path n => (n.locals.namespaces.lookup path).isSome)
      Names.isSome_lookup_addNamespace (.inr ⟨use, ?_, hpath⟩)
    simpa using ⟨hmem, by simpa using hname⟩

-- ---------------------------------------------------------------------------
-- New names
-- ---------------------------------------------------------------------------

namespace Names

/-- A name was chosen although it was taken, and this was reported. -/
def Exhausted (n : Names) : Prop :=
  ∃ name, .duplicateName name ∈ n.events

/-- What seeing to one use may do: report something else, or choose one more name. -/
inductive Moves (n : Names) : Names → Prop where
  | report {events : List Event} (h : ∀ name, .duplicateName name ∉ events) :
    Moves n (n.report events)
  | choose {locals : Locals} {basis : String}
    (h : locals.names.Perm ((Naming.choose n.taken basis).name :: n.locals.names)) :
    Moves n
      { locals := locals
        taken := (Naming.choose n.taken basis).name :: n.taken
        events := n.events ++ (Naming.choose n.taken basis).events .verbose basis }

theorem Moves.refl (n : Names) : n.Moves n := by
  simpa [Names.report] using @Moves.report n [] (by simp)

theorem moves_addNamespace (n : Names) (use : Use) :
    n.Moves (n.addNamespace binding .verbose use) := by
  unfold addNamespace
  split
  · exact .report (by simp [Logging.warnings])
  · rename_i path _
    split
    · exact .refl n
    · refine .choose ?_
      simp only [Locals.names, List.append_assoc, List.map_append, List.singleton_append]
      exact List.perm_middle

theorem moves_addDefault (n : Names) (use : Use) :
    n.Moves (n.addDefault binding .verbose use) := by
  unfold addDefault
  split
  · exact .report (by simp [Logging.warnings])
  · split
    · exact .refl n
    · refine .choose ?_
      simp only [Locals.names, ← List.append_assoc, List.map_append]
      exact List.perm_append_singleton _ _

/-- The local names are chosen ones. -/
def Chosen (n : Names) : Prop :=
  ∀ name ∈ n.locals.names, ∃ taken basis, name = (Naming.choose taken basis).name

theorem Chosen.moves {n m : Names} (h : n.Chosen) (hmove : n.Moves m) : m.Chosen := by
  cases hmove with
  | report _ => exact h
  | choose hperm =>
    intro name hname
    rcases List.mem_cons.1 (hperm.subset hname) with rfl | hname
    · exact ⟨_, _, rfl⟩
    · exact h name hname

theorem Chosen.foldl {step : Names → Use → Names} (hstep : ∀ n use, Moves n (step n use))
    {n : Names} (h : n.Chosen) (uses : List Use) : (uses.foldl step n).Chosen := by
  induction uses generalizing n with
  | nil => exact h
  | cons use rest ih => exact ih (h.moves (hstep n use))

/-- The local names are chosen ones, they are distinct, and none of them was taken. -/
structure Fresh (taken : List String) (n : Names) : Prop where
  chosen : n.Chosen
  taken_subset : taken ⊆ n.taken
  names_subset : n.locals.names ⊆ n.taken
  nodup : n.locals.names.Nodup
  not_taken : ∀ name ∈ n.locals.names, name ∉ taken

theorem Exhausted.moves {n m : Names} (h : n.Exhausted) (hmove : n.Moves m) : m.Exhausted := by
  obtain ⟨name, hname⟩ := h
  cases hmove with
  | report _ => exact ⟨name, List.mem_append_left _ hname⟩
  | choose _ => exact ⟨name, List.mem_append_left _ hname⟩

theorem Exhausted.foldl {step : Names → Use → Names} (hstep : ∀ n use, Moves n (step n use))
    {n : Names} (h : n.Exhausted) (uses : List Use) : (uses.foldl step n).Exhausted := by
  induction uses generalizing n with
  | nil => exact h
  | cons use rest ih => exact ih (h.moves (hstep n use))

theorem Fresh.moves {taken : List String} {n m : Names} (h : Fresh taken n) (hmove : n.Moves m)
    (hfree : ¬ m.Exhausted) : Fresh taken m := by
  have hchosen := h.chosen.moves hmove
  cases hmove with
  | report _ => exact ⟨h.chosen, h.taken_subset, h.names_subset, h.nodup, h.not_taken⟩
  | @choose locals basis hperm =>
    have hnew : (Naming.choose n.taken basis).name ∉ n.taken := by
      refine Naming.name_choose_not_mem fun hdup => hfree ?_
      refine ⟨(Naming.choose n.taken basis).name, List.mem_append_right _ ?_⟩
      simp [Naming.Choice.events, hdup, Logging.warnings, Logging.isVerbose]
    refine ⟨hchosen, ?_, ?_, ?_, ?_⟩
    · exact fun x hx => List.mem_cons_of_mem _ (h.taken_subset hx)
    · intro x hx
      rcases List.mem_cons.1 (hperm.subset hx) with rfl | hx
      · exact List.mem_cons_self
      · exact List.mem_cons_of_mem _ (h.names_subset hx)
    · refine hperm.nodup_iff.2 (List.nodup_cons.2 ⟨fun hx => hnew (h.names_subset hx), h.nodup⟩)
    · intro x hx htaken
      rcases List.mem_cons.1 (hperm.subset hx) with rfl | hx
      · exact hnew (h.taken_subset htaken)
      · exact h.not_taken x hx htaken

/-- Seeing to uses one after the other keeps the names new, as long as no choice is exhausted. -/
theorem Fresh.foldl {step : Names → Use → Names} (hstep : ∀ n use, Moves n (step n use))
    {taken : List String} {n : Names} (h : Fresh taken n) {uses : List Use}
    (hfree : ¬ (uses.foldl step n).Exhausted) : Fresh taken (uses.foldl step n) := by
  induction uses generalizing n with
  | nil => exact h
  | cons use rest ih =>
    refine ih (h.moves (hstep n use) fun hex => hfree ?_) hfree
    exact Exhausted.foldl hstep hex rest

end Names

theorem chosen_ofFindings (findings : Findings) :
    (ofFindings binding .verbose findings).Chosen := by
  have hstart : Names.Chosen ⟨⟨[], []⟩, findings.taken, []⟩ := by simp [Names.Chosen, Locals.names]
  exact (hstart.foldl Names.moves_addNamespace _).foldl Names.moves_addDefault _

/-- If no choice was exhausted, the names of the imports are distinct, and none was taken. -/
theorem fresh_ofFindings {findings : Findings}
    (hfree : ¬ (ofFindings binding .verbose findings).Exhausted) :
    Names.Fresh findings.taken (ofFindings binding .verbose findings) := by
  have hstart : Names.Fresh findings.taken ⟨⟨[], []⟩, findings.taken, []⟩ :=
    ⟨by simp [Names.Chosen, Locals.names], fun _ h => h, List.nil_subset _, List.nodup_nil,
      by simp [Locals.names]⟩
  unfold ofFindings at hfree ⊢
  have hnamed := fun hex => hfree (Names.Exhausted.foldl Names.moves_addDefault hex _)
  exact (hstart.foldl Names.moves_addNamespace hnamed).foldl Names.moves_addDefault hfree

end Imports
end Unbundle

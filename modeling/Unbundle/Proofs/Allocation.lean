-- SUMMARY: Names that are allocated in turn: which ones, what is reported, and when they are distinct.
import Unbundle.Proofs.Diagnostics
import Unbundle.Proofs.ImportList
import Unbundle.Proofs.Recording

/-!
# Allocating names in turn

`Imports.Names.allocateAll` allocates names for a list of bases, one after the other. What becomes of
each call is said without the allocator: a `Call` knows the names in use before it, its basis and its
result. The result is the first of ten names to try that is not in use; only if all of them are, it is
the first of the ten, and this is what gets reported.
-/

namespace Unbundle

namespace Naming

/-- The names to try for a basis, in turn. -/
def tries (basis : String) : List String :=
  [candidate basis, candidate basis ++ "1", candidate basis ++ "2", candidate basis ++ "3",
    candidate basis ++ "4", candidate basis ++ "5", candidate basis ++ "6", candidate basis ++ "7",
    candidate basis ++ "8", candidate basis ++ "9"]

theorem tries_eq (basis : String) :
    candidate basis :: alternatives (candidate basis) = tries basis :=
  rfl

/-- One call of the allocator. -/
structure Call where
  /-- The names in use before the call. -/
  used : List String
  basis : String
  /-- The name that was given. -/
  name : String
deriving DecidableEq, Repr, Inhabited

namespace Call

/-- All names to try are in use. -/
def IsExhausted (c : Call) : Prop :=
  ∀ x ∈ tries c.basis, x ∈ c.used

instance (c : Call) : Decidable c.IsExhausted :=
  inferInstanceAs (Decidable (∀ x ∈ tries c.basis, x ∈ c.used))

/-- The right name was given. -/
structure IsRight (c : Call) : Prop where
  /-- The first name to try that is not in use. -/
  first : ¬ c.IsExhausted → ∃ before after,
    tries c.basis = before ++ c.name :: after ∧ (∀ x ∈ before, x ∈ c.used) ∧ c.name ∉ c.used
  /-- If there is none, the name is used all the same. -/
  exhausted : c.IsExhausted → c.name = candidate c.basis

/-- The warnings that the call is to log. -/
def warnings (logging : Logging) (c : Call) : List String :=
  if logging = .verbose ∧ c.IsExhausted then
    ["Duplicate variable, may cause conflicts: " ++ candidate c.basis]
  else []

end Call

/-- The calls that gave these names for these bases in turn. Every name that was given is in use from
then on. -/
def calls (used bases names : List String) : List Call :=
  (bases.zip names).mapIdx fun i (basis, name) => ⟨used ++ names.take i, basis, name⟩

@[simp] theorem calls_nil (used names : List String) : calls used [] names = [] :=
  rfl

@[simp] theorem calls_cons (used bases names : List String) (basis name : String) :
    calls used (basis :: bases) (name :: names) =
      ⟨used, basis, name⟩ :: calls (used ++ [name]) bases names := by
  simp [calls, List.mapIdx_cons]

/-- Right names that were never the last resort are distinct, and none of them was in use. -/
theorem apart_of_isRight {used bases names : List String} (hlength : names.length = bases.length)
    (hright : ∀ call ∈ calls used bases names, call.IsRight)
    (hfree : ∀ call ∈ calls used bases names, ¬ call.IsExhausted) :
    names.Nodup ∧ ∀ x ∈ names, x ∉ used := by
  induction bases generalizing used names with
  | nil =>
    obtain rfl := List.eq_nil_of_length_eq_zero hlength
    simp
  | cons basis bases ih =>
    obtain ⟨name, names, rfl⟩ := List.exists_cons_of_length_eq_add_one hlength
    rw [calls_cons, List.forall_mem_cons] at hright hfree
    obtain ⟨_, _, -, -, hnew⟩ := hright.1.first hfree.1
    obtain ⟨hnodup, hapart⟩ := ih (Nat.succ.inj hlength) hright.2 hfree.2
    refine ⟨List.nodup_cons.2 ⟨fun hmem => ?_, hnodup⟩, ?_⟩
    · exact hapart name hmem (List.mem_append_right _ (List.mem_singleton_self _))
    · intro x hx hused
      rcases List.mem_cons.1 hx with rfl | hx
      · exact hnew hused
      · exact hapart x hx (List.mem_append_left _ hused)

/-- What a choice logs as a warning. -/
theorem warnings_events (logging : Logging) (choice : Choice) (basis : String) :
    ((choice.events logging basis).filter Event.isWarning).map Event.message =
      if logging = .verbose ∧ choice.isFree = false then
        ["Duplicate variable, may cause conflicts: " ++ choice.name]
      else [] := by
  obtain ⟨name, isFree⟩ := choice
  cases isFree <;> cases logging <;> rfl

section

variable {used taken : List String} (hused : ∀ x, x ∈ used ↔ x ∈ taken) (basis : String)

include hused

/-- A choice is right, and it is no free one only if all names to try are in use. -/
theorem choose_isRight :
    (⟨used, basis, (choose taken basis).name⟩ : Call).IsRight ∧
      ((choose taken basis).isFree = false ↔
        (⟨used, basis, (choose taken basis).name⟩ : Call).IsExhausted) := by
  simp only [choose, chooseName, tries_eq]
  cases hfind : (tries basis).find? fun n => !taken.contains n with
  | some free =>
    obtain ⟨hfree, before, after, htries, hbefore⟩ := List.find?_eq_some_iff_append.1 hfind
    have hnew : free ∉ used := by simpa [hused] using hfree
    have hopen : ¬ (⟨used, basis, free⟩ : Call).IsExhausted :=
      fun hall => hnew (hall free (by simp [htries]))
    refine ⟨⟨fun _ => ⟨before, after, htries, ?_, hnew⟩, fun hall => absurd hall hopen⟩, ?_⟩
    · intro x hx
      simpa [hused] using hbefore x hx
    · simpa using hopen
  | none =>
    have hall : (⟨used, basis, candidate basis⟩ : Call).IsExhausted := by
      intro x hx
      simpa [hused] using List.find?_eq_none.1 hfind x hx
    exact ⟨⟨fun hopen => absurd hall hopen, fun _ => rfl⟩, by simpa using hall⟩

/-- A choice logs the warnings that it is to log. -/
theorem warnings_choose (logging : Logging) :
    (((choose taken basis).events logging basis).filter Event.isWarning).map Event.message =
      (⟨used, basis, (choose taken basis).name⟩ : Call).warnings logging := by
  obtain ⟨hright, hfree⟩ := choose_isRight hused basis
  rw [warnings_events]
  simp only [Call.warnings, hfree]
  by_cases hall : (⟨used, basis, (choose taken basis).name⟩ : Call).IsExhausted
  · have hname : (choose taken basis).name = candidate basis := hright.exhausted hall
    simp only [hname]
  · simp only [hall, and_false, if_false]

end

end Naming

namespace Imports.Names

/-- Allocates names for these bases, one after the other. -/
def allocateAll (logging : Logging) (n : Names) : List String → List String × Names
  | [] => ([], n)
  | basis :: rest =>
    let (name, n) := n.allocate logging basis
    let (names, n) := allocateAll logging n rest
    (name :: names, n)

/-- What it is to allocate names for some bases in turn. -/
structure Allocates (logging : Logging) (used bases names after : List String)
    (logged : List Event) : Prop where
  length_eq : names.length = bases.length
  /-- Each call gives the right name. -/
  right : ∀ call ∈ Naming.calls used bases names, call.IsRight
  /-- In use are then the names that were in use, and those that were given. -/
  mem_after : ∀ x, x ∈ after ↔ x ∈ used ∨ x ∈ names
  /-- Just the calls that fell back on a name in use log a warning, if warnings are wanted. -/
  warnings : (logged.filter Event.isWarning).map Event.message =
    (Naming.calls used bases names).flatMap (Naming.Call.warnings logging)

namespace Allocates

variable {logging : Logging} {used bases names after : List String} {logged events : List Event}
  {basis name : String}

theorem nil (hafter : ∀ x, x ∈ after ↔ x ∈ used) : Allocates logging used [] [] after [] :=
  ⟨rfl, by simp, by simp [hafter], rfl⟩

theorem cons (hright : (⟨used, basis, name⟩ : Naming.Call).IsRight)
    (hevents : (events.filter Event.isWarning).map Event.message =
      (⟨used, basis, name⟩ : Naming.Call).warnings logging)
    (h : Allocates logging (used ++ [name]) bases names after logged) :
    Allocates logging used (basis :: bases) (name :: names) after (events ++ logged) := by
  refine ⟨?_, ?_, fun x => ?_, ?_⟩
  · rw [List.length_cons, List.length_cons, h.length_eq]
  · rw [Naming.calls_cons]
    exact List.forall_mem_cons.2 ⟨hright, h.right⟩
  · rw [h.mem_after, List.mem_append, List.mem_singleton, List.mem_cons, or_assoc]
  · rw [List.filter_append, List.map_append, Naming.calls_cons, List.flatMap_cons, hevents,
      h.warnings]

/-- If no warning was logged although warnings are wanted, the names are new and distinct. -/
theorem apart (h : Allocates .verbose used bases names after logged)
    (hquiet : ∀ e ∈ logged, e.isWarning = false) : names.Nodup ∧ ∀ x ∈ names, x ∉ used := by
  refine Naming.apart_of_isRight h.length_eq h.right fun call hcall hexhausted => ?_
  have hnone : logged.filter Event.isWarning = [] :=
    List.filter_eq_nil_iff.2 fun e he => by simp [hquiet e he]
  have hwarnings := h.warnings
  rw [hnone, List.map_nil, eq_comm, List.flatMap_eq_nil_iff] at hwarnings
  have hcalled := hwarnings call hcall
  rw [Naming.Call.warnings, if_pos ⟨rfl, hexhausted⟩] at hcalled
  cases hcalled

end Allocates

/-- The allocator allocates names, whatever list stands for the names that it knows. -/
theorem allocates_of_mem_iff {n : Names} {used : List String}
    (hused : ∀ x, x ∈ used ↔ x ∈ n.taken) (logging : Logging) (bases : List String) :
    ∃ logged, (n.allocateAll logging bases).2.events = n.events ++ logged ∧
      Allocates logging used bases (n.allocateAll logging bases).1
        (n.allocateAll logging bases).2.taken logged := by
  induction bases generalizing n used with
  | nil => exact ⟨[], (List.append_nil _).symm, .nil fun x => (hused x).symm⟩
  | cons basis bases ih =>
    have hnext : ∀ x, x ∈ used ++ [(Naming.choose n.taken basis).name] ↔
        x ∈ (n.allocate logging basis).2.taken := by
      simp [allocate, hused, or_comm]
    obtain ⟨logged, hlogged, hrest⟩ := ih hnext
    refine ⟨(Naming.choose n.taken basis).events logging basis ++ logged, ?_, ?_⟩
    · rw [← List.append_assoc]
      exact hlogged
    · exact .cons (Naming.choose_isRight hused basis).1
        (Naming.warnings_choose hused basis logging) hrest

end Imports.Names

-- ---------------------------------------------------------------------------
-- Modules
-- ---------------------------------------------------------------------------

/-- The local names that an import declares. -/
def Import.localNames (i : Import) : List String :=
  i.namespaceName.toList ++ i.defaultName.toList

theorem Import.mem_localNames {i : Import} {name : String} :
    name ∈ i.localNames ↔ ∃ isDefault, i.name? isDefault = some name := by
  simp [localNames, name?]

/-- If the names of all uses are distinct, so are the names that the imports declare. -/
theorem Locals.nodup_localNames {l : Locals} {paths : Bool → List String}
    (hlists : ∀ isDefault, Lists (l.entries isDefault) (paths isDefault)) (hnodup : l.names.Nodup) :
    (l.imports.flatMap Import.localNames).Nodup := by
  rw [List.nodup_flatMap]
  constructor
  · intro i hi
    refine List.nodup_append.2 ⟨?_, ?_, ?_⟩
    · cases i.namespaceName <;> simp
    · cases i.defaultName <;> simp
    · rintro name hname name' hname' rfl
      rw [Option.mem_toList] at hname hname'
      have hnamespace := mem_entries_of_import hi (show i.name? false = some name from hname)
      have hdefault := mem_entries_of_import hi (show i.name? true = some name from hname')
      -- One name would be for both kinds of uses.
      cases (entry_unique hnodup hnamespace hdefault).2
  · have hsources := List.pairwise_map.1 (nodup_sources hlists)
    refine hsources.imp_of_mem fun {i j} hi hj hne name hname hname' => hne ?_
    obtain ⟨isDefault, hname⟩ := Import.mem_localNames.1 hname
    obtain ⟨isDefault', hname'⟩ := Import.mem_localNames.1 hname'
    exact (entry_unique hnodup (mem_entries_of_import hi hname)
      (mem_entries_of_import hj hname')).1

/-- If no warning about a name was reported, the imports have distinct names, all of them new. -/
theorem Imports.localNames_apart {binding : Amd.Binding} {findings : Findings}
    (hfree : ¬ (ofFindings binding .verbose findings).Exhausted) :
    ((ofFindings binding .verbose findings).locals.imports.flatMap Import.localNames).Nodup ∧
      ∀ x ∈ (ofFindings binding .verbose findings).locals.imports.flatMap Import.localNames,
        x ∉ findings.taken := by
  have hfresh := fresh_ofFindings hfree
  refine ⟨Locals.nodup_localNames (lists_ofFindings findings) hfresh.nodup, ?_⟩
  intro x hx
  obtain ⟨i, hi, hname⟩ := List.mem_flatMap.1 hx
  obtain ⟨isDefault, hname⟩ := Import.mem_localNames.1 hname
  exact hfresh.not_taken x (Locals.mem_names (Locals.mem_entries_of_import hi hname))

namespace Engine

/-- Names that are allocated in turn are the first free ones; if there is none, the name is used all
the same, and this is what is warned about. Without such a warning the names are new and distinct: in
any sequence of calls, in the choice of names for a module, and in all modules of a run. -/
theorem names_allocated_in_turn :
    (∀ (logging : Logging) (n : Imports.Names) (bases : List String),
      ∃ names n' logged, n.allocateAll logging bases = (names, n') ∧
        n'.events = n.events ++ logged ∧
        Imports.Names.Allocates logging n.taken bases names n'.taken logged ∧
        (logging = .verbose → (∀ e ∈ logged, e.isWarning = false) →
          names.Nodup ∧ ∀ x ∈ names, x ∉ n.taken)) ∧
      (∀ (binding : Amd.Binding) (findings : Findings),
        let names := Imports.ofFindings binding .verbose findings
        (∀ x, .duplicateName x ∉ names.events) →
          (names.locals.imports.flatMap Import.localNames).Nodup ∧
            ∀ x ∈ names.locals.imports.flatMap Import.localNames, x ∉ findings.taken) ∧
      ∀ {σ ε : Type} (sink : Sink σ ε) (limit : Option Nat) (start : σ) (script : Script),
        (∀ x, .duplicateName x ∉ (run sink ⟨limit, .verbose⟩ start script).log) →
          ∀ m ∈ handed sink ⟨limit, .verbose⟩ start script, ∀ imports body,
            m.body = .code imports body → (imports.flatMap Import.localNames).Nodup := by
  refine ⟨fun logging n bases => ?_, fun binding findings hfree => ?_, ?_⟩
  · obtain ⟨logged, hevents, h⟩ :=
      Imports.Names.allocates_of_mem_iff (fun x => Iff.rfl) logging bases
    refine ⟨_, _, logged, rfl, hevents, h, ?_⟩
    rintro rfl hquiet
    exact h.apart hquiet
  · refine Imports.localNames_apart ?_
    rintro ⟨name, hname⟩
    exact hfree name hname
  · intro σ ε sink limit start script hfree m hm imports body hbody
    obtain ⟨binding, findings, rfl, hevents⟩ := isReported_of_mem_handed hm imports body hbody
    refine (Imports.localNames_apart ?_).1
    rintro ⟨name, hname⟩
    exact hfree name (hevents hname)

/-- `function (u, v, w) { u(u.default, v, w); }`, where the names for the imports get into each other's
way -/
def crowdedSample : Factory where
  name := "m"
  dependencies := ["lib/util", "other/util", "lib/util-default"]
  own := none
  span := ⟨61, 103⟩
  params := [.ident ⟨"u", ⟨71, 72⟩⟩, .ident ⟨"v", ⟨74, 75⟩⟩, .ident ⟨"w", ⟨77, 78⟩⟩]
  body :=
    [.expr (.call ⟨82, 100⟩ (.ident ⟨"u", ⟨82, 83⟩⟩)
      [.member ⟨84, 93⟩ (.ident ⟨"u", ⟨84, 85⟩⟩) (.named "default"),
        .ident ⟨"v", ⟨95, 96⟩⟩, .ident ⟨"w", ⟨98, 99⟩⟩])]

/-- No warning was logged in either case, so the names are distinct. -/
theorem names_allocated_in_turn_crowdedSample :
    (["Util1", "Util2", "Dom"].Nodup ∧ ∀ x ∈ ["Util1", "Util2", "Dom"], x ∉ ["Util"]) ∧
      (crowdedSample.locals.imports.flatMap Import.localNames).Nodup := by
  obtain ⟨hcalls, -, hruns⟩ := names_allocated_in_turn
  constructor
  · obtain ⟨names, n', logged, hall, hevents, -, hapart⟩ :=
      hcalls .verbose ⟨⟨[], []⟩, ["Util"], []⟩ ["lib/util", "other/util", "lib/dom"]
    have hnames : names = ["Util1", "Util2", "Dom"] := (congrArg Prod.fst hall).symm
    have hlogged : logged =
        [.allocated "Util1" "lib/util", .allocated "Util2" "other/util",
          .allocated "Dom" "lib/dom"] :=
      hevents.symm.trans (congrArg (fun p => p.2.events) hall).symm
    rw [← hnames]
    exact hapart rfl (by simp [hlogged, Event.isWarning, Event.level])
  · have hquiet : ∀ e ∈ (run keepAll ⟨none, .verbose⟩ [] crowdedSample.script).log,
        e.isWarning = false := by
      decide +kernel
    have hhanded : (handed keepAll ⟨none, .verbose⟩ [] crowdedSample.script)[0]? =
        some crowdedSample.module := by
      rw [handed_congr_logging keepAll none .none .verbose]
      exact handed_of_definitions rfl
    refine hruns keepAll none [] crowdedSample.script ?_ _ (List.mem_of_getElem? hhanded) _ _ rfl
    intro x hx
    cases hquiet _ hx

example : crowdedSample.locals.imports.flatMap Import.localNames =
    ["Util", "UtilDefault1", "Util1", "UtilDefault"] := by
  decide +kernel

end Engine
end Unbundle

-- SUMMARY: What the parameters of a factory are called does not matter to its module.
import Unbundle.Proofs.ImportList
import Unbundle.Proofs.Independence
import Unbundle.Proofs.Renaming

/-!
# Names of parameters

Minified code calls the parameters of a factory what it likes. If a parameter `p` that is bound to a
dependency is called `q` instead, throughout the factory, the module stays the same
(`parameter_names_irrelevant`): a name means after the renaming what it meant before
(`Factory.meaning_rename`), so the same names are taken, the same paths are used in the same order,
and the imports get the same names. What is left of the factory in the module does not mention `p`.
-/

namespace Unbundle

-- ---------------------------------------------------------------------------
-- One name for another
-- ---------------------------------------------------------------------------

/-- Puts the name `q` in place of `p`. -/
def substName (p q name : String) : String :=
  if name = p then q else name

theorem substName_of_ne {p q name : String} (h : name ≠ p) : substName p q name = name :=
  if_neg h

/-- Names other than `q` stay apart. -/
theorem substName_inj {p q a b : String} (ha : a ≠ q) (hb : b ≠ q) :
    substName p q a = substName p q b ↔ a = b := by
  unfold substName
  grind

theorem contains_map_substName {p q name : String} {names : List String}
    (hnames : ∀ x ∈ names, x ≠ q) (hname : name ≠ q) :
    (names.map (substName p q)).contains (substName p q name) = names.contains name := by
  rw [Bool.eq_iff_iff, List.contains_iff_mem, List.contains_iff_mem, List.mem_map]
  constructor
  · rintro ⟨x, hx, heq⟩
    rw [← (substName_inj (hnames x hx) hname).1 heq]
    exact hx
  · intro hmem
    exact ⟨name, hmem, rfl⟩

theorem lookup_map_substName {α : Type} {p q name : String} {entries : List (String × α)}
    (hentries : ∀ entry ∈ entries, entry.1 ≠ q) (hname : name ≠ q) :
    (entries.map fun entry => (substName p q entry.1, entry.2)).lookup (substName p q name) =
      entries.lookup name := by
  induction entries with
  | nil => rfl
  | cons entry rest ih =>
    obtain ⟨key, value⟩ := entry
    have hkey : (substName p q name == substName p q key) = (name == key) := by
      rw [Bool.eq_iff_iff, beq_iff_eq, beq_iff_eq]
      exact substName_inj hname (hentries (key, value) List.mem_cons_self)
    rw [List.map_cons, List.lookup_cons, List.lookup_cons, hkey,
      ih fun entry hentry => hentries entry (List.mem_cons_of_mem _ hentry)]

namespace Engine

open Script

-- ---------------------------------------------------------------------------
-- Scopes around a place
-- ---------------------------------------------------------------------------

namespace Factory

variable {f : Factory}

/-- A factory shows what it declares. -/
theorem traced (f : Factory) : Traced [] f.scope.declared f.steps :=
  have h := compositional_traced
  ((h.holds_name ⟨[], false, true⟩ f.own).append
    (h.holds_pats ⟨[], false, true⟩ f.params)).append (h.holds_stmts f.around rfl rfl f.body)

/-- The scopes around a place of a factory are entered. -/
theorem entered {place : Place} (hplace : .ident place ∈ f.steps) {scope : Scope}
    (hscope : scope ∈ place.scopes) : .enter scope ∈ f.steps :=
  (f.traced.entered place hplace scope hscope).resolve_left List.not_mem_nil

/-- What a scope in a factory declares is met in the factory. -/
theorem exists_place_of_scope {scope : Scope} (hscope : .enter scope ∈ f.steps) {name : String}
    (hname : name ∈ scope.declared) : ∃ place, .ident place ∈ f.steps ∧ place.id.name = name := by
  obtain ⟨place, hplace, hid, -⟩ := f.traced.declared scope hscope name hname
  exact ⟨place, hplace, hid⟩

/-- So is what the factory itself declares. -/
theorem exists_place_of_declared {name : String} (hname : name ∈ f.scope.declared) :
    ∃ place, .ident place ∈ f.steps ∧ place.id.name = name := by
  obtain ⟨place, hplace, hid, -⟩ := f.traced.delivers name hname
  exact ⟨place, hplace, hid⟩

-- ---------------------------------------------------------------------------
-- Renamed factories
-- ---------------------------------------------------------------------------

/-- The factory with other names throughout. -/
def rename (ρ : String → String) (f : Factory) : Factory :=
  { f with
    own := f.own.map (·.rename ρ)
    params := renamePats ρ f.params
    body := renameStmts ρ f.body }

/-- The parameter `p` of a factory can be called `q`. -/
structure Renamable (f : Factory) (p q : String) : Prop where
  /-- It is bound to a dependency. -/
  bound : (f.binding.get? p).isSome
  /-- No identifier in the body declares the name again. -/
  undeclared : ∀ place ∈ f.places, place.isUse = false → place.id.name ≠ p
  /-- No scope in the factory declares the name again. -/
  unshadowed : ∀ scope, .enter scope ∈ f.steps → scope.declares p = false
  /-- It is no shorthand property of a pattern. -/
  notShorthand : ∀ place, .shorthand place ∈ f.mentions → place.id.name ≠ p
  /-- The new name does not occur. -/
  fresh : ∀ place, .ident place ∈ f.steps → place.id.name ≠ q

theorem declared_rename_scope (ρ : String → String) :
    (f.rename ρ).scope.declared = f.scope.declared.map ρ :=
  declared_rename_ofFunction ρ f.span f.own f.params f.body

theorem params_rename (ρ : String → String) :
    (f.rename ρ).definition.params = f.definition.params.map ρ :=
  patNames_renamePats ρ f.params

theorem entries_rename (ρ : String → String) :
    (f.rename ρ).binding.entries = f.binding.entries.map fun entry => (ρ entry.1, entry.2) := by
  have hzip : (f.rename ρ).binding.entries =
      (f.definition.params.map ρ).zip (f.definition.dependencies.map Amd.Target.ofPath) := by
    rw [← params_rename]
    rfl
  rw [hzip, List.zip_map_left]
  rfl

namespace Renamable

variable {p q : String} (h : f.Renamable p q)

include h

theorem scope_fresh {place : Place} (hplace : .ident place ∈ f.steps) {scope : Scope}
    (hscope : scope ∈ place.scopes) : ∀ name ∈ scope.declared, name ≠ q := by
  intro name hname
  obtain ⟨place', hplace', rfl⟩ := exists_place_of_scope (entered hplace hscope) hname
  exact h.fresh place' hplace'

theorem factory_fresh : ∀ name ∈ f.scope.declared, name ≠ q := by
  intro name hname
  obtain ⟨place, hplace, rfl⟩ := exists_place_of_declared hname
  exact h.fresh place hplace

theorem params_fresh : ∀ name ∈ f.definition.params, name ≠ q := by
  intro name hname
  refine h.factory_fresh name ?_
  exact List.mem_append_left _ (List.mem_append_right _ hname)

/-- Bindings are the same under the new names. -/
theorem get?_rename {name : String} (hname : name ≠ q) :
    (f.rename (substName p q)).binding.get? (substName p q name) = f.binding.get? name := by
  unfold Amd.Binding.get?
  rw [entries_rename, ← List.map_reverse]
  refine lookup_map_substName (fun entry hentry => ?_) hname
  exact h.params_fresh entry.1 (List.of_mem_zip (List.mem_reverse.1 hentry)).1

variable {place place' : Place} (hplace : .ident place ∈ f.steps)
  (hrenamed : Place.Renamed (substName p q) place' place)

include hplace hrenamed

/-- Names are shadowed as before. -/
theorem isShadowed_rename : place'.isShadowed = place.isShadowed := by
  have hany : ∀ place : Place,
      place.isShadowed = (place.scopes.map Scope.declared).any (·.contains place.id.name) := by
    intro place
    rw [Place.isShadowed, List.any_map]
    rfl
  rw [hany, hany, hrenamed.scopes, hrenamed.id, List.any_map, List.any_map, Bool.eq_iff_iff,
    List.any_eq_true, List.any_eq_true]
  refine exists_congr fun scope => and_congr_right fun hscope => ?_
  rw [← Bool.eq_iff_iff]
  exact contains_map_substName (h.scope_fresh hplace hscope) (h.fresh place hplace)

/-- Names mean what they meant before. -/
theorem meaning_rename : (f.rename (substName p q)).meaning place' = f.meaning place := by
  have hname := h.fresh place hplace
  have hdeclares : (f.rename (substName p q)).scope.declares place'.id.name =
      f.scope.declares place.id.name := by
    rw [Scope.declares, Scope.declares, declared_rename_scope, hrenamed.id]
    exact contains_map_substName h.factory_fresh hname
  have hget : (f.rename (substName p q)).binding.get? place'.id.name =
      f.binding.get? place.id.name := by
    rw [hrenamed.id]
    exact h.get?_rename hname
  have hparam : (f.rename (substName p q)).definition.params.contains place'.id.name =
      f.definition.params.contains place.id.name := by
    rw [params_rename, hrenamed.id]
    exact contains_map_substName h.params_fresh hname
  unfold meaning
  rw [h.isShadowed_rename hplace hrenamed, hdeclares, hget, hparam]

/-- The same is put at a place, given the same imports. -/
theorem reference_rename (imports : List Import) :
    (f.rename (substName p q)).reference imports place' = f.reference imports place := by
  have hget : (f.rename (substName p q)).binding.get? place'.id.name =
      f.binding.get? place.id.name := by
    rw [hrenamed.id]
    exact h.get?_rename (h.fresh place hplace)
  have hlocal : ∀ path, Import.local? imports place'.site.kind path =
      Import.local? imports place.site.kind path := by
    intro path
    simp only [Import.local?, hrenamed.isDefault]
  unfold reference
  rw [hrenamed.isUse, h.isShadowed_rename hplace hrenamed, hget]
  simp only [hlocal]

omit hrenamed

/-- All occurrences of the parameter denote it. -/
theorem isShadowed_eq_false (hname : place.id.name = p) : place.isShadowed = false := by
  rw [Place.isShadowed, List.any_eq_false]
  intro scope hscope
  rw [hname, h.unshadowed scope (entered hplace hscope)]
  simp

theorem isBound_meaning (hname : place.id.name = p) : (f.meaning place).isBound = true := by
  obtain ⟨target, htarget⟩ := Option.isSome_iff_exists.1 h.bound
  rw [meaning_eq_bound.2 ⟨h.isShadowed_eq_false hplace hname, hname ▸ htarget⟩]
  rfl

end Renamable

-- ---------------------------------------------------------------------------
-- Findings of renamed factories
-- ---------------------------------------------------------------------------

/-- The names that are taken after a place. -/
def take (f : Factory) (taken : List String) (place : Place) : List String :=
  if (f.meaning place).isBound || taken.contains place.id.name then taken
  else place.id.name :: taken

theorem taken_record (findings : Findings) (place : Place) :
    (record findings (f.meaning place) place.id place.site).taken =
      f.take findings.taken place := by
  unfold take
  cases f.meaning place with
  | foreign => rfl
  | unbound isParam => cases isParam <;> cases place.site <;> rfl
  | bound target => cases target <;> cases place.site <;> rfl

theorem taken_note (steps : List Step) (findings : Findings) :
    (steps.foldl f.note findings).taken =
      (steps.filterMap Step.place?).foldl f.take findings.taken := by
  induction steps generalizing findings with
  | nil => rfl
  | cons step rest ih =>
    rw [List.foldl_cons, ih]
    cases step with
    | ident place =>
      have hplace : Step.place? (.ident place) = some place := rfl
      rw [note, taken_record, List.filterMap_cons_some hplace, List.foldl_cons]
    | _ => rfl

theorem taken_findings : f.findings.taken = (f.steps.filterMap Step.place?).foldl f.take [] :=
  taken_note f.steps .empty

theorem toList_uses_findings :
    f.findings.uses.toList = (f.steps.filterMap Step.place?).filterMap f.use? := by
  rw [findings, uses_note]
  rfl

/-- The places of a renamed factory. -/
theorem renamed_places (f : Factory) (ρ : String → String) :
    List.Forall₂ (Place.Renamed ρ) ((f.rename ρ).steps.filterMap Step.place?)
      (f.steps.filterMap Step.place?) := by
  have hnil : Around.Renamed ρ ⟨[], false, true⟩ ⟨[], false, true⟩ := ⟨rfl, rfl⟩
  have hbody : Around.Renamed ρ (f.rename ρ).around f.around := ⟨rfl, rfl⟩
  have hkeep : Replacing := fun _ => .keep
  unfold steps
  rw [List.filterMap_append, List.filterMap_append, List.filterMap_append, List.filterMap_append]
  refine List.rel_append (List.rel_append ?_ ?_) ?_
  · exact (tracks_name hnil f.own : Tracks ρ hkeep hkeep _ _ _ _ _).places
  · exact (tracks_pats hnil f.params : Tracks ρ hkeep hkeep _ _ _ _ _).places
  · exact (tracks_stmts hbody f.body : Tracks ρ hkeep hkeep _ _ _ _ _).places

namespace Renamable

variable {p q : String}

/-- The places of the renamed factory, each with the place of the factory that it comes from. -/
theorem places_rename :
    List.Forall₂
      (fun place' place => .ident place ∈ f.steps ∧ Place.Renamed (substName p q) place' place)
      ((f.rename (substName p q)).steps.filterMap Step.place?)
      (f.steps.filterMap Step.place?) := by
  have hflip : List.Forall₂ (fun place place' => Place.Renamed (substName p q) place' place)
      (f.steps.filterMap Step.place?) ((f.rename (substName p q)).steps.filterMap Step.place?) :=
    (f.renamed_places (substName p q)).flip
  have hmem : ∀ place ∈ f.steps.filterMap Step.place?, .ident place ∈ f.steps :=
    fun place hplace => mem_filterMap_place?.1 hplace
  exact ((List.forall₂_and_left _ _).2 ⟨hmem, hflip⟩).flip

variable (h : f.Renamable p q)

include h

theorem taken_rename :
    (f.rename (substName p q)).findings.taken = f.findings.taken := by
  rw [taken_findings, taken_findings]
  refine List.rel_foldl ?_ rfl places_rename
  rintro taken _ rfl place' place ⟨hplace, hrenamed⟩
  unfold take
  rw [h.meaning_rename hplace hrenamed]
  by_cases hbound : (f.meaning place).isBound = true
  · rw [hbound]
    rfl
  · have hne : place.id.name ≠ p := fun hname => hbound (h.isBound_meaning hplace hname)
    rw [hrenamed.id, Ident.name_rename, substName_of_ne hne]

theorem uses_rename :
    List.Forall₂ (Use.Same (f.rename (substName p q)).binding f.binding)
      (f.rename (substName p q)).findings.uses.toList f.findings.uses.toList := by
  rw [toList_uses_findings, toList_uses_findings]
  refine List.rel_filterMap ?_ places_rename
  rintro place' place ⟨hplace, hrenamed⟩
  unfold use?
  rw [h.meaning_rename hplace hrenamed, hrenamed.isUse]
  split
  · refine .some ⟨?_, hrenamed.isDefault⟩
    simp only [Amd.Binding.path?, hrenamed.id, Ident.name_rename,
      h.get?_rename (h.fresh place hplace)]
  · exact .none

/-- The imports get the same names. -/
theorem locals_rename : (f.rename (substName p q)).locals = f.locals := by
  unfold locals
  rw [Imports.ofFindings_congr h.taken_rename h.uses_rename]

/-- In the body of the factory, what is put at a place is the same after the renaming, and no
occurrence of the parameter is left alone. -/
theorem fits (hplace : place ∈ f.places) :
    Fits (substName p q) ((f.rename (substName p q)).reference f.locals.imports)
      (f.reference f.locals.imports) place := by
  intro place' hrenamed
  have hmem := ident_mem_steps hplace
  refine ⟨h.reference_rename hmem hrenamed _, fun hkeep => substName_of_ne fun hname => ?_⟩
  have huse : place.isUse = true := by
    by_contra hdeclares
    exact h.undeclared place hplace (Bool.not_eq_true _ ▸ hdeclares) hname
  -- A parameter that is used and kept would be taken, and so would not be bound.
  obtain ⟨place₀, hmem₀, hname₀, hunbound⟩ :=
    mem_taken.1 (mem_taken_of_keep hplace huse hkeep)
  rw [h.isBound_meaning hmem₀ (hname₀.trans hname)] at hunbound
  cases hunbound

/-- The module stays the same. -/
theorem module_rename : (f.rename (substName p q)).module = f.module := by
  have hsuits : Suits (substName p q) ((f.rename (substName p q)).reference f.locals.imports)
      (f.reference f.locals.imports) (stepsStmts f.around f.body) f.mentions :=
    ⟨fun place hplace => h.fits (mem_places.2 hplace),
      fun place hplace => substName_of_ne (h.notShorthand place hplace)⟩
  have haround : Around.Renamed (substName p q) (f.rename (substName p q)).around f.around :=
    ⟨rfl, rfl⟩
  rw [module_eq_rewrite, module_eq_rewrite, h.locals_rename]
  exact congrArg (fun body => (⟨f.name, .code f.locals.imports body⟩ : Module))
    ((tracks_stmts haround f.body).result hsuits)

end Renamable

end Factory

-- ---------------------------------------------------------------------------
-- Renamed definitions
-- ---------------------------------------------------------------------------

/-- The arguments of a call that defines a module, with the names in its factory changed. -/
def renameArgs (ρ : String → String) : List Expr → List Expr
  | [name, dependencies, .fn own function] =>
    [name, dependencies, renameExpr ρ (.fn own function)]
  | args => args

theorem mapM_paramName?_rename (ρ : String → String) (params : List Pat) :
    (renamePats ρ params).mapM Amd.paramName? =
      (params.mapM Amd.paramName?).map (·.map ρ) := by
  induction params with
  | nil => rfl
  | cons param rest ih =>
    rw [renamePats, List.mapM_cons, List.mapM_cons, ih]
    cases param with
    | ident id => cases rest.mapM Amd.paramName? <;> rfl
    | _ => rfl

/-- A factory with renamed parameters is still one. -/
theorem moduleDefinition?_rename {name deps : Expr} {own : Option Ident} {span : Span}
    {isAsync isGenerator : Bool} {params : List Pat} {body : List Stmt} {d : Amd.Definition}
    (h : Amd.moduleDefinition? [name, deps, .fn own (.mk span isAsync isGenerator params body)] =
      some d)
    (ρ : String → String) (own' : Option Ident) (body' : List Stmt) :
    Amd.moduleDefinition?
        [name, deps, .fn own' (.mk span isAsync isGenerator (renamePats ρ params) body')] =
      some { d with params := d.params.map ρ } ∧ params ≠ [] := by
  cases deps with
  | array at_ deps =>
    simp only [Amd.moduleDefinition?, Option.bind_eq_bind, Option.bind_eq_some_iff] at h
    obtain ⟨path, hpath, dependencies, hdependencies, names, hnames, hd⟩ := h
    split at hd
    · cases hd
    · rename_i hempty
      cases hd
      constructor
      · simp only [List.isEmpty_iff] at hempty
        simp [Amd.moduleDefinition?, hpath, hdependencies, mapM_paramName?_rename, hnames,
          hempty]
      · rintro rfl
        cases hnames
        exact hempty rfl
  | _ => cases h

/-- With parameters, the factory is none of a text asset. -/
theorem textAsset?_of_params {name deps : Expr} {own : Option Ident} {span : Span}
    {isAsync isGenerator : Bool} {param : Pat} {params : List Pat} {body : List Stmt} :
    Amd.textAsset?
      [name, deps, .fn own (.mk span isAsync isGenerator (param :: params) body)] = none := by
  unfold Amd.textAsset?
  split
  · rename_i heq
    simp at heq
  · rfl

/-- A renamed definition defines the renamed module. -/
theorem found?_renameArgs {callee : Expr} {args : List Expr} {f : Factory} (ρ : String → String)
    (h : found? callee args = some (.module f)) :
    found? callee (renameArgs ρ args) = some (.module (f.rename ρ)) := by
  unfold found? at h
  split at h
  · rename_i d name deps own span isAsync isGenerator params body hd
    cases h
    obtain ⟨hmodule, hparams⟩ := moduleDefinition?_rename (moduleDefinition?_of_recognize hd) ρ
      (own.map (·.rename ρ)) (renameStmts ρ body)
    have hdefine : Amd.isDefine callee = true := by
      by_contra hother
      rw [Bool.not_eq_true] at hother
      simp [Amd.recognize, hother] at hd
    have htext : Amd.textAsset? [name, deps, .fn (own.map (·.rename ρ))
        (.mk span isAsync isGenerator (renamePats ρ params) (renameStmts ρ body))] = none := by
      cases params with
      | nil => exact absurd rfl hparams
      | cons param params => exact textAsset?_of_params
    have hrecognize : Amd.recognize callee [name, deps, .fn (own.map (·.rename ρ))
        (.mk span isAsync isGenerator (renamePats ρ params) (renameStmts ρ body))] =
          .module { d with params := d.params.map ρ } := by
      simp [Amd.recognize, hdefine, htext, hmodule]
    simp [found?, renameArgs, renameExpr, renameFunction, hrecognize, Factory.rename]
  · cases h
  · cases h

/-- A call defines a module wherever it stands. -/
theorem exists_found_of_erase {callee callee' : Expr} {args args' : List Expr} {f : Factory}
    (hcallee : eraseExpr callee' = eraseExpr callee) (hargs : eraseExprs args' = eraseExprs args)
    (hf : found? callee args = some (.module f)) :
    ∃ f', found? callee' args' = some (.module f') := by
  have hrecognize : Amd.recognize callee' args' = Amd.recognize callee args := by
    rw [← Amd.recognize_erase callee' args', hcallee, hargs, Amd.recognize_erase]
  unfold found? at hf
  split at hf
  · rename_i d name deps own span isAsync isGenerator params body hd
    rw [hd] at hrecognize
    obtain ⟨_, _, own', span', _, _, params', body', rfl, -⟩ := recognize_eq_module hrecognize
    refine ⟨⟨d.name, d.dependencies, own', span', params', body'⟩, ?_⟩
    simp only [found?, hrecognize]
  · cases hf
  · cases hf

/-- The names of parameters do not matter. If a bound parameter `p` of a factory gets the name `q`
throughout the factory, the call still defines a module, and what is handed over for it is the same
up to spans: its name, its imports and its statements. -/
theorem parameter_names_irrelevant {callee callee' : Expr} {args args' : List Expr} {f : Factory}
    {p q : String} (hf : found? callee args = some (.module f)) (h : f.Renamable p q)
    (hcallee : eraseExpr callee' = eraseExpr callee)
    (hargs : eraseExprs args' = eraseExprs (renameArgs (substName p q) args)) :
    ∃ f' : Factory,
      found? callee' args' = some (.module f') ∧
        ∀ {σ σ' ε ε' : Type} (sink : Sink σ ε) (sink' : Sink σ' ε') (settings settings' : Settings)
          (start : σ) (start' : σ') (script script' : Script) (k k' : Nat) (m m' : Module),
          script.definitions[k]? = some (.module f) →
          (handed sink settings start script)[k]? = some m →
          script'.definitions[k']? = some (.module f') →
          (handed sink' settings' start' script')[k']? = some m' → m'.erase = m.erase := by
  have hrenamed := found?_renameArgs (substName p q) hf
  obtain ⟨f', hf'⟩ := exists_found_of_erase hcallee hargs hrenamed
  refine ⟨f', hf', ?_⟩
  intro σ σ' ε ε' sink sink' settings settings' start start' script script' k k' m m' hk hm hk' hm'
  have hsame : f'.module.erase = (f.rename (substName p q)).module.erase :=
    toModule_congr hcallee hargs hrenamed hf'
  rw [toModule_of_handed hk hm, toModule_of_handed hk' hm']
  exact hsame.trans (congrArg Module.erase h.module_rename)

/-- `function (a) { return [{ a }, a.default]; }` -/
def aliasedSample : Factory where
  name := "m"
  dependencies := ["lib/x"]
  own := none
  span := ⟨24, 67⟩
  params := [.ident ⟨"a", ⟨34, 35⟩⟩]
  body :=
    [.returnStmt (some (.array ⟨46, 64⟩
      [.object ⟨47, 52⟩ [.shorthand ⟨"a", ⟨49, 50⟩⟩],
        .member ⟨54, 63⟩ (.ident ⟨"a", ⟨54, 55⟩⟩) (.named "default")]))]

theorem renamable_aliasedSample : aliasedSample.Renamable "a" "c" := by
  obtain ⟨x, y, z, hsteps, hx, hy, hz⟩ : ∃ x y z : Place,
      aliasedSample.steps = [.ident x, .ident y, .ident z] ∧
        x.id.name = "a" ∧ y.id.name = "a" ∧ z.id.name = "a" := ⟨_, _, _, rfl, rfl, rfl, rfl⟩
  obtain ⟨name, place, hmentions⟩ : ∃ name place,
      aliasedSample.mentions = [.fixed name, .default place] := ⟨_, _, rfl⟩
  constructor
  · rfl
  · decide
  · simp [hsteps]
  · simp [hmentions]
  · simp [hsteps, hx, hy, hz]

/-- The arguments of the call that defines the module of `aliasedSample`. -/
def aliasedArgs : List Expr :=
  [.lit aliasedSample.span (.str (quote "m") "m"),
    .array aliasedSample.span [.lit aliasedSample.span (.str (quote "lib/x") "lib/x")],
    .fn none (.mk aliasedSample.span false false aliasedSample.params aliasedSample.body)]

theorem parameter_names_irrelevant_aliasedSample :
    ∃ f' : Factory,
      found? (.ident ⟨"define", .nowhere⟩)
          (eraseExprs (renameArgs (substName "a" "c") aliasedArgs)) = some (.module f') ∧
        ∀ {σ σ' ε ε' : Type} (sink : Sink σ ε) (sink' : Sink σ' ε') (settings settings' : Settings)
          (start : σ) (start' : σ') (script script' : Script) (k k' : Nat) (m m' : Module),
          script.definitions[k]? = some (.module aliasedSample) →
          (handed sink settings start script)[k]? = some m →
          script'.definitions[k']? = some (.module f') →
          (handed sink' settings' start' script')[k']? = some m' → m'.erase = m.erase :=
  parameter_names_irrelevant
    (show found? (.ident ⟨"define", aliasedSample.span⟩) aliasedArgs =
      some (.module aliasedSample) from rfl)
    renamable_aliasedSample rfl rfl

end Engine
end Unbundle

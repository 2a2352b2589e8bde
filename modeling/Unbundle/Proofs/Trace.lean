-- SUMMARY: What the walk meets: every declared name, inside of a scope that was entered before.
import Unbundle.Proofs.Composition

/-!
# Traces

`Traced scopes names steps` says of the steps of a piece of code that nothing is declared out of
sight. The names that the code declares are met as identifiers, and so are those that a scope in it
declares, inside of that scope. All scopes around an identifier are those around the code, `scopes`,
or they are entered on the way to it. All code is traced (`traced_stmts`).

Most identifiers that declare a name by the grammar are met as declarations. `Spotted` tells which
are not: those that stand in a static block, or are shadowed (`Factory.inStaticBlock_of_misread`).
-/

namespace Unbundle.Engine

open Script

-- ---------------------------------------------------------------------------
-- Names that are met
-- ---------------------------------------------------------------------------

/-- The steps show what the code declares. -/
structure Traced (scopes : Scope.Stack) (names : List String) (steps : List Step) : Prop where
  delivers : ∀ name ∈ names,
    ∃ place, .ident place ∈ steps ∧ place.id.name = name ∧ scopes <:+ place.scopes
  declared : ∀ scope, .enter scope ∈ steps → ∀ name ∈ scope.declared,
    ∃ place, .ident place ∈ steps ∧ place.id.name = name ∧ scope ∈ place.scopes
  entered : ∀ place, .ident place ∈ steps → ∀ scope ∈ place.scopes,
    scope ∈ scopes ∨ .enter scope ∈ steps

namespace Traced

variable {scopes : Scope.Stack} {names names' : List String} {steps steps' : List Step}

theorem nil : Traced scopes [] [] := by
  refine ⟨?_, ?_, ?_⟩ <;> simp

/-- Neither an identifier nor a scope is met. -/
theorem undefined (place : Place) : Traced scopes [] [.undefined place] := by
  refine ⟨?_, ?_, ?_⟩ <;> simp

theorem append (h : Traced scopes names steps) (h' : Traced scopes names' steps') :
    Traced scopes (names ++ names') (steps ++ steps') where
  delivers name hname := by
    rcases List.mem_append.1 hname with hname | hname
    · obtain ⟨place, hmem, hplace⟩ := h.delivers name hname
      exact ⟨place, List.mem_append_left _ hmem, hplace⟩
    · obtain ⟨place, hmem, hplace⟩ := h'.delivers name hname
      exact ⟨place, List.mem_append_right _ hmem, hplace⟩
  declared scope hscope name hname := by
    rcases List.mem_append.1 hscope with hscope | hscope
    · obtain ⟨place, hmem, hplace⟩ := h.declared scope hscope name hname
      exact ⟨place, List.mem_append_left _ hmem, hplace⟩
    · obtain ⟨place, hmem, hplace⟩ := h'.declared scope hscope name hname
      exact ⟨place, List.mem_append_right _ hmem, hplace⟩
  entered place hplace scope hscope := by
    rcases List.mem_append.1 hplace with hplace | hplace
    · exact (h.entered place hplace scope hscope).imp_right (List.mem_append_left _)
    · exact (h'.entered place hplace scope hscope).imp_right (List.mem_append_right _)

theorem ident {place : Place} (hscopes : place.scopes = scopes) (hnames : names ⊆ [place.id.name]) :
    Traced scopes names [.ident place] where
  delivers name hname :=
    ⟨place, by simp, (List.mem_singleton.1 (hnames hname)).symm, hscopes ▸ List.suffix_refl _⟩
  declared scope hscope := by simp at hscope
  entered p hp scope hscope := by
    rw [List.mem_singleton, Step.ident.injEq] at hp
    rw [hp, hscopes] at hscope
    exact .inl hscope

/-- The code of a scope has the names of the scope. -/
theorem within {scope : Scope} (h : Traced (scope :: scopes) (scope.declared ++ names) steps) :
    Traced scopes names (stepsWithin scope steps) where
  delivers name hname := by
    obtain ⟨place, hmem, hid, hsuffix⟩ := h.delivers name (List.mem_append_right _ hname)
    exact ⟨place, subset_stepsWithin _ _ hmem, hid, (List.suffix_cons scope scopes).trans hsuffix⟩
  declared s hs name hname := by
    simp only [stepsWithin, List.cons_append, List.mem_cons, List.mem_append, Step.enter.injEq,
      reduceCtorEq, false_or, List.not_mem_nil, or_false] at hs ⊢
    rcases hs with rfl | hs
    · obtain ⟨place, hmem, hid, hsuffix⟩ := h.delivers name (List.mem_append_left _ hname)
      exact ⟨place, hmem, hid, hsuffix.subset List.mem_cons_self⟩
    · exact h.declared s hs name hname
  entered place hplace s hs := by
    have hmem := mem_of_mem_stepsWithin hplace rfl
    rcases h.entered place hmem s hs with hin | hin
    · rcases List.mem_cons.1 hin with rfl | hin
      · exact .inr List.mem_cons_self
      · exact .inl hin
    · exact .inr (subset_stepsWithin _ _ hin)

theorem of_interior {around : Around} {scope : Scope} {α : Type} {p : Piece Unit Unit α}
    (h : Interior (fun around names p => Traced around.scopes names p.steps) around scope names p) :
    Traced (scope :: around.scopes) names p.steps := by
  induction h with
  | part hscope hpart => exact around.scopes_enter hscope ▸ hpart
  | map g _ ih => exact ih
  | seq _ _ ih ih' => exact ih.append ih'

end Traced

theorem compositional_traced :
    Compositional fun around names (p : Piece Unit Unit _) =>
      Traced around.scopes names p.steps where
  pure _ _ := .nil
  map _ h := h
  seq h h' := h.append h'
  unlessStopped _ h := h
  targeted h := h
  untargeted h := h
  ident around id site := .ident rfl (site.names_subset id)
  patternIdent around id := .ident rfl (around.declares_subset _)
  unary span op h := stepsExpr_unary span op h .nil fun _ => .undefined _
  call _ hcallee hargs _ := hcallee.append hargs
  scope h := .within (by simpa using Traced.of_interior h)
  block hscope _ _ _ h := Around.scopes_enter_of_none hscope _ ▸ h
  staticBlock h := ⟨nofun, h.declared, h.entered⟩
  handler _ _ _ hparam hbody := .within (Traced.append hparam hbody)

theorem traced_stmts {around : Around} (hlayers : Hoists around.layers)
    (hentered : around.entered = true) (body : List Stmt) :
    Traced around.scopes (stmtsDeclared body) (stepsStmts around body) :=
  compositional_traced.holds_stmts around hlayers hentered body

-- ---------------------------------------------------------------------------
-- Names that are introduced
-- ---------------------------------------------------------------------------

/-- The place stands in a static block. -/
def Place.inStaticBlock (p : Place) : Bool :=
  p.layers.any fun
    | .staticBlock _ => true
    | _ => false

/-- What is known of an identifier in code with this surrounding that declares these names. -/
structure Spotted (around : Around) (names : List String) (p : Place) : Prop where
  inside : around.layers <:+ p.layers
  /-- What introduces no name is taken to be used. -/
  use : p.binds = false → p.isUse = true
  reference : p.isMisread = true → p.site = .reference
  misread : p.isMisread = true → p.isShadowed = true ∨ p.inStaticBlock = true ∨
    p.id.name ∈ names ∧ around.inTarget = true

namespace Spotted

variable {around : Around} {names names' : List String} {p : Place}

theorem mono (h : Spotted around names p) (hnames : names ⊆ names') : Spotted around names' p :=
  { h with misread := fun hp => (h.misread hp).imp_right (.imp_right (.imp_left (hnames ·))) }

theorem place (around : Around) (id : Ident) (site : Site) :
    Spotted around (site.names id) (around.place id site) where
  inside := List.suffix_refl _
  use h := by cases site <;> simp_all [Around.place, Site.declares, Place.isUse]
  reference h := by
    cases site <;> simp_all [Around.place, Site.declares, Place.isUse, Place.isMisread]
  misread h := by
    cases site <;> simp_all [Around.place, Site.declares, Place.isUse, Place.isMisread]

theorem patternPlace (around : Around) (id : Ident) :
    Spotted around (around.declares [id.name]) (around.patternPlace id) where
  inside := List.suffix_refl _
  use h := by
    obtain ⟨layers, inTarget, entered⟩ := around
    cases inTarget <;> simp_all [Around.patternPlace, Around.binds, Place.isUse]
  reference h := by
    obtain ⟨layers, inTarget, entered⟩ := around
    cases inTarget <;> simp_all [Around.patternPlace, Place.isUse, Place.isMisread]
  misread h := by
    obtain ⟨layers, inTarget, entered⟩ := around
    cases inTarget <;>
      simp_all [Around.patternPlace, Around.binds, Around.declares, Place.isUse, Place.isMisread]

/-- A block has what it declares in common with the code around it. -/
theorem block {layer : Layer} (h : Spotted (around.enter layer) names p) :
    Spotted around names p :=
  { h with inside := (List.suffix_cons layer _).trans h.inside }

theorem staticBlock {body : List Stmt} (h : Spotted (around.enter (.staticBlock body)) names p) :
    Spotted around [] p where
  inside := (List.suffix_cons _ _).trans h.inside
  use := h.use
  reference := h.reference
  misread hp := by
    have hmem : Layer.staticBlock body ∈ p.layers := h.inside.subset List.mem_cons_self
    exact .inr (.inl (List.any_eq_true.2 ⟨_, hmem, rfl⟩))

/-- What a scope declares is shadowed in it. -/
theorem scope {layer : Layer} {scope : Scope} (hlayer : layer.scope? = some scope)
    (hnames : names ⊆ scope.declared) (h : Spotted (around.enter layer) names p) :
    Spotted around [] p where
  inside := (List.suffix_cons layer _).trans h.inside
  use := h.use
  reference := h.reference
  misread hp := by
    rcases h.misread hp with hshadowed | hstatic | ⟨hname, -⟩
    · exact .inl hshadowed
    · exact .inr (.inl hstatic)
    · have hmem : layer ∈ p.layers := h.inside.subset List.mem_cons_self
      exact .inl (List.any_eq_true.2 ⟨scope, List.mem_filterMap.2 ⟨layer, hmem, hlayer⟩,
        List.contains_iff_mem.2 (hnames hname)⟩)

theorem of_interior {scope : Scope} {α : Type} {q : Piece Unit Unit α}
    (h : Interior (fun around names q => ∀ p, .ident p ∈ q.steps → Spotted around names p) around
      scope names q) (hnames : names ⊆ scope.declared) :
    ∀ p, .ident p ∈ q.steps → Spotted around [] p := by
  induction h with
  | part hscope hpart => exact fun p hp => (hpart p hp).scope hscope hnames
  | map g _ ih => exact ih hnames
  | seq _ _ ih ih' =>
    rw [List.append_subset] at hnames
    intro p hp
    rcases List.mem_append.1 hp with hp | hp
    · exact ih hnames.1 p hp
    · exact ih' hnames.2 p hp

end Spotted

theorem compositional_spotted :
    Compositional fun around names (q : Piece Unit Unit _) =>
      ∀ p, .ident p ∈ q.steps → Spotted around names p where
  pure _ _ := nofun
  map _ h := h
  seq h h' p hp := by
    rcases List.mem_append.1 hp with hp | hp
    · exact (h p hp).mono (List.subset_append_left _ _)
    · exact (h' p hp).mono (List.subset_append_right _ _)
  unlessStopped _ h := h
  targeted h p hp :=
    have hspotted := h p hp
    { hspotted with misread := fun hm => by simpa using hspotted.misread hm }
  untargeted h p hp :=
    have hspotted := h p hp
    { hspotted with misread := fun hm =>
      (hspotted.misread hm).imp_right (.imp_right fun h => absurd h.2 Bool.false_ne_true) }
  ident around id site p hp := by
    obtain rfl : p = around.place id site := by simpa [Piece.ident] using hp
    exact .place around id site
  patternIdent around id p hp := by
    obtain rfl : p = around.patternPlace id := by simpa [Piece.patternIdent] using hp
    exact .patternPlace around id
  unary span op h p := stepsExpr_unary (motive := fun steps => .ident p ∈ steps → Spotted _ _ p)
    span op (h p) nofun fun id => by simp
  call _ hcallee hargs _ p hp := (List.mem_append.1 hp).elim (hcallee p) (hargs p)
  scope h p hp := Spotted.of_interior h (List.Subset.refl _) p (mem_of_mem_stepsWithin hp rfl)
  block _ _ _ _ h p hp := (h p hp).block
  staticBlock h p hp := (h p hp).staticBlock
  handler _ _ _ hparam hbody p hp := by
    rcases List.mem_append.1 (mem_of_mem_stepsWithin hp rfl) with hp | hp
    · exact ((hparam p hp).scope rfl (List.Subset.refl _)).mono (List.nil_subset _)
    · exact (hbody p hp).block.block

namespace Factory

variable {f : Factory} {p : Place}

theorem spotted (hp : p ∈ f.places) : Spotted f.around (stmtsDeclared f.body) p :=
  compositional_spotted.holds_stmts f.around rfl rfl f.body p (mem_places.1 hp)

/-- What introduces no name is taken to be used. -/
theorem isUse_of_place (hp : p ∈ f.places) (hbinds : p.binds = false) : p.isUse = true :=
  (spotted hp).use hbinds

/-- What introduces a name but is taken to be used stands in a static block, unless it is shadowed. -/
theorem inStaticBlock_of_misread (hp : p ∈ f.places) (hmisread : p.isMisread = true)
    (hs : p.isShadowed = false) : p.inStaticBlock = true := by
  rcases (spotted hp).misread hmisread with hshadowed | hstatic | ⟨-, htarget⟩
  · rw [hs] at hshadowed
    cases hshadowed
  · exact hstatic
  · cases htarget

/-- What is taken to be used introduces no name, or it is one of these. -/
theorem isUse_iff (hp : p ∈ f.places) :
    p.isUse = true ↔ p.binds = false ∨ p.isMisread = true := by
  constructor
  · intro huse
    cases hbinds : p.binds with
    | false => exact .inl rfl
    | true => exact .inr (by simp [Place.isMisread, hbinds, huse])
  · rintro (hbinds | hmisread)
    · exact isUse_of_place hp hbinds
    · exact (Bool.and_eq_true_iff.1 hmisread).2

end Factory
end Unbundle.Engine

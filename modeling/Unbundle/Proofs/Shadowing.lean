-- SUMMARY: Which uses of a parameter give way to an import, in terms of lexical scope.
import Unbundle.Proofs.Emission
import Unbundle.Proofs.Trace

/-!
# Shadowing

A reference to a parameter gives way to an import if no scope of the walk declares its name again.
What the walk declares in a scope is what is written there (`Layer.declares_iff_mem_written`), which
is lexical scope but for two things. The name may be declared around the place where no function is,
and then the walk takes it for the parameter (`Place.isMissed`). And a function around the place may
declare the name elsewhere, and then the walk leaves the parameter alone (`Place.isHidden`).

Inside of functions no block is missed, because all code is `Attributed`: a function's scope has the
names of every block that belongs to it.
-/

namespace Unbundle.Engine

open Script

-- ---------------------------------------------------------------------------
-- Attribution
-- ---------------------------------------------------------------------------

/-- The function that owns the code inside of these layers, if there is one, declares the names. -/
def Covers (layers : List Layer) (names : List String) : Prop :=
  ∀ scope, Owner.of layers = .function scope → ∀ name ∈ names, scope.declares name = true

/-- What a block in a function declares is declared in the scope of that function. -/
def Attributed : List Layer → Prop
  | [] => True
  | layer :: outer =>
    (layer.scope? = none → Covers (layer :: outer) layer.names) ∧ Attributed outer

theorem Covers.append {layers : List Layer} {names names' : List String} :
    Covers layers (names ++ names') ↔ Covers layers names ∧ Covers layers names' := by
  constructor
  · intro h
    exact ⟨fun scope hscope name hname => h scope hscope name (List.mem_append_left _ hname),
      fun scope hscope name hname => h scope hscope name (List.mem_append_right _ hname)⟩
  · rintro ⟨h, h'⟩ scope hscope name hname
    rcases List.mem_append.1 hname with hname | hname
    · exact h scope hscope name hname
    · exact h' scope hscope name hname

theorem Covers.nil {layers : List Layer} : Covers layers [] := by
  intro scope hscope name hname
  cases hname

theorem Owner.of_transparent {layer : Layer} (h : layer.isTransparent = true)
    (layers : List Layer) : Owner.of (layer :: layers) = Owner.of layers := by
  cases layer <;> first | rfl | cases h

theorem Covers.transparent {layer : Layer} {layers : List Layer} {names : List String}
    (hlayer : layer.isTransparent = true) (h : Covers layers names) :
    Covers (layer :: layers) names := by
  intro scope hscope
  rw [Owner.of_transparent hlayer] at hscope
  exact h scope hscope

theorem Covers.staticBlock (body : List Stmt) (layers : List Layer) (names : List String) :
    Covers (.staticBlock body :: layers) names := by
  intro scope hscope
  cases hscope

theorem Covers.of_owner {layers : List Layer} {names : List String} {scope : Scope}
    (howner : Owner.of layers = .function scope) (h : names ⊆ scope.declared) :
    Covers layers names := by
  intro scope' hscope name hname
  rw [howner, Owner.function.injEq] at hscope
  rw [← hscope, Scope.declares, List.contains_iff_mem]
  exact h hname

theorem Attributed.scope {layer : Layer} {layers : List Layer} {scope : Scope}
    (hlayer : layer.scope? = some scope) (h : Attributed layers) :
    Attributed (layer :: layers) := by
  refine ⟨fun hnone => ?_, h⟩
  rw [hlayer] at hnone
  cases hnone

/-- A function owns what stands right in it. -/
theorem Owner.of_cons_of_hoists {layer : Layer} {layers : List Layer} {scope : Scope}
    (hscope : layer.scope? = some scope) (h : Hoists (layer :: layers)) :
    Owner.of (layer :: layers) = .function scope := by
  cases layer with
  | function span own params body part | arrow span params body part | arrowExpr span params =>
    cases hscope
    rfl
  | namedClass name cls | handler span param =>
    have hle : layers.length + 1 ≤ layers.length := hoist?_le h.symm
    exact absurd hle (Nat.not_succ_le_self _)
  | factory body | block body | loop names | switch cases | staticBlock body => cases hscope

/-- If what surrounds a piece of code attributes its declarations, so does what surrounds the parts
of the code. -/
def Attributes (layers : List Layer) (names : List String) (steps : List Step) : Prop :=
  Attributed layers → (Hoists layers → Covers layers names) →
    ∀ step ∈ steps, ∀ place, step.spot? = some place → Attributed place.layers

namespace Attributes

variable {layers : List Layer} {names names' : List String} {steps steps' : List Step}

theorem append (h : Attributes layers names steps) (h' : Attributes layers names' steps') :
    Attributes layers (names ++ names') (steps ++ steps') := by
  intro hlayers hcovers step hstep
  have hboth := fun h => Covers.append.1 (hcovers h)
  rcases List.mem_append.1 hstep with hstep | hstep
  · exact h hlayers (fun h => (hboth h).1) step hstep
  · exact h' hlayers (fun h => (hboth h).2) step hstep

theorem spot {step : Step} {place : Place} (hspot : step.spot? = some place)
    (hplace : place.layers = layers) : Attributes layers names [step] := by
  intro hlayers _ step' hstep place' hspot'
  obtain rfl := List.mem_singleton.1 hstep
  rw [hspot, Option.some.injEq] at hspot'
  rw [← hspot', hplace]
  exact hlayers

theorem within (scope : Scope) (h : Attributes layers names steps) :
    Attributes layers names (stepsWithin scope steps) :=
  fun hlayers hcovers step hstep place hspot =>
    h hlayers hcovers step (mem_of_mem_stepsWithin hstep hspot) place hspot

/-- A layer that opens a scope takes the names that are declared right in it. -/
theorem scope {layer : Layer} {scope : Scope} (hscope : layer.scope? = some scope)
    (hnames : names ⊆ scope.declared) (h : Attributes (layer :: layers) names steps) :
    Attributes layers [] steps :=
  fun hlayers _ => h (hlayers.scope hscope) fun hhoists =>
    .of_owner (Owner.of_cons_of_hoists hscope hhoists) hnames

theorem block {layer : Layer} (hlayer : layer.isTransparent = true) (hnames : layer.names ⊆ names)
    (hhoists : Hoists layers) (h : Attributes (layer :: layers) names steps) :
    Attributes layers names steps := by
  intro hlayers hcovers
  have hblock := (hcovers hhoists).transparent hlayer
  exact h ⟨fun _ scope howner name hname => hblock scope howner name (hnames hname), hlayers⟩
    fun _ => hblock

theorem staticBlock {body : List Stmt} (h : Attributes (.staticBlock body :: layers) names steps) :
    Attributes layers [] steps :=
  fun hlayers _ => h ⟨fun _ => .staticBlock body _ _, hlayers⟩ fun _ => .staticBlock body _ _

/-- The body of a catch clause belongs to the code around the clause. -/
theorem catchBody {span : Span} {param : Option Pat} {body : List Stmt}
    (hnames : lexicalNames body ⊆ names) (hhoists : Hoists layers)
    (h : Attributes (.block body :: .handler span param :: layers) names steps) :
    Attributes layers names steps := by
  intro hlayers hcovers
  have hbody : Covers (.block body :: .handler span param :: layers) names :=
    ((hcovers hhoists).transparent rfl).transparent rfl
  exact h ⟨fun _ scope howner name hname => hbody scope howner name (hnames hname),
    hlayers.scope rfl⟩ fun _ => hbody

theorem of_interior {around : Around} {scope : Scope} {α : Type} {p : Piece Unit Unit α}
    (h : Interior (fun around names p => Attributes around.layers names p.steps) around scope names
      p) (hnames : names ⊆ scope.declared) : Attributes around.layers [] p.steps := by
  induction h with
  | part hscope hpart => exact hpart.scope hscope hnames
  | map g _ ih => exact ih hnames
  | seq _ _ ih ih' =>
    rw [List.append_subset] at hnames
    exact (ih hnames.1).append (ih' hnames.2)

end Attributes

theorem compositional_attributes :
    Compositional fun around names (p : Piece Unit Unit _) =>
      Attributes around.layers names p.steps where
  pure _ _ := fun _ _ _ hstep => nomatch hstep
  map _ h := h
  seq h h' := h.append h'
  unlessStopped _ h := h
  targeted h := h
  untargeted h := h
  ident _ _ _ := .spot rfl rfl
  patternIdent _ _ := .spot rfl rfl
  unary span op h := stepsExpr_unary span op h (fun _ _ _ hstep => nomatch hstep) fun _ =>
    .spot rfl rfl
  call _ hcallee hargs _ := hcallee.append hargs
  scope h := (Attributes.of_interior h (List.Subset.refl _)).within _
  block _ hlayer hnames hhoists h := h.block hlayer hnames hhoists
  staticBlock h := h.staticBlock
  handler _ hnames hhoists hparam hbody :=
    ((hparam.scope rfl (List.Subset.refl _)).append (hbody.catchBody hnames hhoists)).within _

/-- All code of a factory is attributed. -/
theorem Factory.attributed_spot {f : Factory} {step : Step} {place : Place}
    (hstep : step ∈ stepsStmts f.around f.body) (hspot : step.spot? = some place) :
    Attributed place.layers := by
  have hcovers : ∀ names, Covers f.around.layers names := by
    intro names scope hscope
    cases hscope
  exact compositional_attributes.holds_stmts f.around rfl rfl f.body ⟨fun _ => hcovers _, trivial⟩
    (fun _ => hcovers _) step hstep place hspot

/-- The scope of the function that owns a piece of code is open there. -/
theorem Owner.mem_scopes {layers : List Layer} {scope : Scope}
    (h : Owner.of layers = .function scope) : scope ∈ layers.filterMap Layer.scope? := by
  induction layers with
  | nil => cases h
  | cons layer outer ih =>
    cases layer with
    | factory body => cases h
    | staticBlock body => cases h
    | function span own params body part | arrow span params body part | arrowExpr span params =>
      cases h
      exact List.mem_cons_self
    | namedClass name cls | handler span param => exact List.mem_cons_of_mem _ (ih h)
    | block body | loop names | switch cases => exact ih h

/-- The walk declares in a scope what is written there. -/
theorem Layer.declares_iff_mem_written {layer : Layer} {scope : Scope} {name : String}
    (hscope : layer.scope? = some scope) : scope.declares name = true ↔ name ∈ layer.written := by
  rw [Scope.declares, List.contains_iff_mem]
  cases layer with
  | factory body | block body | loop names | switch cases | staticBlock body => cases hscope
  | namedClass id cls | handler span param | arrowExpr span params =>
    cases hscope
    rfl
  | arrow span params body part | function span own params body part =>
    cases hscope
    simp [Scope.ofFunction, written, mem_stmtsDeclared_iff_bodyNames]

/-- What is declared around attributed code is written in something that opens a scope, or it is
declared where no function is. -/
theorem Attributed.written_or_escapes {layer : Layer} {outer : List Layer} {name : String}
    (h : Attributed (layer :: outer)) (hname : name ∈ layer.names) :
    (∃ l ∈ layer :: outer, name ∈ l.written) ∨ layer.escapes name outer = true := by
  have hblock : layer.scope? = none → (∃ l ∈ layer :: outer, name ∈ l.written) ∨
      (!(Owner.of (layer :: outer)).isFunction) = true := by
    intro hnone
    cases howner : Owner.of (layer :: outer) with
    | factory | staticBlock => exact .inr rfl
    | function scope =>
      obtain ⟨l, hl, hscope⟩ := List.mem_filterMap.1 (Owner.mem_scopes howner)
      have hdeclares := h.1 hnone scope howner name hname
      exact .inl ⟨l, hl, (Layer.declares_iff_mem_written hscope).1 hdeclares⟩
  cases layer with
  | factory body | block body | loop names | switch cases | staticBlock body => exact hblock rfl
  | function span own params body part =>
    by_cases hwritten : name ∈ Layer.written (.function span own params body part)
    · exact .inl ⟨_, List.mem_cons_self, hwritten⟩
    · exact .inr (by simpa [Layer.escapes] using hwritten)
  | namedClass id cls | handler span param | arrowExpr span params =>
    exact .inl ⟨_, List.mem_cons_self, hname⟩
  | arrow span params body part =>
    refine .inl ⟨_, List.mem_cons_self, ?_⟩
    cases part <;> grind [Layer.names, Layer.written, bodyNames]

theorem Attributed.allEscape {layers : List Layer} {name : String} (h : Attributed layers)
    (hwritten : ∀ layer ∈ layers, name ∉ layer.written) : Layer.allEscape name layers = true := by
  induction layers with
  | nil => rfl
  | cons layer outer ih =>
    have houter := ih h.2 fun l hl => hwritten l (List.mem_cons_of_mem _ hl)
    rw [Layer.allEscape, houter, Bool.and_true, Bool.or_eq_true, Bool.not_eq_true',
      ← Bool.not_eq_true, List.contains_iff_mem]
    refine Classical.or_iff_not_imp_left.2 fun hname => ?_
    rcases h.written_or_escapes (Classical.not_not.1 hname) with ⟨l, hl, hmem⟩ | hescapes
    · exact absurd hmem (hwritten l hl)
    · exact hescapes

namespace Place

variable {p : Place}

end Place

-- ---------------------------------------------------------------------------
-- Rewritten uses
-- ---------------------------------------------------------------------------

end Unbundle.Engine

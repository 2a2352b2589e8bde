-- SUMMARY: Which scope a declaration belongs to, and why code declares no names but the collected ones.
import Unbundle.Proofs.Composition

/-!
# Where names are declared

A parameter, the parameter of a catch clause, and the own name of a function or class expression
belong to the scope that they open. All other declarations are hoisted: they belong to the innermost
function around them, past blocks, loops, catch clauses and named classes, or to the script. What a
static block declares belongs to no scope. `Place.home?` gives the depth of the owner.

`Housed layers names steps` says of the steps of a piece of code that each declaration among them
belongs to a scope further in, or to none, or to the scope around the code, and then its name is one
of `names`. This is a compositional property, so the names collected from any code suffice
(`housed_stmts`).
-/

namespace Unbundle.Engine

open Script

/-- The depth of the layer that a declared name belongs to. -/
def Place.home? (p : Place) : Option Nat :=
  Engine.home? p.layers

/-- The declared name belongs to a scope further in than these layers, or to none. -/
def Place.IsInner (p : Place) (layers : List Layer) : Prop :=
  ∀ depth, p.home? = some depth → layers.length < depth

/-- The declared name belongs to the same layer as what is declared right in these layers. -/
def Place.IsHoisted (p : Place) (layers : List Layer) : Prop :=
  layers <:+ p.layers ∧ p.home? = Engine.home? layers

/-- The declarations among the steps belong further in, unless they are some of `names`. -/
def Housed (layers : List Layer) (names : List String) (steps : List Step) : Prop :=
  ∀ p, .ident p ∈ steps → p.site = .declaration →
    p.IsInner layers ∨ p.IsHoisted layers ∧ p.id.name ∈ names

namespace Housed

variable {layers : List Layer} {layer : Layer} {names names' : List String}
  {steps steps' : List Step}

theorem nil : Housed layers names [] := by
  intro p hp
  cases hp

theorem mono (h : Housed layers names steps) (hnames : names ⊆ names') :
    Housed layers names' steps := by
  intro p hp hsite
  rcases h p hp hsite with hinner | ⟨hhoisted, hname⟩
  · exact .inl hinner
  · exact .inr ⟨hhoisted, hnames hname⟩

theorem append (h : Housed layers names steps) (h' : Housed layers names' steps') :
    Housed layers (names ++ names') (steps ++ steps') := by
  intro p hp hsite
  rcases List.mem_append.1 hp with hp | hp
  · exact h.mono (List.subset_append_left _ _) p hp hsite
  · exact h'.mono (List.subset_append_right _ _) p hp hsite

/-- An identifier that is used. -/
theorem use {p : Place} (h : p.site ≠ .declaration) : Housed layers [] [.ident p] := by
  intro p' hp' hsite
  rw [List.mem_singleton, Step.ident.injEq] at hp'
  exact absurd (hp' ▸ hsite) h

/-- An identifier that is declared right here. -/
theorem declaration {p : Place} (h : p.layers = layers) :
    Housed layers [p.id.name] [.ident p] := by
  intro p' hp' _
  rw [List.mem_singleton, Step.ident.injEq] at hp'
  have hlayers : p'.layers = layers := by rw [hp', h]
  refine .inr ⟨⟨?_, ?_⟩, ?_⟩
  · exact hlayers ▸ List.suffix_refl _
  · rw [Place.home?, hlayers]
  · rw [hp', List.mem_singleton]

theorem undefined (p : Place) : Housed layers names [.undefined p] := by
  intro p' hp'
  simp at hp'

theorem within (scope : Scope) (h : Housed layers names steps) :
    Housed layers names (stepsWithin scope steps) := by
  intro p hp hsite
  exact h p (mem_of_mem_stepsWithin hp rfl) hsite

/-- A layer keeps to itself what is declared in it. -/
theorem closed (h : Housed (layer :: layers) names steps)
    (hlayer : home? (layer :: layers) = some (layers.length + 1)) : Housed layers [] steps := by
  intro p hp hsite
  refine .inl fun depth hdepth => ?_
  rcases h p hp hsite with hinner | ⟨⟨-, hsame⟩, -⟩
  · exact Nat.lt_of_succ_lt (hinner depth hdepth)
  · rw [hsame, hlayer, Option.some.injEq] at hdepth
    omega

theorem staticBlock {body : List Stmt} (h : Housed (.staticBlock body :: layers) names steps) :
    Housed layers [] steps := by
  intro p hp hsite
  refine .inl fun depth hdepth => ?_
  rcases h p hp hsite with hinner | ⟨⟨-, hsame⟩, -⟩
  · exact Nat.lt_of_succ_lt (hinner depth hdepth)
  · rw [hsame] at hdepth
    cases hdepth

/-- Layers leave what is declared in them to the code around them. -/
theorem hoisted {inner : List Layer} (h : Housed inner names steps)
    (hlayers : home? inner = home? layers) (hsuffix : layers <:+ inner) :
    Housed layers names steps := by
  intro p hp hsite
  rcases h p hp hsite with hinner | ⟨⟨hp, hsame⟩, hname⟩
  · exact .inl fun depth hdepth => Nat.lt_of_le_of_lt hsuffix.length_le (hinner depth hdepth)
  · exact .inr ⟨⟨hsuffix.trans hp, hsame.trans hlayers⟩, hname⟩

end Housed

/-- Names that are declared right inside of a scope belong to it. -/
theorem housed_of_interior {around : Around} {scope : Scope} {names : List String} {α : Type}
    {p : Piece Unit Unit α}
    (h : Interior (fun around names p => Housed around.layers names p.steps) around scope names p) :
    Housed around.layers [] p.steps := by
  induction h with
  | part hscope hpart => exact hpart.closed (home?_cons_of_scope hscope _)
  | map g _ ih => exact ih
  | seq _ _ ih ih' => exact ih.append ih'

theorem compositional_housed :
    Compositional fun around names (p : Piece Unit Unit _) =>
      Housed around.layers names p.steps where
  pure _ _ := .nil
  map _ h := h
  seq h h' := h.append h'
  unlessStopped _ h := h
  targeted h := h
  untargeted h := h
  ident around id site := by
    cases site with
    | declaration => exact .declaration (p := around.place id .declaration) rfl
    | _ => exact .use nofun
  patternIdent around id := by
    obtain ⟨layers, inTarget, entered⟩ := around
    cases inTarget with
    | true =>
      have h : Housed layers [] [.ident (Around.patternPlace ⟨layers, true, entered⟩ id)] :=
        .use nofun
      exact h.mono (List.nil_subset _)
    | false =>
      have h : Around.declares ⟨layers, false, entered⟩ [id.name] = [id.name] := by
        simp [Around.declares, Around.binds]
      rw [h]
      exact .declaration (p := Around.patternPlace ⟨layers, false, entered⟩ id) rfl
  unary span op h := stepsExpr_unary span op h .nil fun _ => .undefined _
  call _ hcallee hargs _ := hcallee.append hargs
  scope h := (housed_of_interior h).within _
  block hscope hlayer _ hlayers h :=
    h.hoisted (hlayers.home?_cons hscope hlayer) (List.suffix_cons _ _)
  staticBlock h := h.staticBlock
  handler _ _ hlayers hparam hbody :=
    ((hparam.closed rfl).append
      (hbody.hoisted hlayers.home?_catchBody (List.suffix_append [_, _] _))).within _

theorem housed_stmts {around : Around} (hlayers : Hoists around.layers)
    (hentered : around.entered = true) (body : List Stmt) :
    Housed around.layers (stmtsDeclared body) (stepsStmts around body) :=
  compositional_housed.holds_stmts around hlayers hentered body

end Unbundle.Engine

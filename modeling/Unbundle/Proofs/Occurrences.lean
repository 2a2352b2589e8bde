-- SUMMARY: Which identifiers stand in rewritten code, what surrounds them, and where each comes from.
import Mathlib.Data.List.Forall2
import Unbundle.Proofs.Inside
import Unbundle.Proofs.LexicalScope

/-!
# Occurrences

The identifiers of rewritten code are in one-to-one correspondence with those of the code that was
rewritten, in order: each stems from an identifier, for which the rewrite puts what it is told to,
or from a `void 0`, for which it writes `undefined`. What surrounds an identifier is rewritten with
it: each layer of code around it comes from the layer at the same depth (`Mirrored`). An identifier
that is kept stands in the rewritten code in the same way as before.

`Renders replace base' base steps' steps` says this of two pieces of code that stand inside of
`base'` and `base`; `renders_stepsStmts` is the result. `Mirrors` is what it says of names and layers
(`mirrors_stepsStmts`). Without the layers, only the name of an identifier is left, and whether it is
used or declared (`occurrences_rewriteStmts`).
-/

namespace Unbundle.Engine

open Script

/-- An identifier as it stands in code. -/
structure Occurrence where
  name : String
  /-- It is used, not declared. -/
  isUse : Bool
deriving DecidableEq, Repr, Inhabited

/-- What an identifier of rewritten code stems from. -/
inductive Origin where
  | ident (place : Place)
  /-- A constant that is written as `undefined`. -/
  | undefined

/-- What a rewrite writes. -/
def Origin.written (replace : Replacing) : Origin → Occurrence
  | .ident place => ⟨(rewriteIdent replace place).name, place.isUse⟩
  | .undefined => ⟨"undefined", true⟩

def Step.origin? : Step → Option Origin
  | .ident place => some (.ident place)
  | .undefined _ => some .undefined
  | .enter _ | .leave _ => none

/-- The identifiers that a rewrite of some code gives rise to. -/
def origins (steps : List Step) : List Origin :=
  steps.filterMap Step.origin?

/-- The identifiers of some code as they stand there. -/
def occurrences (steps : List Step) : List Occurrence :=
  (origins steps).map (Origin.written fun _ => .keep)

-- ---------------------------------------------------------------------------
-- Identifiers and the layers around them
-- ---------------------------------------------------------------------------

/-- An identifier as it stands in code, and the layers of code around it. -/
structure Sighting where
  layers : List Layer
  name : String
  /-- It is used, not declared. -/
  isUse : Bool

def Sighting.occurrence (s : Sighting) : Occurrence :=
  ⟨s.name, s.isUse⟩

/-- The identifier that a rewrite writes at a step, at the place that it comes from. -/
def Step.sighting? (replace : Replacing) : Step → Option Sighting
  | .ident place => some ⟨place.layers, (rewriteIdent replace place).name, place.isUse⟩
  | .undefined place => some ⟨place.layers, "undefined", true⟩
  | .enter _ | .leave _ => none

def sightings (replace : Replacing) (steps : List Step) : List Sighting :=
  steps.filterMap (Step.sighting? replace)

@[simp] theorem sightings_append (replace : Replacing) (steps rest : List Step) :
    sightings replace (steps ++ rest) = sightings replace steps ++ sightings replace rest :=
  List.filterMap_append

@[simp] theorem sightings_stepsWithin (replace : Replacing) (scope : Scope) (steps : List Step) :
    sightings replace (stepsWithin scope steps) = sightings replace steps := by
  simp [sightings, stepsWithin, List.filterMap_cons, Step.sighting?]

/-- Without the layers, the identifiers are what the rewrite writes for the origins. -/
theorem map_written_origins (replace : Replacing) (steps : List Step) :
    (origins steps).map (Origin.written replace) =
      (sightings replace steps).map Sighting.occurrence := by
  rw [origins, sightings, List.map_filterMap, List.map_filterMap]
  congr 1
  funext step
  cases step <;> rfl

-- ---------------------------------------------------------------------------
-- Layers of rewritten code
-- ---------------------------------------------------------------------------

theorem Owner.of_ofDeclarators (kind : VarKind) (decls : List Declarator) (layers : List Layer) :
    of (Layer.ofDeclarators kind decls ++ layers) = of layers := by
  cases kind <;> rfl

theorem Owner.of_ofForInit (init : ForInit) (layers : List Layer) :
    of (Layer.ofForInit init ++ layers) = of layers := by
  cases init with
  | var kind decls => exact of_ofDeclarators kind decls layers
  | empty | expr e => rfl

theorem Owner.of_ofForHead (head : ForHead) (layers : List Layer) :
    of (Layer.ofForHead head ++ layers) = of layers := by
  cases head with
  | var kind decls => exact of_ofDeclarators kind decls layers
  | pat p => rfl

/-- The layers around a piece of rewritten code are those around the code itself, rewritten. Blocks
of the factory's own code stand in no assignment target. -/
inductive Mirrored (replace : Replacing) (base' base : List Layer) : List Layer → List Layer → Prop
  | base : Mirrored replace base' base base' base
  | function (h : Mirrored replace base' base layers' layers) (span : Span) (own : Option Ident)
      (params : List Pat) (body : List Stmt) (part : Part) (inTarget : Bool) :
      Mirrored replace base' base
        (.function span
          (rewriteName replace
            ⟨.function span own params body .params :: layers, inTarget, true⟩ own)
          (rewritePats replace
            ⟨.function span own params body .params :: layers, inTarget, true⟩ params)
          (rewriteStmts replace
            ⟨.function span own params body .body :: layers, inTarget, true⟩ body)
          part :: layers')
        (.function span own params body part :: layers)
  | arrow (h : Mirrored replace base' base layers' layers) (span : Span) (params : List Pat)
      (body : List Stmt) (part : Part) :
      Mirrored replace base' base
        (.arrow span
          (rewritePats replace ⟨.arrow span params body .params :: layers, false, true⟩ params)
          (rewriteStmts replace ⟨.arrow span params body .body :: layers, false, true⟩ body)
          part :: layers')
        (.arrow span params body part :: layers)
  | arrowExpr (h : Mirrored replace base' base layers' layers) (span : Span) (params : List Pat) :
      Mirrored replace base' base
        (.arrowExpr span
          (rewritePats replace ⟨.arrowExpr span params :: layers, false, true⟩ params) :: layers')
        (.arrowExpr span params :: layers)
  | namedClass (h : Mirrored replace base' base layers' layers) (name : Ident)
      (cls : Script.Class) (inTarget : Bool) :
      Mirrored replace base' base
        (.namedClass (rewriteIdent replace ⟨.namedClass name cls :: layers, name, .declaration, true⟩)
          (rewriteClass replace ⟨.namedClass name cls :: layers, inTarget, true⟩ cls) :: layers')
        (.namedClass name cls :: layers)
  | handler (h : Mirrored replace base' base layers' layers) (span : Span) (param : Option Pat)
      (inTarget : Bool) :
      Mirrored replace base' base
        (.handler span
          (rewriteOptPat replace ⟨.handler span param :: layers, inTarget, true⟩ param) :: layers')
        (.handler span param :: layers)
  | block (h : Mirrored replace base' base layers' layers)
      (howner : Owner.of layers = .factory → inTarget = false) (body : List Stmt) :
      Mirrored replace base' base
        (.block (rewriteStmts replace ⟨.block body :: layers, inTarget, true⟩ body) :: layers')
        (.block body :: layers)
  | loop (h : Mirrored replace base' base layers' layers)
      (howner : Owner.of layers = .factory → inTarget = false) (kind : VarKind)
      (decls : List Declarator) :
      Mirrored replace base' base
        (Layer.ofDeclarators kind (rewriteDeclarators replace
          ⟨Layer.ofDeclarators kind decls ++ layers, inTarget, true⟩ decls) ++ layers')
        (Layer.ofDeclarators kind decls ++ layers)
  | switch (h : Mirrored replace base' base layers' layers)
      (howner : Owner.of layers = .factory → inTarget = false) (cases : List Case) :
      Mirrored replace base' base
        (.switch (rewriteCases replace ⟨.switch cases :: layers, inTarget, true⟩ cases) :: layers')
        (.switch cases :: layers)
  | staticBlock (h : Mirrored replace base' base layers' layers) (body : List Stmt)
      (inTarget : Bool) :
      Mirrored replace base' base
        (.staticBlock (rewriteStmts replace ⟨.staticBlock body :: layers, inTarget, true⟩ body) ::
          layers')
        (.staticBlock body :: layers)

namespace Mirrored

variable {replace : Replacing} {base' base layers' layers : List Layer}

theorem forInit {inTarget : Bool} (h : Mirrored replace base' base layers' layers)
    (howner : Owner.of layers = .factory → inTarget = false) (init : ForInit) :
    Mirrored replace base' base
      (Layer.ofForInit
        (rewriteForInit replace ⟨Layer.ofForInit init ++ layers, inTarget, true⟩ init) ++ layers')
      (Layer.ofForInit init ++ layers) := by
  cases init with
  | var kind decls => exact h.loop howner kind decls
  | empty | expr e => exact h

/-- What the head of a loop declares is no assignment target. -/
theorem forHead (h : Mirrored replace base' base layers' layers) (inTarget : Bool)
    (head : ForHead) :
    Mirrored replace base' base
      (Layer.ofForHead
        (rewriteForHead replace ⟨Layer.ofForHead head ++ layers, inTarget, true⟩ head) ++ layers')
      (Layer.ofForHead head ++ layers) := by
  cases head with
  | var kind decls => exact h.loop (fun _ => rfl) kind decls
  | pat p => exact h

end Mirrored

-- ---------------------------------------------------------------------------
-- Rewritten code
-- ---------------------------------------------------------------------------

/-- The same identifier, once in rewritten code. -/
structure Sighting.Mirrors (replace : Replacing) (base' base : List Layer) (s' s : Sighting) :
    Prop where
  name : s'.name = s.name
  isUse : s'.isUse = s.isUse
  layers : Mirrored replace base' base s'.layers s.layers

/-- The identifiers of one piece of code are those that a rewrite writes for the other one. -/
def Mirrors (replace : Replacing) (base' base : List Layer) (steps' steps : List Step) : Prop :=
  List.Forall₂ (Sighting.Mirrors replace base' base) (sightings (fun _ => .keep) steps')
    (sightings replace steps)

/-- Without the layers, the identifiers of rewritten code are what the rewrite writes. -/
theorem Mirrors.occurrences {replace : Replacing} {base' base : List Layer}
    {steps steps' : List Step} (h : Mirrors replace base' base steps' steps) :
    occurrences steps' = (origins steps).map (Origin.written replace) := by
  rw [Engine.occurrences, map_written_origins, map_written_origins, ← List.forall₂_eq_eq_eq,
    List.forall₂_map_left_iff, List.forall₂_map_right_iff]
  refine h.imp ?_
  rintro s' s ⟨hname, huse, -⟩
  simp only [Sighting.occurrence, hname, huse]

/-- An identifier of rewritten code, and what it stems from. Where the rewrite keeps an identifier,
it stands in the rewritten code in the same way. -/
inductive Step.Renders (replace : Replacing) (base' base : List Layer) : Step → Step → Prop
  | ident {place' place : Place} (hname : place'.id.name = (rewriteIdent replace place).name)
      (huse : place'.isUse = place.isUse)
      (hkept : replace place = .keep → place'.id = place.id ∧ place'.site = place.site)
      (hlayers : Mirrored replace base' base place'.layers place.layers) :
      Renders replace base' base (.ident place') (.ident place)
  | undefined {place' place : Place} (hname : place'.id.name = "undefined")
      (huse : place'.isUse = true)
      (hlayers : Mirrored replace base' base place'.layers place.layers) :
      Renders replace base' base (.ident place') (.undefined place)

/-- The steps at which code has an identifier or a constant that is written as one. -/
def marks (steps : List Step) : List Step :=
  steps.filter fun step => step.origin?.isSome

@[simp] theorem marks_append (steps rest : List Step) :
    marks (steps ++ rest) = marks steps ++ marks rest :=
  List.filter_append ..

@[simp] theorem marks_stepsWithin (scope : Scope) (steps : List Step) :
    marks (stepsWithin scope steps) = marks steps := by
  simp [marks, stepsWithin, Step.origin?]

theorem origins_marks (steps : List Step) : origins (marks steps) = origins steps := by
  rw [origins, origins, marks, List.filterMap_filter]
  congr 1
  funext step
  cases step <;> rfl

theorem sightings_marks (replace : Replacing) (steps : List Step) :
    sightings replace (marks steps) = sightings replace steps := by
  rw [sightings, sightings, marks, List.filterMap_filter]
  congr 1
  funext step
  cases step <;> rfl

/-- The first piece of code has the identifiers that a rewrite renders for the second one. -/
def Renders (replace : Replacing) (base' base : List Layer) (steps' steps : List Step) : Prop :=
  List.Forall₂ (Step.Renders replace base' base) (marks steps') (marks steps)

namespace Renders

variable {replace : Replacing} {base' base layers' layers : List Layer}
  {steps steps' rest rest' : List Step}

theorem nil : Renders replace base' base [] [] :=
  List.Forall₂.nil

theorem append (h : Renders replace base' base steps' steps)
    (hrest : Renders replace base' base rest' rest) :
    Renders replace base' base (steps' ++ rest') (steps ++ rest) := by
  unfold Renders at *
  rw [marks_append, marks_append]
  exact List.rel_append h hrest

theorem within {scope scope' : Scope} (h : Renders replace base' base steps' steps) :
    Renders replace base' base (stepsWithin scope' steps') (stepsWithin scope steps) := by
  unfold Renders at *
  rwa [marks_stepsWithin, marks_stepsWithin]

/-- An identifier that gives way to something is no place that has to stay as it is. -/
theorem changed {place place' : Place} (hname : place'.id.name = (rewriteIdent replace place).name)
    (huse : place'.isUse = place.isUse) (hchanged : replace place ≠ .keep)
    (hlayers : Mirrored replace base' base place'.layers place.layers) :
    Renders replace base' base [.ident place'] [.ident place] :=
  .cons (.ident hname huse (fun hkept => absurd hkept hchanged) hlayers) .nil

/-- An identifier with its replacement in place. -/
theorem ident (h : Mirrored replace base' base layers' layers) (id : Ident) (site : Site)
    (binds : Bool) :
    Renders replace base' base
      [.ident ⟨layers', rewriteIdent replace ⟨layers, id, site, binds⟩, site, binds⟩]
      [.ident ⟨layers, id, site, binds⟩] := by
  refine .cons (.ident rfl rfl (fun hkept => ⟨?_, rfl⟩) h) .nil
  rw [rewriteIdent, hkept]
  rfl

theorem cons (h : Mirrored replace base' base layers' layers) (id : Ident) (site : Site)
    (binds : Bool) (hsteps : Renders replace base' base steps' steps) :
    Renders replace base' base
      (.ident ⟨layers', rewriteIdent replace ⟨layers, id, site, binds⟩, site, binds⟩ :: steps')
      (.ident ⟨layers, id, site, binds⟩ :: steps) :=
  (ident h id site binds).append hsteps

theorem undefined {place place' : Place} (hname : place'.id.name = "undefined")
    (huse : place'.isUse = true)
    (hlayers : Mirrored replace base' base place'.layers place.layers) :
    Renders replace base' base [.ident place'] [.undefined place] :=
  List.Forall₂.cons (.undefined hname huse hlayers) .nil

/-- Wherever the identifiers are rendered, their names and the layers around them are. -/
theorem mirrors (h : Renders replace base' base steps' steps) :
    Mirrors replace base' base steps' steps := by
  rw [Mirrors, ← sightings_marks _ steps', ← sightings_marks replace steps]
  unfold Renders at h
  generalize marks steps' = marked' at h
  generalize marks steps = marked at h
  induction h with
  | nil => exact .nil
  | cons hstep _ ih =>
    cases hstep with
    | ident hname huse _ hlayers => exact .cons ⟨hname, huse, hlayers⟩ ih
    | undefined hname huse hlayers => exact .cons ⟨hname, huse, hlayers⟩ ih

/-- What is kept stands in rewritten code where it stood, and in the same way. -/
theorem exists_kept (h : Renders replace base' base steps' steps) {n : Nat} {place : Place}
    (hplace : (origins steps)[n]? = some (.ident place)) (hkept : replace place = .keep) :
    ∃ place', (origins steps')[n]? = some (.ident place') ∧ place'.id = place.id ∧
      place'.site = place.site := by
  rw [← origins_marks] at hplace ⊢
  unfold Renders at h
  generalize marks steps' = marked' at h ⊢
  generalize marks steps = marked at h hplace
  induction h generalizing n with
  | nil => cases hplace
  | cons hstep _ ih =>
    cases hstep with
    | ident _ _ hsame _ =>
      cases n with
      | zero =>
        cases hplace
        exact ⟨_, rfl, hsame hkept⟩
      | succ n => exact ih hplace
    | undefined _ _ _ =>
      cases n with
      | zero => cases hplace
      | succ n => exact ih hplace

end Renders

-- ---------------------------------------------------------------------------
-- Accesses
-- ---------------------------------------------------------------------------

/-- What a rewrite turns into an identifier. -/
theorem rewriteExpr_eq_ident {replace : Replacing} {around : Around} {e : Expr} {id' : Ident}
    (h : rewriteExpr replace around e = .ident id') :
    (∃ id, e = .ident id) ∨
      (∃ span id name, e = .member span (.ident id) (.named "default") ∧
        replace (around.place id (.defaultObject span)) = .imported name ∧ id' = ⟨name, span⟩) ∨
      ∃ span op arg, e = .unary span op arg ∧
        constant? span op arg = some (.ident ⟨"undefined", span⟩) ∧ id' = ⟨"undefined", span⟩ := by
  cases e with
  | ident id => exact .inl ⟨id, rfl⟩
  | member span object key =>
    cases hd : defaultObject? object key with
    | none => simp [rewriteExpr, hd] at h
    | some id =>
      obtain ⟨rfl, rfl⟩ := defaultObject?_eq_some hd
      cases hr : replace (around.place id (.defaultObject span)) with
      | keep | reserved word => simp [rewriteExpr, hd, hr, rewriteDefault] at h
      | imported name =>
        simp only [rewriteExpr, hd, hr, rewriteDefault, Expr.ident.injEq] at h
        exact .inr (.inl ⟨span, id, name, rfl, hr, h.symm⟩)
  | unary span op arg =>
    cases hc : constant? span op arg with
    | none => simp [rewriteExpr, hc] at h
    | some value =>
      obtain ⟨_, _, rfl, rfl | ⟨b, rfl⟩⟩ := constant?_eq_some hc
      · simp only [rewriteExpr, hc, Expr.ident.injEq] at h
        exact .inr (.inr ⟨span, op, _, rfl, hc, h.symm⟩)
      · simp [rewriteExpr, hc] at h
  | cls name cls => cases name <;> simp [rewriteExpr] at h
  | _ => simp [rewriteExpr] at h

/-- A rewrite makes no accesses where there were none. -/
theorem rewriteExpr_ne_member {replace : Replacing} {around : Around} {e : Expr}
    (h : ∀ span object key, e ≠ .member span object key) (span : Span) (object : Expr) (key : Key) :
    rewriteExpr replace around e ≠ .member span object key := by
  cases e with
  | member span object key => exact absurd rfl (h span object key)
  | unary span op arg =>
    cases hc : constant? span op arg with
    | none => simp [rewriteExpr, hc]
    | some value =>
      obtain ⟨_, _, rfl, rfl | ⟨b, rfl⟩⟩ := constant?_eq_some hc <;> simp [rewriteExpr, hc]
  | cls name cls => cases name <;> simp [rewriteExpr]
  | _ => simp [rewriteExpr]

theorem stepsTarget_expr {around : Around} {e : Expr}
    (h : ∀ span object key, e ≠ .member span object key) :
    stepsTarget around (.expr e) = stepsExpr around e := by
  cases e with
  | member span object key => exact absurd rfl (h span object key)
  | _ => rfl

/-- A target that is an expression has the identifiers of that expression. -/
theorem Renders.target {replace : Replacing} {base' base : List Layer} {around' around : Around}
    {e : Expr}
    (h : Renders replace base' base (stepsExpr around' (rewriteExpr replace around e))
      (stepsExpr around e))
    (he : ∀ span object key, e ≠ .member span object key) :
    Renders replace base' base (stepsTarget around' (.expr (rewriteExpr replace around e)))
      (stepsTarget around (.expr e)) := by
  rwa [stepsTarget_expr he, stepsTarget_expr (rewriteExpr_ne_member he)]

section

variable {replace : Replacing} {base' base layers' layers : List Layer}
  (h : Mirrored replace base' base layers' layers) (inTarget entered : Bool)

include h

theorem renders_stepsConstant {span : Span} {op : UnaryOp} {arg value : Expr}
    (hc : constant? span op arg = some value) :
    Renders replace base' base (stepsExpr ⟨layers', inTarget, entered⟩ value)
      (stepsConstant ⟨layers, inTarget, entered⟩ value) := by
  obtain ⟨_, _, -, rfl | ⟨b, rfl⟩⟩ := constant?_eq_some hc
  · exact .undefined rfl rfl h
  · exact .nil

theorem renders_rewriteDefault (span : Span) (id : Ident) :
    Renders replace base' base
      (stepsExpr ⟨layers', inTarget, entered⟩
        (rewriteDefault span id (replace ⟨layers, id, .defaultObject span, false⟩)))
      [.ident ⟨layers, id, .defaultObject span, false⟩] := by
  have hident := Renders.ident h id (.defaultObject span) false
  cases hr : replace ⟨layers, id, .defaultObject span, false⟩ with
  | keep | reserved word =>
    rw [rewriteIdent, hr] at hident
    exact hident
  | imported name => exact .changed (by rw [rewriteIdent, hr]; rfl) rfl (by simp [hr]) h

theorem renders_rewriteShorthand (id : Ident) :
    Renders replace base' base
      (stepsProperty ⟨layers', inTarget, entered⟩
        (rewriteShorthand id (replace ⟨layers, id, .shorthand, false⟩)))
      [.ident ⟨layers, id, .shorthand, false⟩] := by
  have hident := Renders.ident h id .shorthand false
  cases hr : replace ⟨layers, id, .shorthand, false⟩ with
  | keep =>
    rw [rewriteIdent, hr] at hident
    exact hident
  | reserved name | imported name =>
    exact .changed (by rw [rewriteIdent, hr]; rfl) rfl (by simp [hr]) h

theorem renders_patternIdent (id : Ident) :
    Renders replace base' base
      [.ident (Around.patternPlace ⟨layers', inTarget, entered⟩
        (rewriteIdent replace (Around.patternPlace ⟨layers, inTarget, entered⟩ id)))]
      [.ident (Around.patternPlace ⟨layers, inTarget, entered⟩ id)] :=
  .ident h id _ _

theorem renders_stepsName (name : Option Ident) :
    Renders replace base' base
      (stepsName ⟨layers', inTarget, entered⟩
        (rewriteName replace ⟨layers, inTarget, entered⟩ name))
      (stepsName ⟨layers, inTarget, entered⟩ name) := by
  cases name with
  | none => exact .nil
  | some id => exact .ident h id .declaration true

/-- An access that is none to the default of an identifier may become one, if its object becomes an
identifier; what this stems from is not kept. -/
theorem renders_member (span : Span) {object : Expr} {key : Key}
    (hd : defaultObject? object key = none)
    (hobject : Renders replace base' base
      (stepsExpr ⟨layers', inTarget, entered⟩
        (rewriteExpr replace ⟨layers, inTarget, entered⟩ object))
      (stepsExpr ⟨layers, inTarget, entered⟩ object))
    (hkey : Renders replace base' base
      (stepsKey ⟨layers', inTarget, entered⟩
        (rewriteKey replace ⟨layers, inTarget, entered⟩ key))
      (stepsKey ⟨layers, inTarget, entered⟩ key)) :
    Renders replace base' base
      (stepsExpr ⟨layers', inTarget, entered⟩ (.member span
        (rewriteExpr replace ⟨layers, inTarget, entered⟩ object)
        (rewriteKey replace ⟨layers, inTarget, entered⟩ key)))
      (stepsExpr ⟨layers, inTarget, entered⟩ object ++
        stepsKey ⟨layers, inTarget, entered⟩ key) := by
  cases hd' : defaultObject? (rewriteExpr replace ⟨layers, inTarget, entered⟩ object)
      (rewriteKey replace ⟨layers, inTarget, entered⟩ key) with
  | none =>
    simp only [stepsExpr, hd']
    exact hobject.append hkey
  | some id' =>
    obtain ⟨hobject', hkey'⟩ := defaultObject?_eq_some hd'
    obtain rfl : key = .named "default" := by
      cases key <;> simp_all [rewriteKey]
    simp only [stepsExpr, hd']
    rcases rewriteExpr_eq_ident hobject' with ⟨id, rfl⟩ | ⟨at_, id, name, rfl, hr, rfl⟩ |
      ⟨at_, op, arg, rfl, hc, rfl⟩
    · cases hd
    · have hr' : replace ⟨layers, id, .defaultObject at_, false⟩ = .imported name := hr
      have hchanged : Renders replace base' base
          [.ident ⟨layers', ⟨name, at_⟩, .defaultObject span, false⟩]
          [.ident ⟨layers, id, .defaultObject at_, false⟩] :=
        .changed (by rw [rewriteIdent, hr']; rfl) rfl (by simp [hr']) h
      exact hchanged.append .nil
    · rw [stepsExpr, hc]
      exact Renders.append (.undefined rfl rfl h) .nil

end

-- ---------------------------------------------------------------------------
-- All code
-- ---------------------------------------------------------------------------

section

variable {replace : Replacing} {base' base : List Layer}

mutual

theorem renders_stepsExpr {layers layers' : List Layer} {inTarget : Bool}
    (h : Mirrored replace base' base layers' layers) (e : Expr) :
    Renders replace base' base
      (stepsExpr ⟨layers', inTarget, entered⟩
        (rewriteExpr replace ⟨layers, inTarget, entered⟩ e))
      (stepsExpr ⟨layers, inTarget, entered⟩ e) := by
  cases e with
  | ident id => exact .ident h id .reference false
  | lit span value => exact .nil
  | word span word => exact .nil
  | privateName span name => exact .nil
  | hole => exact .nil
  | array span elems => exact renders_stepsExprs h elems
  | spread span arg => exact renders_stepsExpr h arg
  | object span props => exact renders_stepsProperties h props
  | fn name f => exact renders_stepsFunction h name f
  | arrow span isAsync params body =>
    exact ((renders_stepsPats (h.arrow span params body .params) params).append
      (renders_stepsStmts (h.arrow span params body .body) (fun _ => rfl) body)).within
  | arrowExpr span isAsync params body =>
    exact ((renders_stepsPats (h.arrowExpr span params) params).append
      (renders_stepsExpr (h.arrowExpr span params) body)).within
  | cls name cls =>
    cases name with
    | none => exact renders_stepsClass h cls
    | some name => 
      have hclass := h.namedClass name cls inTarget
      exact .within (.cons hclass name .declaration true (renders_stepsClass hclass cls))
  | template span quasis exprs => exact renders_stepsExprs h exprs
  | tagged span tag quasis exprs =>
    exact (renders_stepsExpr h tag).append (renders_stepsExprs h exprs)
  | unary span op arg =>
    cases hc : constant? span op arg with
    | some value =>
      simp only [rewriteExpr, stepsExpr, hc]
      exact renders_stepsConstant h inTarget entered hc
    | none =>
      simp only [rewriteExpr, stepsExpr, hc, constant?_rewriteExpr]
      exact renders_stepsExpr h arg
  | update span op before arg => exact renders_stepsExpr h arg
  | binary span op left right => exact (renders_stepsExpr h left).append (renders_stepsExpr h right)
  | assign span op target value =>
    exact (renders_stepsTarget h target).append (renders_stepsExpr h value)
  | cond span test cons alt =>
    exact ((renders_stepsExpr h test).append (renders_stepsExpr h cons)).append
      (renders_stepsExpr h alt)
  | seq span exprs => exact renders_stepsExprs h exprs
  | yield span delegate arg => exact renders_stepsOptExpr h arg
  | await span arg => exact renders_stepsExpr h arg
  | call span callee args => exact (renders_stepsExpr h callee).append (renders_stepsExprs h args)
  | newCall span callee args =>
    exact (renders_stepsExpr h callee).append (renders_stepsExprs h args)
  | newBare span callee => exact renders_stepsExpr h callee
  | member span object key =>
    cases hd : defaultObject? object key with
    | some id =>
      simp only [rewriteExpr, stepsExpr, hd]
      exact renders_rewriteDefault h inTarget entered span id
    | none =>
      have hsteps : stepsExpr ⟨layers, inTarget, entered⟩ (.member span object key) =
          stepsExpr ⟨layers, inTarget, entered⟩ object ++
            stepsKey ⟨layers, inTarget, entered⟩ key := by
        simp only [stepsExpr, hd]
      rw [hsteps, rewriteExpr, hd]
      exact renders_member h inTarget entered span hd (renders_stepsExpr h object)
        (renders_stepsKey h key)
  | optMember span optional object key =>
    exact (renders_stepsExpr h object).append (renders_stepsKey h key)
  | optCall span optional callee args =>
    exact (renders_stepsExpr h callee).append (renders_stepsExprs h args)
  | paren span inner => exact renders_stepsExpr h inner

theorem renders_stepsExprs {layers layers' : List Layer} {inTarget : Bool}
    (h : Mirrored replace base' base layers' layers) (es : List Expr) :
    Renders replace base' base
      (stepsExprs ⟨layers', inTarget, entered⟩
        (rewriteExprs replace ⟨layers, inTarget, entered⟩ es))
      (stepsExprs ⟨layers, inTarget, entered⟩ es) := by
  cases es with
  | nil => exact .nil
  | cons e rest => exact (renders_stepsExpr h e).append (renders_stepsExprs h rest)

theorem renders_stepsOptExpr {layers layers' : List Layer} {inTarget : Bool}
    (h : Mirrored replace base' base layers' layers) (e : Option Expr) :
    Renders replace base' base
      (stepsOptExpr ⟨layers', inTarget, entered⟩
        (rewriteOptExpr replace ⟨layers, inTarget, entered⟩ e))
      (stepsOptExpr ⟨layers, inTarget, entered⟩ e) := by
  cases e with
  | none => exact .nil
  | some e => exact renders_stepsExpr h e

theorem renders_stepsKey {layers layers' : List Layer} {inTarget : Bool}
    (h : Mirrored replace base' base layers' layers) (key : Key) :
    Renders replace base' base
      (stepsKey ⟨layers', inTarget, entered⟩
        (rewriteKey replace ⟨layers, inTarget, entered⟩ key))
      (stepsKey ⟨layers, inTarget, entered⟩ key) := by
  cases key with
  | computed e => exact renders_stepsExpr h e
  | _ => exact .nil

theorem renders_stepsProperty {layers layers' : List Layer} {inTarget : Bool}
    (h : Mirrored replace base' base layers' layers) (p : Property) :
    Renders replace base' base
      (stepsProperty ⟨layers', inTarget, entered⟩
        (rewriteProperty replace ⟨layers, inTarget, entered⟩ p))
      (stepsProperty ⟨layers, inTarget, entered⟩ p) := by
  cases p with
  | shorthand id => exact renders_rewriteShorthand h inTarget entered id
  | keyValue key value => exact (renders_stepsKey h key).append (renders_stepsExpr h value)
  | initialized id value => exact renders_stepsExpr h value
  | getter span key body =>
    exact ((renders_stepsKey (h.function span none [] body .key inTarget) key).append
      (renders_stepsStmts (h.function span none [] body .body inTarget) nofun body)).within
  | setter span key param body =>
    exact (((renders_stepsKey (h.function span none [param] body .key inTarget) key).append
      (renders_stepsPat (h.function span none [param] body .params inTarget) param)).append
      (renders_stepsStmts (h.function span none [param] body .body inTarget) nofun body)).within
  | method key f => exact (renders_stepsKey h key).append (renders_stepsFunction h none f)
  | spread span arg => exact renders_stepsExpr h arg

theorem renders_stepsProperties {layers layers' : List Layer} {inTarget : Bool}
    (h : Mirrored replace base' base layers' layers) (ps : List Property) :
    Renders replace base' base
      (stepsProperties ⟨layers', inTarget, entered⟩
        (rewriteProperties replace ⟨layers, inTarget, entered⟩ ps))
      (stepsProperties ⟨layers, inTarget, entered⟩ ps) := by
  cases ps with
  | nil => exact .nil
  | cons p rest => exact (renders_stepsProperty h p).append (renders_stepsProperties h rest)

theorem renders_stepsPat {layers layers' : List Layer} {inTarget : Bool}
    (h : Mirrored replace base' base layers' layers) (p : Pat) :
    Renders replace base' base
      (stepsPat ⟨layers', inTarget, entered⟩
        (rewritePat replace ⟨layers, inTarget, entered⟩ p))
      (stepsPat ⟨layers, inTarget, entered⟩ p) := by
  cases p with
  | ident id => exact renders_patternIdent h inTarget entered id
  | array span elems => exact renders_stepsPats h elems
  | hole => exact .nil
  | object span props => exact renders_stepsPatProperties h props
  | rest span arg => exact renders_stepsPat h arg
  | default span left right => exact (renders_stepsPat h left).append (renders_stepsExpr h right)
  | expr e => exact renders_stepsExpr h e

theorem renders_stepsPats {layers layers' : List Layer} {inTarget : Bool}
    (h : Mirrored replace base' base layers' layers) (ps : List Pat) :
    Renders replace base' base
      (stepsPats ⟨layers', inTarget, entered⟩
        (rewritePats replace ⟨layers, inTarget, entered⟩ ps))
      (stepsPats ⟨layers, inTarget, entered⟩ ps) := by
  cases ps with
  | nil => exact .nil
  | cons p rest => exact (renders_stepsPat h p).append (renders_stepsPats h rest)

theorem renders_stepsTarget {layers layers' : List Layer} {inTarget : Bool}
    (h : Mirrored replace base' base layers' layers) (p : Pat) :
    Renders replace base' base
      (stepsTarget ⟨layers', inTarget, entered⟩
        (rewriteTarget replace ⟨layers, inTarget, entered⟩ p))
      (stepsTarget ⟨layers, inTarget, entered⟩ p) := by
  cases p with
  | expr e =>
    cases e with
    | member span object key => exact (renders_stepsExpr h object).append (renders_stepsKey h key)
    | _ => exact Renders.target (renders_stepsExpr h _) nofun
  | ident id => exact renders_patternIdent h inTarget entered id
  | array span elems => exact renders_stepsPats h elems
  | hole => exact .nil
  | object span props => exact renders_stepsPatProperties h props
  | rest span arg => exact renders_stepsPat h arg
  | default span left right => exact (renders_stepsPat h left).append (renders_stepsExpr h right)

theorem renders_stepsPatProperty {layers layers' : List Layer} {inTarget : Bool}
    (h : Mirrored replace base' base layers' layers) (p : PatProperty) :
    Renders replace base' base
      (stepsPatProperty ⟨layers', inTarget, entered⟩
        (rewritePatProperty replace ⟨layers, inTarget, entered⟩ p))
      (stepsPatProperty ⟨layers, inTarget, entered⟩ p) := by
  cases p with
  | keyValue key value => exact (renders_stepsKey h key).append (renders_stepsPat h value)
  | shorthand id default =>
    exact (renders_patternIdent h inTarget entered id).append (renders_stepsOptExpr h default)
  | rest span arg => exact renders_stepsPat h arg

theorem renders_stepsPatProperties {layers layers' : List Layer} {inTarget : Bool}
    (h : Mirrored replace base' base layers' layers) (ps : List PatProperty) :
    Renders replace base' base
      (stepsPatProperties ⟨layers', inTarget, entered⟩
        (rewritePatProperties replace ⟨layers, inTarget, entered⟩ ps))
      (stepsPatProperties ⟨layers, inTarget, entered⟩ ps) := by
  cases ps with
  | nil => exact .nil
  | cons p rest => exact (renders_stepsPatProperty h p).append (renders_stepsPatProperties h rest)

theorem renders_stepsFunction {layers layers' : List Layer} {inTarget : Bool}
    (h : Mirrored replace base' base layers' layers) (name : Option Ident)
    (f : Function) :
    Renders replace base' base
      (stepsFunction ⟨layers', inTarget, entered⟩
        (rewriteName replace
          (Around.enterFunction ⟨layers, inTarget, entered⟩
            (.function f.span name f.params f.body .params))
          name)
        (rewriteFunction replace ⟨layers, inTarget, entered⟩ name f))
      (stepsFunction ⟨layers, inTarget, entered⟩ name f) := by
  cases f with
  | mk span isAsync isGenerator params body =>
    have hparams := h.function span name params body .params false
    have hbody := h.function span name params body .body false
    exact (((renders_stepsName hparams false false name).append
      (renders_stepsPats hparams params)).append
      (renders_stepsStmts hbody (fun _ => rfl) body)).within

theorem renders_stepsClass {layers layers' : List Layer} {inTarget : Bool}
    (h : Mirrored replace base' base layers' layers) (cls : Script.Class) :
    Renders replace base' base
      (stepsClass ⟨layers', inTarget, entered⟩
        (rewriteClass replace ⟨layers, inTarget, entered⟩ cls))
      (stepsClass ⟨layers, inTarget, entered⟩ cls) := by
  cases cls with
  | mk span superClass members =>
    exact (renders_stepsMembers h members).append (renders_stepsOptExpr h superClass)

theorem renders_stepsMember {layers layers' : List Layer} {inTarget : Bool}
    (h : Mirrored replace base' base layers' layers) (m : ClassMember) :
    Renders replace base' base
      (stepsMember ⟨layers', inTarget, entered⟩
        (rewriteMember replace ⟨layers, inTarget, entered⟩ m))
      (stepsMember ⟨layers, inTarget, entered⟩ m) := by
  cases m with
  | ctor span params body =>
    exact ((renders_stepsPats (h.function span none params body .params inTarget) params).append
      (renders_stepsStmts (h.function span none params body .body inTarget) nofun body)).within
  | method isStatic kind key f =>
    exact (renders_stepsKey h key).append (renders_stepsFunction h none f)
  | field isStatic key value => exact (renders_stepsKey h key).append (renders_stepsOptExpr h value)
  | staticBlock body =>
    exact renders_stepsStmts (h.staticBlock body inTarget) nofun body
  | empty => exact .nil

theorem renders_stepsMembers {layers layers' : List Layer} {inTarget : Bool}
    (h : Mirrored replace base' base layers' layers) (ms : List ClassMember) :
    Renders replace base' base
      (stepsMembers ⟨layers', inTarget, entered⟩
        (rewriteMembers replace ⟨layers, inTarget, entered⟩ ms))
      (stepsMembers ⟨layers, inTarget, entered⟩ ms) := by
  cases ms with
  | nil => exact .nil
  | cons m rest => exact (renders_stepsMember h m).append (renders_stepsMembers h rest)

theorem renders_stepsStmt {layers layers' : List Layer} {inTarget : Bool}
    (h : Mirrored replace base' base layers' layers)
    (howner : Owner.of layers = .factory → inTarget = false) (s : Stmt) :
    Renders replace base' base
      (stepsStmt ⟨layers', inTarget, entered⟩
        (rewriteStmt replace ⟨layers, inTarget, entered⟩ s))
      (stepsStmt ⟨layers, inTarget, entered⟩ s) := by
  cases s with
  | expr e => exact renders_stepsExpr h e
  | block body => exact renders_stepsStmts (h.block howner body) howner body
  | empty => exact .nil
  | debugger => exact .nil
  | breakStmt label => exact .nil
  | continueStmt label => exact .nil
  | withStmt object body =>
    exact (renders_stepsExpr h object).append (renders_stepsStmt h howner body)
  | returnStmt arg => exact renders_stepsOptExpr h arg
  | labeled label body => exact renders_stepsStmt h howner body
  | ifStmt test cons alt =>
    exact ((renders_stepsExpr h test).append
      (renders_stepsStmt (h.block howner [cons]) howner cons)).append
      (renders_stepsOptStmt h howner alt)
  | switch discriminant cases =>
    exact (renders_stepsExpr h discriminant).append
      (renders_stepsCases (h.switch howner cases) howner cases)
  | throwStmt arg => exact renders_stepsExpr h arg
  | tryStmt block handler finalizer =>
    exact ((renders_stepsStmts (h.block howner block) howner block).append
      (renders_stepsHandler h howner handler)).append (renders_stepsFinalizer h howner finalizer)
  | whileLoop test body => exact (renders_stepsExpr h test).append (renders_stepsStmt h howner body)
  | doWhile test body => exact (renders_stepsExpr h test).append (renders_stepsStmt h howner body)
  | forLoop init test update body =>
    have hloop := h.forInit howner init
    exact (((renders_stepsForInit hloop init).append (renders_stepsOptExpr hloop test)).append
      (renders_stepsOptExpr hloop update)).append
      (renders_stepsStmt hloop (by rwa [Owner.of_ofForInit]) body)
  | forIn left right body =>
    have hloop := h.forHead inTarget left
    exact ((renders_stepsForHead hloop left).append (renders_stepsExpr hloop right)).append
      (renders_stepsStmt hloop (by rwa [Owner.of_ofForHead]) body)
  | forOf isAwait left right body =>
    have hloop := h.forHead inTarget left
    exact ((renders_stepsForHead hloop left).append (renders_stepsExpr hloop right)).append
      (renders_stepsStmt hloop (by rwa [Owner.of_ofForHead]) body)
  | varDecl kind decls => exact renders_stepsDeclarators h decls
  | fnDecl name f => exact .cons h name .declaration true (renders_stepsFunction h none f)
  | classDecl name cls => exact .cons h name .declaration true (renders_stepsClass h cls)

theorem renders_stepsStmts {layers layers' : List Layer} {inTarget : Bool}
    (h : Mirrored replace base' base layers' layers)
    (howner : Owner.of layers = .factory → inTarget = false) (body : List Stmt) :
    Renders replace base' base
      (stepsStmts ⟨layers', inTarget, entered⟩
        (rewriteStmts replace ⟨layers, inTarget, entered⟩ body))
      (stepsStmts ⟨layers, inTarget, entered⟩ body) := by
  cases body with
  | nil => exact .nil
  | cons s rest => exact (renders_stepsStmt h howner s).append (renders_stepsStmts h howner rest)

theorem renders_stepsOptStmt {layers layers' : List Layer} {inTarget : Bool}
    (h : Mirrored replace base' base layers' layers)
    (howner : Owner.of layers = .factory → inTarget = false) (s : Option Stmt) :
    Renders replace base' base
      (stepsOptStmt ⟨layers', inTarget, entered⟩
        (rewriteOptStmt replace ⟨layers, inTarget, entered⟩ s))
      (stepsOptStmt ⟨layers, inTarget, entered⟩ s) := by
  cases s with
  | none => exact .nil
  | some s => exact renders_stepsStmt (h.block howner [s]) howner s

theorem renders_stepsCases {layers layers' : List Layer} {inTarget : Bool}
    (h : Mirrored replace base' base layers' layers)
    (howner : Owner.of layers = .factory → inTarget = false) (cases : List Case) :
    Renders replace base' base
      (stepsCases ⟨layers', inTarget, entered⟩
        (rewriteCases replace ⟨layers, inTarget, entered⟩ cases))
      (stepsCases ⟨layers, inTarget, entered⟩ cases) := by
  cases cases with
  | nil => exact .nil
  | cons c rest =>
    cases c with
    | mk test body =>
      exact ((renders_stepsOptExpr h test).append (renders_stepsStmts h howner body)).append
        (renders_stepsCases h howner rest)

theorem renders_stepsHandler {layers layers' : List Layer} {inTarget : Bool}
    (h : Mirrored replace base' base layers' layers)
    (howner : Owner.of layers = .factory → inTarget = false) (handler : Option Catch) :
    Renders replace base' base
      (stepsHandler ⟨layers', inTarget, entered⟩
        (rewriteHandler replace ⟨layers, inTarget, entered⟩ handler))
      (stepsHandler ⟨layers, inTarget, entered⟩ handler) := by
  cases handler with
  | none => exact .nil
  | some c =>
    cases c with
    | mk span param body =>
      have hbody := (h.handler span param inTarget).block howner body
      exact ((renders_stepsOptPat (h.handler span param inTarget) param).append
        (renders_stepsStmts hbody howner body)).within

theorem renders_stepsOptPat {layers layers' : List Layer} {inTarget : Bool}
    (h : Mirrored replace base' base layers' layers) (p : Option Pat) :
    Renders replace base' base
      (stepsOptPat ⟨layers', inTarget, entered⟩
        (rewriteOptPat replace ⟨layers, inTarget, entered⟩ p))
      (stepsOptPat ⟨layers, inTarget, entered⟩ p) := by
  cases p with
  | none => exact .nil
  | some p => exact renders_stepsPat h p

theorem renders_stepsFinalizer {layers layers' : List Layer} {inTarget : Bool}
    (h : Mirrored replace base' base layers' layers)
    (howner : Owner.of layers = .factory → inTarget = false) (finalizer : Option (List Stmt)) :
    Renders replace base' base
      (stepsFinalizer ⟨layers', inTarget, entered⟩
        (rewriteFinalizer replace ⟨layers, inTarget, entered⟩ finalizer))
      (stepsFinalizer ⟨layers, inTarget, entered⟩ finalizer) := by
  cases finalizer with
  | none => exact .nil
  | some body => exact renders_stepsStmts (h.block howner body) howner body

theorem renders_stepsDeclarators {layers layers' : List Layer} {inTarget : Bool}
    (h : Mirrored replace base' base layers' layers) (decls : List Declarator) :
    Renders replace base' base
      (stepsDeclarators ⟨layers', inTarget, entered⟩
        (rewriteDeclarators replace ⟨layers, inTarget, entered⟩ decls))
      (stepsDeclarators ⟨layers, inTarget, entered⟩ decls) := by
  cases decls with
  | nil => exact .nil
  | cons d rest =>
    cases d with
    | mk name init =>
      exact ((renders_stepsPat h name).append (renders_stepsOptExpr h init)).append
        (renders_stepsDeclarators h rest)

theorem renders_stepsForInit {layers layers' : List Layer} {inTarget : Bool}
    (h : Mirrored replace base' base layers' layers) (init : ForInit) :
    Renders replace base' base
      (stepsForInit ⟨layers', inTarget, entered⟩
        (rewriteForInit replace ⟨layers, inTarget, entered⟩ init))
      (stepsForInit ⟨layers, inTarget, entered⟩ init) := by
  cases init with
  | empty => exact .nil
  | var kind decls => exact renders_stepsDeclarators h decls
  | expr e => exact renders_stepsExpr h e

theorem renders_stepsForHead {layers layers' : List Layer} {inTarget : Bool}
    (h : Mirrored replace base' base layers' layers) (head : ForHead) :
    Renders replace base' base
      (stepsForHead ⟨layers', inTarget, entered⟩
        (rewriteForHead replace ⟨layers, inTarget, entered⟩ head))
      (stepsForHead ⟨layers, inTarget, entered⟩ head) := by
  cases head with
  | var kind decls => exact renders_stepsDeclarators h decls
  | pat p => exact renders_stepsPat h p

end

/-- The names in rewritten statements, and the layers around them, are those that the rewrite writes. -/
theorem mirrors_stepsStmts {layers layers' : List Layer} {inTarget : Bool}
    (h : Mirrored replace base' base layers' layers)
    (howner : Owner.of layers = .factory → inTarget = false) (body : List Stmt) :
    Mirrors replace base' base
      (stepsStmts ⟨layers', inTarget, entered⟩
        (rewriteStmts replace ⟨layers, inTarget, entered⟩ body))
      (stepsStmts ⟨layers, inTarget, entered⟩ body) :=
  (renders_stepsStmts h howner body).mirrors

/-- The identifiers of rewritten statements are what the rewrite writes for those of the
statements. -/
theorem occurrences_rewriteStmts (replace : Replacing) (layers' layers : List Layer)
    (body : List Stmt) :
    occurrences (stepsStmts ⟨layers', false, true⟩ (rewriteStmts replace ⟨layers, false, true⟩ body)) =
      (origins (stepsStmts ⟨layers, false, true⟩ body)).map (Origin.written replace) :=
  (mirrors_stepsStmts .base (fun _ => rfl) body).occurrences

end

end Unbundle.Engine

-- SUMMARY: Properties of walks that hold of every tree because the operations of walks keep them.
import Unbundle.Proofs.Composition

/-!
# Closed properties of walks

A walk is put together from few operations: walks that come one after the other, scopes that are
opened, identifiers that are met, calls that define something. A property that each of these
operations keeps is `Closed`. It is a compositional property of code that looks at the walk alone, so
it holds of the walk over any statements (`Closed.holds_visitStmts`).
-/

namespace Unbundle.Engine

open Script

variable {σ ε : Type}

/-- Arguments without a factory stay as they are. -/
theorem visitFactory_of_ne (d : Amd.Definition) {args : List Expr}
    (h : ∀ name deps own f, args ≠ [name, deps, .fn own f]) :
    (visitFactory d args : Walk σ ε (List Expr)) = pure args := by
  rw [visitFactory]
  intro name deps own span isAsync isGenerator params body hargs
  exact h name deps own _ hargs

/-- The operations that walks are made of keep a property. -/
structure Closed (P : {α : Type} → Walk σ ε α → Prop) : Prop where
  pure {α : Type} (a : α) : P (Pure.pure a : Walk σ ε α)
  map {α β : Type} (g : α → β) {w : Walk σ ε α} : P w → P (g <$> w)
  seq {α β : Type} {wg : Walk σ ε (α → β)} {w : Walk σ ε α} : P wg → P w → P (wg <*> w)
  unlessStopped {α : Type} (a : α) {w : Walk σ ε α} : P w → P (Walk.unlessStopped a w)
  targeting {α : Type} (b : Bool) {w : Walk σ ε α} : P w → P (Walk.targeting b w)
  within {α : Type} (scope : Scope) {w : Walk σ ε α} : P w → P (Walk.within scope w)
  ident (id : Ident) (site : Site) : P (Walk.ident id site : Walk σ ε Replacement)
  /-- Whether a name in a pattern is declared depends on the surroundings. -/
  patternIdent (id : Ident) : P (Walk.reference id : Walk σ ε Ident) →
    P (Walk.declaration id : Walk σ ε Ident) → P (Walk.patternIdent id : Walk σ ε Ident)
  module (d : Amd.Definition) (scope : Scope) {factory : Walk σ ε (List Stmt)} :
    P factory → P (Walk.module d scope factory)
  definition {α : Type} (callee : Expr) (args : List Expr) {parts whole : Walk σ ε α}
    {factory : Amd.Definition → Walk σ ε α} : P parts → P whole → (∀ d, P (factory d)) →
      P (Walk.definition callee args parts whole factory)

namespace Closed

variable {P : {α : Type} → Walk σ ε α → Prop} (h : Closed P)

include h

/-- Code right inside of a scope is made of its parts. -/
theorem of_interior {α : Type} {around : Around} {scope : Scope}
    {names : List String} {p : Piece σ ε α}
    (hp : Interior (fun _ _ piece => P piece.walk) around scope names p) : P p.walk := by
  induction hp with
  | part _ hpart => exact hpart
  | map g _ ih => exact h.map g ih
  | seq _ _ ih ih' => exact h.seq ih ih'

theorem holds_reference (id : Ident) : P (Walk.reference id : Walk σ ε Ident) :=
  h.map _ (h.ident id .reference)

theorem holds_declaration (id : Ident) : P (Walk.declaration id : Walk σ ε Ident) :=
  h.map _ (h.ident id .declaration)

theorem holds_visitFactory {around : Around} {args : List Expr}
    (hfactory : InFactory (fun _ _ (p : Piece σ ε _) => P p.walk) around args)
    (d : Amd.Definition) : P (visitFactory d args : Walk σ ε (List Expr)) := by
  match args with
  | [name, deps, factory] =>
    cases factory with
    | fn own f =>
      cases f with
      | mk span isAsync isGenerator params body =>
        exact h.map _ (h.module d _ (h.of_interior hfactory))
    | _ =>
      rw [visitFactory_of_ne d (by simp)]
      exact h.pure _
  | [] | [_] | [_, _] | _ :: _ :: _ :: _ :: _ =>
    rw [visitFactory_of_ne d (by simp)]
    exact h.pure _

/-- A closed property is one of pieces that looks at their walks alone. -/
theorem compositional : Compositional fun _ _ (p : Piece σ ε _) => P p.walk where
  pure _ a := h.pure a
  map g hp := h.map g hp
  seq hg hp := h.seq hg hp
  unlessStopped a hp := h.unlessStopped a hp
  targeted hp := h.targeting true hp
  untargeted hp := h.targeting false hp
  ident _ id site := h.ident id site
  patternIdent _ id := h.patternIdent id (h.holds_reference id) (h.holds_declaration id)
  unary _ _ harg := h.unlessStopped _ (h.map _ harg)
  call _ hcallee hargs hfactory :=
    h.unlessStopped _ (h.definition _ _ (h.seq (h.map _ hcallee) hargs) (h.pure _)
      fun d => h.map _ (h.holds_visitFactory hfactory d))
  scope hp := h.within _ (h.of_interior hp)
  block _ _ _ _ hp := hp
  staticBlock hp := hp
  handler g _ _ hparam hbody := h.within _ (h.seq (h.map g hparam) hbody)

theorem holds_visitStmts (body : List Stmt) : P (visitStmts body : Walk σ ε (List Stmt)) :=
  h.compositional.holds_stmts ⟨[], false, true⟩ rfl rfl body

end Closed
end Unbundle.Engine

-- SUMMARY: A walk that has not stopped leaves what remains of the code.
import Unbundle.Proofs.Outside

/-!
# What a walk leaves

`Script.remains` is what a walk over a whole script leaves. A walk that stops leaves more than this,
so the statement about one piece of code is: if the walk has not stopped by the end of it, then this
is what it leaves. `Leaves w tree` says so of a walk. A walk that has stopped stays so, which makes
this a compositional property of code (`leaves_visitStmts`).
-/

namespace Unbundle.Engine

open Script

variable {σ ε α β : Type}

/-- Outside of modules, a walk leaves `tree`, unless it has stopped by its end. -/
structure Leaves (w : Walk σ ε α) (tree : α) : Prop where
  /-- A walk that has stopped stays so. -/
  stopped : ∀ (env : Env σ ε) (s : State σ ε), env.active = none → s.stopped = true →
    (w env s).2.stopped = true
  draft : ∀ (env : Env σ ε) (s : State σ ε), env.active = none → (w env s).2.stopped = false →
    ∀ filling, (w env s).1 filling = tree

namespace Leaves

variable {w : Walk σ ε α} {tree : α}

theorem pure (a : α) : Leaves (Pure.pure a : Walk σ ε α) a :=
  ⟨fun _ _ _ hs => hs, fun _ _ _ _ _ => rfl⟩

theorem map (g : α → β) (h : Leaves w tree) : Leaves (g <$> w) (g tree) where
  stopped env s henv hs := h.stopped env s henv hs
  draft env s henv hend filling := congrArg g (h.draft env s henv hend filling)

theorem seq {wg : Walk σ ε (α → β)} {g : α → β} (hg : Leaves wg g) (h : Leaves w tree) :
    Leaves (wg <*> w) (g tree) where
  stopped env s henv hs := h.stopped env _ henv (hg.stopped env s henv hs)
  draft env s henv hend filling := by
    -- The first walk has not stopped, because the second one has not.
    have hmid : (wg env s).2.stopped = false := by
      rw [← Bool.not_eq_true]
      intro hmid
      rw [Walk.seq_apply, h.stopped env _ henv hmid] at hend
      cases hend
    rw [Walk.seq_apply]
    exact congr (hg.draft env s henv hmid filling) (h.draft env _ henv hend filling)

theorem unlessStopped (a : α) (h : Leaves w tree) : Leaves (Walk.unlessStopped a w) tree where
  stopped env s henv hs := by simp [Walk.unlessStopped, hs]
  draft env s henv hend filling := by
    by_cases hs : s.stopped = true
    · simp [Walk.unlessStopped, hs] at hend
    · rw [Walk.unlessStopped, if_neg hs] at hend ⊢
      exact h.draft env s henv hend filling

theorem targeting {b : Bool} (h : Leaves w tree) : Leaves (Walk.targeting b w) tree :=
  ⟨fun _ s henv hs => h.stopped _ s henv hs, fun _ s henv hend => h.draft _ s henv hend⟩

theorem within {scope : Scope} (h : Leaves w tree) : Leaves (Walk.within scope w) tree :=
  ⟨fun _ s henv hs => h.stopped _ s henv hs, fun _ s henv hend => h.draft _ s henv hend⟩

end Leaves

-- ---------------------------------------------------------------------------
-- Identifiers and constants
-- ---------------------------------------------------------------------------

theorem leaves_ident (id : Ident) (site : Site) :
    Leaves (Walk.ident id site : Walk σ ε Replacement) .keep where
  stopped env s henv hs := by simpa [Walk.ident, henv] using hs
  draft env s henv _ filling := by simp [Walk.ident, henv]

theorem leaves_reference (id : Ident) : Leaves (Walk.reference id : Walk σ ε Ident) id :=
  (leaves_ident id .reference).map (Replacement.rename id)

theorem leaves_declaration (id : Ident) : Leaves (Walk.declaration id : Walk σ ε Ident) id :=
  (leaves_ident id .declaration).map (Replacement.rename id)

theorem leaves_patternIdent (id : Ident) : Leaves (Walk.patternIdent id : Walk σ ε Ident) id where
  stopped env s henv hs := by
    unfold Walk.patternIdent
    split
    · exact (leaves_reference id).stopped env s henv hs
    · exact (leaves_declaration id).stopped env s henv hs
  draft env s henv hend filling := by
    by_cases htarget : env.inTarget
    · rw [Walk.patternIdent, if_pos htarget] at hend ⊢
      exact (leaves_reference id).draft env s henv hend filling
    · rw [Walk.patternIdent, if_neg htarget] at hend ⊢
      exact (leaves_declaration id).draft env s henv hend filling

/-- No numbers arise, and those that are there stay. -/
theorem remainsExpr_eq_num {e : Expr} {at_ : Span} {raw : String} :
    remainsExpr e = .lit at_ (.num raw) ↔ e = .lit at_ (.num raw) := by
  cases e with
  | unary span op arg =>
    cases hc : constant? span op arg with
    | none => simp [remainsExpr, hc]
    | some value =>
      obtain ⟨_, _, rfl, rfl | ⟨b, rfl⟩⟩ := constant?_eq_some hc <;> simp [remainsExpr, hc]
  | call span callee args =>
    simp only [remainsExpr]
    split <;> simp
  | _ => simp [remainsExpr]

theorem simplifyUnary_remainsExpr (span : Span) (op : UnaryOp) (arg : Expr) :
    simplifyUnary span op (remainsExpr arg) = remainsExpr (.unary span op arg) := by
  rw [simplifyUnary_eq, constant?_congr span op fun _ _ => remainsExpr_eq_num, remainsExpr]
  cases constant? span op arg <;> rfl

theorem leaves_unary (span : Span) (op : UnaryOp) {arg : Expr}
    (h : Leaves (visitExpr arg : Walk σ ε Expr) (remainsExpr arg)) :
    Leaves (visitExpr (.unary span op arg) : Walk σ ε Expr)
      (remainsExpr (.unary span op arg)) := by
  rw [← simplifyUnary_remainsExpr]
  exact (h.map (simplifyUnary span op)).unlessStopped _

-- ---------------------------------------------------------------------------
-- Definitions
-- ---------------------------------------------------------------------------

/-- What happens to a call is settled by what it defines. -/
theorem leaves_call (span : Span) {callee : Expr} {args : List Expr}
    (hcallee : Leaves (visitExpr callee : Walk σ ε Expr) (remainsExpr callee))
    (hargs : Leaves (visitExprs args : Walk σ ε (List Expr)) (remainsExprs args)) :
    Leaves (visitExpr (.call span callee args) : Walk σ ε Expr)
      (remainsExpr (.call span callee args)) where
  stopped env s henv hs := by simp [visitExpr, Walk.unlessStopped, hs]
  draft env s henv hend filling := by
    have hparts := (hcallee.map (Expr.call span)).seq hargs
    by_cases hs : s.stopped = true
    · simp [visitExpr, Walk.unlessStopped, hs] at hend
    · simp only [visitExpr, Walk.unlessStopped, if_neg hs, Walk.definition, henv] at hend ⊢
      simp only [remainsExpr]
      cases hr : Amd.recognize callee args with
      | other =>
        have hfound : found? callee args = none := by simp [found?, hr]
        simp only [hr] at hend
        simp only [hfound]
        exact hparts.draft env s henv hend filling
      | unhandled arguments =>
        have hfound : found? callee args = none := by simp [found?, hr]
        simp only [hr] at hend
        simp only [hfound]
        exact hparts.draft env _ henv hend filling
      | textAsset path text =>
        have hfound : found? callee args = some (.textAsset path text) := by simp [found?, hr]
        simp only [hfound]
        rfl
      | module d =>
        obtain ⟨name, deps, own, at_, isAsync, isGenerator, params, body, rfl, -⟩ :=
          recognize_eq_module hr
        have hfound : found? callee
            [name, deps, .fn own (.mk at_ isAsync isGenerator params body)] =
              some (.module ⟨d.name, d.dependencies, own, at_, params, body⟩) := by
          simp [found?, hr]
        simp only [hfound, visitFactory, emptied]
        rfl

-- ---------------------------------------------------------------------------
-- Statements
-- ---------------------------------------------------------------------------

theorem leaves_of_interior {around : Around} {scope : Scope} {names : List String}
    {p : Piece σ ε α} (h : Interior (fun _ _ p => Leaves p.walk p.remains) around scope names p) :
    Leaves p.walk p.remains := by
  induction h with
  | part _ hpart => exact hpart
  | map g _ ih => exact ih.map g
  | seq _ _ ih ih' => exact ih.seq ih'

theorem compositional_leaves :
    Compositional fun _ _ (p : Piece σ ε _) => Leaves p.walk p.remains where
  pure _ a := .pure a
  map g h := h.map g
  seq hg h := hg.seq h
  unlessStopped a h := h.unlessStopped a
  targeted h := h.targeting
  untargeted h := h.targeting
  ident _ id site := leaves_ident id site
  patternIdent _ id := leaves_patternIdent id
  unary span op h := leaves_unary span op h
  call span hcallee hargs _ := leaves_call span hcallee hargs
  scope h := (leaves_of_interior h).within
  block _ _ _ _ h := h
  staticBlock h := h
  handler g _ _ hparam hbody := ((hparam.map g).seq hbody).within

theorem leaves_visitStmt (s : Stmt) : Leaves (visitStmt s : Walk σ ε Stmt) (remainsStmt s) :=
  compositional_leaves.holds_stmt ⟨[], false, true⟩ rfl rfl s

theorem leaves_visitStmts (body : List Stmt) :
    Leaves (visitStmts body : Walk σ ε (List Stmt)) (remainsStmts body) :=
  compositional_leaves.holds_stmts ⟨[], false, true⟩ rfl rfl body

end Unbundle.Engine

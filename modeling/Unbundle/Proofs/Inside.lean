-- SUMMARY: Inside of a factory, the walk drafts the direct rewrite and records its steps.
import Unbundle.Proofs.Composition

/-!
# The walk inside of a factory

Inside of a factory nothing stops the walk and nothing is handed to a sink. `Follows w tree steps`
says all that such a walk does: whatever is filled in, its draft is `tree`, and its state moves on by
`steps`. The predicate is closed under the operations that walks are made of, so one
induction over the tree gives `follows_visitStmts`: the draft of a factory's statements is their
direct rewrite.
-/

namespace Unbundle.Engine

open Script

variable {σ ε α β : Type}

namespace Walk

theorem map_apply (g : α → β) (w : Walk σ ε α) (env : Env σ ε) (s : State σ ε) :
    (g <$> w) env s = (fun filling => g ((w env s).1 filling), (w env s).2) := rfl

theorem seq_apply (wg : Walk σ ε (α → β)) (w : Walk σ ε α) (env : Env σ ε) (s : State σ ε) :
    (wg <*> w) env s =
      (fun filling => (wg env s).1 filling ((w env (wg env s).2).1 filling),
        (w env (wg env s).2).2) := rfl

end Walk

-- ---------------------------------------------------------------------------
-- The effect of a step
-- ---------------------------------------------------------------------------

/-- The state after these steps. -/
def State.after (f : Factory) (s : State σ ε) (steps : List Step) : State σ ε :=
  { s with
    findings := steps.foldl f.note s.findings
    log := s.log ++ steps.flatMap f.events }

theorem log_append_append (log : Array Event) (events rest : List Event) :
    log ++ events ++ rest = log ++ (events ++ rest) := by
  apply Array.ext'
  simp

theorem State.report_report (s : State σ ε) (events rest : List Event) :
    (s.report events).report rest = s.report (events ++ rest) := by
  simp [State.report, log_append_append]

namespace State

variable (f : Factory) (s : State σ ε)

@[simp] theorem after_nil : s.after f [] = s := by
  simp [after]

@[simp] theorem after_after (steps rest : List Step) :
    (s.after f steps).after f rest = s.after f (steps ++ rest) := by
  simp [after, log_append_append]

@[simp] theorem stopped_after (steps : List Step) : (s.after f steps).stopped = s.stopped := rfl

/-- Closing a scope. -/
theorem after_report_leftScope (scope : Scope) (steps : List Step) :
    (s.after f steps).report [.leftScope scope.span] = s.after f (stepsWithin scope steps) := by
  simp only [after, report, stepsWithin, log_append_append]
  simp [Factory.note, Factory.events]

end State

-- ---------------------------------------------------------------------------
-- Walks that follow a list of steps
-- ---------------------------------------------------------------------------

/-- The surroundings are those of a place inside of the factory `f`, which has the scopes `outer`
around it. -/
structure Inside (f : Factory) (outer scopes : Scope.Stack) (inTarget : Bool) (env : Env σ ε) :
    Prop where
  active : env.active = some (f.active outer)
  scopes : env.scopes = scopes ++ f.scope :: outer
  inTarget : env.inTarget = inTarget

/-- Inside of the factory, where these scopes are open, the walk over a piece of code drafts its
rewrite and takes its steps. -/
def Follows (f : Factory) (outer scopes : Scope.Stack) (inTarget : Bool) (p : Piece σ ε α) : Prop :=
  ∀ (env : Env σ ε) (s : State σ ε), Inside f outer scopes inTarget env → s.stopped = false →
    p.walk env s = (fun filling => p.tree (f.filled filling), s.after f p.steps)

namespace Follows

variable {f : Factory} {outer scopes : Scope.Stack} {inTarget : Bool} {p : Piece σ ε α}

theorem pure (a : α) : Follows f outer scopes inTarget (.pure a : Piece σ ε α) := by
  intro env s _ _
  simp only [Piece.pure, State.after_nil]
  rfl

theorem map (g : α → β) (h : Follows f outer scopes inTarget p) :
    Follows f outer scopes inTarget (p.map g) := by
  intro env s henv hs
  simp only [Piece.map, Walk.map_apply, h env s henv hs]

theorem seq {pg : Piece σ ε (α → β)} (hg : Follows f outer scopes inTarget pg)
    (h : Follows f outer scopes inTarget p) : Follows f outer scopes inTarget (pg.seq p) := by
  intro env s henv hs
  have hrest := h env (s.after f pg.steps) henv hs
  simp only [Piece.seq, Walk.seq_apply, hg env s henv hs, hrest, State.after_after]

theorem unlessStopped (a : α) (h : Follows f outer scopes inTarget p) :
    Follows f outer scopes inTarget (p.unlessStopped a) := by
  intro env s henv hs
  simp only [Piece.unlessStopped, Walk.unlessStopped, hs]
  exact h env s henv hs

theorem targeting {b : Bool} (h : Follows f outer scopes b p) :
    Follows f outer scopes inTarget (p.targeting b) :=
  fun _ s henv hs => h _ s ⟨henv.active, henv.scopes, rfl⟩ hs

theorem within {scope : Scope} (h : Follows f outer (scope :: scopes) inTarget p) :
    Follows f outer scopes inTarget (p.within scope) := by
  intro env s henv hs
  have hin : Inside f outer (scope :: scopes) inTarget
      { env with scopes := env.scopes.enter scope } :=
    ⟨henv.active, by simp [Scope.Stack.enter, henv.scopes], henv.inTarget⟩
  simp only [Piece.within, Walk.within, h _ s hin hs, State.after_report_leftScope]

/-- The walk reads the meaning of an identifier off its place. -/
theorem ident (f : Factory) (outer : Scope.Stack) (around : Around) (id : Ident) (site : Site) :
    Follows f outer around.scopes around.inTarget (.ident around id site : Piece σ ε _) := by
  intro env s henv _
  have hm : (f.active outer).meaning env.scopes id.name = f.meaning (around.place id site) := by
    rw [henv.scopes]
    exact f.meaning_active outer (around.place id site)
  simp only [Piece.ident, Walk.ident, henv.active, hm]
  simp [State.after, Factory.note, Factory.events, Factory.filled, Around.place]

theorem patternIdent (f : Factory) (outer : Scope.Stack) (around : Around) (id : Ident) :
    Follows f outer around.scopes around.inTarget (.patternIdent around id : Piece σ ε _) := by
  intro env s henv hs
  simp only [Piece.patternIdent, Walk.patternIdent, henv.inTarget, Around.patternPlace]
  split
  · exact (ident f outer around id .reference).map (Replacement.rename id) env s henv hs
  · exact (ident f outer around id .declaration).map (Replacement.rename id) env s henv hs

end Follows

-- ---------------------------------------------------------------------------
-- Constants
-- ---------------------------------------------------------------------------

theorem simplifyUnary_eq (span : Span) (op : UnaryOp) (arg : Expr) :
    simplifyUnary span op arg = (constant? span op arg).getD (.unary span op arg) := by
  fun_cases constant? span op arg <;> simp_all [simplifyUnary]

/-- A constant is an operator applied to a literal, which a rewrite leaves alone. -/
theorem constant?_eq_some {span : Span} {op : UnaryOp} {arg value : Expr}
    (h : constant? span op arg = some value) :
    ∃ at_ raw, arg = .lit at_ (.num raw) ∧
      (value = .ident ⟨"undefined", span⟩ ∨ ∃ b, value = .lit span (.bool b)) := by
  revert h
  fun_cases constant? span op arg <;> grind

/-- A rewrite makes no numbers, and leaves those that are there alone. -/
theorem rewriteExpr_eq_num {replace : Replacing} {around : Around} {e : Expr} {at_ : Span}
    {raw : String} :
    rewriteExpr replace around e = .lit at_ (.num raw) ↔ e = .lit at_ (.num raw) := by
  cases e with
  | unary span op arg =>
    cases hc : constant? span op arg with
    | none => simp [rewriteExpr, hc]
    | some value =>
      obtain ⟨_, _, rfl, rfl | ⟨b, rfl⟩⟩ := constant?_eq_some hc <;> simp [rewriteExpr, hc]
  | member span object key =>
    cases hd : defaultObject? object key with
    | none => simp [rewriteExpr, hd]
    | some id =>
      simp only [rewriteExpr, hd]
      cases replace (around.place id (.defaultObject span)) <;> simp [rewriteDefault]
  | cls name cls => cases name <;> simp [rewriteExpr]
  | _ => simp [rewriteExpr]

/-- Only numbers are parts of a constant. -/
theorem constant?_congr {e e' : Expr} (span : Span) (op : UnaryOp)
    (h : ∀ at_ raw, e' = .lit at_ (.num raw) ↔ e = .lit at_ (.num raw)) :
    constant? span op e' = constant? span op e := by
  cases hc : constant? span op e with
  | some value =>
    obtain ⟨at_, raw, rfl, -⟩ := constant?_eq_some hc
    rw [(h at_ raw).2 rfl, hc]
  | none =>
    cases hr : constant? span op e' with
    | none => rfl
    | some value =>
      obtain ⟨at_, raw, rfl, -⟩ := constant?_eq_some hr
      rw [(h at_ raw).1 rfl, hr] at hc
      cases hc

theorem constant?_rewriteExpr (replace : Replacing) (around : Around) (span : Span) (op : UnaryOp)
    (arg : Expr) : constant? span op (rewriteExpr replace around arg) = constant? span op arg :=
  constant?_congr span op fun _ _ => rewriteExpr_eq_num

/-- `void 0` is no event of its own. -/
theorem State.after_stepsConstant (f : Factory) (s : State σ ε) (around : Around) (value : Expr) :
    s.after f (stepsConstant around value) = s.after f [] := by
  fun_cases stepsConstant around value <;> simp [State.after, Factory.note, Factory.events]

-- ---------------------------------------------------------------------------
-- Trees
-- ---------------------------------------------------------------------------

namespace Follows

variable {f : Factory} {outer : Scope.Stack} {around : Around}

theorem unary (span : Span) (op : UnaryOp) {arg : Expr}
    (h : Follows f outer around.scopes around.inTarget (.expr around arg : Piece σ ε _)) :
    Follows f outer around.scopes around.inTarget
      (.expr around (.unary span op arg) : Piece σ ε _) := by
  intro env s henv hs
  have hwalk : visitExpr (.unary span op arg) env s =
      (simplifyUnary span op <$> visitExpr arg : Walk σ ε Expr) env s := by
    simp only [visitExpr, Walk.unlessStopped, hs, Bool.false_eq_true, if_false]
  have harg : visitExpr arg env s = _ := h env s henv hs
  simp only [Piece.expr, hwalk, Walk.map_apply, harg, rewriteExpr, stepsExpr, simplifyUnary_eq,
    constant?_rewriteExpr]
  cases hc : constant? span op arg with
  | none => rfl
  | some value =>
    obtain ⟨at_, raw, rfl, -⟩ := constant?_eq_some hc
    simp only [Option.getD_some, stepsExpr, State.after_stepsConstant]

/-- Inside of a factory nothing is defined. -/
theorem call (span : Span) {callee : Expr} {args : List Expr}
    (hcallee : Follows f outer around.scopes around.inTarget (.expr around callee : Piece σ ε _))
    (hargs : Follows f outer around.scopes around.inTarget (.exprs around args : Piece σ ε _)) :
    Follows f outer around.scopes around.inTarget
      (.expr around (.call span callee args) : Piece σ ε _) := by
  intro env s henv hs
  have hparts := ((hcallee.map (Expr.call span)).seq hargs) env s henv hs
  simp only [Piece.expr, visitExpr, Walk.unlessStopped, hs, Walk.definition, henv.active]
  exact hparts

theorem of_interior {scope : Scope} {names : List String} {p : Piece σ ε α}
    (h : Interior (fun around _ p => Follows f outer around.scopes around.inTarget p) around scope
      names p) : Follows f outer (scope :: around.scopes) around.inTarget p := by
  induction h with
  | part hscope hpart => exact around.scopes_enter hscope ▸ hpart
  | map g _ ih => exact ih.map g
  | seq _ _ ih ih' => exact ih.seq ih'

variable (f : Factory) (outer : Scope.Stack)

theorem compositional :
    Compositional fun around _ (p : Piece σ ε _) =>
      Follows f outer around.scopes around.inTarget p where
  pure _ a := .pure a
  map g h := h.map g
  seq hg h := hg.seq h
  unlessStopped a h := h.unlessStopped a
  targeted h := h.targeting
  untargeted h := h.targeting
  ident := ident f outer
  patternIdent := patternIdent f outer
  unary span op h := h.unary span op
  call span hcallee hargs _ := hcallee.call span hargs
  scope h := (of_interior h).within
  block hscope _ _ _ h := Around.scopes_enter_of_none hscope _ ▸ h
  staticBlock h := h
  handler g _ _ hparam hbody := ((hparam.map g).seq hbody).within

end Follows

/-- What a factory encloses, as seen from inside. -/
def Factory.piece (f : Factory) : Piece σ ε (List Stmt) :=
  ((Piece.name ⟨[], false, true⟩ f.own).seqRight (.pats ⟨[], false, true⟩ f.params)).seqRight
    (.stmts f.around f.body)

theorem Factory.follows_piece (f : Factory) (outer : Scope.Stack) :
    Follows f outer [] false (f.piece : Piece σ ε _) :=
  have h := Follows.compositional f outer
  (((h.holds_name ⟨[], false, true⟩ f.own).map _).seq
    (h.holds_pats ⟨[], false, true⟩ f.params) |>.map _).seq (h.holds_stmts f.around rfl rfl f.body)

-- ---------------------------------------------------------------------------
-- Replacements that agree
-- ---------------------------------------------------------------------------

theorem tree_eq_of_interior {replace replace' : Replacing} {around : Around} {scope : Scope}
    {names : List String} {p : Piece Unit Unit α}
    (h : Interior (fun _ _ p => (∀ place, .ident place ∈ p.steps → replace place = replace' place) →
      p.tree replace = p.tree replace') around scope names p)
    (hagree : ∀ place, .ident place ∈ p.steps → replace place = replace' place) :
    p.tree replace = p.tree replace' := by
  induction h with
  | part _ hpart => exact hpart hagree
  | map g _ ih => exact congrArg g (ih hagree)
  | seq _ _ ih ih' =>
    simp only [Piece.seq]
    rw [ih fun place hmem => hagree place (List.mem_append_left _ hmem),
      ih' fun place hmem => hagree place (List.mem_append_right _ hmem)]

/-- A rewrite asks for replacements at the places that the walk meets, and nowhere else. -/
theorem compositional_tree_eq (replace replace' : Replacing) :
    Compositional fun _ _ (p : Piece Unit Unit _) =>
      (∀ place, .ident place ∈ p.steps → replace place = replace' place) →
        p.tree replace = p.tree replace' where
  pure _ _ _ := rfl
  map g h hagree := congrArg g (h hagree)
  seq hg h hagree := by
    simp only [Piece.seq]
    rw [hg fun place hmem => hagree place (List.mem_append_left _ hmem),
      h fun place hmem => hagree place (List.mem_append_right _ hmem)]
  unlessStopped _ h := h
  targeted h := h
  untargeted h := h
  ident _ _ _ hagree := hagree _ List.mem_cons_self
  patternIdent _ id hagree := congrArg (·.rename id) (hagree _ List.mem_cons_self)
  unary {around arg} span op h hagree := by
    simp only [Piece.expr, rewriteExpr, stepsExpr] at h hagree ⊢
    cases hc : constant? span op arg with
    | some value => rfl
    | none =>
      rw [hc] at hagree
      exact congrArg _ (h hagree)
  call span hcallee hargs _ hagree := by
    simp only [Piece.expr, Piece.exprs, rewriteExpr, stepsExpr] at hcallee hargs hagree ⊢
    rw [hcallee fun place hmem => hagree place (List.mem_append_left _ hmem),
      hargs fun place hmem => hagree place (List.mem_append_right _ hmem)]
  scope h hagree := by
    have hparts := tree_eq_of_interior h
    exact hparts fun place hmem => hagree place (subset_stepsWithin _ _ hmem)
  block _ _ _ _ h := h
  staticBlock h := h
  handler g _ _ hparam hbody hagree := by
    simp only [Piece.within, Piece.seq, Piece.map] at hagree ⊢
    rw [hparam fun place hmem =>
        hagree place (subset_stepsWithin _ _ (List.mem_append_left _ hmem)),
      hbody fun place hmem =>
        hagree place (subset_stepsWithin _ _ (List.mem_append_right _ hmem))]

theorem rewriteStmts_congr {replace replace' : Replacing} (around : Around) (body : List Stmt)
    (hlayers : Hoists around.layers) (hentered : around.entered = true)
    (h : ∀ place, .ident place ∈ stepsStmts around body → replace place = replace' place) :
    rewriteStmts replace around body = rewriteStmts replace' around body :=
  (compositional_tree_eq replace replace').holds_stmts around hlayers hentered body h

end Unbundle.Engine

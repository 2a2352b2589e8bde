-- SUMMARY: Code as its several readings see it, and properties that hold of all code by composition.
import Unbundle.Proofs.LexicalScope
import Unbundle.Proofs.Outline
import Unbundle.Proofs.Remains

/-!
# Composition

Code has several readings: the walk over it, the outline that a walker follows, the definitions that
stand in it, what remains of it, its direct rewrite, and the steps through it. A `Piece` holds what
all of them make of one piece of code. The readings of a piece are put together from those of its
parts by few operations: one part after the other, parts inside of a scope, an identifier.

A property is `Compositional` if each of these operations keeps it. Such a property holds of all
code: `Compositional.holds_stmts` is the one induction over the tree that the properties share.
-/

namespace Unbundle.Engine

open Script

variable {σ ε α β γ : Type}

/-- An access to `default` is one function of what replaces its object. -/
theorem Walk.defaultAccess_eq (span : Span) (id : Ident) :
    (defaultAccess span id : Walk σ ε Expr) =
      rewriteDefault span id <$> ident id (.defaultObject span) := by
  unfold defaultAccess
  congr 1
  funext r
  cases r <;> rfl

-- ---------------------------------------------------------------------------
-- Pieces of code
-- ---------------------------------------------------------------------------

/-- What the readings make of a piece of code. -/
structure Piece (σ ε α : Type) where
  walk : Walk σ ε α
  outline : Outline
  found : List Found
  remains : α
  tree : Replacing → α
  steps : List Step

namespace Piece

/-- Code in which nothing is met. -/
def pure (a : α) : Piece σ ε α :=
  ⟨Pure.pure a, .nothing, [], a, fun _ => a, []⟩

def map (g : α → β) (p : Piece σ ε α) : Piece σ ε β :=
  ⟨g <$> p.walk, p.outline, p.found, g p.remains, fun replace => g (p.tree replace), p.steps⟩

/-- One piece after the other. -/
def seq (pg : Piece σ ε (α → β)) (p : Piece σ ε α) : Piece σ ε β :=
  ⟨pg.walk <*> p.walk, .both pg.outline p.outline, pg.found ++ p.found, pg.remains p.remains,
    fun replace => pg.tree replace (p.tree replace), pg.steps ++ p.steps⟩

def seqRight (p : Piece σ ε α) (q : Piece σ ε β) : Piece σ ε β :=
  (p.map fun _ b => b).seq q

def unlessStopped (a : α) (p : Piece σ ε α) : Piece σ ε α :=
  { p with
    walk := Walk.unlessStopped a p.walk
    outline := .unlessStopped p.outline }

def targeting (inTarget : Bool) (p : Piece σ ε α) : Piece σ ε α :=
  { p with
    walk := Walk.targeting inTarget p.walk
    outline := .targeting inTarget p.outline }

def within (scope : Scope) (p : Piece σ ε α) : Piece σ ε α :=
  { p with
    walk := Walk.within scope p.walk
    outline := .within scope p.outline
    steps := stepsWithin scope p.steps }

/-- A function, where names are declared again. -/
def function (scope : Scope) (p : Piece σ ε α) : Piece σ ε α :=
  (p.within scope).targeting false

section Readings

variable (around : Around)

def ident (id : Ident) (site : Site) : Piece σ ε Replacement :=
  ⟨Walk.ident id site, .ident id site, [], .keep, fun replace => replace (around.place id site),
    [.ident (around.place id site)]⟩

/-- An identifier with its replacement in place. -/
def renamed (id : Ident) (site : Site) : Piece σ ε Ident :=
  (ident around id site).map (Replacement.rename id)

def patternIdent (id : Ident) : Piece σ ε Ident :=
  ⟨Walk.patternIdent id, .patternIdent id, [], id,
    fun replace => rewriteIdent replace (around.patternPlace id),
    [.ident (around.patternPlace id)]⟩

def name (id : Option Ident) : Piece σ ε (Option Ident) :=
  ⟨visitName id, outlineName id, [], id, (rewriteName · around id), stepsName around id⟩

def expr (e : Expr) : Piece σ ε Expr :=
  ⟨visitExpr e, outlineExpr e, definitionsExpr e, remainsExpr e, (rewriteExpr · around e),
    stepsExpr around e⟩

def exprs (es : List Expr) : Piece σ ε (List Expr) :=
  ⟨visitExprs es, outlineExprs es, definitionsExprs es, remainsExprs es,
    (rewriteExprs · around es), stepsExprs around es⟩

def optExpr (e : Option Expr) : Piece σ ε (Option Expr) :=
  ⟨visitOptExpr e, outlineOptExpr e, definitionsOptExpr e, remainsOptExpr e,
    (rewriteOptExpr · around e), stepsOptExpr around e⟩

def key (k : Key) : Piece σ ε Key :=
  ⟨visitKey k, outlineKey k, definitionsKey k, remainsKey k, (rewriteKey · around k),
    stepsKey around k⟩

def property (p : Property) : Piece σ ε Property :=
  ⟨visitProperty p, outlineProperty p, definitionsProperty p, remainsProperty p,
    (rewriteProperty · around p), stepsProperty around p⟩

def properties (ps : List Property) : Piece σ ε (List Property) :=
  ⟨visitProperties ps, outlineProperties ps, definitionsProperties ps, remainsProperties ps,
    (rewriteProperties · around ps), stepsProperties around ps⟩

def pat (p : Pat) : Piece σ ε Pat :=
  ⟨visitPat p, outlinePat p, definitionsPat p, remainsPat p, (rewritePat · around p),
    stepsPat around p⟩

def pats (ps : List Pat) : Piece σ ε (List Pat) :=
  ⟨visitPats ps, outlinePats ps, definitionsPats ps, remainsPats ps, (rewritePats · around ps),
    stepsPats around ps⟩

def target (p : Pat) : Piece σ ε Pat :=
  ⟨visitTarget p, outlineTarget p, definitionsTarget p, remainsTarget p,
    (rewriteTarget · around p), stepsTarget around p⟩

def patProperty (p : PatProperty) : Piece σ ε PatProperty :=
  ⟨visitPatProperty p, outlinePatProperty p, definitionsPatProperty p, remainsPatProperty p,
    (rewritePatProperty · around p), stepsPatProperty around p⟩

def patProperties (ps : List PatProperty) : Piece σ ε (List PatProperty) :=
  ⟨visitPatProperties ps, outlinePatProperties ps, definitionsPatProperties ps,
    remainsPatProperties ps, (rewritePatProperties · around ps), stepsPatProperties around ps⟩

/-- A function with its own name, if it is an expression that has one. -/
def ofFunction (own : Option Ident) (f : Function) : Piece σ ε (Option Ident × Function) :=
  let inside := around.enterFunction (.function f.span own f.params f.body .params)
  ⟨visitFunction own f, outlineFunction own f, definitionsFunction f, (own, remainsFunction f),
    fun replace => (rewriteName replace inside own, rewriteFunction replace around own f),
    stepsFunction around own f⟩

def cls (cls : Script.Class) : Piece σ ε Script.Class :=
  ⟨visitClass cls, outlineClass cls, definitionsClass cls, remainsClass cls,
    (rewriteClass · around cls), stepsClass around cls⟩

def member (m : ClassMember) : Piece σ ε ClassMember :=
  ⟨visitMember m, outlineMember m, definitionsMember m, remainsMember m,
    (rewriteMember · around m), stepsMember around m⟩

def members (ms : List ClassMember) : Piece σ ε (List ClassMember) :=
  ⟨visitMembers ms, outlineMembers ms, definitionsMembers ms, remainsMembers ms,
    (rewriteMembers · around ms), stepsMembers around ms⟩

def stmt (s : Stmt) : Piece σ ε Stmt :=
  ⟨visitStmt s, outlineStmt s, definitionsStmt s, remainsStmt s, (rewriteStmt · around s),
    stepsStmt around s⟩

def stmts (body : List Stmt) : Piece σ ε (List Stmt) :=
  ⟨visitStmts body, outlineStmts body, definitionsStmts body, remainsStmts body,
    (rewriteStmts · around body), stepsStmts around body⟩

def optStmt (s : Option Stmt) : Piece σ ε (Option Stmt) :=
  ⟨visitOptStmt s, outlineOptStmt s, definitionsOptStmt s, remainsOptStmt s,
    (rewriteOptStmt · around s), stepsOptStmt around s⟩

def cases (cs : List Case) : Piece σ ε (List Case) :=
  ⟨visitCases cs, outlineCases cs, definitionsCases cs, remainsCases cs,
    (rewriteCases · around cs), stepsCases around cs⟩

def handler (c : Option Catch) : Piece σ ε (Option Catch) :=
  ⟨visitHandler c, outlineHandler c, definitionsHandler c, remainsHandler c,
    (rewriteHandler · around c), stepsHandler around c⟩

def optPat (p : Option Pat) : Piece σ ε (Option Pat) :=
  ⟨visitOptPat p, outlineOptPat p, definitionsOptPat p, remainsOptPat p,
    (rewriteOptPat · around p), stepsOptPat around p⟩

def finalizer (body : Option (List Stmt)) : Piece σ ε (Option (List Stmt)) :=
  ⟨visitFinalizer body, outlineFinalizer body, definitionsFinalizer body, remainsFinalizer body,
    (rewriteFinalizer · around body), stepsFinalizer around body⟩

def declarators (decls : List Declarator) : Piece σ ε (List Declarator) :=
  ⟨visitDeclarators decls, outlineDeclarators decls, definitionsDeclarators decls,
    remainsDeclarators decls, (rewriteDeclarators · around decls), stepsDeclarators around decls⟩

def forInit (init : ForInit) : Piece σ ε ForInit :=
  ⟨visitForInit init, outlineForInit init, definitionsForInit init, remainsForInit init,
    (rewriteForInit · around init), stepsForInit around init⟩

def forHead (head : ForHead) : Piece σ ε ForHead :=
  ⟨visitForHead head, outlineForHead head, definitionsForHead head, remainsForHead head,
    (rewriteForHead · around head), stepsForHead around head⟩

/-- What the factory `own` with these parameters and this body encloses. -/
def factory (span : Span) (own : Option Ident) (params : List Pat) (body : List Stmt) :
    Piece σ ε (List Stmt) :=
  let inParams := around.enter (.function span own params body .params)
  let inBody := around.enter (.function span own params body .body)
  ((name inParams own).seqRight (pats inParams params)).seqRight (stmts inBody body)

/-- A target that is an expression is one like any other, unless it is a property. -/
theorem target_expr {around : Around} {e : Expr}
    (h : ∀ span object key, e ≠ .member span object key) :
    (target around (.expr e) : Piece σ ε Pat) = (expr around e).map .expr := by
  cases e with
  | member span object key => exact absurd rfl (h span object key)
  | _ => rfl

/-- An access to a property, unless that is the property `default` of an identifier. -/
theorem expr_member {around : Around} {span : Span} {object : Expr} {k : Key}
    (h : defaultObject? object k = none) :
    (expr around (.member span object k) : Piece σ ε Expr) =
      (((expr around object).map (.member span)).seq (key around k)).unlessStopped
        (.member span object k) := by
  simp only [expr, visitExpr, outlineExpr, rewriteExpr, stepsExpr, h]
  rfl

theorem expr_defaultAccess {around : Around} {span : Span} {object : Expr} {k : Key} {id : Ident}
    (h : defaultObject? object k = some id) :
    (expr around (.member span object k) : Piece σ ε Expr) =
      ((ident around id (.defaultObject span)).map (rewriteDefault span id)).unlessStopped
        (.member span object k) := by
  obtain ⟨rfl, rfl⟩ := defaultObject?_eq_some h
  simp only [expr, visitExpr, outlineExpr, rewriteExpr, stepsExpr, h, Walk.defaultAccess_eq]
  rfl

end Readings
end Piece

-- ---------------------------------------------------------------------------
-- Compositional properties
-- ---------------------------------------------------------------------------

/-- Code right inside of a scope: each part stands in a layer that opens the scope, and declares
names for it. -/
inductive Interior (P : {α : Type} → Around → List String → Piece σ ε α → Prop) (around : Around)
    (scope : Scope) : {α : Type} → List String → Piece σ ε α → Prop where
  | part {α : Type} {layer : Layer} {names : List String} {p : Piece σ ε α} :
      layer.scope? = some scope → P (around.enter layer) names p → Interior P around scope names p
  | map {α β : Type} {names : List String} (g : α → β) {p : Piece σ ε α} :
      Interior P around scope names p → Interior P around scope names (p.map g)
  | seq {α β : Type} {names names' : List String} {pg : Piece σ ε (α → β)} {p : Piece σ ε α} :
      Interior P around scope names pg → Interior P around scope names' p →
        Interior P around scope (names ++ names') (pg.seq p)

theorem Interior.seqRight {P : {α : Type} → Around → List String → Piece σ ε α → Prop}
    {around : Around} {scope : Scope} {names names' : List String} {p : Piece σ ε α}
    {q : Piece σ ε β} (hp : Interior P around scope names p)
    (hq : Interior P around scope names' q) :
    Interior P around scope (names ++ names') (p.seqRight q) :=
  (hp.map _).seq hq

theorem Interior.inFunction {P : {α : Type} → Around → List String → Piece σ ε α → Prop}
    {around : Around} {layer : Layer} {scope : Scope} {names : List String} {p : Piece σ ε α}
    (hscope : layer.scope? = some scope) (hp : P (around.enterFunction layer) names p) :
    Interior P (around.targeting false) scope names p :=
  .part hscope hp

/-- What the factory among these arguments encloses, if there is one, is such code. -/
def InFactory (P : {α : Type} → Around → List String → Piece σ ε α → Prop) (around : Around) :
    List Expr → Prop
  | [_, _, .fn own (.mk span _ _ params body)] =>
    Interior P (around.targeting false) (.ofFunction span own params body)
      (Scope.ofFunction span own params body).declared
      (.factory (around.targeting false) span own params body)
  | _ => True

theorem InFactory.of_ne {P : {α : Type} → Around → List String → Piece σ ε α → Prop}
    {around : Around} {args : List Expr} (h : ∀ name deps own f, args ≠ [name, deps, .fn own f]) :
    InFactory P around args := by
  unfold InFactory
  split
  · exact (h _ _ _ _ rfl).elim
  · trivial

/-- The operations that code is made of keep the property `P around names piece`. It may depend on
what surrounds the piece of code, and on the names that the code declares for the scope or the block
it stands in. -/
structure Compositional (P : {α : Type} → Around → List String → Piece σ ε α → Prop) : Prop where
  pure {α : Type} (around : Around) (a : α) : P around [] (.pure a)
  map {α β : Type} {around : Around} {names : List String} {p : Piece σ ε α} (g : α → β) :
    P around names p → P around names (p.map g)
  seq {α β : Type} {around : Around} {names names' : List String} {pg : Piece σ ε (α → β)}
    {p : Piece σ ε α} : P around names pg → P around names' p →
      P around (names ++ names') (pg.seq p)
  unlessStopped {α : Type} {around : Around} {names : List String} {p : Piece σ ε α} (a : α) :
    P around names p → P around names (p.unlessStopped a)
  /-- Nothing is declared right in a target. -/
  targeted {α : Type} {around : Around} {p : Piece σ ε α} :
    P (around.targeting true) [] p → P around [] (p.targeting true)
  untargeted {α : Type} {around : Around} {names : List String} {p : Piece σ ε α} :
    P (around.targeting false) names p → P around names (p.targeting false)
  ident (around : Around) (id : Ident) (site : Site) :
    P around (site.names id) (.ident around id site)
  patternIdent (around : Around) (id : Ident) :
    P around (around.declares [id.name]) (.patternIdent around id)
  /-- A constant that is written as an operator applied to a number gives way to its value. -/
  unary {around : Around} {arg : Expr} (span : Span) (op : UnaryOp) :
    P around [] (.expr around arg) → P around [] (.expr around (.unary span op arg))
  call {around : Around} {callee : Expr} {args : List Expr} (span : Span) :
    P around [] (.expr around callee) → P around [] (.exprs around args) →
      InFactory P around args → P around [] (.expr around (.call span callee args))
  scope {α : Type} {around : Around} {scope : Scope} {p : Piece σ ε α} :
    Interior P around scope scope.declared p → P around [] (p.within scope)
  /-- A block opens no scope. What is declared in it is declared for the code around it. -/
  block {α : Type} {around : Around} {layer : Layer} {names : List String} {p : Piece σ ε α} :
    layer.scope? = none → layer.isTransparent = true → layer.names ⊆ names →
      Hoists around.layers → P (around.enter layer) names p → P around names p
  staticBlock {α : Type} {around : Around} {body : List Stmt} {names : List String}
    {p : Piece σ ε α} : P (around.enter (.staticBlock body)) names p → P around [] p
  /-- A catch clause keeps its parameter. What its body declares is declared for the code around
  the clause. -/
  handler {α β γ : Type} {around : Around} {span : Span} {param : Option Pat} {body : List Stmt}
    {names : List String} {p : Piece σ ε α} {q : Piece σ ε β} (g : α → β → γ) :
    lexicalNames body ⊆ names → Hoists around.layers →
      P (around.enter (.handler span param)) (Scope.ofCatch span param).declared p →
        P ((around.enter (.handler span param)).enter (.block body)) names q →
          P around names (((p.map g).seq q).within (.ofCatch span param))

theorem Layer.ofForInit_cases (init : ForInit) :
    Layer.ofForInit init = [] ∨ Layer.ofForInit init = [.loop init.names] := by
  cases init with
  | var kind decls => cases kind <;> simp [ofForInit, ofDeclarators, ForInit.names]
  | empty | expr e => exact .inl rfl

theorem Layer.ofForHead_cases (head : ForHead) :
    Layer.ofForHead head = [] ∨ Layer.ofForHead head = [.loop head.names] := by
  cases head with
  | var kind decls => cases kind <;> simp [ofForHead, ofDeclarators, ForHead.names]
  | pat p => exact .inl rfl

theorem Hoists.enterLoop {around : Around} {loop : List Layer} {names : List String}
    (h : Hoists around.layers) (hloop : loop = [] ∨ loop = [.loop names]) :
    Hoists (around.enterLoop loop).layers := by
  rcases hloop with rfl | rfl
  · exact h
  · rfl

namespace Compositional

variable {P : {α : Type} → Around → List String → Piece σ ε α → Prop} (h : Compositional P)

include h

-- ---------------------------------------------------------------------------
-- Parts
-- ---------------------------------------------------------------------------

/-- Code that declares nothing comes first. -/
theorem after {around : Around} {names : List String} {pg : Piece σ ε (α → β)} {p : Piece σ ε α}
    (hg : P around [] pg) (hp : P around names p) : P around names (pg.seq p) :=
  h.seq hg hp

/-- Code that declares nothing comes last. -/
theorem before {around : Around} {names : List String} {pg : Piece σ ε (α → β)} {p : Piece σ ε α}
    (hg : P around names pg) (hp : P around [] p) : P around names (pg.seq p) := by
  have := h.seq hg hp
  rwa [List.append_nil] at this

theorem renamed (around : Around) (id : Ident) (site : Site) :
    P around (site.names id) (.renamed around id site) :=
  h.map _ (h.ident around id site)

theorem function {around : Around} {scope : Scope} {p : Piece σ ε α}
    (hp : Interior P (around.targeting false) scope scope.declared p) :
    P around [] (p.function scope) :=
  h.untargeted (h.scope hp)

/-- The head of a loop declares its names for the code around the loop. -/
theorem loop {around : Around} (hlayers : Hoists around.layers) (hentered : around.entered = true)
    {layers : List Layer} {names names' : List String} {p : Piece σ ε α}
    (hloop : layers = [] ∨ layers = [.loop names']) (hnames : names' ⊆ names)
    (hp : P (around.enterLoop layers) names p) : P around names p := by
  rcases hloop with rfl | rfl
  · obtain ⟨layers, inTarget, entered⟩ := around
    cases hentered
    exact hp
  · exact h.block rfl rfl (show Layer.names (.loop names') ⊆ names from hnames) hlayers hp

theorem holds_name (around : Around) (id : Option Ident) :
    P around (id.map (·.name)).toList (.name around id) := by
  cases id with
  | none => exact h.pure around none
  | some id => exact h.map some (h.renamed around id .declaration)

-- ---------------------------------------------------------------------------
-- Trees
-- ---------------------------------------------------------------------------

mutual

theorem holds_expr (around : Around) (e : Expr) : P around [] (.expr around e) := by
  cases e with
  | ident id => exact h.unlessStopped _ (h.map _ (h.renamed around id .reference))
  | lit span value => exact h.pure around _
  | word span word => exact h.pure around _
  | privateName span name => exact h.pure around _
  | hole => exact h.pure around _
  | array span elems => exact h.unlessStopped _ (h.map _ (holds_exprs around elems))
  | spread span arg => exact h.map _ (holds_expr around arg)
  | object span props => exact h.unlessStopped _ (h.map _ (holds_properties around props))
  | fn name f => exact h.unlessStopped _ (h.map _ (holds_function around name f))
  | arrow span isAsync params body =>
    let inParams := around.enterFunction (.arrow span params body .params)
    let inBody := around.enterFunction (.arrow span params body .body)
    have hparams := Interior.map (Expr.arrow span isAsync) (.inFunction rfl (holds_pats inParams params))
    have hbody := Interior.inFunction rfl (holds_stmts inBody rfl rfl body)
    exact h.unlessStopped _ (h.function (hparams.seq hbody))
  | arrowExpr span isAsync params body =>
    let inside := around.enterFunction (.arrowExpr span params)
    have hparams := Interior.map (Expr.arrowExpr span isAsync) (.inFunction rfl (holds_pats inside params))
    have hbody := Interior.inFunction rfl (holds_expr inside body)
    have hscope := hparams.seq hbody
    rw [List.append_nil] at hscope
    exact h.unlessStopped _ (h.function hscope)
  | cls name cls =>
    cases name with
    | none => exact h.unlessStopped _ (h.map _ (holds_class around cls))
    | some name =>
      let inside := around.enter (.namedClass name cls)
      have hname := Interior.map (fun name cls => Expr.cls (some name) cls)
        (.part rfl (h.renamed inside name .declaration))
      have hcls := Interior.part rfl (holds_class inside cls)
      exact h.unlessStopped _ (h.scope (hname.seq hcls))
  | template span quasis exprs => exact h.unlessStopped _ (h.map _ (holds_exprs around exprs))
  | tagged span tag quasis exprs =>
    exact h.unlessStopped _ (h.seq (h.map _ (holds_expr around tag)) (holds_exprs around exprs))
  | unary span op arg => exact h.unary span op (holds_expr around arg)
  | update span op before arg => exact h.unlessStopped _ (h.map _ (holds_expr around arg))
  | binary span op left right =>
    exact h.unlessStopped _ (h.seq (h.map _ (holds_expr around left)) (holds_expr around right))
  | assign span op target value =>
    exact h.unlessStopped _ (h.seq (h.map _ (h.targeted (holds_target around target)))
      (holds_expr around value))
  | cond span test cons alt =>
    exact h.unlessStopped _ (h.seq (h.seq (h.map _ (holds_expr around test))
      (holds_expr around cons)) (holds_expr around alt))
  | seq span exprs => exact h.unlessStopped _ (h.map _ (holds_exprs around exprs))
  | yield span delegate arg =>
    cases arg with
    | none => exact h.pure around _
    | some arg => exact h.unlessStopped _ (h.map _ (holds_expr around arg))
  | await span arg => exact h.unlessStopped _ (h.map _ (holds_expr around arg))
  | call span callee args =>
    exact h.call span (holds_expr around callee) (holds_exprs around args)
      (holds_factory around args)
  | newCall span callee args =>
    exact h.unlessStopped _ (h.seq (h.map _ (holds_expr around callee)) (holds_exprs around args))
  | newBare span callee => exact h.unlessStopped _ (h.map _ (holds_expr around callee))
  | member span object key =>
    cases hd : defaultObject? object key with
    | none =>
      rw [Piece.expr_member hd]
      exact h.unlessStopped _ (h.seq (h.map _ (holds_expr around object)) (holds_key around key))
    | some id =>
      rw [Piece.expr_defaultAccess hd]
      exact h.unlessStopped _ (h.map _ (h.ident around id (.defaultObject span)))
  | optMember span optional object key =>
    exact h.unlessStopped _ (h.seq (h.map _ (holds_expr around object)) (holds_key around key))
  | optCall span optional callee args =>
    exact h.unlessStopped _ (h.seq (h.map _ (holds_expr around callee)) (holds_exprs around args))
  | paren span inner => exact h.unlessStopped _ (h.map _ (holds_expr around inner))

theorem holds_exprs (around : Around) (es : List Expr) : P around [] (.exprs around es) := by
  cases es with
  | nil => exact h.pure around _
  | cons e rest => exact h.seq (h.map _ (holds_expr around e)) (holds_exprs around rest)

theorem holds_optExpr (around : Around) (e : Option Expr) : P around [] (.optExpr around e) := by
  cases e with
  | none => exact h.pure around _
  | some e => exact h.map _ (holds_expr around e)

theorem holds_factory (around : Around) (args : List Expr) : InFactory P around args := by
  match args with
  | [name, deps, factory] =>
    cases factory with
    | fn own f =>
      cases f with
      | mk span isAsync isGenerator params body =>
        let inParams := around.enterFunction (.function span own params body .params)
        let inBody := around.enterFunction (.function span own params body .body)
        have hname := Interior.inFunction rfl (h.holds_name inParams own)
        have hparams := Interior.inFunction rfl (holds_pats inParams params)
        have hbody := Interior.inFunction rfl (holds_stmts inBody rfl rfl body)
        exact (hname.seqRight hparams).seqRight hbody
    | _ => exact .of_ne (by simp)
  | [] | [_] | [_, _] | _ :: _ :: _ :: _ :: _ => exact .of_ne (by simp)

theorem holds_key (around : Around) (key : Key) : P around [] (.key around key) := by
  cases key with
  | computed e => exact h.map _ (holds_expr around e)
  | named name => exact h.pure around _
  | str raw => exact h.pure around _
  | num raw => exact h.pure around _
  | privateName name => exact h.pure around _

theorem holds_property (around : Around) (p : Property) : P around [] (.property around p) := by
  cases p with
  | shorthand id => exact h.map (rewriteShorthand id) (h.ident around id .shorthand)
  | keyValue key value =>
    exact h.seq (h.map _ (holds_key around key)) (holds_expr around value)
  | initialized id value => exact h.map _ (holds_expr around value)
  | getter span key body =>
    let atKey := around.enter (.function span none [] body .key)
    let inBody := around.enter (.function span none [] body .body)
    have hkey := Interior.map (Property.getter span) (.part rfl (holds_key atKey key))
    have hbody := Interior.part rfl (holds_stmts inBody rfl rfl body)
    exact h.scope (hkey.seq hbody)
  | setter span key param body =>
    let atKey := around.enter (.function span none [param] body .key)
    let atParam := around.enter (.function span none [param] body .params)
    let inBody := around.enter (.function span none [param] body .body)
    have hkey := Interior.map (Property.setter span) (.part rfl (holds_key atKey key))
    have hparam := Interior.part rfl (holds_pat atParam param)
    have hbody := Interior.part rfl (holds_stmts inBody rfl rfl body)
    have hscope := (hkey.seq hparam).seq hbody
    rw [← List.append_nil (atParam.declares param.names)] at hscope
    exact h.scope hscope
  | method key f => exact h.seq (h.map _ (holds_key around key)) (holds_function around none f)
  | spread span arg => exact h.map _ (holds_expr around arg)

theorem holds_properties (around : Around) (ps : List Property) :
    P around [] (.properties around ps) := by
  cases ps with
  | nil => exact h.pure around _
  | cons p rest =>
    exact h.seq (h.map _ (holds_property around p)) (holds_properties around rest)

theorem holds_pat (around : Around) (p : Pat) :
    P around (around.declares p.names) (.pat around p) := by
  cases p with
  | ident id => exact h.map _ (h.patternIdent around id)
  | array span elems => exact h.map _ (holds_pats around elems)
  | hole => exact around.declares_nil.symm ▸ h.pure around Pat.hole
  | object span props => exact h.map _ (holds_patProperties around props)
  | rest span arg => exact h.map _ (holds_pat around arg)
  | default span left right =>
    exact h.before (h.map _ (holds_pat around left)) (holds_expr around right)
  | expr e => exact around.declares_nil.symm ▸ h.map Pat.expr (holds_expr around e)

theorem holds_pats (around : Around) (ps : List Pat) :
    P around (around.declares (patNames ps)) (.pats around ps) := by
  cases ps with
  | nil => exact around.declares_nil.symm ▸ h.pure around []
  | cons p rest =>
    rw [patNames, around.declares_append]
    exact h.seq (h.map _ (holds_pat around p)) (holds_pats around rest)

theorem holds_target (around : Around) (p : Pat) :
    P (around.targeting true) [] (.target (around.targeting true) p) := by
  cases p with
  | ident id => exact h.map _ (h.patternIdent (around.targeting true) id)
  | array span elems => exact h.map _ (holds_pats (around.targeting true) elems)
  | hole => exact h.pure _ _
  | object span props => exact h.map _ (holds_patProperties (around.targeting true) props)
  | rest span arg => exact h.map _ (holds_pat (around.targeting true) arg)
  | default span left right =>
    exact h.seq (h.map _ (holds_pat (around.targeting true) left))
      (holds_expr (around.targeting true) right)
  | expr e =>
    cases e with
    | member span object key =>
      exact h.seq (h.map _ (holds_expr (around.targeting true) object))
        (holds_key (around.targeting true) key)
    | _ =>
      rw [Piece.target_expr]
      · exact h.map Pat.expr (holds_expr (around.targeting true) _)
      · simp

theorem holds_patProperty (around : Around) (p : PatProperty) :
    P around (around.declares p.names) (.patProperty around p) := by
  cases p with
  | keyValue key value => exact h.seq (h.map _ (holds_key around key)) (holds_pat around value)
  | shorthand id default =>
    exact h.before (h.map _ (h.patternIdent around id)) (holds_optExpr around default)
  | rest span arg => exact h.map _ (holds_pat around arg)

theorem holds_patProperties (around : Around) (ps : List PatProperty) :
    P around (around.declares (patPropertyNames ps)) (.patProperties around ps) := by
  cases ps with
  | nil => exact around.declares_nil.symm ▸ h.pure around []
  | cons p rest =>
    rw [patPropertyNames, around.declares_append]
    exact h.seq (h.map _ (holds_patProperty around p)) (holds_patProperties around rest)

theorem holds_function (around : Around) (own : Option Ident) (f : Function) :
    P around [] (.ofFunction around own f) := by
  cases f with
  | mk span isAsync isGenerator params body =>
    let inParams := around.enterFunction (.function span own params body .params)
    let inBody := around.enterFunction (.function span own params body .body)
    have hname := Interior.map
      (fun name params body => (name, Function.mk span isAsync isGenerator params body))
      (.inFunction rfl (h.holds_name inParams own))
    have hparams := Interior.inFunction rfl (holds_pats inParams params)
    have hbody := Interior.inFunction rfl (holds_stmts inBody rfl rfl body)
    exact h.function ((hname.seq hparams).seq hbody)

theorem holds_class (around : Around) (cls : Script.Class) : P around [] (.cls around cls) := by
  cases cls with
  | mk span superClass members =>
    exact h.seq (h.map _ (holds_members around members)) (holds_optExpr around superClass)

theorem holds_member (around : Around) (m : ClassMember) : P around [] (.member around m) := by
  cases m with
  | ctor span params body =>
    let inParams := around.enter (.function span none params body .params)
    let inBody := around.enter (.function span none params body .body)
    have hparams := Interior.map (ClassMember.ctor span) (.part rfl (holds_pats inParams params))
    have hbody := Interior.part rfl (holds_stmts inBody rfl rfl body)
    exact h.scope (hparams.seq hbody)
  | method isStatic kind key f =>
    exact h.seq (h.map _ (holds_key around key)) (holds_function around none f)
  | field isStatic key value =>
    exact h.seq (h.map _ (holds_key around key)) (holds_optExpr around value)
  | staticBlock body =>
    exact h.map _ (h.staticBlock (holds_stmts (around.enter (.staticBlock body)) rfl rfl body))
  | empty => exact h.pure around _

theorem holds_members (around : Around) (ms : List ClassMember) :
    P around [] (.members around ms) := by
  cases ms with
  | nil => exact h.pure around _
  | cons m rest => exact h.seq (h.map _ (holds_member around m)) (holds_members around rest)

theorem holds_stmt (around : Around) (hlayers : Hoists around.layers)
    (hentered : around.entered = true) (s : Stmt) : P around s.declared (.stmt around s) := by
  cases s with
  | expr e => exact h.unlessStopped _ (h.map _ (holds_expr around e))
  | block body =>
    have hbody := holds_stmts (around.enter (.block body)) rfl rfl body
    exact h.unlessStopped _ (h.map _ (h.block rfl rfl (lexicalNames_subset body) hlayers hbody))
  | empty => exact h.pure around _
  | debugger => exact h.pure around _
  | withStmt object body =>
    exact h.unlessStopped _ (h.after (h.map _ (holds_expr around object))
      (holds_stmt around hlayers hentered body))
  | returnStmt arg => exact h.unlessStopped _ (h.map _ (holds_optExpr around arg))
  | labeled label body =>
    exact h.unlessStopped _ (h.map _ (holds_stmt around hlayers hentered body))
  | breakStmt label => exact h.pure around _
  | continueStmt label => exact h.pure around _
  | ifStmt test cons alt =>
    have hcons := h.block rfl rfl (lexicalNames_singleton_subset cons) hlayers
      (holds_stmt (around.enter (.block [cons])) rfl rfl cons)
    have htest := h.after (h.map Stmt.ifStmt (holds_expr around test)) hcons
    have halt := holds_optStmt around hlayers alt
    cases alt with
    | none => exact h.unlessStopped _ (h.before htest halt)
    | some alt => exact h.unlessStopped _ (h.seq htest halt)
  | switch discriminant cases =>
    have hcases := h.block rfl rfl (caseNames_subset cases) hlayers
      (holds_cases (around.enter (.switch cases)) rfl rfl cases)
    exact h.unlessStopped _ (h.after (h.map _ (holds_expr around discriminant)) hcases)
  | throwStmt arg => exact h.unlessStopped _ (h.map _ (holds_expr around arg))
  | tryStmt block handler finalizer =>
    have hblock := h.block rfl rfl (lexicalNames_subset block) hlayers
      (holds_stmts (around.enter (.block block)) rfl rfl block)
    exact h.unlessStopped _ (h.seq (h.seq (h.map _ hblock) (holds_handler around hlayers handler))
      (holds_finalizer around hlayers finalizer))
  | whileLoop test body =>
    exact h.unlessStopped _ (h.after (h.map _ (holds_expr around test))
      (holds_stmt around hlayers hentered body))
  | doWhile test body =>
    exact h.unlessStopped _ (h.after (h.map _ (holds_expr around test))
      (holds_stmt around hlayers hentered body))
  | forLoop init test update body =>
    let inside := around.enterLoop (Layer.ofForInit init)
    have hloop := Layer.ofForInit_cases init
    have hhead := h.before (h.before (h.map Stmt.forLoop (holds_forInit inside rfl init))
      (holds_optExpr inside test)) (holds_optExpr inside update)
    have hbody := holds_stmt inside (hlayers.enterLoop hloop) rfl body
    exact h.unlessStopped _ (h.loop hlayers hentered hloop (List.subset_append_left _ _)
      (h.seq hhead hbody))
  | forIn left right body =>
    let inside := around.enterLoop (Layer.ofForHead left)
    have hloop := Layer.ofForHead_cases left
    have hhead := h.before (h.map Stmt.forIn (holds_forHead inside left))
      (holds_expr inside right)
    have hbody := holds_stmt inside (hlayers.enterLoop hloop) rfl body
    exact h.unlessStopped _ (h.loop hlayers hentered hloop (List.subset_append_left _ _)
      (h.seq hhead hbody))
  | forOf isAwait left right body =>
    let inside := around.enterLoop (Layer.ofForHead left)
    have hloop := Layer.ofForHead_cases left
    have hhead := h.before (h.map (Stmt.forOf isAwait) (holds_forHead inside left))
      (holds_expr inside right)
    have hbody := holds_stmt inside (hlayers.enterLoop hloop) rfl body
    exact h.unlessStopped _ (h.loop hlayers hentered hloop (List.subset_append_left _ _)
      (h.seq hhead hbody))
  | varDecl kind decls =>
    exact h.unlessStopped _ (h.map _ (holds_declarators around hentered decls))
  | fnDecl name f =>
    exact h.unlessStopped _ (h.before (h.map _ (h.renamed around name .declaration))
      (holds_function around none f))
  | classDecl name cls =>
    exact h.unlessStopped _ (h.before (h.map _ (h.renamed around name .declaration))
      (holds_class around cls))

theorem holds_stmts (around : Around) (hlayers : Hoists around.layers)
    (hentered : around.entered = true) (body : List Stmt) :
    P around (stmtsDeclared body) (.stmts around body) := by
  cases body with
  | nil => exact h.pure around _
  | cons s rest =>
    exact h.seq (h.map _ (holds_stmt around hlayers hentered s))
      (holds_stmts around hlayers hentered rest)

theorem holds_optStmt (around : Around) (hlayers : Hoists around.layers) (s : Option Stmt) :
    P around ((s.map Stmt.declared).getD []) (.optStmt around s) := by
  cases s with
  | none => exact h.pure around _
  | some s =>
    exact h.map _ (h.block rfl rfl (lexicalNames_singleton_subset s) hlayers
      (holds_stmt (around.enter (.block [s])) rfl rfl s))

theorem holds_cases (around : Around) (hlayers : Hoists around.layers)
    (hentered : around.entered = true) (cs : List Case) :
    P around (casesDeclared cs) (.cases around cs) := by
  cases cs with
  | nil => exact h.pure around _
  | cons c rest =>
    cases c with
    | mk test body =>
      have hcase := h.after (h.map (fun test body rest => Case.mk test body :: rest)
        (holds_optExpr around test)) (holds_stmts around hlayers hentered body)
      exact h.seq hcase (holds_cases around hlayers hentered rest)

theorem holds_handler (around : Around) (hlayers : Hoists around.layers) (c : Option Catch) :
    P around (handlerDeclared c) (.handler around c) := by
  cases c with
  | none => exact h.pure around _
  | some c =>
    cases c with
    | mk span param body =>
      let inside := around.enter (.handler span param)
      exact h.handler (fun param body => some (Catch.mk span param body))
        (lexicalNames_subset body) hlayers (holds_optPat inside param)
        (holds_stmts (inside.enter (.block body)) rfl rfl body)

theorem holds_optPat (around : Around) (p : Option Pat) :
    P around (around.declares ((p.map Pat.names).getD [])) (.optPat around p) := by
  cases p with
  | none => exact around.declares_nil.symm ▸ h.pure around none
  | some p => exact h.map _ (holds_pat around p)

theorem holds_finalizer (around : Around) (hlayers : Hoists around.layers)
    (body : Option (List Stmt)) : P around (finalizerDeclared body) (.finalizer around body) := by
  cases body with
  | none => exact h.pure around _
  | some body =>
    exact h.map _ (h.block rfl rfl (lexicalNames_subset body) hlayers
      (holds_stmts (around.enter (.block body)) rfl rfl body))

theorem holds_declarators (around : Around) (hentered : around.entered = true)
    (decls : List Declarator) :
    P around (decls.flatMap Declarator.names) (.declarators around decls) := by
  cases decls with
  | nil => exact h.pure around _
  | cons d rest =>
    cases d with
    | mk name init =>
      have hname := holds_pat around name
      rw [around.declares_of_entered hentered] at hname
      have hdecl := h.before (h.map (fun name init rest => Declarator.mk name init :: rest) hname)
        (holds_optExpr around init)
      exact h.seq hdecl (holds_declarators around hentered rest)

theorem holds_forInit (around : Around) (hentered : around.entered = true) (init : ForInit) :
    P around init.names (.forInit around init) := by
  cases init with
  | empty => exact h.pure around _
  | var kind decls => exact h.map _ (holds_declarators around hentered decls)
  | expr e => exact h.map _ (holds_expr around e)

theorem holds_forHead (around : Around) (head : ForHead) :
    P around head.names (.forHead around head) := by
  cases head with
  | var kind decls =>
    exact h.untargeted (h.map _ (holds_declarators (around.targeting false) rfl decls))
  | pat pat => exact h.targeted (h.map _ (holds_pat (around.targeting true) pat))

end

end Compositional
end Unbundle.Engine

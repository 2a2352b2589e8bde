-- SUMMARY: What the walk meets in a factory, in order: scopes that open and close, and identifiers.
import Unbundle.Engine.Visit
import Unbundle.Proofs.Place

/-!
# Steps

`stepsStmts` lists what a walk over the statements of a factory meets, in the order of the walk: the
scopes that it opens and closes, every identifier with its place, and every `void 0`, which gives
way to the identifier `undefined`. What the walk records, what it reports, and which identifiers
stand in the resulting code can all be read off this list.
-/

namespace Unbundle.Engine

open Script

/-- Something that the walk meets. -/
inductive Step where
  | enter (scope : Scope)
  | leave (scope : Scope)
  | ident (place : Place)
  /-- A reference to `undefined` is written here. -/
  | undefined (place : Place)

namespace Step

/-- The identifier that is met. -/
def place? : Step → Option Place
  | .ident place => some place
  | _ => none

/-- The place where an identifier stands afterwards. -/
def spot? : Step → Option Place
  | .ident place | .undefined place => some place
  | .enter _ | .leave _ => none

end Step

/-- The steps inside of a scope, with those of the scope itself around them. -/
def stepsWithin (scope : Scope) (steps : List Step) : List Step :=
  .enter scope :: steps ++ [.leave scope]

theorem subset_stepsWithin (scope : Scope) (steps : List Step) :
    steps ⊆ stepsWithin scope steps :=
  fun _ h => List.mem_cons_of_mem _ (List.mem_append_left _ h)

theorem mem_of_mem_stepsWithin {scope : Scope} {steps : List Step} {step : Step} {place : Place}
    (h : step ∈ stepsWithin scope steps) (hspot : step.spot? = some place) : step ∈ steps := by
  simp only [stepsWithin, List.cons_append, List.mem_cons, List.mem_append, List.not_mem_nil,
    or_false] at h
  rcases h with rfl | h | rfl
  · cases hspot
  · exact h
  · cases hspot

/-- The constant that minified code writes as an operator applied to a number. -/
def constant? (span : Span) : UnaryOp → Expr → Option Expr
  | .void, .lit _ (.num raw) =>
    if (Numeral.ofText raw).isZero then some (.ident ⟨"undefined", span⟩) else none
  | .not, .lit _ (.num raw) =>
    if (Numeral.ofText raw).isZero then some (.lit span (.bool true))
    else if (Numeral.ofText raw).isOne then some (.lit span (.bool false))
    else none
  | _, _ => none

/-- The step at a constant: `undefined` is an identifier, the others are literals. -/
def stepsConstant (around : Around) : Expr → List Step
  | .ident id => [.undefined (around.place id .reference)]
  | _ => []

/-- An access to `default` is what it looks like. -/
theorem defaultObject?_eq_some {object : Expr} {key : Key} {id : Ident}
    (h : defaultObject? object key = some id) : object = .ident id ∧ key = .named "default" := by
  unfold defaultObject? at h
  split at h
  · split at h
    · rename_i hname
      cases h
      exact ⟨rfl, by rw [beq_iff_eq.1 hname]⟩
    · cases h
  · cases h

def stepsName (around : Around) : Option Ident → List Step
  | none => []
  | some id => [.ident (around.place id .declaration)]

mutual

def stepsExpr (around : Around) : Expr → List Step
  | .ident id => [.ident (around.place id .reference)]
  | .lit .. | .word .. | .privateName .. | .hole => []
  | .array _ elems => stepsExprs around elems
  | .spread _ arg => stepsExpr around arg
  | .object _ props => stepsProperties around props
  | .fn name f => stepsFunction around name f
  | .arrow span _ params body =>
    stepsWithin (.ofFunction span none params body)
      (stepsPats (around.enterFunction (.arrow span params body .params)) params ++
        stepsStmts (around.enterFunction (.arrow span params body .body)) body)
  | .arrowExpr span _ params body =>
    stepsWithin (.ofArrowExpr span params)
      (stepsPats (around.enterFunction (.arrowExpr span params)) params ++
        stepsExpr (around.enterFunction (.arrowExpr span params)) body)
  | .cls none cls => stepsClass around cls
  | .cls (some name) cls =>
    stepsWithin (.ofNamedClass name cls)
      (.ident ((around.enter (.namedClass name cls)).place name .declaration) ::
        stepsClass (around.enter (.namedClass name cls)) cls)
  | .template _ _ exprs => stepsExprs around exprs
  | .tagged _ tag _ exprs => stepsExpr around tag ++ stepsExprs around exprs
  | .unary span op arg =>
    match constant? span op arg with
    | some value => stepsConstant around value
    | none => stepsExpr around arg
  | .update _ _ _ arg => stepsExpr around arg
  | .binary _ _ left right => stepsExpr around left ++ stepsExpr around right
  | .assign _ _ target value =>
    stepsTarget (around.targeting true) target ++ stepsExpr around value
  | .cond _ test cons alt =>
    stepsExpr around test ++ stepsExpr around cons ++ stepsExpr around alt
  | .seq _ exprs => stepsExprs around exprs
  | .yield _ _ arg => stepsOptExpr around arg
  | .await _ arg => stepsExpr around arg
  | .call _ callee args => stepsExpr around callee ++ stepsExprs around args
  | .newCall _ callee args => stepsExpr around callee ++ stepsExprs around args
  | .newBare _ callee => stepsExpr around callee
  | .member span object key =>
    match defaultObject? object key with
    | some id => [.ident (around.place id (.defaultObject span))]
    | none => stepsExpr around object ++ stepsKey around key
  | .optMember _ _ object key => stepsExpr around object ++ stepsKey around key
  | .optCall _ _ callee args => stepsExpr around callee ++ stepsExprs around args
  | .paren _ inner => stepsExpr around inner

def stepsExprs (around : Around) : List Expr → List Step
  | [] => []
  | e :: rest => stepsExpr around e ++ stepsExprs around rest

def stepsOptExpr (around : Around) : Option Expr → List Step
  | none => []
  | some e => stepsExpr around e

def stepsKey (around : Around) : Key → List Step
  | .computed e => stepsExpr around e
  | .named _ | .str _ | .num _ | .privateName _ => []

def stepsProperty (around : Around) : Property → List Step
  | .shorthand id => [.ident (around.place id .shorthand)]
  | .keyValue key value => stepsKey around key ++ stepsExpr around value
  | .initialized _ value => stepsExpr around value
  | .getter span key body =>
    stepsWithin (.ofFunction span none [] body)
      (stepsKey (around.enter (.function span none [] body .key)) key ++
        stepsStmts (around.enter (.function span none [] body .body)) body)
  | .setter span key param body =>
    stepsWithin (.ofFunction span none [param] body)
      (stepsKey (around.enter (.function span none [param] body .key)) key ++
        stepsPat (around.enter (.function span none [param] body .params)) param ++
        stepsStmts (around.enter (.function span none [param] body .body)) body)
  | .method key f => stepsKey around key ++ stepsFunction around none f
  | .spread _ arg => stepsExpr around arg

def stepsProperties (around : Around) : List Property → List Step
  | [] => []
  | p :: rest => stepsProperty around p ++ stepsProperties around rest

def stepsPat (around : Around) : Pat → List Step
  | .ident id => [.ident (around.patternPlace id)]
  | .array _ elems => stepsPats around elems
  | .hole => []
  | .object _ props => stepsPatProperties around props
  | .rest _ arg => stepsPat around arg
  | .default _ left right => stepsPat around left ++ stepsExpr around right
  | .expr e => stepsExpr around e

def stepsPats (around : Around) : List Pat → List Step
  | [] => []
  | p :: rest => stepsPat around p ++ stepsPats around rest

/-- The target of an assignment; a property that is assigned to is no access to its value. -/
def stepsTarget (around : Around) : Pat → List Step
  | .expr (.member _ object key) => stepsExpr around object ++ stepsKey around key
  | .expr e => stepsExpr around e
  | .ident id => [.ident (around.patternPlace id)]
  | .array _ elems => stepsPats around elems
  | .hole => []
  | .object _ props => stepsPatProperties around props
  | .rest _ arg => stepsPat around arg
  | .default _ left right => stepsPat around left ++ stepsExpr around right

def stepsPatProperty (around : Around) : PatProperty → List Step
  | .keyValue key value => stepsKey around key ++ stepsPat around value
  | .shorthand id default => .ident (around.patternPlace id) :: stepsOptExpr around default
  | .rest _ arg => stepsPat around arg

def stepsPatProperties (around : Around) : List PatProperty → List Step
  | [] => []
  | p :: rest => stepsPatProperty around p ++ stepsPatProperties around rest

/-- A function with its own name, if it is an expression that has one. -/
def stepsFunction (around : Around) (name : Option Ident) : Function → List Step
  | .mk span _ _ params body =>
    stepsWithin (.ofFunction span name params body)
      (stepsName (around.enterFunction (.function span name params body .params)) name ++
        stepsPats (around.enterFunction (.function span name params body .params)) params ++
        stepsStmts (around.enterFunction (.function span name params body .body)) body)

/-- The members of a class come before the class that it extends. -/
def stepsClass (around : Around) : Script.Class → List Step
  | .mk _ superClass members => stepsMembers around members ++ stepsOptExpr around superClass

def stepsMember (around : Around) : ClassMember → List Step
  | .ctor span params body =>
    stepsWithin (.ofFunction span none params body)
      (stepsPats (around.enter (.function span none params body .params)) params ++
        stepsStmts (around.enter (.function span none params body .body)) body)
  | .method _ _ key f => stepsKey around key ++ stepsFunction around none f
  | .field _ key value => stepsKey around key ++ stepsOptExpr around value
  | .staticBlock body => stepsStmts (around.enter (.staticBlock body)) body
  | .empty => []

def stepsMembers (around : Around) : List ClassMember → List Step
  | [] => []
  | m :: rest => stepsMember around m ++ stepsMembers around rest

def stepsStmt (around : Around) : Stmt → List Step
  | .expr e => stepsExpr around e
  | .block body => stepsStmts (around.enter (.block body)) body
  | .empty | .debugger | .breakStmt _ | .continueStmt _ => []
  | .withStmt object body => stepsExpr around object ++ stepsStmt around body
  | .returnStmt arg => stepsOptExpr around arg
  | .labeled _ body => stepsStmt around body
  | .ifStmt test cons alt =>
    -- A branch that declares a function counts as a block around it.
    stepsExpr around test ++ stepsStmt (around.enter (.block [cons])) cons ++
      stepsOptStmt around alt
  | .switch discriminant cases =>
    stepsExpr around discriminant ++ stepsCases (around.enter (.switch cases)) cases
  | .throwStmt arg => stepsExpr around arg
  | .tryStmt block handler finalizer =>
    stepsStmts (around.enter (.block block)) block ++ stepsHandler around handler ++
      stepsFinalizer around finalizer
  | .whileLoop test body => stepsExpr around test ++ stepsStmt around body
  -- The test of a `do` loop comes before its body.
  | .doWhile test body => stepsExpr around test ++ stepsStmt around body
  | .forLoop init test update body =>
    stepsForInit (around.enterLoop (Layer.ofForInit init)) init ++
      stepsOptExpr (around.enterLoop (Layer.ofForInit init)) test ++
      stepsOptExpr (around.enterLoop (Layer.ofForInit init)) update ++
      stepsStmt (around.enterLoop (Layer.ofForInit init)) body
  | .forIn left right body =>
    stepsForHead (around.enterLoop (Layer.ofForHead left)) left ++
      stepsExpr (around.enterLoop (Layer.ofForHead left)) right ++
      stepsStmt (around.enterLoop (Layer.ofForHead left)) body
  | .forOf _ left right body =>
    stepsForHead (around.enterLoop (Layer.ofForHead left)) left ++
      stepsExpr (around.enterLoop (Layer.ofForHead left)) right ++
      stepsStmt (around.enterLoop (Layer.ofForHead left)) body
  | .varDecl _ decls => stepsDeclarators around decls
  | .fnDecl name f => .ident (around.place name .declaration) :: stepsFunction around none f
  | .classDecl name cls => .ident (around.place name .declaration) :: stepsClass around cls

def stepsStmts (around : Around) : List Stmt → List Step
  | [] => []
  | s :: rest => stepsStmt around s ++ stepsStmts around rest

def stepsOptStmt (around : Around) : Option Stmt → List Step
  | none => []
  | some s => stepsStmt (around.enter (.block [s])) s

def stepsCases (around : Around) : List Case → List Step
  | [] => []
  | .mk test body :: rest =>
    stepsOptExpr around test ++ stepsStmts around body ++ stepsCases around rest

def stepsHandler (around : Around) : Option Catch → List Step
  | none => []
  | some (.mk span param body) =>
    stepsWithin (.ofCatch span param)
      (stepsOptPat (around.enter (.handler span param)) param ++
        stepsStmts ((around.enter (.handler span param)).enter (.block body)) body)

def stepsOptPat (around : Around) : Option Pat → List Step
  | none => []
  | some p => stepsPat around p

def stepsFinalizer (around : Around) : Option (List Stmt) → List Step
  | none => []
  | some body => stepsStmts (around.enter (.block body)) body

def stepsDeclarators (around : Around) : List Declarator → List Step
  | [] => []
  | .mk name init :: rest =>
    stepsPat around name ++ stepsOptExpr around init ++ stepsDeclarators around rest

def stepsForInit (around : Around) : ForInit → List Step
  | .empty => []
  | .var _ decls => stepsDeclarators around decls
  | .expr e => stepsExpr around e

def stepsForHead (around : Around) : ForHead → List Step
  | .var _ decls => stepsDeclarators (around.targeting false) decls
  | .pat pat => stepsPat (around.targeting true) pat

end

/-- At an operator applied to an operand there are the steps of the operand, unless both are written
as a constant. -/
theorem stepsExpr_unary {motive : List Step → Prop} {around : Around} {arg : Expr} (span : Span)
    (op : UnaryOp) (h : motive (stepsExpr around arg)) (hnil : motive [])
    (hundefined : ∀ id, motive [.undefined (around.place id .reference)]) :
    motive (stepsExpr around (.unary span op arg)) := by
  rw [stepsExpr]
  split
  · rename_i value _
    fun_cases stepsConstant around value with
    | case1 id => exact hundefined id
    | case2 => exact hnil
  · exact h

end Unbundle.Engine

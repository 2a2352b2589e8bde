-- SUMMARY: The expressions that code writes to, and what a rewrite leaves of them.
import Unbundle.Proofs.ImportList

/-!
# Writes

`writesStmts` lists the expressions that some code writes to, in the order in which they stand there:
targets of assignments, operands of `++` and `--`, elements of assigned patterns, and heads of loops.
Variables that stand for themselves in a pattern are not among them.

A module writes to what its factory writes to, in the same order and in the same ways. An access
`x.default` to a dependency stays an access on the namespace of its import if it is itself the target
of an assignment. In any other position the walk takes it for a read, so the module writes to the
default that it imports (`written_defaults`, `updatingSample_writes_import`).
-/

namespace Unbundle.Engine

open Script

/-- A way to write to an expression. -/
inductive WriteForm where
  /-- The target of an assignment, plain or compound. -/
  | assignment
  /-- The operand of `++` or `--`. -/
  | update
  /-- An element of a pattern. -/
  | element
  /-- What a `for…in` or `for…of` loop assigns on each turn. -/
  | loopHead
deriving DecidableEq, Repr, Inhabited

/-- An expression that is written to. -/
structure Write where
  form : WriteForm
  target : Expr
  around : Around

mutual

def writesExpr (around : Around) : Expr → List Write
  | .ident _ | .lit .. | .word .. | .privateName .. | .hole => []
  | .array _ elems => writesExprs around elems
  | .spread _ arg => writesExpr around arg
  | .object _ props => writesProperties around props
  | .fn name f => writesFunction around name f
  | .arrow span _ params body =>
    writesPats (around.enterFunction (.arrow span params body .params)) params ++
      writesStmts (around.enterFunction (.arrow span params body .body)) body
  | .arrowExpr span _ params body =>
    writesPats (around.enterFunction (.arrowExpr span params)) params ++
      writesExpr (around.enterFunction (.arrowExpr span params)) body
  | .cls none cls => writesClass around cls
  | .cls (some name) cls => writesClass (around.enter (.namedClass name cls)) cls
  | .template _ _ exprs => writesExprs around exprs
  | .tagged _ tag _ exprs => writesExpr around tag ++ writesExprs around exprs
  | .unary _ _ arg => writesExpr around arg
  | .update _ _ _ arg => ⟨.update, arg, around⟩ :: writesExpr around arg
  | .binary _ _ left right => writesExpr around left ++ writesExpr around right
  | .assign _ _ target value =>
    writesPat .assignment (around.targeting true) target ++ writesExpr around value
  | .cond _ test cons alt =>
    writesExpr around test ++ writesExpr around cons ++ writesExpr around alt
  | .seq _ exprs => writesExprs around exprs
  | .yield _ _ arg => writesOptExpr around arg
  | .await _ arg => writesExpr around arg
  | .call _ callee args => writesExpr around callee ++ writesExprs around args
  | .newCall _ callee args => writesExpr around callee ++ writesExprs around args
  | .newBare _ callee => writesExpr around callee
  | .member _ object key => writesExpr around object ++ writesKey around key
  | .optMember _ _ object key => writesExpr around object ++ writesKey around key
  | .optCall _ _ callee args => writesExpr around callee ++ writesExprs around args
  | .paren _ inner => writesExpr around inner

def writesExprs (around : Around) : List Expr → List Write
  | [] => []
  | e :: rest => writesExpr around e ++ writesExprs around rest

def writesOptExpr (around : Around) : Option Expr → List Write
  | none => []
  | some e => writesExpr around e

def writesKey (around : Around) : Key → List Write
  | .computed e => writesExpr around e
  | .named _ | .str _ | .num _ | .privateName _ => []

def writesProperty (around : Around) : Property → List Write
  | .shorthand _ => []
  | .keyValue key value => writesKey around key ++ writesExpr around value
  | .initialized _ value => writesExpr around value
  | .getter span key body =>
    writesKey (around.enter (.function span none [] body .key)) key ++
      writesStmts (around.enter (.function span none [] body .body)) body
  | .setter span key param body =>
    writesKey (around.enter (.function span none [param] body .key)) key ++
      writesPat .element (around.enter (.function span none [param] body .params)) param ++
      writesStmts (around.enter (.function span none [param] body .body)) body
  | .method key f => writesKey around key ++ writesFunction around none f
  | .spread _ arg => writesExpr around arg

def writesProperties (around : Around) : List Property → List Write
  | [] => []
  | p :: rest => writesProperty around p ++ writesProperties around rest

/-- A pattern, which is written to in this way as a whole. -/
def writesPat (form : WriteForm) (around : Around) : Pat → List Write
  | .ident _ | .hole => []
  | .array _ elems => writesPats around elems
  | .object _ props => writesPatProperties around props
  | .rest _ arg => writesPat .element around arg
  | .default _ left right => writesPat .element around left ++ writesExpr around right
  | .expr e => ⟨form, e, around⟩ :: writesExpr around e

def writesPats (around : Around) : List Pat → List Write
  | [] => []
  | p :: rest => writesPat .element around p ++ writesPats around rest

def writesPatProperty (around : Around) : PatProperty → List Write
  | .keyValue key value => writesKey around key ++ writesPat .element around value
  | .shorthand _ default => writesOptExpr around default
  | .rest _ arg => writesPat .element around arg

def writesPatProperties (around : Around) : List PatProperty → List Write
  | [] => []
  | p :: rest => writesPatProperty around p ++ writesPatProperties around rest

def writesFunction (around : Around) (name : Option Ident) : Function → List Write
  | .mk span _ _ params body =>
    writesPats (around.enterFunction (.function span name params body .params)) params ++
      writesStmts (around.enterFunction (.function span name params body .body)) body

def writesClass (around : Around) : Script.Class → List Write
  | .mk _ superClass members => writesMembers around members ++ writesOptExpr around superClass

def writesMember (around : Around) : ClassMember → List Write
  | .ctor span params body =>
    writesPats (around.enter (.function span none params body .params)) params ++
      writesStmts (around.enter (.function span none params body .body)) body
  | .method _ _ key f => writesKey around key ++ writesFunction around none f
  | .field _ key value => writesKey around key ++ writesOptExpr around value
  | .staticBlock body => writesStmts (around.enter (.staticBlock body)) body
  | .empty => []

def writesMembers (around : Around) : List ClassMember → List Write
  | [] => []
  | m :: rest => writesMember around m ++ writesMembers around rest

def writesStmt (around : Around) : Stmt → List Write
  | .expr e => writesExpr around e
  | .block body => writesStmts (around.enter (.block body)) body
  | .empty | .debugger | .breakStmt _ | .continueStmt _ => []
  | .withStmt object body => writesExpr around object ++ writesStmt around body
  | .returnStmt arg => writesOptExpr around arg
  | .labeled _ body => writesStmt around body
  | .ifStmt test cons alt =>
    writesExpr around test ++ writesStmt (around.enter (.block [cons])) cons ++
      writesOptStmt around alt
  | .switch discriminant cases =>
    writesExpr around discriminant ++ writesCases (around.enter (.switch cases)) cases
  | .throwStmt arg => writesExpr around arg
  | .tryStmt block handler finalizer =>
    writesStmts (around.enter (.block block)) block ++ writesHandler around handler ++
      writesFinalizer around finalizer
  | .whileLoop test body => writesExpr around test ++ writesStmt around body
  | .doWhile test body => writesExpr around test ++ writesStmt around body
  | .forLoop init test update body =>
    writesForInit (around.enterLoop (Layer.ofForInit init)) init ++
      writesOptExpr (around.enterLoop (Layer.ofForInit init)) test ++
      writesOptExpr (around.enterLoop (Layer.ofForInit init)) update ++
      writesStmt (around.enterLoop (Layer.ofForInit init)) body
  | .forIn left right body =>
    writesForHead (around.enterLoop (Layer.ofForHead left)) left ++
      writesExpr (around.enterLoop (Layer.ofForHead left)) right ++
      writesStmt (around.enterLoop (Layer.ofForHead left)) body
  | .forOf _ left right body =>
    writesForHead (around.enterLoop (Layer.ofForHead left)) left ++
      writesExpr (around.enterLoop (Layer.ofForHead left)) right ++
      writesStmt (around.enterLoop (Layer.ofForHead left)) body
  | .varDecl _ decls => writesDeclarators around decls
  | .fnDecl _ f => writesFunction around none f
  | .classDecl _ cls => writesClass around cls

def writesStmts (around : Around) : List Stmt → List Write
  | [] => []
  | s :: rest => writesStmt around s ++ writesStmts around rest

def writesOptStmt (around : Around) : Option Stmt → List Write
  | none => []
  | some s => writesStmt (around.enter (.block [s])) s

def writesCases (around : Around) : List Case → List Write
  | [] => []
  | .mk test body :: rest =>
    writesOptExpr around test ++ writesStmts around body ++ writesCases around rest

def writesHandler (around : Around) : Option Catch → List Write
  | none => []
  | some (.mk span param body) =>
    writesOptPat (around.enter (.handler span param)) param ++
      writesStmts ((around.enter (.handler span param)).enter (.block body)) body

def writesOptPat (around : Around) : Option Pat → List Write
  | none => []
  | some p => writesPat .element around p

def writesFinalizer (around : Around) : Option (List Stmt) → List Write
  | none => []
  | some body => writesStmts (around.enter (.block body)) body

def writesDeclarators (around : Around) : List Declarator → List Write
  | [] => []
  | .mk name init :: rest =>
    writesPat .element around name ++ writesOptExpr around init ++ writesDeclarators around rest

def writesForInit (around : Around) : ForInit → List Write
  | .empty => []
  | .var _ decls => writesDeclarators around decls
  | .expr e => writesExpr around e

def writesForHead (around : Around) : ForHead → List Write
  | .var _ decls => writesDeclarators (around.targeting false) decls
  | .pat pat => writesPat .loopHead (around.targeting true) pat

end

/-- What the statements of a factory or of a module write to, in order. -/
def writes (body : List Stmt) : List Write :=
  writesStmts ⟨[.factory body], false, true⟩ body

/-- An expression without the parentheses around it. -/
def unparen : Expr → Expr
  | .paren _ inner => unparen inner
  | e => e

-- ---------------------------------------------------------------------------
-- Rewritten code
-- ---------------------------------------------------------------------------

namespace Write

/-- An access that is itself the target of an assignment. -/
def enteredAccess (w : Write) : Bool :=
  match w.form, w.target with
  | .assignment, .member .. => true
  | _, _ => false

/-- The expression in rewritten code. -/
def rewritten (replace : Replacing) (w : Write) : Expr :=
  match w.form, w.target with
  | .assignment, .member span object key =>
    .member span (rewriteExpr replace w.around object) (rewriteKey replace w.around key)
  | _, target => rewriteExpr replace w.around target

/-- What the walk meets in the expression. -/
def steps (w : Write) : List Step :=
  match w.form, w.target with
  | .assignment, .member _ object key => stepsExpr w.around object ++ stepsKey w.around key
  | _, target => stepsExpr w.around target

end Write

/-- A write in rewritten code stands for this one, and the walk meets what this one consists of. -/
structure Write.StandsFor (replace : Replacing) (steps : List Step) (w w' : Write) : Prop where
  form : w'.form = w.form
  target : w'.target = w.rewritten replace
  steps : w.steps ⊆ steps

/-- The writes of rewritten code stand for those of the code, one by one. -/
def Carried (replace : Replacing) (steps : List Step) (ws ws' : List Write) : Prop :=
  List.Forall₂ (Write.StandsFor replace steps) ws ws'

namespace Carried

variable {replace : Replacing} {steps rest : List Step} {w w' : Write}
  {ws ws' others others' : List Write}

theorem nil : Carried replace steps [] [] :=
  List.Forall₂.nil

theorem cons (h : w.StandsFor replace steps w') (hrest : Carried replace steps ws ws') :
    Carried replace steps (w :: ws) (w' :: ws') :=
  List.Forall₂.cons h hrest

theorem mono (h : Carried replace steps ws ws') (hsub : steps ⊆ rest) :
    Carried replace rest ws ws' :=
  List.Forall₂.imp (fun _ _ hw => ⟨hw.form, hw.target, List.Subset.trans hw.steps hsub⟩) h

theorem append (h : Carried replace steps ws ws') (hrest : Carried replace rest others others') :
    Carried replace (steps ++ rest) (ws ++ others) (ws' ++ others') :=
  List.rel_append (h.mono (List.subset_append_left _ _))
    (hrest.mono (List.subset_append_right _ _))

theorem right (h : Carried replace steps ws ws') (first : List Step) :
    Carried replace (first ++ steps) ws ws' :=
  h.mono (List.subset_append_right _ _)

theorem within (h : Carried replace steps ws ws') (scope : Scope) :
    Carried replace (stepsWithin scope steps) ws ws' :=
  h.mono (subset_stepsWithin scope steps)

/-- An expression that is written to, and what is written to inside of it. -/
theorem target {form : WriteForm} {around around' : Around} {e : Expr} (hform : form ≠ .assignment)
    (h : Carried replace (stepsExpr around e) ws ws') :
    Carried replace (stepsExpr around e) (⟨form, e, around⟩ :: ws)
      (⟨form, rewriteExpr replace around e, around'⟩ :: ws') := by
  have hsteps : (⟨form, e, around⟩ : Write).steps = stepsExpr around e := by
    cases form with
    | assignment => exact absurd rfl hform
    | update | element | loopHead => rfl
  refine .cons ⟨rfl, ?_, ?_⟩ h
  · cases form with
    | assignment => exact absurd rfl hform
    | update | element | loopHead => rfl
  · rw [hsteps]
    exact List.Subset.refl _

end Carried

theorem carried_constant {replace : Replacing} {steps : List Step} {around around' : Around}
    {span : Span} {op : UnaryOp} {arg value : Expr} (h : constant? span op arg = some value) :
    Carried replace steps (writesExpr around arg) (writesExpr around' value) := by
  obtain ⟨_, _, rfl, rfl | ⟨b, rfl⟩⟩ := constant?_eq_some h
  · exact .nil
  · exact .nil

/-- Nothing is written to inside of an access to `default`. -/
theorem carried_default (replace : Replacing) (around around' : Around) (span : Span) (id : Ident)
    (steps : List Step) :
    Carried replace steps (writesExpr around (.member span (.ident id) (.named "default")))
      (writesExpr around'
        (rewriteDefault span id (replace (around.place id (.defaultObject span))))) := by
  cases replace (around.place id (.defaultObject span)) with
  | keep | reserved word | imported name => exact .nil

theorem carried_shorthand (replace : Replacing) (around around' : Around) (id : Ident)
    (steps : List Step) :
    Carried replace steps (writesProperty around (.shorthand id))
      (writesProperty around' (rewriteShorthand id (replace (around.place id .shorthand)))) := by
  cases replace (around.place id .shorthand) with
  | keep | reserved name | imported name => exact .nil

section

variable (replace : Replacing)

mutual

theorem carried_expr (around around' : Around) (e : Expr) :
    Carried replace (stepsExpr around e) (writesExpr around e)
      (writesExpr around' (rewriteExpr replace around e)) := by
  cases e with
  | ident id => exact .nil
  | lit span value => exact .nil
  | word span word => exact .nil
  | privateName span name => exact .nil
  | hole => exact .nil
  | array span elems => exact carried_exprs around around' elems
  | spread span arg => exact carried_expr around around' arg
  | object span props => exact carried_properties around around' props
  | fn name f => exact carried_function around around' name _ f
  | arrow span isAsync params body =>
    exact ((carried_pats _ _ params).append (carried_stmts _ _ body)).within _
  | arrowExpr span isAsync params body =>
    exact ((carried_pats _ _ params).append (carried_expr _ _ body)).within _
  | cls name cls =>
    cases name with
    | none => exact carried_class around around' cls
    | some name =>
      exact ((carried_class _ _ cls).mono (List.subset_cons_self _ _)).within _
  | template span quasis exprs => exact carried_exprs around around' exprs
  | tagged span tag quasis exprs =>
    exact (carried_expr around around' tag).append (carried_exprs around around' exprs)
  | unary span op arg =>
    cases hc : constant? span op arg with
    | some value =>
      simp only [rewriteExpr, writesExpr, stepsExpr, hc]
      exact carried_constant hc
    | none =>
      simp only [rewriteExpr, writesExpr, stepsExpr, hc]
      exact carried_expr around around' arg
  | update span op before arg => exact .target (by decide) (carried_expr around around' arg)
  | binary span op left right =>
    exact (carried_expr around around' left).append (carried_expr around around' right)
  | assign span op target value =>
    exact (carried_target (around.targeting true) (around'.targeting true) target).append
      (carried_expr around around' value)
  | cond span test cons alt =>
    exact ((carried_expr around around' test).append (carried_expr around around' cons)).append
      (carried_expr around around' alt)
  | seq span exprs => exact carried_exprs around around' exprs
  | yield span delegate arg => exact carried_optExpr around around' arg
  | await span arg => exact carried_expr around around' arg
  | call span callee args =>
    exact (carried_expr around around' callee).append (carried_exprs around around' args)
  | newCall span callee args =>
    exact (carried_expr around around' callee).append (carried_exprs around around' args)
  | newBare span callee => exact carried_expr around around' callee
  | member span object key =>
    cases hd : defaultObject? object key with
    | some id =>
      obtain ⟨rfl, rfl⟩ := defaultObject?_eq_some hd
      simp only [rewriteExpr, hd]
      exact carried_default replace around around' span id _
    | none =>
      simp only [rewriteExpr, writesExpr, stepsExpr, hd]
      exact (carried_expr around around' object).append (carried_key around around' key)
  | optMember span optional object key =>
    exact (carried_expr around around' object).append (carried_key around around' key)
  | optCall span optional callee args =>
    exact (carried_expr around around' callee).append (carried_exprs around around' args)
  | paren span inner => exact carried_expr around around' inner

theorem carried_exprs (around around' : Around) (es : List Expr) :
    Carried replace (stepsExprs around es) (writesExprs around es)
      (writesExprs around' (rewriteExprs replace around es)) := by
  cases es with
  | nil => exact .nil
  | cons e rest => exact (carried_expr around around' e).append (carried_exprs around around' rest)

theorem carried_optExpr (around around' : Around) (e : Option Expr) :
    Carried replace (stepsOptExpr around e) (writesOptExpr around e)
      (writesOptExpr around' (rewriteOptExpr replace around e)) := by
  cases e with
  | none => exact .nil
  | some e => exact carried_expr around around' e

theorem carried_key (around around' : Around) (key : Key) :
    Carried replace (stepsKey around key) (writesKey around key)
      (writesKey around' (rewriteKey replace around key)) := by
  cases key with
  | computed e => exact carried_expr around around' e
  | _ => exact .nil

theorem carried_property (around around' : Around) (p : Property) :
    Carried replace (stepsProperty around p) (writesProperty around p)
      (writesProperty around' (rewriteProperty replace around p)) := by
  cases p with
  | shorthand id => exact carried_shorthand replace around around' id _
  | keyValue key value =>
    exact (carried_key around around' key).append (carried_expr around around' value)
  | initialized id value => exact carried_expr around around' value
  | getter span key body => exact ((carried_key _ _ key).append (carried_stmts _ _ body)).within _
  | setter span key param body =>
    exact (((carried_key _ _ key).append (carried_pat (by decide) _ _ param)).append
      (carried_stmts _ _ body)).within _
  | method key f =>
    exact (carried_key around around' key).append (carried_function around around' none none f)
  | spread span arg => exact carried_expr around around' arg

theorem carried_properties (around around' : Around) (ps : List Property) :
    Carried replace (stepsProperties around ps) (writesProperties around ps)
      (writesProperties around' (rewriteProperties replace around ps)) := by
  cases ps with
  | nil => exact .nil
  | cons p rest =>
    exact (carried_property around around' p).append (carried_properties around around' rest)

theorem carried_pat {form : WriteForm} (hform : form ≠ .assignment) (around around' : Around)
    (p : Pat) :
    Carried replace (stepsPat around p) (writesPat form around p)
      (writesPat form around' (rewritePat replace around p)) := by
  cases p with
  | ident id => exact .nil
  | array span elems => exact carried_pats around around' elems
  | hole => exact .nil
  | object span props => exact carried_patProperties around around' props
  | rest span arg => exact carried_pat (by decide) around around' arg
  | default span left right =>
    exact (carried_pat (by decide) around around' left).append (carried_expr around around' right)
  | expr e => exact .target hform (carried_expr around around' e)

theorem carried_pats (around around' : Around) (ps : List Pat) :
    Carried replace (stepsPats around ps) (writesPats around ps)
      (writesPats around' (rewritePats replace around ps)) := by
  cases ps with
  | nil => exact .nil
  | cons p rest =>
    exact (carried_pat (by decide) around around' p).append (carried_pats around around' rest)

/-- An access that is itself the target of an assignment is rewritten part by part. -/
theorem carried_target (around around' : Around) (p : Pat) :
    Carried replace (stepsTarget around p) (writesPat .assignment around p)
      (writesPat .assignment around' (rewriteTarget replace around p)) := by
  cases p with
  | ident id => exact .nil
  | array span elems => exact carried_pats around around' elems
  | hole => exact .nil
  | object span props => exact carried_patProperties around around' props
  | rest span arg => exact carried_pat (by decide) around around' arg
  | default span left right =>
    exact (carried_pat (by decide) around around' left).append (carried_expr around around' right)
  | expr e =>
    cases e with
    | member span object key =>
      exact .cons ⟨rfl, rfl, List.Subset.refl _⟩
        ((carried_expr around around' object).append (carried_key around around' key))
    | _ => exact .cons ⟨rfl, rfl, List.Subset.refl _⟩ (carried_expr around around' _)

theorem carried_patProperty (around around' : Around) (p : PatProperty) :
    Carried replace (stepsPatProperty around p) (writesPatProperty around p)
      (writesPatProperty around' (rewritePatProperty replace around p)) := by
  cases p with
  | keyValue key value =>
    exact (carried_key around around' key).append (carried_pat (by decide) around around' value)
  | shorthand id default =>
    exact (carried_optExpr around around' default).mono (List.subset_cons_self _ _)
  | rest span arg => exact carried_pat (by decide) around around' arg

theorem carried_patProperties (around around' : Around) (ps : List PatProperty) :
    Carried replace (stepsPatProperties around ps) (writesPatProperties around ps)
      (writesPatProperties around' (rewritePatProperties replace around ps)) := by
  cases ps with
  | nil => exact .nil
  | cons p rest =>
    exact (carried_patProperty around around' p).append (carried_patProperties around around' rest)

theorem carried_function (around around' : Around) (name name' : Option Ident) (f : Function) :
    Carried replace (stepsFunction around name f) (writesFunction around name f)
      (writesFunction around' name' (rewriteFunction replace around name f)) := by
  cases f with
  | mk span isAsync isGenerator params body =>
    exact (((carried_pats _ _ params).right _).append (carried_stmts _ _ body)).within _

theorem carried_class (around around' : Around) (cls : Script.Class) :
    Carried replace (stepsClass around cls) (writesClass around cls)
      (writesClass around' (rewriteClass replace around cls)) := by
  cases cls with
  | mk span superClass members =>
    exact (carried_members around around' members).append
      (carried_optExpr around around' superClass)

theorem carried_member (around around' : Around) (m : ClassMember) :
    Carried replace (stepsMember around m) (writesMember around m)
      (writesMember around' (rewriteMember replace around m)) := by
  cases m with
  | ctor span params body =>
    exact ((carried_pats _ _ params).append (carried_stmts _ _ body)).within _
  | method isStatic kind key f =>
    exact (carried_key around around' key).append (carried_function around around' none none f)
  | field isStatic key value =>
    exact (carried_key around around' key).append (carried_optExpr around around' value)
  | staticBlock body => exact carried_stmts _ _ body
  | empty => exact .nil

theorem carried_members (around around' : Around) (ms : List ClassMember) :
    Carried replace (stepsMembers around ms) (writesMembers around ms)
      (writesMembers around' (rewriteMembers replace around ms)) := by
  cases ms with
  | nil => exact .nil
  | cons m rest =>
    exact (carried_member around around' m).append (carried_members around around' rest)

theorem carried_stmt (around around' : Around) (s : Stmt) :
    Carried replace (stepsStmt around s) (writesStmt around s)
      (writesStmt around' (rewriteStmt replace around s)) := by
  cases s with
  | expr e => exact carried_expr around around' e
  | block body => exact carried_stmts _ _ body
  | empty => exact .nil
  | debugger => exact .nil
  | breakStmt label => exact .nil
  | continueStmt label => exact .nil
  | withStmt object body =>
    exact (carried_expr around around' object).append (carried_stmt around around' body)
  | returnStmt arg => exact carried_optExpr around around' arg
  | labeled label body => exact carried_stmt around around' body
  | ifStmt test cons alt =>
    exact ((carried_expr around around' test).append (carried_stmt _ _ cons)).append
      (carried_optStmt around around' alt)
  | switch discriminant cases =>
    exact (carried_expr around around' discriminant).append (carried_cases _ _ cases)
  | throwStmt arg => exact carried_expr around around' arg
  | tryStmt block handler finalizer =>
    exact ((carried_stmts _ _ block).append (carried_handler around around' handler)).append
      (carried_finalizer around around' finalizer)
  | whileLoop test body =>
    exact (carried_expr around around' test).append (carried_stmt around around' body)
  | doWhile test body =>
    exact (carried_expr around around' test).append (carried_stmt around around' body)
  | forLoop init test update body =>
    exact (((carried_forInit _ _ init).append (carried_optExpr _ _ test)).append
      (carried_optExpr _ _ update)).append (carried_stmt _ _ body)
  | forIn left right body =>
    exact ((carried_forHead _ _ left).append (carried_expr _ _ right)).append
      (carried_stmt _ _ body)
  | forOf isAwait left right body =>
    exact ((carried_forHead _ _ left).append (carried_expr _ _ right)).append
      (carried_stmt _ _ body)
  | varDecl kind decls => exact carried_declarators around around' decls
  | fnDecl name f =>
    exact (carried_function around around' none none f).mono (List.subset_cons_self _ _)
  | classDecl name cls =>
    exact (carried_class around around' cls).mono (List.subset_cons_self _ _)

theorem carried_stmts (around around' : Around) (body : List Stmt) :
    Carried replace (stepsStmts around body) (writesStmts around body)
      (writesStmts around' (rewriteStmts replace around body)) := by
  cases body with
  | nil => exact .nil
  | cons s rest => exact (carried_stmt around around' s).append (carried_stmts around around' rest)

theorem carried_optStmt (around around' : Around) (s : Option Stmt) :
    Carried replace (stepsOptStmt around s) (writesOptStmt around s)
      (writesOptStmt around' (rewriteOptStmt replace around s)) := by
  cases s with
  | none => exact .nil
  | some s => exact carried_stmt _ _ s

theorem carried_cases (around around' : Around) (cases : List Case) :
    Carried replace (stepsCases around cases) (writesCases around cases)
      (writesCases around' (rewriteCases replace around cases)) := by
  cases cases with
  | nil => exact .nil
  | cons c rest =>
    cases c with
    | mk test body =>
      exact ((carried_optExpr around around' test).append (carried_stmts around around' body)).append
        (carried_cases around around' rest)

theorem carried_handler (around around' : Around) (handler : Option Catch) :
    Carried replace (stepsHandler around handler) (writesHandler around handler)
      (writesHandler around' (rewriteHandler replace around handler)) := by
  cases handler with
  | none => exact .nil
  | some c =>
    cases c with
    | mk span param body =>
      exact ((carried_optPat _ _ param).append (carried_stmts _ _ body)).within _

theorem carried_optPat (around around' : Around) (p : Option Pat) :
    Carried replace (stepsOptPat around p) (writesOptPat around p)
      (writesOptPat around' (rewriteOptPat replace around p)) := by
  cases p with
  | none => exact .nil
  | some p => exact carried_pat (by decide) around around' p

theorem carried_finalizer (around around' : Around) (finalizer : Option (List Stmt)) :
    Carried replace (stepsFinalizer around finalizer) (writesFinalizer around finalizer)
      (writesFinalizer around' (rewriteFinalizer replace around finalizer)) := by
  cases finalizer with
  | none => exact .nil
  | some body => exact carried_stmts _ _ body

theorem carried_declarators (around around' : Around) (decls : List Declarator) :
    Carried replace (stepsDeclarators around decls) (writesDeclarators around decls)
      (writesDeclarators around' (rewriteDeclarators replace around decls)) := by
  cases decls with
  | nil => exact .nil
  | cons d rest =>
    cases d with
    | mk name init =>
      exact ((carried_pat (by decide) around around' name).append
        (carried_optExpr around around' init)).append (carried_declarators around around' rest)

theorem carried_forInit (around around' : Around) (init : ForInit) :
    Carried replace (stepsForInit around init) (writesForInit around init)
      (writesForInit around' (rewriteForInit replace around init)) := by
  cases init with
  | empty => exact .nil
  | var kind decls => exact carried_declarators around around' decls
  | expr e => exact carried_expr around around' e

theorem carried_forHead (around around' : Around) (head : ForHead) :
    Carried replace (stepsForHead around head) (writesForHead around head)
      (writesForHead around' (rewriteForHead replace around head)) := by
  cases head with
  | var kind decls => exact carried_declarators _ _ decls
  | pat p => exact carried_pat (by decide) _ _ p

end

end

-- ---------------------------------------------------------------------------
-- Accesses to `default`
-- ---------------------------------------------------------------------------

theorem stepsExpr_unparen (around : Around) (e : Expr) :
    stepsExpr around (unparen e) = stepsExpr around e := by
  fun_induction unparen e with
  | case1 span inner ih => exact ih
  | case2 e _ => rfl

/-- A rewrite goes below parentheses. -/
theorem unparen_rewriteExpr (replace : Replacing) (around : Around) (e : Expr) :
    unparen (rewriteExpr replace around e) = unparen (rewriteExpr replace around (unparen e)) := by
  fun_induction unparen e with
  | case1 span inner ih => exact ih
  | case2 e _ => rfl

namespace Write

variable {w : Write}

theorem enteredAccess_eq_true :
    w.enteredAccess = true ↔
      w.form = .assignment ∧ ∃ span object key, w.target = .member span object key := by
  fun_cases enteredAccess w <;> grind

theorem rewritten_of_not_assigned (replace : Replacing) (h : w.enteredAccess = false) :
    w.rewritten replace = rewriteExpr replace w.around w.target := by
  revert h
  fun_cases rewritten replace w <;> grind [enteredAccess]

theorem steps_of_not_assigned (h : w.enteredAccess = false) :
    w.steps = stepsExpr w.around w.target := by
  revert h
  fun_cases steps w <;> grind [enteredAccess]

/-- An access `x.default` is written to, in parentheses or not, where `x` is a parameter for the
module with this path. -/
structure AccessesDefault (f : Factory) (w : Write) (span : Span) (id : Ident) (path : String) :
    Prop where
  target : unparen w.target = .member span (.ident id) (.named "default")
  visible : (w.around.place id .reference).isShadowed = false
  bound : f.binding.get? id.name = some (.module path)

/-- What a module with these imports has for something that its factory writes to. -/
structure Becomes (f : Factory) (imports : List Import) (w w' : Write) : Prop where
  form : w'.form = w.form
  /-- The target of an assignment stays an access, on the namespace of the import. -/
  kept : ∀ span id path, w.AccessesDefault f span id path → w.enteredAccess = true →
    ∃ i ∈ imports, i.source = path ∧ ∃ name, i.namespaceName = some name ∧
      w'.target = .member span (.ident ⟨name, id.span⟩) (.named "default")
  /-- Any other access to the default of a module gives way to the import of the default. -/
  collapsed : ∀ span id path, w.AccessesDefault f span id path → w.enteredAccess = false →
    ∃ i ∈ imports, i.source = path ∧ ∃ name, i.defaultName = some name ∧
      unparen w'.target = .ident ⟨name, span⟩
  /-- All other accesses stay accesses. -/
  others : ∀ span object key, unparen w.target = .member span object key →
    (∀ id path, ¬ w.AccessesDefault f span id path) →
      ∃ object' key', unparen w'.target = .member span object' key'

end Write

namespace Factory

variable {f : Factory} {w w' : Write}

/-- What the walk meets in something that is written to is met in the factory. -/
theorem mem_places_of_write {p : Place}
    (h : w.StandsFor (f.reference f.locals.imports) (stepsStmts f.around f.body) w')
    (hp : .ident p ∈ w.steps) : p ∈ f.places :=
  mem_places.2 (h.steps hp)

theorem kept_of_standsFor {span : Span} {id : Ident} {path : String}
    (h : w.StandsFor (f.reference f.locals.imports) (stepsStmts f.around f.body) w')
    (haccess : w.AccessesDefault f span id path) (hassigned : w.enteredAccess = true) :
    ∃ i ∈ f.locals.imports, i.source = path ∧ ∃ name, i.namespaceName = some name ∧
      w'.target = .member span (.ident ⟨name, id.span⟩) (.named "default") := by
  obtain ⟨form, target, around⟩ := w
  obtain ⟨rfl, at_, object, key, rfl⟩ := Write.enteredAccess_eq_true.1 hassigned
  obtain ⟨htarget, hvisible, hbound⟩ := haccess
  cases htarget
  have hp : around.place id .reference ∈ f.places :=
    mem_places_of_write h (List.mem_singleton_self _)
  obtain ⟨i, hi, hsource, name, hname, hr⟩ :=
    exists_import hp (path?_eq_some.2 ⟨rfl, hvisible, hbound⟩)
  refine ⟨i, hi, hsource, name, hname, ?_⟩
  rw [h.target]
  simp only [Write.rewritten, rewriteExpr, rewriteKey, rewriteIdent, hr]
  rfl

theorem collapsed_of_standsFor {span : Span} {id : Ident} {path : String}
    (h : w.StandsFor (f.reference f.locals.imports) (stepsStmts f.around f.body) w')
    (haccess : w.AccessesDefault f span id path) (hassigned : w.enteredAccess = false) :
    ∃ i ∈ f.locals.imports, i.source = path ∧ ∃ name, i.defaultName = some name ∧
      unparen w'.target = .ident ⟨name, span⟩ := by
  have hp : w.around.place id (.defaultObject span) ∈ f.places := by
    refine mem_places_of_write h ?_
    rw [Write.steps_of_not_assigned hassigned, ← stepsExpr_unparen, haccess.target]
    exact List.mem_singleton_self _
  obtain ⟨i, hi, hsource, name, hname, hr⟩ :=
    exists_import hp (path?_eq_some.2 ⟨rfl, haccess.visible, haccess.bound⟩)
  refine ⟨i, hi, hsource, name, hname, ?_⟩
  rw [h.target, Write.rewritten_of_not_assigned _ hassigned, unparen_rewriteExpr, haccess.target]
  simp only [rewriteExpr, defaultObject?, beq_self_eq_true, if_true, hr]
  rfl

theorem others_of_standsFor {span : Span} {object : Expr} {key : Key}
    (h : w.StandsFor (f.reference f.locals.imports) (stepsStmts f.around f.body) w')
    (htarget : unparen w.target = .member span object key)
    (hnone : ∀ id path, ¬ w.AccessesDefault f span id path) :
    ∃ object' key', unparen w'.target = .member span object' key' := by
  rw [h.target]
  cases hassigned : w.enteredAccess with
  | true =>
    obtain ⟨form, target, around⟩ := w
    obtain ⟨rfl, at_, object, key, rfl⟩ := Write.enteredAccess_eq_true.1 hassigned
    cases htarget
    exact ⟨_, _, rfl⟩
  | false =>
    rw [Write.rewritten_of_not_assigned _ hassigned, unparen_rewriteExpr, htarget, rewriteExpr]
    cases hd : defaultObject? object key with
    | none => exact ⟨_, _, rfl⟩
    | some id =>
      obtain ⟨rfl, rfl⟩ := defaultObject?_eq_some hd
      cases hr : f.reference f.locals.imports (w.around.place id (.defaultObject span)) with
      | keep | reserved word =>
        simp only [hr]
        exact ⟨_, _, rfl⟩
      | imported name =>
        -- Only an access to the default of a module would give way to an import.
        obtain ⟨hvisible, path, hbound, -⟩ := reference_imported hr
        exact absurd ⟨htarget, hvisible, hbound⟩ (hnone id path)

end Factory

/-- A module writes to what its factory writes to, in order. An access `x.default` to a dependency
stays an access if it is itself the target of an assignment; in all other positions that are written
to, and only there, it gives way to the import of the default, which is then written to. -/
theorem written_defaults {σ ε : Type} {sink : Sink σ ε} {settings : Settings} {start : σ}
    {script : Script} {k : Nat} {f : Factory} {m : Module}
    (hf : script.definitions[k]? = some (.module f))
    (hm : (handed sink settings start script)[k]? = some m) :
    ∃ imports body,
      m = ⟨f.name, .code imports body⟩ ∧
        List.Forall₂ (Write.Becomes f imports) (writes f.body) (writes body) := by
  refine ⟨f.locals.imports, _, (toModule_of_handed hf hm).trans f.module_eq_rewrite, ?_⟩
  refine List.Forall₂.imp ?_ (carried_stmts _ f.around ⟨[.factory _], false, true⟩ f.body)
  intro w w' h
  exact ⟨h.form, fun _ _ _ => Factory.kept_of_standsFor h,
    fun _ _ _ => Factory.collapsed_of_standsFor h, fun _ _ _ => Factory.others_of_standsFor h⟩

/-- `function (a, o) { a.default = o; [a.default] = o; for (a.default of o) (a.default)--; }` -/
def writingSample : Factory where
  name := "m"
  dependencies := ["a"]
  own := none
  span := ⟨20, 107⟩
  params := [.ident ⟨"a", ⟨30, 31⟩⟩, .ident ⟨"o", ⟨33, 34⟩⟩]
  body :=
    [.expr (.assign ⟨38, 51⟩ .plain
        (.expr (.member ⟨38, 47⟩ (.ident ⟨"a", ⟨38, 39⟩⟩) (.named "default")))
        (.ident ⟨"o", ⟨50, 51⟩⟩)),
      .expr (.assign ⟨53, 68⟩ .plain
        (.array ⟨53, 64⟩
          [.expr (.member ⟨54, 63⟩ (.ident ⟨"a", ⟨54, 55⟩⟩) (.named "default"))])
        (.ident ⟨"o", ⟨67, 68⟩⟩)),
      .forOf false
        (.pat (.expr (.member ⟨75, 84⟩ (.ident ⟨"a", ⟨75, 76⟩⟩) (.named "default"))))
        (.ident ⟨"o", ⟨88, 89⟩⟩)
        (.expr (.update ⟨91, 104⟩ .decr false (.paren ⟨91, 102⟩
          (.member ⟨92, 101⟩ (.ident ⟨"a", ⟨92, 93⟩⟩) (.named "default")))))]

theorem written_defaults_writingSample :
    ∃ imports body,
      writingSample.module = ⟨"m", .code imports body⟩ ∧
        List.Forall₂ (Write.Becomes writingSample imports) (writes writingSample.body)
          (writes body) :=
  written_defaults
    (show writingSample.script.definitions[0]? = some (.module writingSample) from rfl)
    (handed_of_definitions rfl)

example : writingSample.locals.imports = [⟨"a", some "ADefault", some "A"⟩] := by
  decide +kernel

/-- `function (a) { a.default++; }` -/
def updatingSample : Factory where
  name := "m"
  dependencies := ["a"]
  own := none
  span := ⟨20, 49⟩
  params := [.ident ⟨"a", ⟨30, 31⟩⟩]
  body :=
    [.expr (.update ⟨35, 46⟩ .incr false
      (.member ⟨35, 44⟩ (.ident ⟨"a", ⟨35, 36⟩⟩) (.named "default")))]

/-- The factory increments the property `default` of a dependency. Its module has no import of the
namespace and increments the import of the default. -/
theorem updatingSample_writes_import :
    (handed keepAll ⟨none, .none⟩ [] updatingSample.script)[0]? =
        some ⟨"m", .code [⟨"a", some "A", none⟩]
          [.expr (.update ⟨35, 46⟩ .incr false (.ident ⟨"A", ⟨35, 44⟩⟩))]⟩ ∧
      (∃ w, writes updatingSample.body = [w] ∧
        w.AccessesDefault updatingSample ⟨35, 44⟩ ⟨"a", ⟨35, 36⟩⟩ "a") ∧
      ∃ w', writes [.expr (.update ⟨35, 46⟩ .incr false (.ident ⟨"A", ⟨35, 44⟩⟩))] = [w'] ∧
        w'.target = .ident ⟨"A", ⟨35, 44⟩⟩ := by
  refine ⟨?_, ⟨_, rfl, rfl, rfl, rfl⟩, ⟨_, rfl, rfl⟩⟩
  rw [handed_of_definitions rfl]
  rfl

end Unbundle.Engine

-- SUMMARY: A second traversal completes what the walk has written, going by spans alone.
import Unbundle.Engine.Substitution
import Unbundle.Proofs.Inside

/-!
# The second traversal

`Substitutions.applyStmts` goes over statements that the walk has changed on its way. If at every
place that the walk meets it makes of what is written there what should be there, and if it has no
entries for the other parts that it looks up (`asidesStmts`), then it completes the rewrite
(`completes_stmts`): two traversals amount to one.
-/

namespace Unbundle.Engine

open Script

-- ---------------------------------------------------------------------------
-- What else is looked up
-- ---------------------------------------------------------------------------

/-- A part that the second traversal looks up although the walk meets no identifier there. -/
inductive Aside where
  /-- The name of a property with an initial value. -/
  | key (id : Ident)
  /-- An access that is not one to `default`. -/
  | member (span : Span)

namespace Aside

def identSpan? : Aside → Option Span
  | .key id => some id.span
  | .member _ => none

def memberSpan? : Aside → Option Span
  | .key _ => none
  | .member span => some span

end Aside

mutual

def asidesExpr : Expr → List Aside
  | .ident _ | .lit .. | .word .. | .privateName .. | .hole => []
  | .array _ elems => asidesExprs elems
  | .spread _ arg => asidesExpr arg
  | .object _ props => asidesProperties props
  | .fn _ f => asidesFunction f
  | .arrow _ _ params body => asidesPats params ++ asidesStmts body
  | .arrowExpr _ _ params body => asidesPats params ++ asidesExpr body
  | .cls _ cls => asidesClass cls
  | .template _ _ exprs => asidesExprs exprs
  | .tagged _ tag _ exprs => asidesExpr tag ++ asidesExprs exprs
  | .unary _ _ arg => asidesExpr arg
  | .update _ _ _ arg => asidesExpr arg
  | .binary _ _ left right => asidesExpr left ++ asidesExpr right
  | .assign _ _ target value => asidesTarget target ++ asidesExpr value
  | .cond _ test cons alt => asidesExpr test ++ asidesExpr cons ++ asidesExpr alt
  | .seq _ exprs => asidesExprs exprs
  | .yield _ _ arg => asidesOptExpr arg
  | .await _ arg => asidesExpr arg
  | .call _ callee args => asidesExpr callee ++ asidesExprs args
  | .newCall _ callee args => asidesExpr callee ++ asidesExprs args
  | .newBare _ callee => asidesExpr callee
  | .member span object key =>
    match defaultObject? object key with
    | some _ => []
    | none => .member span :: (asidesExpr object ++ asidesKey key)
  | .optMember _ _ object key => asidesExpr object ++ asidesKey key
  | .optCall _ _ callee args => asidesExpr callee ++ asidesExprs args
  | .paren _ inner => asidesExpr inner

def asidesExprs : List Expr → List Aside
  | [] => []
  | e :: rest => asidesExpr e ++ asidesExprs rest

def asidesOptExpr : Option Expr → List Aside
  | none => []
  | some e => asidesExpr e

def asidesKey : Key → List Aside
  | .computed e => asidesExpr e
  | .named _ | .str _ | .num _ | .privateName _ => []

def asidesProperty : Property → List Aside
  | .shorthand _ => []
  | .keyValue key value => asidesKey key ++ asidesExpr value
  | .initialized id value => .key id :: asidesExpr value
  | .getter _ key body => asidesKey key ++ asidesStmts body
  | .setter _ key param body => asidesKey key ++ asidesPat param ++ asidesStmts body
  | .method key f => asidesKey key ++ asidesFunction f
  | .spread _ arg => asidesExpr arg

def asidesProperties : List Property → List Aside
  | [] => []
  | p :: rest => asidesProperty p ++ asidesProperties rest

def asidesPat : Pat → List Aside
  | .ident _ => []
  | .array _ elems => asidesPats elems
  | .hole => []
  | .object _ props => asidesPatProperties props
  | .rest _ arg => asidesPat arg
  | .default _ left right => asidesPat left ++ asidesExpr right
  | .expr e => asidesExpr e

def asidesPats : List Pat → List Aside
  | [] => []
  | p :: rest => asidesPat p ++ asidesPats rest

def asidesTarget : Pat → List Aside
  | .expr (.member _ object key) => asidesExpr object ++ asidesKey key
  | .expr e => asidesExpr e
  | .ident _ => []
  | .array _ elems => asidesPats elems
  | .hole => []
  | .object _ props => asidesPatProperties props
  | .rest _ arg => asidesPat arg
  | .default _ left right => asidesPat left ++ asidesExpr right

def asidesPatProperty : PatProperty → List Aside
  | .keyValue key value => asidesKey key ++ asidesPat value
  | .shorthand _ default => asidesOptExpr default
  | .rest _ arg => asidesPat arg

def asidesPatProperties : List PatProperty → List Aside
  | [] => []
  | p :: rest => asidesPatProperty p ++ asidesPatProperties rest

def asidesFunction : Function → List Aside
  | .mk _ _ _ params body => asidesPats params ++ asidesStmts body

def asidesClass : Script.Class → List Aside
  | .mk _ superClass members => asidesMembers members ++ asidesOptExpr superClass

def asidesMember : ClassMember → List Aside
  | .ctor _ params body => asidesPats params ++ asidesStmts body
  | .method _ _ key f => asidesKey key ++ asidesFunction f
  | .field _ key value => asidesKey key ++ asidesOptExpr value
  | .staticBlock body => asidesStmts body
  | .empty => []

def asidesMembers : List ClassMember → List Aside
  | [] => []
  | m :: rest => asidesMember m ++ asidesMembers rest

def asidesStmt : Stmt → List Aside
  | .expr e => asidesExpr e
  | .block body => asidesStmts body
  | .empty | .debugger | .breakStmt _ | .continueStmt _ => []
  | .withStmt object body => asidesExpr object ++ asidesStmt body
  | .returnStmt arg => asidesOptExpr arg
  | .labeled _ body => asidesStmt body
  | .ifStmt test cons alt => asidesExpr test ++ asidesStmt cons ++ asidesOptStmt alt
  | .switch discriminant cases => asidesExpr discriminant ++ asidesCases cases
  | .throwStmt arg => asidesExpr arg
  | .tryStmt block handler finalizer =>
    asidesStmts block ++ asidesHandler handler ++ asidesFinalizer finalizer
  | .whileLoop test body => asidesExpr test ++ asidesStmt body
  | .doWhile test body => asidesExpr test ++ asidesStmt body
  | .forLoop init test update body =>
    asidesForInit init ++ asidesOptExpr test ++ asidesOptExpr update ++ asidesStmt body
  | .forIn left right body => asidesForHead left ++ asidesExpr right ++ asidesStmt body
  | .forOf _ left right body => asidesForHead left ++ asidesExpr right ++ asidesStmt body
  | .varDecl _ decls => asidesDeclarators decls
  | .fnDecl _ f => asidesFunction f
  | .classDecl _ cls => asidesClass cls

def asidesStmts : List Stmt → List Aside
  | [] => []
  | s :: rest => asidesStmt s ++ asidesStmts rest

def asidesOptStmt : Option Stmt → List Aside
  | none => []
  | some s => asidesStmt s

def asidesCases : List Case → List Aside
  | [] => []
  | .mk test body :: rest => asidesOptExpr test ++ asidesStmts body ++ asidesCases rest

def asidesHandler : Option Catch → List Aside
  | none => []
  | some (.mk _ param body) => asidesOptPat param ++ asidesStmts body

def asidesOptPat : Option Pat → List Aside
  | none => []
  | some p => asidesPat p

def asidesFinalizer : Option (List Stmt) → List Aside
  | none => []
  | some body => asidesStmts body

def asidesDeclarators : List Declarator → List Aside
  | [] => []
  | .mk name init :: rest => asidesPat name ++ asidesOptExpr init ++ asidesDeclarators rest

def asidesForInit : ForInit → List Aside
  | .empty => []
  | .var _ decls => asidesDeclarators decls
  | .expr e => asidesExpr e

def asidesForHead : ForHead → List Aside
  | .var _ decls => asidesDeclarators decls
  | .pat pat => asidesPat pat

end

-- ---------------------------------------------------------------------------
-- Completion
-- ---------------------------------------------------------------------------

/-- Where the walk has written what `first` says, the second traversal makes of it what `final`
says. -/
def Step.Settles (s : Substitutions) (first final : Replacing) : Step → Prop
  | .ident p =>
    match p.site with
    | .reference | .declaration => s.applyIdent ((first p).rename p.id) = (final p).rename p.id
    | .shorthand =>
      s.applyProperty (rewriteShorthand p.id (first p)) = rewriteShorthand p.id (final p)
    | .defaultObject span =>
      s.applyExpr (rewriteDefault span p.id (first p)) = rewriteDefault span p.id (final p)
  | .undefined p => s.applyIdent p.id = p.id
  | .enter _ | .leave _ => True

/-- There is no entry. -/
def Aside.Passes (s : Substitutions) : Aside → Prop
  | .key id => s.idents.lookup id.span = none
  | .member span => s.members.lookup span = none

/-- If all of these steps and asides are seen to, what the second traversal makes is complete. -/
def Completes (s : Substitutions) (first final : Replacing) (steps : List Step)
    (asides : List Aside) {α : Type} (made complete : α) : Prop :=
  (∀ step ∈ steps, step.Settles s first final) → (∀ aside ∈ asides, aside.Passes s) →
    made = complete

namespace Completes

variable {s : Substitutions} {first final : Replacing} {steps steps' : List Step}
  {asides asides' : List Aside} {α β : Type} {made complete : α}

theorem refl (a : α) : Completes s first final steps asides a a :=
  fun _ _ => rfl

theorem map (g : α → β) (h : Completes s first final steps asides made complete) :
    Completes s first final steps asides (g made) (g complete) :=
  fun hsteps hasides => congrArg g (h hsteps hasides)

theorem seq {g g' : α → β} (hg : Completes s first final steps asides g g')
    (h : Completes s first final steps' asides' made complete) :
    Completes s first final (steps ++ steps') (asides ++ asides') (g made) (g' complete) := by
  intro hsteps hasides
  rw [List.forall_mem_append] at hsteps hasides
  rw [hg hsteps.1 hasides.1, h hsteps.2 hasides.2]

theorem within (scope : Scope) (h : Completes s first final steps asides made complete) :
    Completes s first final (stepsWithin scope steps) asides made complete :=
  fun hsteps => h fun step hstep => hsteps step (subset_stepsWithin scope steps hstep)

theorem ident (around : Around) (id : Ident) (site : Site)
    (hsite : site = .reference ∨ site = .declaration) :
    Completes s first final [.ident (around.place id site)] []
      (s.applyIdent (rewriteIdent first (around.place id site)))
      (rewriteIdent final (around.place id site)) := by
  intro hsteps _
  have hsettled := hsteps _ (List.mem_singleton.2 rfl)
  rcases hsite with rfl | rfl
  · exact hsettled
  · exact hsettled

theorem patternIdent (around : Around) (id : Ident) :
    Completes s first final [.ident (around.patternPlace id)] []
      (s.applyIdent (rewriteIdent first (around.patternPlace id)))
      (rewriteIdent final (around.patternPlace id)) := by
  obtain ⟨layers, inTarget, entered⟩ := around
  intro hsteps _
  have hsettled := hsteps _ (List.mem_singleton.2 rfl)
  cases inTarget with
  | false => exact hsettled
  | true => exact hsettled

theorem name (around : Around) (name : Option Ident) :
    Completes s first final (stepsName around name) []
      ((rewriteName first around name).map s.applyIdent) (rewriteName final around name) := by
  cases name with
  | none => exact .refl none
  | some id => exact (ident around id .declaration (.inr rfl)).map some

theorem shorthand (around : Around) (id : Ident) :
    Completes s first final [.ident (around.place id .shorthand)] []
      (s.applyProperty (rewriteShorthand id (first (around.place id .shorthand))))
      (rewriteShorthand id (final (around.place id .shorthand))) :=
  fun hsteps _ => hsteps _ (List.mem_singleton.2 rfl)

theorem defaultAccess (around : Around) (span : Span) (id : Ident) :
    Completes s first final [.ident (around.place id (.defaultObject span))] []
      (s.applyExpr (rewriteDefault span id (first (around.place id (.defaultObject span)))))
      (rewriteDefault span id (final (around.place id (.defaultObject span)))) :=
  fun hsteps _ => hsteps _ (List.mem_singleton.2 rfl)

/-- The name of a property with an initial value stays. -/
theorem initialized (id : Ident) {value value' : Expr}
    (h : Completes s first final steps asides value value') :
    Completes s first final steps (.key id :: asides)
      (.initialized (s.applyIdent id) value) (Property.initialized id value') := by
  intro hsteps hasides
  rw [List.forall_mem_cons] at hasides
  have hkey : s.applyIdent id = id := by
    unfold Substitutions.applyIdent
    rw [show s.idents.lookup id.span = none from hasides.1]
  rw [hkey, h hsteps hasides.2]

/-- So does an access to another property than `default`. -/
theorem member (span : Span) {object object' : Expr} {key key' : Key}
    (h : Completes s first final steps asides
      (.member span (s.applyExpr object) (s.applyKey key)) (Expr.member span object' key')) :
    Completes s first final steps (.member span :: asides)
      (s.applyExpr (.member span object key)) (.member span object' key') := by
  intro hsteps hasides
  rw [List.forall_mem_cons] at hasides
  have hmember : s.members.lookup span = none := hasides.1
  rw [Substitutions.applyExpr, hmember]
  exact h hsteps hasides.2

/-- A constant is complete. -/
theorem constant (around : Around) {span : Span} {op : UnaryOp} {arg value : Expr}
    (h : constant? span op arg = some value) :
    Completes s first final (stepsConstant around value) asides (s.applyExpr value) value := by
  intro hsteps _
  obtain ⟨_, _, -, rfl | ⟨b, rfl⟩⟩ := constant?_eq_some h
  · have hundefined : s.applyIdent ⟨"undefined", span⟩ = ⟨"undefined", span⟩ :=
      hsteps _ (List.mem_singleton.2 rfl)
    rw [Substitutions.applyExpr, hundefined]
  · rw [Substitutions.applyExpr]

end Completes

-- ---------------------------------------------------------------------------
-- Trees
-- ---------------------------------------------------------------------------

section

variable (s : Substitutions) (first final : Replacing)

mutual

theorem completes_expr (around : Around) (e : Expr) :
    Completes s first final (stepsExpr around e) (asidesExpr e)
      (s.applyExpr (rewriteExpr first around e)) (rewriteExpr final around e) := by
  cases e with
  | ident id => exact (Completes.ident around id .reference (.inl rfl)).map Expr.ident
  | lit | word | privateName | hole => exact .refl _
  | array span elems => exact (completes_exprs around elems).map (Expr.array span)
  | spread span arg => exact (completes_expr around arg).map (Expr.spread span)
  | object span props => exact (completes_properties around props).map (Expr.object span)
  | fn name f => exact (completes_function around name f).map fun p => Expr.fn p.1 p.2
  | arrow span isAsync params body =>
    exact (((completes_pats _ params).map (Expr.arrow span isAsync)).seq
      (completes_stmts _ body)).within _
  | arrowExpr span isAsync params body =>
    exact (((completes_pats _ params).map (Expr.arrowExpr span isAsync)).seq
      (completes_expr _ body)).within _
  | cls name cls =>
    cases name with
    | none => exact (completes_class around cls).map (Expr.cls none)
    | some name =>
      exact (((Completes.name _ (some name)).map Expr.cls).seq (completes_class _ cls)).within _
  | template span quasis exprs =>
    exact (completes_exprs around exprs).map (Expr.template span quasis)
  | tagged span tag quasis exprs =>
    exact ((completes_expr around tag).map fun tag => Expr.tagged span tag quasis).seq
      (completes_exprs around exprs)
  | unary span op arg =>
    cases hc : constant? span op arg with
    | some value =>
      simp only [stepsExpr, rewriteExpr, hc]
      exact .constant around hc
    | none =>
      simp only [stepsExpr, rewriteExpr, hc]
      exact (completes_expr around arg).map (Expr.unary span op)
  | update span op before arg => exact (completes_expr around arg).map (Expr.update span op before)
  | binary span op left right =>
    exact ((completes_expr around left).map (Expr.binary span op)).seq (completes_expr around right)
  | assign span op target value =>
    exact ((completes_target _ target).map (Expr.assign span op)).seq (completes_expr around value)
  | cond span test cons alt =>
    exact (((completes_expr around test).map (Expr.cond span)).seq
      (completes_expr around cons)).seq (completes_expr around alt)
  | seq span exprs => exact (completes_exprs around exprs).map (Expr.seq span)
  | yield span delegate arg => exact (completes_optExpr around arg).map (Expr.yield span delegate)
  | await span arg => exact (completes_expr around arg).map (Expr.await span)
  | call span callee args =>
    exact ((completes_expr around callee).map (Expr.call span)).seq (completes_exprs around args)
  | newCall span callee args =>
    exact ((completes_expr around callee).map (Expr.newCall span)).seq (completes_exprs around args)
  | newBare span callee => exact (completes_expr around callee).map (Expr.newBare span)
  | member span object key =>
    cases hd : defaultObject? object key with
    | some id =>
      simp only [stepsExpr, rewriteExpr, asidesExpr, hd]
      exact .defaultAccess around span id
    | none =>
      simp only [stepsExpr, rewriteExpr, asidesExpr, hd]
      exact .member span (((completes_expr around object).map (Expr.member span)).seq
        (completes_key around key))
  | optMember span optional object key =>
    exact ((completes_expr around object).map (Expr.optMember span optional)).seq
      (completes_key around key)
  | optCall span optional callee args =>
    exact ((completes_expr around callee).map (Expr.optCall span optional)).seq
      (completes_exprs around args)
  | paren span inner => exact (completes_expr around inner).map (Expr.paren span)

theorem completes_exprs (around : Around) (es : List Expr) :
    Completes s first final (stepsExprs around es) (asidesExprs es)
      (s.applyExprs (rewriteExprs first around es)) (rewriteExprs final around es) := by
  cases es with
  | nil => exact .refl _
  | cons e rest => exact ((completes_expr around e).map List.cons).seq (completes_exprs around rest)

theorem completes_optExpr (around : Around) (e : Option Expr) :
    Completes s first final (stepsOptExpr around e) (asidesOptExpr e)
      (s.applyOptExpr (rewriteOptExpr first around e)) (rewriteOptExpr final around e) := by
  cases e with
  | none => exact .refl _
  | some e => exact (completes_expr around e).map some

theorem completes_key (around : Around) (key : Key) :
    Completes s first final (stepsKey around key) (asidesKey key)
      (s.applyKey (rewriteKey first around key)) (rewriteKey final around key) := by
  cases key with
  | computed e => exact (completes_expr around e).map Key.computed
  | named | str | num | privateName => exact .refl _

theorem completes_property (around : Around) (p : Property) :
    Completes s first final (stepsProperty around p) (asidesProperty p)
      (s.applyProperty (rewriteProperty first around p)) (rewriteProperty final around p) := by
  cases p with
  | shorthand id => exact .shorthand around id
  | keyValue key value =>
    exact ((completes_key around key).map Property.keyValue).seq (completes_expr around value)
  | initialized id value => exact (completes_expr around value).initialized id
  | getter span key body =>
    exact (((completes_key _ key).map (Property.getter span)).seq (completes_stmts _ body)).within _
  | setter span key param body =>
    exact ((((completes_key _ key).map (Property.setter span)).seq (completes_pat _ param)).seq
      (completes_stmts _ body)).within _
  | method key f =>
    exact ((completes_key around key).map fun key (p : Option Ident × Function) =>
      Property.method key p.2).seq (completes_function around none f)
  | spread span arg => exact (completes_expr around arg).map (Property.spread span)

theorem completes_properties (around : Around) (ps : List Property) :
    Completes s first final (stepsProperties around ps) (asidesProperties ps)
      (s.applyProperties (rewriteProperties first around ps))
      (rewriteProperties final around ps) := by
  cases ps with
  | nil => exact .refl _
  | cons p rest =>
    exact ((completes_property around p).map List.cons).seq (completes_properties around rest)

theorem completes_pat (around : Around) (p : Pat) :
    Completes s first final (stepsPat around p) (asidesPat p)
      (s.applyPat (rewritePat first around p)) (rewritePat final around p) := by
  cases p with
  | ident id => exact (Completes.patternIdent around id).map Pat.ident
  | array span elems => exact (completes_pats around elems).map (Pat.array span)
  | hole => exact .refl _
  | object span props => exact (completes_patProperties around props).map (Pat.object span)
  | rest span arg => exact (completes_pat around arg).map (Pat.rest span)
  | default span left right =>
    exact ((completes_pat around left).map (Pat.default span)).seq (completes_expr around right)
  | expr e => exact (completes_expr around e).map Pat.expr

theorem completes_pats (around : Around) (ps : List Pat) :
    Completes s first final (stepsPats around ps) (asidesPats ps)
      (s.applyPats (rewritePats first around ps)) (rewritePats final around ps) := by
  cases ps with
  | nil => exact .refl _
  | cons p rest => exact ((completes_pat around p).map List.cons).seq (completes_pats around rest)

theorem completes_target (around : Around) (p : Pat) :
    Completes s first final (stepsTarget around p) (asidesTarget p)
      (s.applyTarget (rewriteTarget first around p)) (rewriteTarget final around p) := by
  cases p with
  | expr e =>
    cases e with
    | member span object key =>
      exact ((completes_expr around object).map fun object key =>
        Pat.expr (.member span object key)).seq (completes_key around key)
    | cls name cls =>
      cases name with
      | none => exact (completes_expr around (.cls none cls)).map Pat.expr
      | some name => exact (completes_expr around (.cls (some name) cls)).map Pat.expr
    | unary span op arg =>
      have h := (completes_expr around (.unary span op arg)).map Pat.expr
      cases hc : constant? span op arg with
      | some value =>
        obtain ⟨_, _, -, rfl | ⟨b, rfl⟩⟩ := constant?_eq_some hc <;>
          · simp only [rewriteExpr, hc] at h
            simp only [rewriteTarget, rewriteExpr, hc]
            exact h
      | none =>
        simp only [rewriteExpr, hc] at h
        simp only [rewriteTarget, rewriteExpr, hc]
        exact h
    | _ => exact (completes_expr around _).map Pat.expr
  | ident id => exact (Completes.patternIdent around id).map Pat.ident
  | array span elems => exact (completes_pats around elems).map (Pat.array span)
  | hole => exact .refl _
  | object span props => exact (completes_patProperties around props).map (Pat.object span)
  | rest span arg => exact (completes_pat around arg).map (Pat.rest span)
  | default span left right =>
    exact ((completes_pat around left).map (Pat.default span)).seq (completes_expr around right)

theorem completes_patProperty (around : Around) (p : PatProperty) :
    Completes s first final (stepsPatProperty around p) (asidesPatProperty p)
      (s.applyPatProperty (rewritePatProperty first around p))
      (rewritePatProperty final around p) := by
  cases p with
  | keyValue key value =>
    exact ((completes_key around key).map PatProperty.keyValue).seq (completes_pat around value)
  | shorthand id default =>
    exact ((Completes.patternIdent around id).map PatProperty.shorthand).seq
      (completes_optExpr around default)
  | rest span arg => exact (completes_pat around arg).map (PatProperty.rest span)

theorem completes_patProperties (around : Around) (ps : List PatProperty) :
    Completes s first final (stepsPatProperties around ps) (asidesPatProperties ps)
      (s.applyPatProperties (rewritePatProperties first around ps))
      (rewritePatProperties final around ps) := by
  cases ps with
  | nil => exact .refl _
  | cons p rest =>
    exact ((completes_patProperty around p).map List.cons).seq (completes_patProperties around rest)

theorem completes_function (around : Around) (name : Option Ident) (f : Function) :
    Completes s first final (stepsFunction around name f) (asidesFunction f)
      ((rewriteName first (around.enterFunction (.function f.span name f.params f.body .params))
          name).map s.applyIdent,
        s.applyFunction (rewriteFunction first around name f))
      (rewriteName final (around.enterFunction (.function f.span name f.params f.body .params))
          name,
        rewriteFunction final around name f) := by
  cases f with
  | mk span isAsync isGenerator params body =>
    exact ((((Completes.name _ name).map fun name params body =>
      (name, Function.mk span isAsync isGenerator params body)).seq
        (completes_pats _ params)).seq (completes_stmts _ body)).within _

theorem completes_class (around : Around) (cls : Script.Class) :
    Completes s first final (stepsClass around cls) (asidesClass cls)
      (s.applyClass (rewriteClass first around cls)) (rewriteClass final around cls) := by
  cases cls with
  | mk span superClass members =>
    exact ((completes_members around members).map fun members superClass =>
      Script.Class.mk span superClass members).seq (completes_optExpr around superClass)

theorem completes_member (around : Around) (m : ClassMember) :
    Completes s first final (stepsMember around m) (asidesMember m)
      (s.applyMember (rewriteMember first around m)) (rewriteMember final around m) := by
  cases m with
  | ctor span params body =>
    exact (((completes_pats _ params).map (ClassMember.ctor span)).seq
      (completes_stmts _ body)).within _
  | method isStatic kind key f =>
    exact ((completes_key around key).map fun key (p : Option Ident × Function) =>
      ClassMember.method isStatic kind key p.2).seq (completes_function around none f)
  | field isStatic key value =>
    exact ((completes_key around key).map (ClassMember.field isStatic)).seq
      (completes_optExpr around value)
  | staticBlock body => exact (completes_stmts _ body).map ClassMember.staticBlock
  | empty => exact .refl _

theorem completes_members (around : Around) (ms : List ClassMember) :
    Completes s first final (stepsMembers around ms) (asidesMembers ms)
      (s.applyMembers (rewriteMembers first around ms)) (rewriteMembers final around ms) := by
  cases ms with
  | nil => exact .refl _
  | cons m rest =>
    exact ((completes_member around m).map List.cons).seq (completes_members around rest)

theorem completes_stmt (around : Around) (stmt : Stmt) :
    Completes s first final (stepsStmt around stmt) (asidesStmt stmt)
      (s.applyStmt (rewriteStmt first around stmt)) (rewriteStmt final around stmt) := by
  cases stmt with
  | expr e => exact (completes_expr around e).map Stmt.expr
  | block body => exact (completes_stmts _ body).map Stmt.block
  | empty | debugger | breakStmt | continueStmt => exact .refl _
  | withStmt object body =>
    exact ((completes_expr around object).map Stmt.withStmt).seq (completes_stmt around body)
  | returnStmt arg => exact (completes_optExpr around arg).map Stmt.returnStmt
  | labeled label body => exact (completes_stmt around body).map (Stmt.labeled label)
  | ifStmt test cons alt =>
    exact (((completes_expr around test).map Stmt.ifStmt).seq (completes_stmt _ cons)).seq
      (completes_optStmt around alt)
  | switch discriminant cases =>
    exact ((completes_expr around discriminant).map Stmt.switch).seq (completes_cases _ cases)
  | throwStmt arg => exact (completes_expr around arg).map Stmt.throwStmt
  | tryStmt block handler finalizer =>
    exact (((completes_stmts _ block).map Stmt.tryStmt).seq (completes_handler around handler)).seq
      (completes_finalizer around finalizer)
  | whileLoop test body =>
    exact ((completes_expr around test).map Stmt.whileLoop).seq (completes_stmt around body)
  | doWhile test body =>
    exact ((completes_expr around test).map Stmt.doWhile).seq (completes_stmt around body)
  | forLoop init test update body =>
    exact ((((completes_forInit _ init).map Stmt.forLoop).seq (completes_optExpr _ test)).seq
      (completes_optExpr _ update)).seq (completes_stmt _ body)
  | forIn left right body =>
    exact (((completes_forHead _ left).map Stmt.forIn).seq (completes_expr _ right)).seq
      (completes_stmt _ body)
  | forOf isAwait left right body =>
    exact (((completes_forHead _ left).map (Stmt.forOf isAwait)).seq (completes_expr _ right)).seq
      (completes_stmt _ body)
  | varDecl kind decls => exact (completes_declarators around decls).map (Stmt.varDecl kind)
  | fnDecl name f =>
    exact ((Completes.ident around name .declaration (.inr rfl)).map
      fun name (p : Option Ident × Function) => Stmt.fnDecl name p.2).seq
        (completes_function around none f)
  | classDecl name cls =>
    exact ((Completes.ident around name .declaration (.inr rfl)).map Stmt.classDecl).seq
      (completes_class around cls)

theorem completes_stmts (around : Around) (body : List Stmt) :
    Completes s first final (stepsStmts around body) (asidesStmts body)
      (s.applyStmts (rewriteStmts first around body)) (rewriteStmts final around body) := by
  cases body with
  | nil => exact .refl _
  | cons stmt rest =>
    exact ((completes_stmt around stmt).map List.cons).seq (completes_stmts around rest)

theorem completes_optStmt (around : Around) (stmt : Option Stmt) :
    Completes s first final (stepsOptStmt around stmt) (asidesOptStmt stmt)
      (s.applyOptStmt (rewriteOptStmt first around stmt)) (rewriteOptStmt final around stmt) := by
  cases stmt with
  | none => exact .refl _
  | some stmt => exact (completes_stmt _ stmt).map some

theorem completes_cases (around : Around) (cases : List Case) :
    Completes s first final (stepsCases around cases) (asidesCases cases)
      (s.applyCases (rewriteCases first around cases)) (rewriteCases final around cases) := by
  match cases with
  | [] => exact .refl _
  | .mk test body :: rest =>
    exact (((completes_optExpr around test).map fun test body rest =>
      Case.mk test body :: rest).seq (completes_stmts around body)).seq
        (completes_cases around rest)

theorem completes_handler (around : Around) (handler : Option Catch) :
    Completes s first final (stepsHandler around handler) (asidesHandler handler)
      (s.applyHandler (rewriteHandler first around handler))
      (rewriteHandler final around handler) := by
  match handler with
  | none => exact .refl _
  | some (.mk span param body) =>
    exact (((completes_optPat _ param).map fun param body => some (Catch.mk span param body)).seq
      (completes_stmts _ body)).within _

theorem completes_optPat (around : Around) (p : Option Pat) :
    Completes s first final (stepsOptPat around p) (asidesOptPat p)
      (s.applyOptPat (rewriteOptPat first around p)) (rewriteOptPat final around p) := by
  cases p with
  | none => exact .refl _
  | some p => exact (completes_pat around p).map some

theorem completes_finalizer (around : Around) (body : Option (List Stmt)) :
    Completes s first final (stepsFinalizer around body) (asidesFinalizer body)
      (s.applyFinalizer (rewriteFinalizer first around body))
      (rewriteFinalizer final around body) := by
  cases body with
  | none => exact .refl _
  | some body => exact (completes_stmts _ body).map some

theorem completes_declarators (around : Around) (decls : List Declarator) :
    Completes s first final (stepsDeclarators around decls) (asidesDeclarators decls)
      (s.applyDeclarators (rewriteDeclarators first around decls))
      (rewriteDeclarators final around decls) := by
  match decls with
  | [] => exact .refl _
  | .mk name init :: rest =>
    exact (((completes_pat around name).map fun name init rest =>
      Declarator.mk name init :: rest).seq (completes_optExpr around init)).seq
        (completes_declarators around rest)

theorem completes_forInit (around : Around) (init : ForInit) :
    Completes s first final (stepsForInit around init) (asidesForInit init)
      (s.applyForInit (rewriteForInit first around init)) (rewriteForInit final around init) := by
  cases init with
  | empty => exact .refl _
  | var kind decls => exact (completes_declarators around decls).map (ForInit.var kind)
  | expr e => exact (completes_expr around e).map ForInit.expr

theorem completes_forHead (around : Around) (head : ForHead) :
    Completes s first final (stepsForHead around head) (asidesForHead head)
      (s.applyForHead (rewriteForHead first around head)) (rewriteForHead final around head) := by
  cases head with
  | var kind decls => exact (completes_declarators _ decls).map (ForHead.var kind)
  | pat pat => exact (completes_pat _ pat).map ForHead.pat

end

end

end Unbundle.Engine

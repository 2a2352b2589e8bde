-- SUMMARY: A second run finds the same definitions, now without code, and changes nothing more.
import Unbundle.Proofs.Frame
import Unbundle.Proofs.ImportList

/-!
# Running again

A run takes the statements out of factories and writes constants in another way. Neither makes a
call define something else: what a call defines is told from literals, from the shape of its
arguments and from the parameters of the factory, and all of these stay (`found?_remains`). So the
walk over what remains of a script finds the same definitions in the same order, and has nothing
left to change.

`Settles` says both of a piece of code. It is closed under putting code together, so one induction
over the tree gives `settles_stmts`.
-/

namespace Unbundle

open Script

/-- The same module, made from a factory without statements. -/
def Module.emptied (m : Module) : Module :=
  ⟨m.name, match m.body with
    | .code _ _ => .code [] []
    | .text content => .text content⟩

namespace Engine

-- ---------------------------------------------------------------------------
-- The forms of expressions
-- ---------------------------------------------------------------------------

theorem remainsExpr_unary (span : Span) (op : UnaryOp) (arg : Expr) :
    remainsExpr (.unary span op arg) = .ident ⟨"undefined", span⟩ ∨
      (∃ b, remainsExpr (.unary span op arg) = .lit span (.bool b)) ∨
      remainsExpr (.unary span op arg) = .unary span op (remainsExpr arg) := by
  cases hc : constant? span op arg with
  | none => simp [remainsExpr, hc]
  | some value =>
    obtain ⟨_, _, rfl, rfl | ⟨b, rfl⟩⟩ := constant?_eq_some hc <;> simp [remainsExpr, hc]

theorem remainsExpr_call (span : Span) (callee : Expr) (args : List Expr) :
    ∃ callee' args', remainsExpr (.call span callee args) = .call span callee' args' := by
  simp only [remainsExpr]
  split <;> exact ⟨_, _, rfl⟩

/-- No arrays and no functions arise. -/
theorem remainsExpr_eq_array {e : Expr} {span : Span} {elems' : List Expr}
    (h : remainsExpr e = .array span elems') : ∃ elems, e = .array span elems := by
  cases e with
  | array at_ elems =>
    simp only [remainsExpr, Expr.array.injEq] at h
    exact ⟨elems, by rw [h.1]⟩
  | unary at_ op arg =>
    obtain h' | ⟨b, h'⟩ | h' := remainsExpr_unary at_ op arg <;> rw [h'] at h <;> cases h
  | call at_ callee args =>
    obtain ⟨_, _, h'⟩ := remainsExpr_call at_ callee args
    rw [h'] at h
    cases h
  | _ => cases h

theorem remainsExpr_eq_fn {e : Expr} {own : Option Ident} {f' : Function}
    (h : remainsExpr e = .fn own f') : ∃ f, e = .fn own f := by
  cases e with
  | fn name f =>
    simp only [remainsExpr, Expr.fn.injEq] at h
    exact ⟨f, by rw [h.1]⟩
  | unary at_ op arg =>
    obtain h' | ⟨b, h'⟩ | h' := remainsExpr_unary at_ op arg <;> rw [h'] at h <;> cases h
  | call at_ callee args =>
    obtain ⟨_, _, h'⟩ := remainsExpr_call at_ callee args
    rw [h'] at h
    cases h
  | _ => cases h

end Engine

section

open Engine

attribute [local simp] remainsExpr remainsExprs remainsOptExpr remainsPats remainsFunction
  remainsStmt remainsStmts

namespace Amd

theorem stringValue?_remains (e : Expr) : stringValue? (remainsExpr e) = stringValue? e := by
  cases e with
  | unary span op arg =>
    obtain h | ⟨b, h⟩ | h := remainsExpr_unary span op arg <;> rw [h] <;> rfl
  | call span callee args =>
    obtain ⟨_, _, h⟩ := remainsExpr_call span callee args
    rw [h]
    rfl
  | _ => rfl

theorem isDefine_remains (e : Expr) : isDefine (remainsExpr e) = isDefine e := by
  cases e with
  | unary span op arg =>
    obtain h | ⟨b, h⟩ | h := remainsExpr_unary span op arg <;> rw [h] <;> rfl
  | call span callee args =>
    obtain ⟨_, _, h⟩ := remainsExpr_call span callee args
    rw [h]
    rfl
  | _ => rfl

theorem mapM_stringValue?_remains (es : List Expr) :
    (remainsExprs es).mapM stringValue? = es.mapM stringValue? := by
  induction es with
  | nil => rfl
  | cons e rest ih => rw [remainsExprs, List.mapM_cons, stringValue?_remains, ih, List.mapM_cons]

theorem mapM_paramName?_remains (ps : List Pat) :
    (remainsPats ps).mapM paramName? = ps.mapM paramName? := by
  induction ps with
  | nil => rfl
  | cons p rest ih =>
    have hp : paramName? (remainsPat p) = paramName? p := by cases p <;> rfl
    rw [remainsPats, List.mapM_cons, hp, ih, List.mapM_cons]

/-- The arguments are three, the second one an array and the third one a function. -/
def HasForm (args : List Expr) : Prop :=
  ∃ name span deps own f, args = [name, .array span deps, .fn own f]

/-- Arguments in another form are not brought into this one. -/
theorem hasForm_of_remains {args : List Expr} (h : HasForm (remainsExprs args)) :
    HasForm args := by
  obtain ⟨name', span, deps', own, f', h⟩ := h
  match args with
  | [] | [_] | [_, _] | _ :: _ :: _ :: _ :: _ => simp at h
  | [name, deps, factory] =>
    simp only [remainsExprs, List.cons.injEq, and_true] at h
    obtain ⟨_, rfl⟩ := remainsExpr_eq_array h.2.1
    obtain ⟨_, rfl⟩ := remainsExpr_eq_fn h.2.2
    exact ⟨name, span, _, own, _, rfl⟩

theorem moduleDefinition?_of_not_hasForm {args : List Expr} (h : ¬ HasForm args) :
    moduleDefinition? args = none := by
  unfold moduleDefinition?
  split
  · exact absurd ⟨_, _, _, _, _, rfl⟩ h
  · rfl

theorem textAsset?_of_not_hasForm {args : List Expr} (h : ¬ HasForm args) :
    textAsset? args = none := by
  unfold textAsset?
  split
  · exact absurd ⟨_, _, _, _, _, rfl⟩ h
  · rfl

theorem moduleDefinition?_remains (args : List Expr) :
    moduleDefinition? (remainsExprs args) = moduleDefinition? args := by
  by_cases h : HasForm args
  · obtain ⟨name, span, deps, own, ⟨at_, isAsync, isGenerator, params, body⟩, rfl⟩ := h
    simp [moduleDefinition?, stringValue?_remains, mapM_stringValue?_remains,
      mapM_paramName?_remains]
  · rw [moduleDefinition?_of_not_hasForm h,
      moduleDefinition?_of_not_hasForm fun h' => h (hasForm_of_remains h')]

/-- A factory of a text asset has no parameters and returns a literal, and so it does afterwards. -/
theorem textAsset?_remains (args : List Expr) :
    textAsset? (remainsExprs args) = textAsset? args := by
  by_cases h : HasForm args
  · obtain ⟨name, span, deps, own, ⟨at_, isAsync, isGenerator, params, body⟩, rfl⟩ := h
    match deps, params, body with
    | _ :: _, _, _ | [], _ :: _, _ | [], [], [] => rfl
    | [], [], [stmt] =>
      cases stmt with
      | returnStmt arg =>
        cases arg with
        | none => rfl
        | some value =>
          simp [textAsset?, stringValue?_remains]
      | _ => rfl
    | [], [], first :: _ :: _ =>
      cases first with
      | returnStmt arg => cases arg <;> rfl
      | _ => rfl
  · rw [textAsset?_of_not_hasForm h,
      textAsset?_of_not_hasForm fun h' => h (hasForm_of_remains h')]

end Amd

end

namespace Engine

-- ---------------------------------------------------------------------------
-- Definitions
-- ---------------------------------------------------------------------------

/-- The same definition, without the statements of a factory. -/
def Found.emptied : Found → Found
  | .module f => .module { f with body := [] }
  | .textAsset path text => .textAsset path text

/-- A call that defines nothing does not come to define something. -/
theorem found?_remains {callee : Expr} {args : List Expr} (h : found? callee args = none) :
    found? (remainsExpr callee) (remainsExprs args) = none := by
  cases hdefine : Amd.isDefine callee with
  | false => simp [found?, Amd.recognize, Amd.isDefine_remains, hdefine]
  | true =>
    cases htext : Amd.textAsset? args with
    | some asset => simp [found?, Amd.recognize, hdefine, htext] at h
    | none =>
      cases hmodule : Amd.moduleDefinition? args with
      | none =>
        simp [found?, Amd.recognize, Amd.isDefine_remains, hdefine, Amd.textAsset?_remains, htext,
          Amd.moduleDefinition?_remains, hmodule]
      | some d =>
        obtain ⟨_, _, _, _, _, _, _, _, rfl, -⟩ := moduleDefinition?_eq_some hmodule
        simp [found?, Amd.recognize, hdefine, htext, hmodule] at h

theorem emptied_emptied (args : List Expr) : emptied (emptied args) = emptied args := by
  fun_cases emptied args with
  | case1 name deps own span isAsync isGenerator params body => rfl
  | case2 hform => simp [emptied]

/-- A call that defines a module defines it without the statements of the factory, too. -/
theorem found?_emptied {callee : Expr} {args : List Expr} {f : Factory}
    (h : found? callee args = some (.module f)) :
    found? callee (emptied args) = some (Found.emptied (.module f)) := by
  unfold found? at h
  split at h
  · rename_i d name deps own span isAsync isGenerator params body hd
    cases h
    have hdefine : Amd.isDefine callee = true := by
      cases hdefine : Amd.isDefine callee with
      | true => rfl
      | false => simp [Amd.recognize, hdefine] at hd
    have htext : Amd.textAsset? [name, deps, .fn own (.mk span isAsync isGenerator params [])] =
        none := by
      unfold Amd.textAsset?
      split
      · rename_i hargs
        cases hargs
      · rfl
    -- The statements of the factory play no part.
    have hmodule : Amd.moduleDefinition?
        [name, deps, .fn own (.mk span isAsync isGenerator params [])] = some d := by
      have hmodule := moduleDefinition?_of_recognize hd
      cases deps with
      | array at_ deps => exact hmodule
      | _ => cases hmodule
    simp [found?, Amd.recognize, emptied, hdefine, htext, hmodule, Found.emptied]
  · cases h
  · cases h

-- ---------------------------------------------------------------------------
-- Code that is settled
-- ---------------------------------------------------------------------------

/-- Code that remains remains as it is (`again`), and has the same definitions as before, without
the statements of factories. -/
structure Settles {α : Type} (tree again : α) (found refound : List Found) : Prop where
  code : again = tree
  definitions : refound = found.map Found.emptied

namespace Settles

variable {α β : Type} {tree again : α} {found refound : List Found}

theorem leaf (tree : α) : Settles tree tree [] [] :=
  ⟨rfl, rfl⟩

theorem map (g : α → β) (h : Settles tree again found refound) :
    Settles (g tree) (g again) found refound :=
  ⟨congrArg g h.code, h.definitions⟩

theorem seq {g g' : α → β} {before rebefore : List Found} (hg : Settles g g' before rebefore)
    (h : Settles tree again found refound) :
    Settles (g tree) (g' again) (before ++ found) (rebefore ++ refound) := by
  refine ⟨congr hg.code h.code, ?_⟩
  rw [hg.definitions, h.definitions, List.map_append]

/-- A constant is written once and for all. -/
theorem unary {arg : Expr} (span : Span) (op : UnaryOp)
    (h : Settles (remainsExpr arg) (remainsExpr (remainsExpr arg)) (definitionsExpr arg)
      (definitionsExpr (remainsExpr arg))) :
    Settles (remainsExpr (.unary span op arg)) (remainsExpr (remainsExpr (.unary span op arg)))
      (definitionsExpr (.unary span op arg))
      (definitionsExpr (remainsExpr (.unary span op arg))) := by
  cases hc : constant? span op arg with
  | some value =>
    obtain ⟨_, _, rfl, rfl | ⟨b, rfl⟩⟩ := constant?_eq_some hc <;>
      simp only [remainsExpr, hc] <;> exact .leaf _
  | none =>
    have hc' : constant? span op (remainsExpr arg) = none := by
      rw [constant?_congr span op fun _ _ => remainsExpr_eq_num, hc]
    simp only [remainsExpr, hc, hc']
    exact h.map (Expr.unary span op)

/-- What a call defines is settled. -/
theorem call {callee : Expr} {args : List Expr} (span : Span)
    (hcallee : Settles (remainsExpr callee) (remainsExpr (remainsExpr callee))
      (definitionsExpr callee) (definitionsExpr (remainsExpr callee)))
    (hargs : Settles (remainsExprs args) (remainsExprs (remainsExprs args))
      (definitionsExprs args) (definitionsExprs (remainsExprs args))) :
    Settles (remainsExpr (.call span callee args))
      (remainsExpr (remainsExpr (.call span callee args)))
      (definitionsExpr (.call span callee args))
      (definitionsExpr (remainsExpr (.call span callee args))) := by
  cases hfound : found? callee args with
  | none =>
    simp only [remainsExpr, definitionsExpr, hfound, found?_remains hfound]
    exact (hcallee.map (Expr.call span)).seq hargs
  | some d =>
    cases d with
    | textAsset path text =>
      simp only [remainsExpr, definitionsExpr, hfound]
      exact ⟨rfl, rfl⟩
    | module f =>
      simp only [remainsExpr, definitionsExpr, hfound, found?_emptied hfound, Found.emptied,
        emptied_emptied]
      exact ⟨rfl, rfl⟩

end Settles

/-- What remains of the target of an assignment is what remains of it as a pattern. -/
theorem remainsTarget_eq (p : Pat) : remainsTarget p = remainsPat p := by
  cases p with
  | expr e => cases e <;> rfl
  | _ => rfl

theorem definitionsTarget_eq (p : Pat) : definitionsTarget p = definitionsPat p := by
  cases p with
  | expr e => cases e <;> rfl
  | _ => rfl

mutual

theorem settles_expr (e : Expr) :
    Settles (remainsExpr e) (remainsExpr (remainsExpr e)) (definitionsExpr e)
      (definitionsExpr (remainsExpr e)) := by
  cases e with
  | ident id => exact .leaf _
  | lit span value => exact .leaf _
  | word span word => exact .leaf _
  | privateName span name => exact .leaf _
  | hole => exact .leaf _
  | array span elems => exact (settles_exprs elems).map _
  | spread span arg => exact (settles_expr arg).map _
  | object span props => exact (settles_properties props).map _
  | fn name f => exact (settles_function f).map _
  | arrow span isAsync params body =>
    exact ((settles_pats params).map _).seq (settles_stmts body)
  | arrowExpr span isAsync params body =>
    exact ((settles_pats params).map _).seq (settles_expr body)
  | cls name cls => exact (settles_class cls).map _
  | template span quasis exprs => exact (settles_exprs exprs).map _
  | tagged span tag quasis exprs =>
    exact ((settles_expr tag).map (fun tag exprs => Expr.tagged span tag quasis exprs)).seq
      (settles_exprs exprs)
  | unary span op arg => exact .unary span op (settles_expr arg)
  | update span op before arg => exact (settles_expr arg).map _
  | binary span op left right => exact ((settles_expr left).map _).seq (settles_expr right)
  | assign span op target value =>
    simp only [remainsExpr, definitionsExpr, remainsTarget_eq, definitionsTarget_eq]
    exact ((settles_pat target).map _).seq (settles_expr value)
  | cond span test cons alt =>
    exact (((settles_expr test).map _).seq (settles_expr cons)).seq (settles_expr alt)
  | seq span exprs => exact (settles_exprs exprs).map _
  | yield span delegate arg => exact (settles_optExpr arg).map _
  | await span arg => exact (settles_expr arg).map _
  | call span callee args => exact .call span (settles_expr callee) (settles_exprs args)
  | newCall span callee args => exact ((settles_expr callee).map _).seq (settles_exprs args)
  | newBare span callee => exact (settles_expr callee).map _
  | member span object key => exact ((settles_expr object).map _).seq (settles_key key)
  | optMember span optional object key =>
    exact ((settles_expr object).map _).seq (settles_key key)
  | optCall span optional callee args =>
    exact ((settles_expr callee).map _).seq (settles_exprs args)
  | paren span inner => exact (settles_expr inner).map _

theorem settles_exprs (es : List Expr) :
    Settles (remainsExprs es) (remainsExprs (remainsExprs es)) (definitionsExprs es)
      (definitionsExprs (remainsExprs es)) := by
  cases es with
  | nil => exact .leaf _
  | cons e rest => exact ((settles_expr e).map _).seq (settles_exprs rest)

theorem settles_optExpr (e : Option Expr) :
    Settles (remainsOptExpr e) (remainsOptExpr (remainsOptExpr e)) (definitionsOptExpr e)
      (definitionsOptExpr (remainsOptExpr e)) := by
  cases e with
  | none => exact .leaf _
  | some e => exact (settles_expr e).map _

theorem settles_key (key : Key) :
    Settles (remainsKey key) (remainsKey (remainsKey key)) (definitionsKey key)
      (definitionsKey (remainsKey key)) := by
  cases key with
  | computed e => exact (settles_expr e).map _
  | named name => exact .leaf _
  | str raw => exact .leaf _
  | num raw => exact .leaf _
  | privateName name => exact .leaf _

theorem settles_property (p : Property) :
    Settles (remainsProperty p) (remainsProperty (remainsProperty p)) (definitionsProperty p)
      (definitionsProperty (remainsProperty p)) := by
  cases p with
  | shorthand id => exact .leaf _
  | keyValue key value => exact ((settles_key key).map _).seq (settles_expr value)
  | initialized id value => exact (settles_expr value).map _
  | getter span key body => exact ((settles_key key).map _).seq (settles_stmts body)
  | setter span key param body =>
    exact (((settles_key key).map _).seq (settles_pat param)).seq (settles_stmts body)
  | method key f => exact ((settles_key key).map _).seq (settles_function f)
  | spread span arg => exact (settles_expr arg).map _

theorem settles_properties (ps : List Property) :
    Settles (remainsProperties ps) (remainsProperties (remainsProperties ps))
      (definitionsProperties ps) (definitionsProperties (remainsProperties ps)) := by
  cases ps with
  | nil => exact .leaf _
  | cons p rest => exact ((settles_property p).map _).seq (settles_properties rest)

theorem settles_pat (p : Pat) :
    Settles (remainsPat p) (remainsPat (remainsPat p)) (definitionsPat p)
      (definitionsPat (remainsPat p)) := by
  cases p with
  | ident id => exact .leaf _
  | array span elems => exact (settles_pats elems).map _
  | hole => exact .leaf _
  | object span props => exact (settles_patProperties props).map _
  | rest span arg => exact (settles_pat arg).map _
  | default span left right => exact ((settles_pat left).map _).seq (settles_expr right)
  | expr e => exact (settles_expr e).map _

theorem settles_pats (ps : List Pat) :
    Settles (remainsPats ps) (remainsPats (remainsPats ps)) (definitionsPats ps)
      (definitionsPats (remainsPats ps)) := by
  cases ps with
  | nil => exact .leaf _
  | cons p rest => exact ((settles_pat p).map _).seq (settles_pats rest)

theorem settles_patProperty (p : PatProperty) :
    Settles (remainsPatProperty p) (remainsPatProperty (remainsPatProperty p))
      (definitionsPatProperty p) (definitionsPatProperty (remainsPatProperty p)) := by
  cases p with
  | keyValue key value => exact ((settles_key key).map _).seq (settles_pat value)
  | shorthand id default => exact (settles_optExpr default).map _
  | rest span arg => exact (settles_pat arg).map _

theorem settles_patProperties (ps : List PatProperty) :
    Settles (remainsPatProperties ps) (remainsPatProperties (remainsPatProperties ps))
      (definitionsPatProperties ps) (definitionsPatProperties (remainsPatProperties ps)) := by
  cases ps with
  | nil => exact .leaf _
  | cons p rest => exact ((settles_patProperty p).map _).seq (settles_patProperties rest)

theorem settles_function (f : Function) :
    Settles (remainsFunction f) (remainsFunction (remainsFunction f)) (definitionsFunction f)
      (definitionsFunction (remainsFunction f)) := by
  cases f with
  | mk span isAsync isGenerator params body =>
    exact ((settles_pats params).map _).seq (settles_stmts body)

theorem settles_class (cls : Script.Class) :
    Settles (remainsClass cls) (remainsClass (remainsClass cls)) (definitionsClass cls)
      (definitionsClass (remainsClass cls)) := by
  cases cls with
  | mk span superClass members =>
    -- The members come before the class that is extended.
    exact ((settles_members members).map (fun members superClass =>
      Script.Class.mk span superClass members)).seq (settles_optExpr superClass)

theorem settles_member (m : ClassMember) :
    Settles (remainsMember m) (remainsMember (remainsMember m)) (definitionsMember m)
      (definitionsMember (remainsMember m)) := by
  cases m with
  | ctor span params body => exact ((settles_pats params).map _).seq (settles_stmts body)
  | method isStatic kind key f => exact ((settles_key key).map _).seq (settles_function f)
  | field isStatic key value => exact ((settles_key key).map _).seq (settles_optExpr value)
  | staticBlock body => exact (settles_stmts body).map _
  | empty => exact .leaf _

theorem settles_members (ms : List ClassMember) :
    Settles (remainsMembers ms) (remainsMembers (remainsMembers ms)) (definitionsMembers ms)
      (definitionsMembers (remainsMembers ms)) := by
  cases ms with
  | nil => exact .leaf _
  | cons m rest => exact ((settles_member m).map _).seq (settles_members rest)

theorem settles_stmt (s : Stmt) :
    Settles (remainsStmt s) (remainsStmt (remainsStmt s)) (definitionsStmt s)
      (definitionsStmt (remainsStmt s)) := by
  cases s with
  | expr e => exact (settles_expr e).map _
  | block body => exact (settles_stmts body).map _
  | empty => exact .leaf _
  | debugger => exact .leaf _
  | withStmt object body => exact ((settles_expr object).map _).seq (settles_stmt body)
  | returnStmt arg => exact (settles_optExpr arg).map _
  | labeled label body => exact (settles_stmt body).map _
  | breakStmt label => exact .leaf _
  | continueStmt label => exact .leaf _
  | ifStmt test cons alt =>
    exact (((settles_expr test).map _).seq (settles_stmt cons)).seq (settles_optStmt alt)
  | switch discriminant cases =>
    exact ((settles_expr discriminant).map _).seq (settles_cases cases)
  | throwStmt arg => exact (settles_expr arg).map _
  | tryStmt block handler finalizer =>
    exact (((settles_stmts block).map _).seq (settles_handler handler)).seq
      (settles_finalizer finalizer)
  | whileLoop test body => exact ((settles_expr test).map _).seq (settles_stmt body)
  | doWhile test body => exact ((settles_expr test).map _).seq (settles_stmt body)
  | forLoop init test update body =>
    exact ((((settles_forInit init).map _).seq (settles_optExpr test)).seq
      (settles_optExpr update)).seq (settles_stmt body)
  | forIn left right body =>
    exact (((settles_forHead left).map _).seq (settles_expr right)).seq (settles_stmt body)
  | forOf isAwait left right body =>
    exact (((settles_forHead left).map _).seq (settles_expr right)).seq (settles_stmt body)
  | varDecl kind decls => exact (settles_declarators decls).map _
  | fnDecl name f => exact (settles_function f).map _
  | classDecl name cls => exact (settles_class cls).map _

theorem settles_stmts (ss : List Stmt) :
    Settles (remainsStmts ss) (remainsStmts (remainsStmts ss)) (definitionsStmts ss)
      (definitionsStmts (remainsStmts ss)) := by
  cases ss with
  | nil => exact .leaf _
  | cons s rest => exact ((settles_stmt s).map _).seq (settles_stmts rest)

theorem settles_optStmt (s : Option Stmt) :
    Settles (remainsOptStmt s) (remainsOptStmt (remainsOptStmt s)) (definitionsOptStmt s)
      (definitionsOptStmt (remainsOptStmt s)) := by
  cases s with
  | none => exact .leaf _
  | some s => exact (settles_stmt s).map _

theorem settles_cases (cs : List Case) :
    Settles (remainsCases cs) (remainsCases (remainsCases cs)) (definitionsCases cs)
      (definitionsCases (remainsCases cs)) := by
  cases cs with
  | nil => exact .leaf _
  | cons c rest =>
    cases c with
    | mk test body =>
      exact (((settles_optExpr test).map (fun test body rest => Case.mk test body :: rest)).seq
        (settles_stmts body)).seq (settles_cases rest)

theorem settles_handler (h : Option Catch) :
    Settles (remainsHandler h) (remainsHandler (remainsHandler h)) (definitionsHandler h)
      (definitionsHandler (remainsHandler h)) := by
  cases h with
  | none => exact .leaf _
  | some h =>
    cases h with
    | mk span param body =>
      exact ((settles_optPat param).map (fun param body => some (Catch.mk span param body))).seq
        (settles_stmts body)

theorem settles_optPat (p : Option Pat) :
    Settles (remainsOptPat p) (remainsOptPat (remainsOptPat p)) (definitionsOptPat p)
      (definitionsOptPat (remainsOptPat p)) := by
  cases p with
  | none => exact .leaf _
  | some p => exact (settles_pat p).map _

theorem settles_finalizer (ss : Option (List Stmt)) :
    Settles (remainsFinalizer ss) (remainsFinalizer (remainsFinalizer ss))
      (definitionsFinalizer ss) (definitionsFinalizer (remainsFinalizer ss)) := by
  cases ss with
  | none => exact .leaf _
  | some body => exact (settles_stmts body).map _

theorem settles_declarators (ds : List Declarator) :
    Settles (remainsDeclarators ds) (remainsDeclarators (remainsDeclarators ds))
      (definitionsDeclarators ds) (definitionsDeclarators (remainsDeclarators ds)) := by
  cases ds with
  | nil => exact .leaf _
  | cons d rest =>
    cases d with
    | mk name init =>
      exact (((settles_pat name).map (fun name init rest => Declarator.mk name init :: rest)).seq
        (settles_optExpr init)).seq (settles_declarators rest)

theorem settles_forInit (init : ForInit) :
    Settles (remainsForInit init) (remainsForInit (remainsForInit init)) (definitionsForInit init)
      (definitionsForInit (remainsForInit init)) := by
  cases init with
  | empty => exact .leaf _
  | var kind decls => exact (settles_declarators decls).map _
  | expr e => exact (settles_expr e).map _

theorem settles_forHead (head : ForHead) :
    Settles (remainsForHead head) (remainsForHead (remainsForHead head)) (definitionsForHead head)
      (definitionsForHead (remainsForHead head)) := by
  cases head with
  | var kind decls => exact (settles_declarators decls).map _
  | pat pat => exact (settles_pat pat).map _

end

-- ---------------------------------------------------------------------------
-- Modules
-- ---------------------------------------------------------------------------

/-- A factory without statements turns into a module without imports and statements. -/
theorem Factory.module_emptied {f : Factory} (hplain : ∀ p ∈ f.params, (Amd.paramName? p).isSome) :
    Factory.module { f with body := [] } = f.module.emptied := by
  have huses : (Factory.findings { f with body := [] }).uses.toList = [] :=
    uses_findings (f := { f with body := [] }) hplain
  have hlocals : Factory.locals { f with body := [] } = ⟨[], []⟩ := by
    simp [Factory.locals, Imports.ofFindings, huses]
  simp [Factory.module, hlocals, Locals.imports, rewriteStmts, Module.emptied]

theorem toModule_emptied {callee : Expr} {args : List Expr} {d : Found}
    (h : found? callee args = some d) : d.emptied.toModule = d.toModule.emptied := by
  cases d with
  | module f => exact Factory.module_emptied (Factory.paramName?_of_found h)
  | textAsset path text => rfl

/-- What remains of a script has the same modules, without code. -/
theorem modules_remains (script : Script) :
    modules script.remains = (modules script).map Module.emptied := by
  have hdefinitions : script.remains.definitions = script.definitions.map Found.emptied :=
    (settles_stmts script.body).definitions
  simp only [modules, hdefinitions, List.map_map]
  refine List.map_congr_left ?_
  intro d hd
  obtain ⟨callee, args, hfound⟩ := called_definitionsStmts script.body d hd
  exact toModule_emptied hfound

/-- What remains of a script remains as it is. -/
theorem remains_remains (script : Script) : script.remains.remains = script.remains := by
  simp only [Script.remains, (settles_stmts script.body).code]

/-- A run over what a run has left changes nothing. It emits the same modules in the same order:
those of code now have no imports and no statements, and text assets have the same text. -/
theorem rerun_stable {σ ε σ' ε' : Type} {sink : Sink σ ε} {sink' : Sink σ' ε'}
    {settings settings' : Settings} (start : σ) (start' : σ') (script : Script)
    (hlimit : settings.limit = none) (hsink : ∀ s m, (sink s m).refusal = none)
    (hlimit' : settings'.limit = none) (hsink' : ∀ s m, (sink' s m).refusal = none) :
    let left := (run sink settings start script).script
    (run sink' settings' start' left).script = left ∧
      handed sink' settings' start' left =
        (handed sink settings start script).map Module.emptied := by
  have hleft : (run sink settings start script).script = script.remains :=
    script_run_of_accepts hlimit (Sink.accepts_of_forall hsink start _)
  simp only [hleft]
  constructor
  · rw [script_run_of_accepts hlimit' (Sink.accepts_of_forall hsink' start' _), remains_remains]
  · rw [handed_eq_modules start' _ hlimit' hsink', handed_eq_modules start script hlimit hsink,
      modules_remains]

/-- `void 0;`, the definition of a module, `!0;`, and a call that defines nothing, in which a text
asset is defined: `define(!1, define("text!a", [], function () { return "b"; }));` -/
def rerunSample : Script :=
  ⟨⟨0, 180⟩, framedSample.body ++
    [.expr (.call ⟨104, 179⟩ (.ident ⟨"define", ⟨104, 110⟩⟩)
      [.unary ⟨111, 113⟩ .not (.lit ⟨112, 113⟩ (.num "1")),
        .call ⟨115, 178⟩ (.ident ⟨"define", ⟨115, 121⟩⟩)
          [.lit ⟨122, 130⟩ (.str "\"text!a\"" "text!a"), .array ⟨132, 134⟩ [],
            .fn none (.mk ⟨136, 177⟩ false false []
              [.returnStmt (some (.lit ⟨158, 161⟩ (.str "\"b\"" "b")))])]])]⟩

theorem rerun_stable_sample :
    let left := (run keepAll ⟨none, .none⟩ [] rerunSample).script
    (run keepAll ⟨none, .verbose⟩ [] left).script = left ∧
      handed keepAll ⟨none, .verbose⟩ [] left =
        (handed keepAll ⟨none, .none⟩ [] rerunSample).map Module.emptied :=
  rerun_stable [] [] rerunSample rfl (fun _ _ => rfl) rfl (fun _ _ => rfl)

end Engine
end Unbundle

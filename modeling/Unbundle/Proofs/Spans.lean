-- SUMMARY: Trees without spans, and what does not depend on where code stands.
import Mathlib.Logic.Basic
import Unbundle.Engine.Visit

/-!
# Trees without spans

The same code at another place of a file has the same tree up to spans. `eraseStmts` and its kin put
all spans of a tree to `Span.nowhere`, so two trees are the same up to spans if they are the same
once their spans are erased.

What a piece of code declares (`declared_eraseStmts`) and what a call defines (`recognize_erase`)
does not depend on spans.
-/

namespace Unbundle

/-- The span of code that stands nowhere. -/
def Span.nowhere : Span := ⟨0, 0⟩

namespace Script

def Ident.erase (id : Ident) : Ident :=
  ⟨id.name, .nowhere⟩

@[simp] theorem Ident.name_erase (id : Ident) : id.erase.name = id.name := rfl

mutual

def eraseExpr : Expr → Expr
  | .ident id => .ident id.erase
  | .lit _ value => .lit .nowhere value
  | .word _ word => .word .nowhere word
  | .privateName _ name => .privateName .nowhere name
  | .array _ elems => .array .nowhere (eraseExprs elems)
  | .hole => .hole
  | .spread _ arg => .spread .nowhere (eraseExpr arg)
  | .object _ props => .object .nowhere (eraseProperties props)
  | .fn name f => .fn (name.map Ident.erase) (eraseFunction f)
  | .arrow _ isAsync params body =>
    .arrow .nowhere isAsync (erasePats params) (eraseStmts body)
  | .arrowExpr _ isAsync params body =>
    .arrowExpr .nowhere isAsync (erasePats params) (eraseExpr body)
  | .cls name cls => .cls (name.map Ident.erase) (eraseClass cls)
  | .template _ quasis exprs => .template .nowhere quasis (eraseExprs exprs)
  | .tagged _ tag quasis exprs => .tagged .nowhere (eraseExpr tag) quasis (eraseExprs exprs)
  | .unary _ op arg => .unary .nowhere op (eraseExpr arg)
  | .update _ op before arg => .update .nowhere op before (eraseExpr arg)
  | .binary _ op left right => .binary .nowhere op (eraseExpr left) (eraseExpr right)
  | .assign _ op target value => .assign .nowhere op (erasePat target) (eraseExpr value)
  | .cond _ test cons alt => .cond .nowhere (eraseExpr test) (eraseExpr cons) (eraseExpr alt)
  | .seq _ exprs => .seq .nowhere (eraseExprs exprs)
  | .yield _ delegate arg => .yield .nowhere delegate (eraseOptExpr arg)
  | .await _ arg => .await .nowhere (eraseExpr arg)
  | .call _ callee args => .call .nowhere (eraseExpr callee) (eraseExprs args)
  | .newCall _ callee args => .newCall .nowhere (eraseExpr callee) (eraseExprs args)
  | .newBare _ callee => .newBare .nowhere (eraseExpr callee)
  | .member _ object key => .member .nowhere (eraseExpr object) (eraseKey key)
  | .optMember _ optional object key =>
    .optMember .nowhere optional (eraseExpr object) (eraseKey key)
  | .optCall _ optional callee args =>
    .optCall .nowhere optional (eraseExpr callee) (eraseExprs args)
  | .paren _ inner => .paren .nowhere (eraseExpr inner)

def eraseExprs : List Expr → List Expr
  | [] => []
  | e :: rest => eraseExpr e :: eraseExprs rest

def eraseOptExpr : Option Expr → Option Expr
  | none => none
  | some e => some (eraseExpr e)

def eraseKey : Key → Key
  | .computed e => .computed (eraseExpr e)
  | .named name => .named name
  | .str raw => .str raw
  | .num raw => .num raw
  | .privateName name => .privateName name

def eraseProperty : Property → Property
  | .shorthand id => .shorthand id.erase
  | .keyValue key value => .keyValue (eraseKey key) (eraseExpr value)
  | .initialized id value => .initialized id.erase (eraseExpr value)
  | .getter _ key body => .getter .nowhere (eraseKey key) (eraseStmts body)
  | .setter _ key param body =>
    .setter .nowhere (eraseKey key) (erasePat param) (eraseStmts body)
  | .method key f => .method (eraseKey key) (eraseFunction f)
  | .spread _ arg => .spread .nowhere (eraseExpr arg)

def eraseProperties : List Property → List Property
  | [] => []
  | p :: rest => eraseProperty p :: eraseProperties rest

def erasePat : Pat → Pat
  | .ident id => .ident id.erase
  | .array _ elems => .array .nowhere (erasePats elems)
  | .hole => .hole
  | .object _ props => .object .nowhere (erasePatProperties props)
  | .rest _ arg => .rest .nowhere (erasePat arg)
  | .default _ left right => .default .nowhere (erasePat left) (eraseExpr right)
  | .expr e => .expr (eraseExpr e)

def erasePats : List Pat → List Pat
  | [] => []
  | p :: rest => erasePat p :: erasePats rest

def erasePatProperty : PatProperty → PatProperty
  | .keyValue key value => .keyValue (eraseKey key) (erasePat value)
  | .shorthand id default => .shorthand id.erase (eraseOptExpr default)
  | .rest _ arg => .rest .nowhere (erasePat arg)

def erasePatProperties : List PatProperty → List PatProperty
  | [] => []
  | p :: rest => erasePatProperty p :: erasePatProperties rest

def eraseFunction : Function → Function
  | .mk _ isAsync isGenerator params body =>
    .mk .nowhere isAsync isGenerator (erasePats params) (eraseStmts body)

def eraseClass : Script.Class → Script.Class
  | .mk _ superClass members => .mk .nowhere (eraseOptExpr superClass) (eraseMembers members)

def eraseMember : ClassMember → ClassMember
  | .ctor _ params body => .ctor .nowhere (erasePats params) (eraseStmts body)
  | .method isStatic kind key f => .method isStatic kind (eraseKey key) (eraseFunction f)
  | .field isStatic key value => .field isStatic (eraseKey key) (eraseOptExpr value)
  | .staticBlock body => .staticBlock (eraseStmts body)
  | .empty => .empty

def eraseMembers : List ClassMember → List ClassMember
  | [] => []
  | m :: rest => eraseMember m :: eraseMembers rest

def eraseStmt : Stmt → Stmt
  | .expr e => .expr (eraseExpr e)
  | .block body => .block (eraseStmts body)
  | .empty => .empty
  | .debugger => .debugger
  | .withStmt object body => .withStmt (eraseExpr object) (eraseStmt body)
  | .returnStmt arg => .returnStmt (eraseOptExpr arg)
  | .labeled label body => .labeled label (eraseStmt body)
  | .breakStmt label => .breakStmt label
  | .continueStmt label => .continueStmt label
  | .ifStmt test cons alt => .ifStmt (eraseExpr test) (eraseStmt cons) (eraseOptStmt alt)
  | .switch discriminant cases => .switch (eraseExpr discriminant) (eraseCases cases)
  | .throwStmt arg => .throwStmt (eraseExpr arg)
  | .tryStmt block handler finalizer =>
    .tryStmt (eraseStmts block) (eraseHandler handler) (eraseFinalizer finalizer)
  | .whileLoop test body => .whileLoop (eraseExpr test) (eraseStmt body)
  | .doWhile test body => .doWhile (eraseExpr test) (eraseStmt body)
  | .forLoop init test update body =>
    .forLoop (eraseForInit init) (eraseOptExpr test) (eraseOptExpr update) (eraseStmt body)
  | .forIn left right body => .forIn (eraseForHead left) (eraseExpr right) (eraseStmt body)
  | .forOf isAwait left right body =>
    .forOf isAwait (eraseForHead left) (eraseExpr right) (eraseStmt body)
  | .varDecl kind decls => .varDecl kind (eraseDeclarators decls)
  | .fnDecl name f => .fnDecl name.erase (eraseFunction f)
  | .classDecl name cls => .classDecl name.erase (eraseClass cls)

def eraseStmts : List Stmt → List Stmt
  | [] => []
  | s :: rest => eraseStmt s :: eraseStmts rest

def eraseOptStmt : Option Stmt → Option Stmt
  | none => none
  | some s => some (eraseStmt s)

def eraseCases : List Case → List Case
  | [] => []
  | .mk test body :: rest => .mk (eraseOptExpr test) (eraseStmts body) :: eraseCases rest

def eraseHandler : Option Catch → Option Catch
  | none => none
  | some (.mk _ param body) => some (.mk .nowhere (eraseOptPat param) (eraseStmts body))

def eraseOptPat : Option Pat → Option Pat
  | none => none
  | some p => some (erasePat p)

def eraseFinalizer : Option (List Stmt) → Option (List Stmt)
  | none => none
  | some body => some (eraseStmts body)

def eraseDeclarators : List Declarator → List Declarator
  | [] => []
  | .mk name init :: rest => .mk (erasePat name) (eraseOptExpr init) :: eraseDeclarators rest

def eraseForInit : ForInit → ForInit
  | .empty => .empty
  | .var kind decls => .var kind (eraseDeclarators decls)
  | .expr e => .expr (eraseExpr e)

def eraseForHead : ForHead → ForHead
  | .var kind decls => .var kind (eraseDeclarators decls)
  | .pat pat => .pat (erasePat pat)

end

theorem eraseStmts_append (body rest : List Stmt) :
    eraseStmts (body ++ rest) = eraseStmts body ++ eraseStmts rest := by
  induction body with
  | nil => rfl
  | cons s body ih => rw [List.cons_append, eraseStmts, ih, eraseStmts, List.cons_append]

end Script

/-- The same script, standing nowhere. -/
def Script.erase (script : Script) : Script :=
  ⟨.nowhere, Script.eraseStmts script.body⟩

/-- The same module, made from code that stands nowhere. -/
def Module.erase (m : Module) : Module :=
  ⟨m.name, match m.body with
    | .code imports body => .code imports (Script.eraseStmts body)
    | .text content => .text content⟩

namespace Script

-- ---------------------------------------------------------------------------
-- Declared names
-- ---------------------------------------------------------------------------

mutual

@[simp] theorem names_erasePat (p : Pat) : (erasePat p).names = p.names := by
  cases p with
  | ident id => rfl
  | array span elems => exact names_erasePats elems
  | hole => rfl
  | object span props => exact names_erasePatProperties props
  | rest span arg => exact names_erasePat arg
  | default span left right => exact names_erasePat left
  | expr e => rfl

theorem names_erasePatProperty (p : PatProperty) : (erasePatProperty p).names = p.names := by
  cases p with
  | keyValue key value => exact names_erasePat value
  | shorthand id default => rfl
  | rest span arg => exact names_erasePat arg

@[simp] theorem names_erasePats (ps : List Pat) : patNames (erasePats ps) = patNames ps := by
  cases ps with
  | nil => rfl
  | cons p rest => exact congrArg₂ (· ++ ·) (names_erasePat p) (names_erasePats rest)

theorem names_erasePatProperties (ps : List PatProperty) :
    patPropertyNames (erasePatProperties ps) = patPropertyNames ps := by
  cases ps with
  | nil => rfl
  | cons p rest =>
    exact congrArg₂ (· ++ ·) (names_erasePatProperty p) (names_erasePatProperties rest)

end

@[simp] theorem names_eraseDeclarators (decls : List Declarator) :
    (eraseDeclarators decls).flatMap Declarator.names = decls.flatMap Declarator.names := by
  induction decls with
  | nil => rfl
  | cons d rest ih =>
    cases d with
    | mk name init => simp [eraseDeclarators, Declarator.names, ih]

@[simp] theorem names_eraseForInit (init : ForInit) : (eraseForInit init).names = init.names := by
  cases init with
  | var kind decls => exact names_eraseDeclarators decls
  | empty | expr e => rfl

@[simp] theorem names_eraseForHead (head : ForHead) : (eraseForHead head).names = head.names := by
  cases head with
  | var kind decls => exact names_eraseDeclarators decls
  | pat p => rfl

mutual

theorem declared_eraseStmt (s : Stmt) : (eraseStmt s).declared = s.declared := by
  cases s with
  | block body => exact declared_eraseStmts body
  | withStmt object body => exact declared_eraseStmt body
  | labeled label body => exact declared_eraseStmt body
  | whileLoop test body => exact declared_eraseStmt body
  | doWhile test body => exact declared_eraseStmt body
  | ifStmt test cons alt =>
    cases alt with
    | none => exact declared_eraseStmt cons
    | some alt => exact congrArg₂ (· ++ ·) (declared_eraseStmt cons) (declared_eraseStmt alt)
  | switch discriminant cases => exact declared_eraseCases cases
  | tryStmt block handler finalizer =>
    exact congrArg₂ (· ++ ·)
      (congrArg₂ (· ++ ·) (declared_eraseStmts block) (declared_eraseHandler handler))
      (declared_eraseFinalizer finalizer)
  | forLoop init test update body =>
    exact congrArg₂ (· ++ ·) (names_eraseForInit init) (declared_eraseStmt body)
  | forIn left right body =>
    exact congrArg₂ (· ++ ·) (names_eraseForHead left) (declared_eraseStmt body)
  | forOf isAwait left right body =>
    exact congrArg₂ (· ++ ·) (names_eraseForHead left) (declared_eraseStmt body)
  | varDecl kind decls => exact names_eraseDeclarators decls
  | _ => rfl

@[simp] theorem declared_eraseStmts (ss : List Stmt) :
    stmtsDeclared (eraseStmts ss) = stmtsDeclared ss := by
  cases ss with
  | nil => rfl
  | cons s rest => exact congrArg₂ (· ++ ·) (declared_eraseStmt s) (declared_eraseStmts rest)

theorem declared_eraseCases (cs : List Case) :
    casesDeclared (eraseCases cs) = casesDeclared cs := by
  cases cs with
  | nil => rfl
  | cons c rest =>
    cases c with
    | mk test body =>
      exact congrArg₂ (· ++ ·) (declared_eraseStmts body) (declared_eraseCases rest)

theorem declared_eraseHandler (h : Option Catch) :
    handlerDeclared (eraseHandler h) = handlerDeclared h := by
  cases h with
  | none => rfl
  | some h =>
    cases h with
    | mk span param body => exact declared_eraseStmts body

theorem declared_eraseFinalizer (ss : Option (List Stmt)) :
    finalizerDeclared (eraseFinalizer ss) = finalizerDeclared ss := by
  cases ss with
  | none => rfl
  | some body => exact declared_eraseStmts body

end

end Script

-- ---------------------------------------------------------------------------
-- Recognition
-- ---------------------------------------------------------------------------

section

open Script

attribute [local simp] eraseExpr eraseExprs eraseOptExpr eraseKey erasePat erasePats eraseFunction
  eraseStmt eraseStmts

namespace Amd

open Script

theorem stringValue?_erase (e : Expr) : stringValue? (eraseExpr e) = stringValue? e := by
  cases e with
  | lit span value => cases value <;> rfl
  | _ => rfl

theorem paramName?_erase (p : Pat) : paramName? (erasePat p) = paramName? p := by
  cases p <;> rfl

theorem mapM_stringValue?_erase (es : List Expr) :
    (eraseExprs es).mapM stringValue? = es.mapM stringValue? := by
  induction es with
  | nil => rfl
  | cons e rest ih => rw [eraseExprs, List.mapM_cons, stringValue?_erase, ih, List.mapM_cons]

theorem mapM_paramName?_erase (ps : List Pat) :
    (erasePats ps).mapM paramName? = ps.mapM paramName? := by
  induction ps with
  | nil => rfl
  | cons p rest ih => rw [erasePats, List.mapM_cons, paramName?_erase, ih, List.mapM_cons]

theorem moduleDefinition?_erase (args : List Expr) :
    moduleDefinition? (eraseExprs args) = moduleDefinition? args := by
  match args with
  | [] | [_] | [_, _] | _ :: _ :: _ :: _ :: _ => simp [moduleDefinition?]
  | [name, deps, factory] =>
    cases deps with
    | array span deps =>
      cases factory with
      | fn own f =>
        cases f with
        | mk at_ isAsync isGenerator params body =>
          simp [moduleDefinition?, stringValue?_erase, mapM_stringValue?_erase,
            mapM_paramName?_erase]
      | _ => rfl
    | _ => rfl

/-- The factory of a text asset has no parameters and returns a literal. -/
theorem textAsset?_erase_of_factory (name : Expr) (span at_ : Span) (own : Option Ident)
    (isAsync isGenerator : Bool) (params : List Pat) (body : List Stmt) :
    textAsset? (eraseExprs
        [name, .array span [], .fn own (.mk at_ isAsync isGenerator params body)]) =
      textAsset? [name, .array span [], .fn own (.mk at_ isAsync isGenerator params body)] := by
  match params, body with
  | _ :: _, _ | [], [] => rfl
  | [], [stmt] =>
    cases stmt with
    | returnStmt arg =>
      cases arg with
      | none => rfl
      | some value =>
        simp [textAsset?, stringValue?_erase]
    | _ => rfl
  | [], first :: _ :: _ =>
    cases first with
    | returnStmt arg => cases arg <;> rfl
    | _ => rfl

theorem textAsset?_erase (args : List Expr) :
    textAsset? (eraseExprs args) = textAsset? args := by
  match args with
  | [] | [_] | [_, _] | _ :: _ :: _ :: _ :: _ => simp [textAsset?]
  | [name, deps, factory] =>
    cases deps with
    | array span deps =>
      cases deps with
      | cons dep deps => rfl
      | nil =>
        cases factory with
        | fn own f =>
          cases f with
          | mk at_ isAsync isGenerator params body =>
            exact textAsset?_erase_of_factory name span at_ own isAsync isGenerator params body
        | _ => rfl
    | _ => rfl

theorem exprKind_erase (e : Expr) : exprKind (eraseExpr e) = exprKind e := by
  cases e with
  | member span object key =>
    cases object with
    | word at_ word => cases word <;> rfl
    | _ => rfl
  | _ => rfl

theorem all_stringValue?_erase (es : List Expr) :
    ((eraseExprs es).all fun e => (stringValue? e).isSome) =
      es.all fun e => (stringValue? e).isSome := by
  induction es with
  | nil => rfl
  | cons e rest ih => rw [eraseExprs, List.all_cons, ih, stringValue?_erase, List.all_cons]

theorem all_paramName?_erase (ps : List Pat) :
    ((erasePats ps).all fun p => (paramName? p).isSome) =
      ps.all fun p => (paramName? p).isSome := by
  induction ps with
  | nil => rfl
  | cons p rest ih => rw [erasePats, List.all_cons, ih, paramName?_erase, List.all_cons]

theorem isEmpty_erasePats (ps : List Pat) : (erasePats ps).isEmpty = ps.isEmpty := by
  cases ps <;> rfl

theorem describeArgument_erase (e : Expr) :
    describeArgument (eraseExpr e) = describeArgument e := by
  cases e with
  | array span elems =>
    simp only [eraseExpr, describeArgument, all_stringValue?_erase, exprKind]
  | fn name f =>
    cases f with
    | mk span isAsync isGenerator params body =>
      simp only [eraseExpr, eraseFunction, describeArgument, isEmpty_erasePats,
        all_paramName?_erase, exprKind]
  | member span object key => exact exprKind_erase (.member span object key)
  | _ => rfl

theorem map_describeArgument_erase (es : List Expr) :
    (eraseExprs es).map describeArgument = es.map describeArgument := by
  induction es with
  | nil => rfl
  | cons e rest ih => rw [eraseExprs, List.map_cons, describeArgument_erase, ih, List.map_cons]

theorem describeArguments_erase (args : List Expr) :
    describeArguments (eraseExprs args) = describeArguments args := by
  cases args with
  | nil => rfl
  | cons first rest =>
    simp only [eraseExprs, describeArguments, stringValue?_erase, describeArgument_erase,
      map_describeArgument_erase]

/-- What a call defines does not depend on where it stands. -/
theorem recognize_erase (callee : Expr) (args : List Expr) :
    recognize (eraseExpr callee) (eraseExprs args) = recognize callee args := by
  have hcallee : isDefine (eraseExpr callee) = isDefine callee := by cases callee <;> rfl
  rw [recognize, hcallee, textAsset?_erase, moduleDefinition?_erase, describeArguments_erase,
    recognize]

end Amd

-- ---------------------------------------------------------------------------
-- Constants and accesses to `default`
-- ---------------------------------------------------------------------------

namespace Engine

open Script

theorem eraseExpr_simplifyUnary (span : Span) (op : UnaryOp) (arg : Expr) :
    eraseExpr (simplifyUnary span op arg) = simplifyUnary .nowhere op (eraseExpr arg) := by
  cases arg with
  | lit at_ value =>
    cases value with
    | num raw =>
      cases op with
      | void =>
        simp only [simplifyUnary, eraseExpr]
        split <;> rfl
      | not =>
        simp only [simplifyUnary, eraseExpr]
        split
        · rfl
        · split <;> rfl
      | _ => rfl
    | _ => cases op <;> rfl
  | _ => cases op <;> rfl

theorem defaultObject?_erase (object : Expr) (key : Key) :
    defaultObject? (eraseExpr object) (eraseKey key) =
      (defaultObject? object key).map Ident.erase := by
  cases object with
  | ident id =>
    cases key with
    | named name =>
      simp only [eraseExpr, eraseKey, defaultObject?]
      split <;> rfl
    | _ => rfl
  | _ => rfl

end Engine

end

end Unbundle

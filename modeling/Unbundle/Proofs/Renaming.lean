-- SUMMARY: Renaming of the identifiers in some code, and what a walk and a rewrite make of it.
import Unbundle.Proofs.PropertyNames

/-!
# Renaming

`renameStmts ρ` renames every identifier of some code, where it is used and where it is declared.
Names of properties stay: a property `x` is spelled out when its value gets another name.

What surrounds a place in renamed code declares the renamed names, so the places of the two codes
correspond to each other (`Place.Renamed`). If rewrites put the same at places that correspond, and
leave none alone whose name has changed, they lead to the same code. `Tracks` says both of two
pieces of code, and `tracks_stmts` shows it by one induction over the tree.
-/

namespace Unbundle

namespace Script

/-- The identifier with its new name. -/
def Ident.rename (ρ : String → String) (id : Ident) : Ident :=
  { id with name := ρ id.name }

@[simp] theorem Ident.name_rename (ρ : String → String) (id : Ident) :
    (id.rename ρ).name = ρ id.name := rfl

theorem Ident.rename_eq_self {ρ : String → String} {id : Ident} (h : ρ id.name = id.name) :
    id.rename ρ = id := by
  rw [Ident.rename, h]

mutual

def renameExpr (ρ : String → String) : Expr → Expr
  | .ident id => .ident (id.rename ρ)
  | .lit span value => .lit span value
  | .word span word => .word span word
  | .privateName span name => .privateName span name
  | .array span elems => .array span (renameExprs ρ elems)
  | .hole => .hole
  | .spread span arg => .spread span (renameExpr ρ arg)
  | .object span props => .object span (renameProperties ρ props)
  | .fn name f => .fn (name.map (·.rename ρ)) (renameFunction ρ f)
  | .arrow span isAsync params body =>
    .arrow span isAsync (renamePats ρ params) (renameStmts ρ body)
  | .arrowExpr span isAsync params body =>
    .arrowExpr span isAsync (renamePats ρ params) (renameExpr ρ body)
  | .cls name cls => .cls (name.map (·.rename ρ)) (renameClass ρ cls)
  | .template span quasis exprs => .template span quasis (renameExprs ρ exprs)
  | .tagged span tag quasis exprs =>
    .tagged span (renameExpr ρ tag) quasis (renameExprs ρ exprs)
  | .unary span op arg => .unary span op (renameExpr ρ arg)
  | .update span op before arg => .update span op before (renameExpr ρ arg)
  | .binary span op left right => .binary span op (renameExpr ρ left) (renameExpr ρ right)
  | .assign span op target value => .assign span op (renamePat ρ target) (renameExpr ρ value)
  | .cond span test cons alt =>
    .cond span (renameExpr ρ test) (renameExpr ρ cons) (renameExpr ρ alt)
  | .seq span exprs => .seq span (renameExprs ρ exprs)
  | .yield span delegate arg => .yield span delegate (renameOptExpr ρ arg)
  | .await span arg => .await span (renameExpr ρ arg)
  | .call span callee args => .call span (renameExpr ρ callee) (renameExprs ρ args)
  | .newCall span callee args => .newCall span (renameExpr ρ callee) (renameExprs ρ args)
  | .newBare span callee => .newBare span (renameExpr ρ callee)
  | .member span object key => .member span (renameExpr ρ object) (renameKey ρ key)
  | .optMember span optional object key =>
    .optMember span optional (renameExpr ρ object) (renameKey ρ key)
  | .optCall span optional callee args =>
    .optCall span optional (renameExpr ρ callee) (renameExprs ρ args)
  | .paren span inner => .paren span (renameExpr ρ inner)

def renameExprs (ρ : String → String) : List Expr → List Expr
  | [] => []
  | e :: rest => renameExpr ρ e :: renameExprs ρ rest

def renameOptExpr (ρ : String → String) : Option Expr → Option Expr
  | none => none
  | some e => some (renameExpr ρ e)

def renameKey (ρ : String → String) : Key → Key
  | .computed e => .computed (renameExpr ρ e)
  | .named name => .named name
  | .str raw => .str raw
  | .num raw => .num raw
  | .privateName name => .privateName name

def renameProperty (ρ : String → String) : Property → Property
  | .shorthand id => if ρ id.name = id.name then .shorthand id else id.spelledOut (ρ id.name)
  | .keyValue key value => .keyValue (renameKey ρ key) (renameExpr ρ value)
  | .initialized id value => .initialized id (renameExpr ρ value)
  | .getter span key body => .getter span (renameKey ρ key) (renameStmts ρ body)
  | .setter span key param body =>
    .setter span (renameKey ρ key) (renamePat ρ param) (renameStmts ρ body)
  | .method key f => .method (renameKey ρ key) (renameFunction ρ f)
  | .spread span arg => .spread span (renameExpr ρ arg)

def renameProperties (ρ : String → String) : List Property → List Property
  | [] => []
  | p :: rest => renameProperty ρ p :: renameProperties ρ rest

def renamePat (ρ : String → String) : Pat → Pat
  | .ident id => .ident (id.rename ρ)
  | .array span elems => .array span (renamePats ρ elems)
  | .hole => .hole
  | .object span props => .object span (renamePatProperties ρ props)
  | .rest span arg => .rest span (renamePat ρ arg)
  | .default span left right => .default span (renamePat ρ left) (renameExpr ρ right)
  | .expr e => .expr (renameExpr ρ e)

def renamePats (ρ : String → String) : List Pat → List Pat
  | [] => []
  | p :: rest => renamePat ρ p :: renamePats ρ rest

def renamePatProperty (ρ : String → String) : PatProperty → PatProperty
  | .keyValue key value => .keyValue (renameKey ρ key) (renamePat ρ value)
  | .shorthand id none =>
    if ρ id.name = id.name then .shorthand id none
    else .keyValue (.named id.name) (.ident (id.rename ρ))
  | .shorthand id (some default) =>
    if ρ id.name = id.name then .shorthand id (some (renameExpr ρ default))
    else .keyValue (.named id.name)
      (.default id.span (.ident (id.rename ρ)) (renameExpr ρ default))
  | .rest span arg => .rest span (renamePat ρ arg)

def renamePatProperties (ρ : String → String) : List PatProperty → List PatProperty
  | [] => []
  | p :: rest => renamePatProperty ρ p :: renamePatProperties ρ rest

def renameFunction (ρ : String → String) : Function → Function
  | .mk span isAsync isGenerator params body =>
    .mk span isAsync isGenerator (renamePats ρ params) (renameStmts ρ body)

def renameClass (ρ : String → String) : Script.Class → Script.Class
  | .mk span superClass members =>
    .mk span (renameOptExpr ρ superClass) (renameMembers ρ members)

def renameMember (ρ : String → String) : ClassMember → ClassMember
  | .ctor span params body => .ctor span (renamePats ρ params) (renameStmts ρ body)
  | .method isStatic kind key f => .method isStatic kind (renameKey ρ key) (renameFunction ρ f)
  | .field isStatic key value => .field isStatic (renameKey ρ key) (renameOptExpr ρ value)
  | .staticBlock body => .staticBlock (renameStmts ρ body)
  | .empty => .empty

def renameMembers (ρ : String → String) : List ClassMember → List ClassMember
  | [] => []
  | m :: rest => renameMember ρ m :: renameMembers ρ rest

def renameStmt (ρ : String → String) : Stmt → Stmt
  | .expr e => .expr (renameExpr ρ e)
  | .block body => .block (renameStmts ρ body)
  | .empty => .empty
  | .debugger => .debugger
  | .withStmt object body => .withStmt (renameExpr ρ object) (renameStmt ρ body)
  | .returnStmt arg => .returnStmt (renameOptExpr ρ arg)
  | .labeled label body => .labeled label (renameStmt ρ body)
  | .breakStmt label => .breakStmt label
  | .continueStmt label => .continueStmt label
  | .ifStmt test cons alt =>
    .ifStmt (renameExpr ρ test) (renameStmt ρ cons) (renameOptStmt ρ alt)
  | .switch discriminant cases => .switch (renameExpr ρ discriminant) (renameCases ρ cases)
  | .throwStmt arg => .throwStmt (renameExpr ρ arg)
  | .tryStmt block handler finalizer =>
    .tryStmt (renameStmts ρ block) (renameHandler ρ handler) (renameFinalizer ρ finalizer)
  | .whileLoop test body => .whileLoop (renameExpr ρ test) (renameStmt ρ body)
  | .doWhile test body => .doWhile (renameExpr ρ test) (renameStmt ρ body)
  | .forLoop init test update body =>
    .forLoop (renameForInit ρ init) (renameOptExpr ρ test) (renameOptExpr ρ update)
      (renameStmt ρ body)
  | .forIn left right body =>
    .forIn (renameForHead ρ left) (renameExpr ρ right) (renameStmt ρ body)
  | .forOf isAwait left right body =>
    .forOf isAwait (renameForHead ρ left) (renameExpr ρ right) (renameStmt ρ body)
  | .varDecl kind decls => .varDecl kind (renameDeclarators ρ decls)
  | .fnDecl name f => .fnDecl (name.rename ρ) (renameFunction ρ f)
  | .classDecl name cls => .classDecl (name.rename ρ) (renameClass ρ cls)

def renameStmts (ρ : String → String) : List Stmt → List Stmt
  | [] => []
  | s :: rest => renameStmt ρ s :: renameStmts ρ rest

def renameOptStmt (ρ : String → String) : Option Stmt → Option Stmt
  | none => none
  | some s => some (renameStmt ρ s)

def renameCases (ρ : String → String) : List Case → List Case
  | [] => []
  | .mk test body :: rest =>
    .mk (renameOptExpr ρ test) (renameStmts ρ body) :: renameCases ρ rest

def renameHandler (ρ : String → String) : Option Catch → Option Catch
  | none => none
  | some (.mk span param body) => some (.mk span (renameOptPat ρ param) (renameStmts ρ body))

def renameOptPat (ρ : String → String) : Option Pat → Option Pat
  | none => none
  | some p => some (renamePat ρ p)

def renameFinalizer (ρ : String → String) : Option (List Stmt) → Option (List Stmt)
  | none => none
  | some body => some (renameStmts ρ body)

def renameDeclarators (ρ : String → String) : List Declarator → List Declarator
  | [] => []
  | .mk name init :: rest =>
    .mk (renamePat ρ name) (renameOptExpr ρ init) :: renameDeclarators ρ rest

def renameForInit (ρ : String → String) : ForInit → ForInit
  | .empty => .empty
  | .var kind decls => .var kind (renameDeclarators ρ decls)
  | .expr e => .expr (renameExpr ρ e)

def renameForHead (ρ : String → String) : ForHead → ForHead
  | .var kind decls => .var kind (renameDeclarators ρ decls)
  | .pat pat => .pat (renamePat ρ pat)

end

-- ---------------------------------------------------------------------------
-- Declared names
-- ---------------------------------------------------------------------------

section

variable (ρ : String → String)

mutual

theorem names_renamePat (p : Pat) : (renamePat ρ p).names = p.names.map ρ := by
  cases p with
  | ident id => rfl
  | array span elems => exact patNames_renamePats elems
  | hole => rfl
  | object span props => exact patPropertyNames_renamePatProperties props
  | rest span arg => exact names_renamePat arg
  | default span left right => exact names_renamePat left
  | expr e => rfl

theorem patNames_renamePats (ps : List Pat) :
    patNames (renamePats ρ ps) = (patNames ps).map ρ := by
  cases ps with
  | nil => rfl
  | cons p rest =>
    rw [renamePats, patNames, patNames, List.map_append, names_renamePat p,
      patNames_renamePats rest]

theorem names_renamePatProperty (p : PatProperty) :
    (renamePatProperty ρ p).names = p.names.map ρ := by
  cases p with
  | keyValue key value => exact names_renamePat value
  | shorthand id default =>
    cases default with
    | none | some default =>
      rw [renamePatProperty]
      split
      · rename_i hid
        exact congrArg ([·]) hid.symm
      · rfl
  | rest span arg => exact names_renamePat arg

theorem patPropertyNames_renamePatProperties (ps : List PatProperty) :
    patPropertyNames (renamePatProperties ρ ps) = (patPropertyNames ps).map ρ := by
  cases ps with
  | nil => rfl
  | cons p rest =>
    rw [renamePatProperties, patPropertyNames, patPropertyNames, List.map_append,
      names_renamePatProperty p, patPropertyNames_renamePatProperties rest]

end

theorem names_renameDeclarators (decls : List Declarator) :
    (renameDeclarators ρ decls).flatMap Declarator.names =
      (decls.flatMap Declarator.names).map ρ := by
  induction decls with
  | nil => rfl
  | cons decl rest ih =>
    obtain ⟨name, init⟩ := decl
    rw [renameDeclarators, List.flatMap_cons, List.flatMap_cons, List.map_append, ih]
    exact congrArg (· ++ _) (names_renamePat ρ name)

theorem names_renameForInit (init : ForInit) :
    (renameForInit ρ init).names = init.names.map ρ := by
  cases init with
  | empty | expr e => rfl
  | var kind decls => exact names_renameDeclarators ρ decls

theorem names_renameForHead (head : ForHead) :
    (renameForHead ρ head).names = head.names.map ρ := by
  cases head with
  | var kind decls => exact names_renameDeclarators ρ decls
  | pat p => rfl

theorem names_renameOptPat (p : Option Pat) :
    ((renameOptPat ρ p).map Pat.names).getD [] = ((p.map Pat.names).getD []).map ρ := by
  cases p with
  | none => rfl
  | some p => exact names_renamePat ρ p

mutual

theorem declared_renameStmt (s : Stmt) : (renameStmt ρ s).declared = s.declared.map ρ := by
  cases s with
  | block body => exact stmtsDeclared_renameStmts body
  | withStmt object body => exact declared_renameStmt body
  | labeled label body => exact declared_renameStmt body
  | whileLoop test body => exact declared_renameStmt body
  | doWhile test body => exact declared_renameStmt body
  | ifStmt test cons alt =>
    cases alt with
    | none => exact declared_renameStmt cons
    | some alt =>
      simp only [renameStmt, renameOptStmt, Stmt.declared, List.map_append,
        declared_renameStmt cons, declared_renameStmt alt]
  | switch discriminant cases => exact casesDeclared_renameCases cases
  | tryStmt block handler finalizer =>
    simp only [renameStmt, Stmt.declared, List.map_append, stmtsDeclared_renameStmts block,
      handlerDeclared_renameHandler handler, finalizerDeclared_renameFinalizer finalizer]
  | forLoop init test update body =>
    simp only [renameStmt, Stmt.declared, List.map_append, names_renameForInit,
      declared_renameStmt body]
  | forIn left right body =>
    simp only [renameStmt, Stmt.declared, List.map_append, names_renameForHead,
      declared_renameStmt body]
  | forOf isAwait left right body =>
    simp only [renameStmt, Stmt.declared, List.map_append, names_renameForHead,
      declared_renameStmt body]
  | varDecl kind decls => exact names_renameDeclarators ρ decls
  | _ => rfl

theorem stmtsDeclared_renameStmts (body : List Stmt) :
    stmtsDeclared (renameStmts ρ body) = (stmtsDeclared body).map ρ := by
  cases body with
  | nil => rfl
  | cons s rest =>
    rw [renameStmts, stmtsDeclared, stmtsDeclared, List.map_append, declared_renameStmt s,
      stmtsDeclared_renameStmts rest]

theorem casesDeclared_renameCases (cases : List Case) :
    casesDeclared (renameCases ρ cases) = (casesDeclared cases).map ρ := by
  match cases with
  | [] => rfl
  | .mk test body :: rest =>
    rw [renameCases, casesDeclared, casesDeclared, List.map_append,
      stmtsDeclared_renameStmts body, casesDeclared_renameCases rest]

theorem handlerDeclared_renameHandler (handler : Option Catch) :
    handlerDeclared (renameHandler ρ handler) = (handlerDeclared handler).map ρ := by
  match handler with
  | none => rfl
  | some (.mk span param body) => exact stmtsDeclared_renameStmts body

theorem finalizerDeclared_renameFinalizer (finalizer : Option (List Stmt)) :
    finalizerDeclared (renameFinalizer ρ finalizer) = (finalizerDeclared finalizer).map ρ := by
  match finalizer with
  | none => rfl
  | some body => exact stmtsDeclared_renameStmts body

end

theorem names_renameOwn (own : Option Ident) :
    ((own.map (·.rename ρ)).map (·.name)).toList = (own.map (·.name)).toList.map ρ := by
  cases own <;> rfl

end

end Script

namespace Engine

open Script

theorem declared_rename_ofFunction (ρ : String → String) (span : Span) (own : Option Ident)
    (params : List Pat) (body : List Stmt) :
    (Scope.ofFunction span (own.map (·.rename ρ)) (renamePats ρ params)
        (renameStmts ρ body)).declared =
      (Scope.ofFunction span own params body).declared.map ρ := by
  simp only [Scope.ofFunction, names_renameOwn, patNames_renamePats, stmtsDeclared_renameStmts,
    List.map_append]

-- ---------------------------------------------------------------------------
-- Places of renamed code
-- ---------------------------------------------------------------------------

/-- The surrounding of a part of some code, in renamed code. -/
structure Around.Renamed (ρ : String → String) (around' around : Around) : Prop where
  scopes : around'.scopes.map Scope.declared = around.scopes.map fun scope => scope.declared.map ρ
  inTarget : around'.inTarget = around.inTarget

/-- The place of an identifier of some code, in renamed code. -/
structure Place.Renamed (ρ : String → String) (place' place : Place) : Prop where
  id : place'.id = place.id.rename ρ
  scopes : place'.scopes.map Scope.declared = place.scopes.map fun scope => scope.declared.map ρ
  isUse : place'.isUse = place.isUse
  isDefault : place'.site.kind.isDefault = place.site.kind.isDefault

/-- The same layer in renamed code, as far as its scope goes. -/
def Layer.Renamed (ρ : String → String) (layer' layer : Layer) : Prop :=
  layer'.scope?.map Scope.declared = layer.scope?.map fun scope => scope.declared.map ρ

theorem Layer.renamed_function (ρ : String → String) (span : Span) (own : Option Ident)
    (params : List Pat) (body : List Stmt) (part : Part) :
    Layer.Renamed ρ
      (.function span (own.map (·.rename ρ)) (renamePats ρ params) (renameStmts ρ body) part)
      (.function span own params body part) :=
  congrArg some (declared_rename_ofFunction ρ span own params body)

theorem Layer.renamed_arrow (ρ : String → String) (span : Span) (params : List Pat)
    (body : List Stmt) (part : Part) :
    Layer.Renamed ρ (.arrow span (renamePats ρ params) (renameStmts ρ body) part)
      (.arrow span params body part) :=
  congrArg some (declared_rename_ofFunction ρ span none params body)

theorem Layer.renamed_arrowExpr (ρ : String → String) (span : Span) (params : List Pat) :
    Layer.Renamed ρ (.arrowExpr span (renamePats ρ params)) (.arrowExpr span params) :=
  congrArg some (patNames_renamePats ρ params)

theorem Layer.renamed_handler (ρ : String → String) (span : Span) (param : Option Pat) :
    Layer.Renamed ρ (.handler span (renameOptPat ρ param)) (.handler span param) :=
  congrArg some (names_renameOptPat ρ param)

namespace Around.Renamed

variable {ρ : String → String} {around' around : Around} {layer' layer : Layer}

theorem place (h : Around.Renamed ρ around' around) (id : Ident) (site : Site) :
    Place.Renamed ρ (around'.place (id.rename ρ) site) (around.place id site) :=
  ⟨rfl, h.scopes, rfl, rfl⟩

theorem patternPlace (h : Around.Renamed ρ around' around) (id : Ident) :
    Place.Renamed ρ (around'.patternPlace (id.rename ρ)) (around.patternPlace id) := by
  unfold Around.patternPlace
  rw [h.inTarget]
  exact ⟨rfl, h.scopes, rfl, rfl⟩

theorem enter (h : Around.Renamed ρ around' around) (hlayer : Layer.Renamed ρ layer' layer) :
    Around.Renamed ρ (around'.enter layer') (around.enter layer) := by
  refine ⟨?_, h.inTarget⟩
  have hscopes := h.scopes
  unfold Layer.Renamed at hlayer
  unfold Around.scopes Around.enter at *
  cases hs : layer.scope? with
  | none =>
    rw [hs, Option.map_none, Option.map_eq_none_iff] at hlayer
    rwa [List.filterMap_cons_none hs, List.filterMap_cons_none hlayer]
  | some scope =>
    rw [hs, Option.map_some, Option.map_eq_some_iff] at hlayer
    obtain ⟨scope', hs', hdeclared⟩ := hlayer
    rw [List.filterMap_cons_some hs, List.filterMap_cons_some hs', List.map_cons, List.map_cons,
      hdeclared, hscopes]

theorem block (h : Around.Renamed ρ around' around) (body' body : List Stmt) :
    Around.Renamed ρ (around'.enter (.block body')) (around.enter (.block body)) :=
  h.enter rfl

theorem switch (h : Around.Renamed ρ around' around) (cases' cases : List Case) :
    Around.Renamed ρ (around'.enter (.switch cases')) (around.enter (.switch cases)) :=
  h.enter rfl

theorem staticBlock (h : Around.Renamed ρ around' around) (body' body : List Stmt) :
    Around.Renamed ρ (around'.enter (.staticBlock body')) (around.enter (.staticBlock body)) :=
  h.enter rfl

theorem targeting (h : Around.Renamed ρ around' around) (inTarget : Bool) :
    Around.Renamed ρ (around'.targeting inTarget) (around.targeting inTarget) :=
  ⟨h.scopes, rfl⟩

theorem enterFunction (h : Around.Renamed ρ around' around)
    (hlayer : Layer.Renamed ρ layer' layer) :
    Around.Renamed ρ (around'.enterFunction layer') (around.enterFunction layer) :=
  (h.enter hlayer).targeting false

theorem enterLoop (h : Around.Renamed ρ around' around) {layers' layers : List Layer}
    (hlayers' : layers'.filterMap Layer.scope? = [])
    (hlayers : layers.filterMap Layer.scope? = []) :
    Around.Renamed ρ (around'.enterLoop layers') (around.enterLoop layers) := by
  refine ⟨?_, h.inTarget⟩
  rw [Around.scopes_enterLoop _ hlayers', Around.scopes_enterLoop _ hlayers]
  exact h.scopes

end Around.Renamed

-- ---------------------------------------------------------------------------
-- Rewrites of renamed code
-- ---------------------------------------------------------------------------

/-- At a place of renamed code the one rewrite puts what the other one puts at the original place,
and no renamed identifier is left alone. -/
def Fits (ρ : String → String) (replace' replace : Replacing) (place : Place) : Prop :=
  ∀ place', Place.Renamed ρ place' place →
    replace' place' = replace place ∧ (replace place = .keep → ρ place.id.name = place.id.name)

/-- Two rewrites fit everywhere in some code, and no property of a pattern has a renamed name. -/
structure Suits (ρ : String → String) (replace' replace : Replacing) (steps : List Step)
    (mentions : List Mention) : Prop where
  fits : ∀ place, .ident place ∈ steps → Fits ρ replace' replace place
  shorthand : ∀ place, .shorthand place ∈ mentions → ρ place.id.name = place.id.name

/-- Renamed code has places that correspond to those of the code, and turns into the same. -/
structure Tracks {α : Type} (ρ : String → String) (replace' replace : Replacing)
    (steps' steps : List Step) (mentions : List Mention) (result' result : α) : Prop where
  places : List.Forall₂ (Place.Renamed ρ) (steps'.filterMap Step.place?)
    (steps.filterMap Step.place?)
  result : Suits ρ replace' replace steps mentions → result' = result

namespace Suits

variable {ρ : String → String} {replace' replace : Replacing} {steps rest : List Step}
  {mentions others : List Mention}

theorem subset (h : Suits ρ replace' replace steps mentions) (hsteps : rest ⊆ steps)
    (hmentions : others ⊆ mentions) : Suits ρ replace' replace rest others :=
  ⟨fun place hplace => h.fits place (hsteps hplace),
    fun place hplace => h.shorthand place (hmentions hplace)⟩

theorem left (h : Suits ρ replace' replace (steps ++ rest) (mentions ++ others)) :
    Suits ρ replace' replace steps mentions :=
  h.subset (List.subset_append_left _ _) (List.subset_append_left _ _)

theorem right (h : Suits ρ replace' replace (steps ++ rest) (mentions ++ others)) :
    Suits ρ replace' replace rest others :=
  h.subset (List.subset_append_right _ _) (List.subset_append_right _ _)

end Suits

namespace Tracks

variable {α β γ δ : Type} {ρ : String → String} {replace' replace : Replacing}
  {steps' steps : List Step} {mentions : List Mention}

theorem leaf (result : α) : Tracks ρ replace' replace [] [] mentions result result :=
  ⟨.nil, fun _ => rfl⟩

theorem map (g : α → β) {a' a : α} (h : Tracks ρ replace' replace steps' steps mentions a' a) :
    Tracks ρ replace' replace steps' steps mentions (g a') (g a) :=
  ⟨h.places, fun hs => congrArg g (h.result hs)⟩

theorem seq {rest' rest : List Step} {others : List Mention} {g' g : α → β} {a' a : α}
    (hg : Tracks ρ replace' replace steps' steps mentions g' g)
    (ha : Tracks ρ replace' replace rest' rest others a' a) :
    Tracks ρ replace' replace (steps' ++ rest') (steps ++ rest) (mentions ++ others) (g' a')
      (g a) := by
  refine ⟨?_, fun hs => ?_⟩
  · rw [List.filterMap_append, List.filterMap_append]
    exact List.rel_append hg.places ha.places
  · rw [hg.result hs.left, ha.result hs.right]

theorem within {scope' scope : Scope} {a' a : α}
    (h : Tracks ρ replace' replace steps' steps mentions a' a) :
    Tracks ρ replace' replace (stepsWithin scope' steps') (stepsWithin scope steps) mentions a'
      a := by
  refine ⟨?_, fun hs => h.result (hs.subset (subset_stepsWithin scope steps) (List.Subset.refl _))⟩
  simpa [stepsWithin, List.filterMap_cons, Step.place?] using h.places

theorem mono {others : List Mention} {a' a : α}
    (h : Tracks ρ replace' replace steps' steps mentions a' a) (hmentions : mentions ⊆ others) :
    Tracks ρ replace' replace steps' steps others a' a :=
  ⟨h.places, fun hs => h.result (hs.subset (List.Subset.refl _) hmentions)⟩

-- ---------------------------------------------------------------------------
-- Identifiers
-- ---------------------------------------------------------------------------

theorem replaced {place' place : Place} (h : Place.Renamed ρ place' place)
    (hs : Suits ρ replace' replace [.ident place] mentions) :
    replace' place' = replace place ∧ (replace place = .keep → place'.id = place.id) := by
  obtain ⟨hreplace, hkeep⟩ := hs.fits place (List.mem_singleton.2 rfl) place' h
  refine ⟨hreplace, fun hk => ?_⟩
  rw [h.id]
  exact Ident.rename_eq_self (hkeep hk)

theorem atPlace {place' place : Place} (h : Place.Renamed ρ place' place) {a' a : α}
    (ha : replace' place' = replace place → (replace place = .keep → place'.id = place.id) →
      a' = a) :
    Tracks ρ replace' replace [.ident place'] [.ident place] mentions a' a :=
  ⟨.cons h .nil, fun hs => ha (replaced h hs).1 (replaced h hs).2⟩

theorem ident {place' place : Place} (h : Place.Renamed ρ place' place) :
    Tracks ρ replace' replace [.ident place'] [.ident place] [] (rewriteIdent replace' place')
      (rewriteIdent replace place) := by
  refine atPlace h fun hreplace hkeep => ?_
  rw [rewriteIdent, rewriteIdent, hreplace]
  cases hr : replace place with
  | keep => exact hkeep hr
  | reserved word | imported name =>
    rw [h.id]
    rfl

end Tracks

theorem renameExpr_eq_num {ρ : String → String} {e : Expr} {span : Span} {raw : String} :
    renameExpr ρ e = .lit span (.num raw) ↔ e = .lit span (.num raw) := by
  cases e <;> simp [renameExpr]

theorem constant?_renameExpr (ρ : String → String) (span : Span) (op : UnaryOp) (arg : Expr) :
    constant? span op (renameExpr ρ arg) = constant? span op arg :=
  constant?_congr span op fun _ _ => renameExpr_eq_num

theorem defaultObject?_rename (ρ : String → String) (object : Expr) (key : Key) :
    defaultObject? (renameExpr ρ object) (renameKey ρ key) =
      (defaultObject? object key).map (·.rename ρ) := by
  cases object with
  | ident id =>
    cases key with
    | named name =>
      simp only [renameExpr, renameKey, defaultObject?]
      split <;> rfl
    | _ => rfl
  | _ => rfl

theorem tracks_constant {ρ : String → String} {replace' replace : Replacing}
    (around' around : Around) {span : Span} {op : UnaryOp} {arg value : Expr}
    (hc : constant? span op arg = some value) :
    Tracks ρ replace' replace (stepsConstant around' value) (stepsConstant around value) []
      value value := by
  obtain ⟨_, _, -, rfl | ⟨b, rfl⟩⟩ := constant?_eq_some hc
  · exact ⟨.nil, fun _ => rfl⟩
  · exact .leaf _

section

variable {ρ : String → String} {replace' replace : Replacing} {around' around : Around}
  (h : Around.Renamed ρ around' around)

include h

theorem tracks_default (span : Span) (id : Ident) (mentions : List Mention) :
    Tracks ρ replace' replace [.ident (around'.place (id.rename ρ) (.defaultObject span))]
      [.ident (around.place id (.defaultObject span))] mentions
      (rewriteDefault span (id.rename ρ)
        (replace' (around'.place (id.rename ρ) (.defaultObject span))))
      (rewriteDefault span id (replace (around.place id (.defaultObject span)))) := by
  refine .atPlace (h.place id _) fun hreplace hkeep => ?_
  rw [hreplace]
  cases hr : replace (around.place id (.defaultObject span)) with
  | keep =>
    have hid : id.rename ρ = id := hkeep hr
    rw [hid]
  | reserved word | imported name => rfl

theorem tracks_shorthand (id : Ident) (mentions : List Mention) :
    Tracks ρ replace' replace (stepsProperty around' (renameProperty ρ (.shorthand id)))
      (stepsProperty around (.shorthand id)) mentions
      (rewriteProperty replace' around' (renameProperty ρ (.shorthand id)))
      (rewriteProperty replace around (.shorthand id)) := by
  rw [renameProperty]
  split
  · rename_i hid
    have hplace := h.place id .shorthand
    rw [Ident.rename_eq_self hid] at hplace
    refine .atPlace hplace fun hreplace _ => ?_
    rw [rewriteProperty, rewriteProperty, hreplace]
  · -- The property is spelled out, so its value is a plain reference.
    rename_i hid
    have hplace : Place.Renamed ρ (around'.place (id.rename ρ) .reference)
        (around.place id .shorthand) := ⟨rfl, h.scopes, rfl, rfl⟩
    refine .atPlace hplace fun hreplace hkeep => ?_
    cases hr : replace (around.place id .shorthand) with
    | keep => exact absurd (congrArg Ident.name (hkeep hr)) hid
    | reserved name | imported name =>
      rw [hr] at hreplace
      simp only [Ident.spelledOut, rewriteProperty, rewriteKey, rewriteExpr, rewriteIdent, hr,
        rewriteShorthand]
      exact congrArg
        (fun r : Replacement =>
          Property.keyValue (.named id.name) (.ident (r.rename (id.rename ρ)))) hreplace

/-- A property of a pattern that has the name of its variable, without a default. -/
theorem tracks_patShorthand (id : Ident) :
    Tracks ρ replace' replace
      (stepsPatProperty around' (renamePatProperty ρ (.shorthand id none)))
      (stepsPatProperty around (.shorthand id none))
      (mentionsPatProperty around (.shorthand id none))
      (rewritePatProperty replace' around' (renamePatProperty ρ (.shorthand id none)))
      (rewritePatProperty replace around (.shorthand id none)) := by
  rw [renamePatProperty]
  have hident : Tracks ρ replace' replace _ _ _ _ _ := .ident (h.patternPlace id)
  split
  · rename_i hid
    rw [Ident.rename_eq_self hid] at hident
    exact (hident.map fun id => PatProperty.shorthand id none).mono (List.nil_subset _)
  · rename_i hid
    refine ⟨hident.places, fun hs => ?_⟩
    exact absurd (hs.shorthand (around.patternPlace id) (List.mem_singleton.2 rfl)) hid

/-- A property of a pattern that has the name of its variable, with a default. -/
theorem tracks_patShorthand_default (id : Ident) {default : Expr}
    (hdefault : Tracks ρ replace' replace (stepsExpr around' (renameExpr ρ default))
      (stepsExpr around default) (mentionsExpr around default)
      (rewriteExpr replace' around' (renameExpr ρ default)) (rewriteExpr replace around default)) :
    Tracks ρ replace' replace
      (stepsPatProperty around' (renamePatProperty ρ (.shorthand id (some default))))
      (stepsPatProperty around (.shorthand id (some default)))
      (mentionsPatProperty around (.shorthand id (some default)))
      (rewritePatProperty replace' around' (renamePatProperty ρ (.shorthand id (some default))))
      (rewritePatProperty replace around (.shorthand id (some default))) := by
  rw [renamePatProperty]
  have hboth := ((Tracks.ident (h.patternPlace id)).map
    fun id default => PatProperty.shorthand id (some default)).seq hdefault
  split
  · rename_i hid
    rw [Ident.rename_eq_self hid] at hboth
    exact hboth.mono (List.subset_cons_self _ _)
  · rename_i hid
    refine ⟨hboth.places, fun hs => ?_⟩
    exact absurd (hs.shorthand (around.patternPlace id) List.mem_cons_self) hid

theorem tracks_name (name : Option Ident) :
    Tracks ρ replace' replace (stepsName around' (name.map (·.rename ρ))) (stepsName around name) []
      (rewriteName replace' around' (name.map (·.rename ρ))) (rewriteName replace around name) := by
  cases name with
  | none => exact .leaf none
  | some id => exact (Tracks.ident (h.place id .declaration)).map some

end

-- ---------------------------------------------------------------------------
-- All code
-- ---------------------------------------------------------------------------

section

variable {ρ : String → String} {replace' replace : Replacing}

mutual

theorem tracks_expr {around' around : Around} (h : Around.Renamed ρ around' around)
    (e : Expr) :
    Tracks ρ replace' replace (stepsExpr around' (renameExpr ρ e)) (stepsExpr around e)
      (mentionsExpr around e) (rewriteExpr replace' around' (renameExpr ρ e))
      (rewriteExpr replace around e) := by
  cases e with
  | ident id => exact (Tracks.ident (h.place id .reference)).map Expr.ident
  | lit span value => exact .leaf _
  | word span word => exact .leaf _
  | privateName span name => exact .leaf _
  | hole => exact .leaf _
  | array span elems => exact (tracks_exprs h elems).map (Expr.array span)
  | spread span arg => exact (tracks_expr h arg).map (Expr.spread span)
  | object span props => exact (tracks_properties h props).map (Expr.object span)
  | fn name f => exact (tracks_function h name f).map fun r => Expr.fn r.1 r.2
  | arrow span isAsync params body =>
    have hparams := h.enterFunction (Layer.renamed_arrow ρ span params body .params)
    have hbody := h.enterFunction (Layer.renamed_arrow ρ span params body .body)
    exact (((tracks_pats hparams params).map (Expr.arrow span isAsync)).seq
      (tracks_stmts hbody body)).within
  | arrowExpr span isAsync params body =>
    have hin := h.enterFunction (Layer.renamed_arrowExpr ρ span params)
    exact (((tracks_pats hin params).map (Expr.arrowExpr span isAsync)).seq
      (tracks_expr hin body)).within
  | cls name cls =>
    cases name with
    | none => exact (tracks_class h cls).map (Expr.cls none)
    | some name =>
      have hin : Around.Renamed ρ (around'.enter (.namedClass (name.rename ρ) (renameClass ρ cls)))
          (around.enter (.namedClass name cls)) := h.enter rfl
      exact (((Tracks.ident (hin.place name .declaration)).map
        fun name => Expr.cls (some name)).seq (tracks_class hin cls)).within
  | template span quasis exprs => exact (tracks_exprs h exprs).map (Expr.template span quasis)
  | tagged span tag quasis exprs =>
    exact ((tracks_expr h tag).map fun tag => Expr.tagged span tag quasis).seq
      (tracks_exprs h exprs)
  | unary span op arg =>
    cases hc : constant? span op arg with
    | some value =>
      simp only [renameExpr, stepsExpr, mentionsExpr, rewriteExpr, constant?_renameExpr, hc]
      exact tracks_constant around' around hc
    | none =>
      simp only [renameExpr, stepsExpr, mentionsExpr, rewriteExpr, constant?_renameExpr, hc]
      exact (tracks_expr h arg).map (Expr.unary span op)
  | update span op before arg => exact (tracks_expr h arg).map (Expr.update span op before)
  | binary span op left right =>
    exact ((tracks_expr h left).map (Expr.binary span op)).seq (tracks_expr h right)
  | assign span op target value =>
    exact ((tracks_target (h.targeting true) target).map (Expr.assign span op)).seq
      (tracks_expr h value)
  | cond span test cons alt =>
    exact (((tracks_expr h test).map (Expr.cond span)).seq (tracks_expr h cons)).seq
      (tracks_expr h alt)
  | seq span exprs => exact (tracks_exprs h exprs).map (Expr.seq span)
  | yield span delegate arg => exact (tracks_optExpr h arg).map (Expr.yield span delegate)
  | await span arg => exact (tracks_expr h arg).map (Expr.await span)
  | call span callee args =>
    exact ((tracks_expr h callee).map (Expr.call span)).seq (tracks_exprs h args)
  | newCall span callee args =>
    exact ((tracks_expr h callee).map (Expr.newCall span)).seq (tracks_exprs h args)
  | newBare span callee => exact (tracks_expr h callee).map (Expr.newBare span)
  | member span object key =>
    cases hd : defaultObject? object key with
    | some id =>
      obtain ⟨rfl, rfl⟩ := defaultObject?_eq_some hd
      exact tracks_default h span id _
    | none =>
      simp only [renameExpr, stepsExpr, mentionsExpr, rewriteExpr, defaultObject?_rename, hd,
        Option.map_none]
      exact ((tracks_expr h object).map (Expr.member span)).seq (tracks_key h .access key)
  | optMember span optional object key =>
    exact ((tracks_expr h object).map (Expr.optMember span optional)).seq (tracks_key h .access key)
  | optCall span optional callee args =>
    exact ((tracks_expr h callee).map (Expr.optCall span optional)).seq (tracks_exprs h args)
  | paren span inner => exact (tracks_expr h inner).map (Expr.paren span)

theorem tracks_exprs {around' around : Around} (h : Around.Renamed ρ around' around)
    (es : List Expr) :
    Tracks ρ replace' replace (stepsExprs around' (renameExprs ρ es)) (stepsExprs around es)
      (mentionsExprs around es) (rewriteExprs replace' around' (renameExprs ρ es))
      (rewriteExprs replace around es) := by
  cases es with
  | nil => exact .leaf _
  | cons e rest => exact ((tracks_expr h e).map List.cons).seq (tracks_exprs h rest)

theorem tracks_optExpr {around' around : Around} (h : Around.Renamed ρ around' around)
    (e : Option Expr) :
    Tracks ρ replace' replace (stepsOptExpr around' (renameOptExpr ρ e)) (stepsOptExpr around e)
      (mentionsOptExpr around e) (rewriteOptExpr replace' around' (renameOptExpr ρ e))
      (rewriteOptExpr replace around e) := by
  cases e with
  | none => exact .leaf _
  | some e => exact (tracks_expr h e).map some

theorem tracks_key {around' around : Around} (h : Around.Renamed ρ around' around) (role : Role)
    (key : Key) :
    Tracks ρ replace' replace (stepsKey around' (renameKey ρ key)) (stepsKey around key)
      (mentionsKey around role key) (rewriteKey replace' around' (renameKey ρ key))
      (rewriteKey replace around key) := by
  cases key with
  | computed e => exact ((tracks_expr h e).map Key.computed).mono (List.subset_cons_self _ _)
  | _ => exact .leaf _

theorem tracks_property {around' around : Around} (h : Around.Renamed ρ around' around)
    (p : Property) :
    Tracks ρ replace' replace (stepsProperty around' (renameProperty ρ p)) (stepsProperty around p)
      (mentionsProperty around p) (rewriteProperty replace' around' (renameProperty ρ p))
      (rewriteProperty replace around p) := by
  cases p with
  | shorthand id => exact tracks_shorthand h id _
  | keyValue key value =>
    exact ((tracks_key h .literal key).map Property.keyValue).seq (tracks_expr h value)
  | initialized id value =>
    exact ((tracks_expr h value).map (Property.initialized id)).mono (List.subset_cons_self _ _)
  | getter span key body =>
    have hkey := h.enter (Layer.renamed_function ρ span none [] body .key)
    have hbody := h.enter (Layer.renamed_function ρ span none [] body .body)
    exact (((tracks_key hkey .literal key).map (Property.getter span)).seq
      (tracks_stmts hbody body)).within
  | setter span key param body =>
    have hkey := h.enter (Layer.renamed_function ρ span none [param] body .key)
    have hparam := h.enter (Layer.renamed_function ρ span none [param] body .params)
    have hbody := h.enter (Layer.renamed_function ρ span none [param] body .body)
    exact ((((tracks_key hkey .literal key).map (Property.setter span)).seq
      (tracks_pat hparam param)).seq (tracks_stmts hbody body)).within
  | method key f =>
    exact ((tracks_key h .literal key).map fun key r => Property.method key r.2).seq
      (tracks_function h none f)
  | spread span arg => exact (tracks_expr h arg).map (Property.spread span)

theorem tracks_properties {around' around : Around} (h : Around.Renamed ρ around' around)
    (ps : List Property) :
    Tracks ρ replace' replace (stepsProperties around' (renameProperties ρ ps))
      (stepsProperties around ps) (mentionsProperties around ps)
      (rewriteProperties replace' around' (renameProperties ρ ps))
      (rewriteProperties replace around ps) := by
  cases ps with
  | nil => exact .leaf _
  | cons p rest => exact ((tracks_property h p).map List.cons).seq (tracks_properties h rest)

theorem tracks_pat {around' around : Around} (h : Around.Renamed ρ around' around)
    (p : Pat) :
    Tracks ρ replace' replace (stepsPat around' (renamePat ρ p)) (stepsPat around p)
      (mentionsPat around p) (rewritePat replace' around' (renamePat ρ p))
      (rewritePat replace around p) := by
  cases p with
  | ident id => exact (Tracks.ident (h.patternPlace id)).map Pat.ident
  | array span elems => exact (tracks_pats h elems).map (Pat.array span)
  | hole => exact .leaf _
  | object span props => exact (tracks_patProperties h props).map (Pat.object span)
  | rest span arg => exact (tracks_pat h arg).map (Pat.rest span)
  | default span left right =>
    exact ((tracks_pat h left).map (Pat.default span)).seq (tracks_expr h right)
  | expr e => exact (tracks_expr h e).map Pat.expr

theorem tracks_pats {around' around : Around} (h : Around.Renamed ρ around' around)
    (ps : List Pat) :
    Tracks ρ replace' replace (stepsPats around' (renamePats ρ ps)) (stepsPats around ps)
      (mentionsPats around ps) (rewritePats replace' around' (renamePats ρ ps))
      (rewritePats replace around ps) := by
  cases ps with
  | nil => exact .leaf _
  | cons p rest => exact ((tracks_pat h p).map List.cons).seq (tracks_pats h rest)

theorem tracks_target {around' around : Around} (h : Around.Renamed ρ around' around)
    (p : Pat) :
    Tracks ρ replace' replace (stepsTarget around' (renamePat ρ p)) (stepsTarget around p)
      (mentionsTarget around p) (rewriteTarget replace' around' (renamePat ρ p))
      (rewriteTarget replace around p) := by
  cases p with
  | expr e =>
    cases e with
    | member span object key =>
      exact ((tracks_expr h object).map fun object key => Pat.expr (.member span object key)).seq
        (tracks_key h .access key)
    | _ => exact (tracks_expr h _).map Pat.expr
  | ident id => exact (Tracks.ident (h.patternPlace id)).map Pat.ident
  | array span elems => exact (tracks_pats h elems).map (Pat.array span)
  | hole => exact .leaf _
  | object span props => exact (tracks_patProperties h props).map (Pat.object span)
  | rest span arg => exact (tracks_pat h arg).map (Pat.rest span)
  | default span left right =>
    exact ((tracks_pat h left).map (Pat.default span)).seq (tracks_expr h right)

theorem tracks_patProperty {around' around : Around} (h : Around.Renamed ρ around' around)
    (p : PatProperty) :
    Tracks ρ replace' replace (stepsPatProperty around' (renamePatProperty ρ p))
      (stepsPatProperty around p) (mentionsPatProperty around p)
      (rewritePatProperty replace' around' (renamePatProperty ρ p))
      (rewritePatProperty replace around p) := by
  cases p with
  | keyValue key value =>
    exact ((tracks_key h .pattern key).map PatProperty.keyValue).seq (tracks_pat h value)
  | shorthand id default =>
    cases default with
    | none => exact tracks_patShorthand h id
    | some default => exact tracks_patShorthand_default h id (tracks_expr h default)
  | rest span arg => exact (tracks_pat h arg).map (PatProperty.rest span)

theorem tracks_patProperties {around' around : Around} (h : Around.Renamed ρ around' around)
    (ps : List PatProperty) :
    Tracks ρ replace' replace (stepsPatProperties around' (renamePatProperties ρ ps))
      (stepsPatProperties around ps) (mentionsPatProperties around ps)
      (rewritePatProperties replace' around' (renamePatProperties ρ ps))
      (rewritePatProperties replace around ps) := by
  cases ps with
  | nil => exact .leaf _
  | cons p rest => exact ((tracks_patProperty h p).map List.cons).seq (tracks_patProperties h rest)

theorem tracks_function {around' around : Around} (h : Around.Renamed ρ around' around)
    (name : Option Ident) (f : Function) :
    Tracks ρ replace' replace (stepsFunction around' (name.map (·.rename ρ)) (renameFunction ρ f))
      (stepsFunction around name f) (mentionsFunction around name f)
      (rewriteName replace'
        (around'.enterFunction (.function (renameFunction ρ f).span (name.map (·.rename ρ))
          (renameFunction ρ f).params (renameFunction ρ f).body .params))
        (name.map (·.rename ρ)),
        rewriteFunction replace' around' (name.map (·.rename ρ)) (renameFunction ρ f))
      (rewriteName replace (around.enterFunction (.function f.span name f.params f.body .params))
        name, rewriteFunction replace around name f) := by
  cases f with
  | mk span isAsync isGenerator params body =>
    have hparams := h.enterFunction (Layer.renamed_function ρ span name params body .params)
    have hbody := h.enterFunction (Layer.renamed_function ρ span name params body .body)
    exact ((((tracks_name hparams name).map fun name params body =>
      (name, Function.mk span isAsync isGenerator params body)).seq
        (tracks_pats hparams params)).seq (tracks_stmts hbody body)).within

theorem tracks_class {around' around : Around} (h : Around.Renamed ρ around' around)
    (cls : Script.Class) :
    Tracks ρ replace' replace (stepsClass around' (renameClass ρ cls)) (stepsClass around cls)
      (mentionsClass around cls) (rewriteClass replace' around' (renameClass ρ cls))
      (rewriteClass replace around cls) := by
  cases cls with
  | mk span superClass members =>
    exact ((tracks_members h members).map
      fun members superClass => Script.Class.mk span superClass members).seq
        (tracks_optExpr h superClass)

theorem tracks_member {around' around : Around} (h : Around.Renamed ρ around' around)
    (m : ClassMember) :
    Tracks ρ replace' replace (stepsMember around' (renameMember ρ m)) (stepsMember around m)
      (mentionsMember around m) (rewriteMember replace' around' (renameMember ρ m))
      (rewriteMember replace around m) := by
  cases m with
  | ctor span params body =>
    have hparams := h.enter (Layer.renamed_function ρ span none params body .params)
    have hbody := h.enter (Layer.renamed_function ρ span none params body .body)
    exact (((tracks_pats hparams params).map (ClassMember.ctor span)).seq
      (tracks_stmts hbody body)).within
  | method isStatic kind key f =>
    exact ((tracks_key h .classMember key).map
      fun key r => ClassMember.method isStatic kind key r.2).seq (tracks_function h none f)
  | field isStatic key value =>
    exact ((tracks_key h .classMember key).map (ClassMember.field isStatic)).seq
      (tracks_optExpr h value)
  | staticBlock body => exact (tracks_stmts (h.staticBlock _ _) body).map ClassMember.staticBlock
  | empty => exact .leaf _

theorem tracks_members {around' around : Around} (h : Around.Renamed ρ around' around)
    (ms : List ClassMember) :
    Tracks ρ replace' replace (stepsMembers around' (renameMembers ρ ms)) (stepsMembers around ms)
      (mentionsMembers around ms) (rewriteMembers replace' around' (renameMembers ρ ms))
      (rewriteMembers replace around ms) := by
  cases ms with
  | nil => exact .leaf _
  | cons m rest => exact ((tracks_member h m).map List.cons).seq (tracks_members h rest)

theorem tracks_stmt {around' around : Around} (h : Around.Renamed ρ around' around)
    (s : Stmt) :
    Tracks ρ replace' replace (stepsStmt around' (renameStmt ρ s)) (stepsStmt around s)
      (mentionsStmt around s) (rewriteStmt replace' around' (renameStmt ρ s))
      (rewriteStmt replace around s) := by
  cases s with
  | expr e => exact (tracks_expr h e).map Stmt.expr
  | block body => exact (tracks_stmts (h.block _ _) body).map Stmt.block
  | empty => exact .leaf _
  | debugger => exact .leaf _
  | breakStmt label => exact .leaf _
  | continueStmt label => exact .leaf _
  | withStmt object body =>
    exact ((tracks_expr h object).map Stmt.withStmt).seq (tracks_stmt h body)
  | returnStmt arg => exact (tracks_optExpr h arg).map Stmt.returnStmt
  | labeled label body => exact (tracks_stmt h body).map (Stmt.labeled label)
  | ifStmt test cons alt =>
    exact (((tracks_expr h test).map Stmt.ifStmt).seq (tracks_stmt (h.block _ _) cons)).seq
      (tracks_optStmt h alt)
  | switch discriminant cases =>
    exact ((tracks_expr h discriminant).map Stmt.switch).seq (tracks_cases (h.switch _ _) cases)
  | throwStmt arg => exact (tracks_expr h arg).map Stmt.throwStmt
  | tryStmt block handler finalizer =>
    exact (((tracks_stmts (h.block _ _) block).map Stmt.tryStmt).seq (tracks_handler h handler)).seq
      (tracks_finalizer h finalizer)
  | whileLoop test body => exact ((tracks_expr h test).map Stmt.whileLoop).seq (tracks_stmt h body)
  | doWhile test body => exact ((tracks_expr h test).map Stmt.doWhile).seq (tracks_stmt h body)
  | forLoop init test update body =>
    have hin := h.enterLoop (Layer.filterMap_scope?_ofForInit (renameForInit ρ init))
      (Layer.filterMap_scope?_ofForInit init)
    exact ((((tracks_forInit hin init).map Stmt.forLoop).seq (tracks_optExpr hin test)).seq
      (tracks_optExpr hin update)).seq (tracks_stmt hin body)
  | forIn left right body =>
    have hin := h.enterLoop (Layer.filterMap_scope?_ofForHead (renameForHead ρ left))
      (Layer.filterMap_scope?_ofForHead left)
    exact (((tracks_forHead hin left).map Stmt.forIn).seq (tracks_expr hin right)).seq
      (tracks_stmt hin body)
  | forOf isAwait left right body =>
    have hin := h.enterLoop (Layer.filterMap_scope?_ofForHead (renameForHead ρ left))
      (Layer.filterMap_scope?_ofForHead left)
    exact (((tracks_forHead hin left).map (Stmt.forOf isAwait)).seq (tracks_expr hin right)).seq
      (tracks_stmt hin body)
  | varDecl kind decls => exact (tracks_declarators h decls).map (Stmt.varDecl kind)
  | fnDecl name f =>
    exact ((Tracks.ident (h.place name .declaration)).map fun name r => Stmt.fnDecl name r.2).seq
      (tracks_function h none f)
  | classDecl name cls =>
    exact ((Tracks.ident (h.place name .declaration)).map Stmt.classDecl).seq (tracks_class h cls)

theorem tracks_stmts {around' around : Around} (h : Around.Renamed ρ around' around)
    (body : List Stmt) :
    Tracks ρ replace' replace (stepsStmts around' (renameStmts ρ body)) (stepsStmts around body)
      (mentionsStmts around body) (rewriteStmts replace' around' (renameStmts ρ body))
      (rewriteStmts replace around body) := by
  cases body with
  | nil => exact .leaf _
  | cons s rest => exact ((tracks_stmt h s).map List.cons).seq (tracks_stmts h rest)

theorem tracks_optStmt {around' around : Around} (h : Around.Renamed ρ around' around)
    (s : Option Stmt) :
    Tracks ρ replace' replace (stepsOptStmt around' (renameOptStmt ρ s)) (stepsOptStmt around s)
      (mentionsOptStmt around s) (rewriteOptStmt replace' around' (renameOptStmt ρ s))
      (rewriteOptStmt replace around s) := by
  cases s with
  | none => exact .leaf _
  | some s => exact (tracks_stmt (h.block _ _) s).map some

theorem tracks_cases {around' around : Around} (h : Around.Renamed ρ around' around)
    (cases : List Case) :
    Tracks ρ replace' replace (stepsCases around' (renameCases ρ cases)) (stepsCases around cases)
      (mentionsCases around cases) (rewriteCases replace' around' (renameCases ρ cases))
      (rewriteCases replace around cases) := by
  cases cases with
  | nil => exact .leaf _
  | cons c rest =>
    cases c with
    | mk test body =>
      exact (((tracks_optExpr h test).map fun test body rest => Case.mk test body :: rest).seq
        (tracks_stmts h body)).seq (tracks_cases h rest)

theorem tracks_handler {around' around : Around} (h : Around.Renamed ρ around' around)
    (handler : Option Catch) :
    Tracks ρ replace' replace (stepsHandler around' (renameHandler ρ handler))
      (stepsHandler around handler) (mentionsHandler around handler)
      (rewriteHandler replace' around' (renameHandler ρ handler))
      (rewriteHandler replace around handler) := by
  cases handler with
  | none => exact .leaf _
  | some c =>
    cases c with
    | mk span param body =>
      have hin := h.enter (Layer.renamed_handler ρ span param)
      exact (((tracks_optPat hin param).map fun param body => some (Catch.mk span param body)).seq
        (tracks_stmts (hin.block _ _) body)).within

theorem tracks_optPat {around' around : Around} (h : Around.Renamed ρ around' around)
    (p : Option Pat) :
    Tracks ρ replace' replace (stepsOptPat around' (renameOptPat ρ p)) (stepsOptPat around p)
      (mentionsOptPat around p) (rewriteOptPat replace' around' (renameOptPat ρ p))
      (rewriteOptPat replace around p) := by
  cases p with
  | none => exact .leaf _
  | some p => exact (tracks_pat h p).map some

theorem tracks_finalizer {around' around : Around} (h : Around.Renamed ρ around' around)
    (finalizer : Option (List Stmt)) :
    Tracks ρ replace' replace (stepsFinalizer around' (renameFinalizer ρ finalizer))
      (stepsFinalizer around finalizer) (mentionsFinalizer around finalizer)
      (rewriteFinalizer replace' around' (renameFinalizer ρ finalizer))
      (rewriteFinalizer replace around finalizer) := by
  cases finalizer with
  | none => exact .leaf _
  | some body => exact (tracks_stmts (h.block _ _) body).map some

theorem tracks_declarators {around' around : Around} (h : Around.Renamed ρ around' around)
    (decls : List Declarator) :
    Tracks ρ replace' replace (stepsDeclarators around' (renameDeclarators ρ decls))
      (stepsDeclarators around decls) (mentionsDeclarators around decls)
      (rewriteDeclarators replace' around' (renameDeclarators ρ decls))
      (rewriteDeclarators replace around decls) := by
  cases decls with
  | nil => exact .leaf _
  | cons d rest =>
    cases d with
    | mk name init =>
      exact (((tracks_pat h name).map fun name init rest => Declarator.mk name init :: rest).seq
        (tracks_optExpr h init)).seq (tracks_declarators h rest)

theorem tracks_forInit {around' around : Around} (h : Around.Renamed ρ around' around)
    (init : ForInit) :
    Tracks ρ replace' replace (stepsForInit around' (renameForInit ρ init))
      (stepsForInit around init) (mentionsForInit around init)
      (rewriteForInit replace' around' (renameForInit ρ init))
      (rewriteForInit replace around init) := by
  cases init with
  | empty => exact .leaf _
  | var kind decls => exact (tracks_declarators h decls).map (ForInit.var kind)
  | expr e => exact (tracks_expr h e).map ForInit.expr

theorem tracks_forHead {around' around : Around} (h : Around.Renamed ρ around' around)
    (head : ForHead) :
    Tracks ρ replace' replace (stepsForHead around' (renameForHead ρ head))
      (stepsForHead around head) (mentionsForHead around head)
      (rewriteForHead replace' around' (renameForHead ρ head))
      (rewriteForHead replace around head) := by
  cases head with
  | var kind decls => exact (tracks_declarators (h.targeting false) decls).map (ForHead.var kind)
  | pat p => exact (tracks_pat (h.targeting true) p).map ForHead.pat

end

end

end Engine
end Unbundle

-- SUMMARY: What the language declares around a place, and which scope of the walk accounts for it.
import Unbundle.Proofs.Findings

/-!
# Lexical scope

The language gives more code a scope of its own than the walk does: blocks, loops, `switch`
statements and static blocks have scopes too, and the parameters of a function do not see what its
body declares. `Layer.names` lists the names that a layer declares for a place inside of it, and
`Place.denotesParam` says that the name at a place is declared by no layer: there it stands for the
factory's parameter.

A function in a block is declared in that block alone, as in strict code.

The walk goes by what is written in a function, no matter where (`Layer.written`). So there are two
ways in which it differs from the language. A function around a place may declare the name elsewhere
(`Place.isHidden`). And the name may be declared around the place where no function is, in terms of
its `Owner`, so that the walk knows nothing of it (`Place.isMissed`).
-/

namespace Unbundle

namespace Script

-- ---------------------------------------------------------------------------
-- Names
-- ---------------------------------------------------------------------------

/-- The names that `var` declares in the head of a loop. -/
def ForInit.varNames : ForInit → List String
  | .var .var decls => decls.flatMap Declarator.names
  | .var _ _ | .empty | .expr _ => []

def ForHead.varNames : ForHead → List String
  | .var .var decls => decls.flatMap Declarator.names
  | .var _ _ | .pat _ => []

mutual

/-- The names that `var` declares in a statement, in nested blocks and loops too. -/
def Stmt.varNames : Stmt → List String
  | .block body => stmtsVarNames body
  | .withStmt _ body | .labeled _ body | .whileLoop _ body | .doWhile _ body => body.varNames
  | .ifStmt _ cons none => cons.varNames
  | .ifStmt _ cons (some alt) => cons.varNames ++ alt.varNames
  | .switch _ cases => casesVarNames cases
  | .tryStmt block handler finalizer =>
    stmtsVarNames block ++ handlerVarNames handler ++ finalizerVarNames finalizer
  | .forLoop init _ _ body => init.varNames ++ body.varNames
  | .forIn left _ body | .forOf _ left _ body => left.varNames ++ body.varNames
  | .varDecl .var decls => decls.flatMap Declarator.names
  | .varDecl _ _ | .fnDecl .. | .classDecl .. | .expr _ | .empty | .debugger | .returnStmt _
  | .breakStmt _ | .continueStmt _ | .throwStmt _ => []

def stmtsVarNames : List Stmt → List String
  | [] => []
  | s :: rest => s.varNames ++ stmtsVarNames rest

def casesVarNames : List Case → List String
  | [] => []
  | .mk _ body :: rest => stmtsVarNames body ++ casesVarNames rest

def handlerVarNames : Option Catch → List String
  | none => []
  | some (.mk _ _ body) => stmtsVarNames body

def finalizerVarNames : Option (List Stmt) → List String
  | none => []
  | some body => stmtsVarNames body

end

/-- The names that a statement declares for the block it stands in, except for functions. -/
def Stmt.letNames : Stmt → List String
  | .varDecl .letKind decls | .varDecl .const decls => decls.flatMap Declarator.names
  | .classDecl name _ => [name.name]
  | _ => []

/-- The function that a statement declares, possibly with labels before it. -/
def Stmt.functionNames : Stmt → List String
  | .fnDecl name _ => [name.name]
  | .labeled _ body => body.functionNames
  | _ => []

/-- The names that belong to a list of statements itself. -/
def lexicalNames (body : List Stmt) : List String :=
  body.flatMap fun s => s.letNames ++ s.functionNames

/-- The names that belong to the cases of a `switch`. -/
def caseNames (cases : List Case) : List String :=
  cases.flatMap fun | .mk _ body => lexicalNames body

/-- The names that `let` and `const` declare in the head of a loop. -/
def ForInit.letNames : ForInit → List String
  | .var .letKind decls | .var .const decls => decls.flatMap Declarator.names
  | .var .var _ | .empty | .expr _ => []

def ForHead.letNames : ForHead → List String
  | .var .letKind decls | .var .const decls => decls.flatMap Declarator.names
  | .var .var _ | .pat _ => []

mutual

/-- The names that belong to blocks, loops and `switch` statements in a statement. -/
def Stmt.blockNames : Stmt → List String
  | .block body => lexicalNames body ++ stmtsBlockNames body
  | .labeled _ body => body.letNames ++ body.blockNames
  | .withStmt _ body | .whileLoop _ body | .doWhile _ body => lexicalNames [body] ++ body.blockNames
  | .ifStmt _ cons none => lexicalNames [cons] ++ cons.blockNames
  | .ifStmt _ cons (some alt) =>
    lexicalNames [cons] ++ cons.blockNames ++ (lexicalNames [alt] ++ alt.blockNames)
  | .switch _ cases => caseNames cases ++ casesBlockNames cases
  | .tryStmt block handler finalizer =>
    lexicalNames block ++ stmtsBlockNames block ++ handlerBlockNames handler ++
      finalizerBlockNames finalizer
  | .forLoop init _ _ body => init.letNames ++ (lexicalNames [body] ++ body.blockNames)
  | .forIn left _ body | .forOf _ left _ body =>
    left.letNames ++ (lexicalNames [body] ++ body.blockNames)
  | .varDecl .. | .fnDecl .. | .classDecl .. | .expr _ | .empty | .debugger | .returnStmt _
  | .breakStmt _ | .continueStmt _ | .throwStmt _ => []

def stmtsBlockNames : List Stmt → List String
  | [] => []
  | s :: rest => s.blockNames ++ stmtsBlockNames rest

def casesBlockNames : List Case → List String
  | [] => []
  | .mk _ body :: rest => stmtsBlockNames body ++ casesBlockNames rest

def handlerBlockNames : Option Catch → List String
  | none => []
  | some (.mk _ _ body) => lexicalNames body ++ stmtsBlockNames body

def finalizerBlockNames : Option (List Stmt) → List String
  | none => []
  | some body => lexicalNames body ++ stmtsBlockNames body

end

/-- All names that are written as declarations in the body of a function, in blocks too. -/
def bodyNames (body : List Stmt) : List String :=
  stmtsVarNames body ++ lexicalNames body ++ stmtsBlockNames body

-- ---------------------------------------------------------------------------
-- What is declared in a function
-- ---------------------------------------------------------------------------

theorem mem_lexicalNames_cons {name : String} {s : Stmt} {rest : List Stmt} :
    name ∈ lexicalNames (s :: rest) ↔
      name ∈ s.letNames ∨ name ∈ s.functionNames ∨ name ∈ lexicalNames rest := by
  simp [lexicalNames]

theorem mem_lexicalNames_singleton {name : String} {s : Stmt} :
    name ∈ lexicalNames [s] ↔ name ∈ s.letNames ∨ name ∈ s.functionNames := by
  simp [lexicalNames]

theorem mem_caseNames_cons {name : String} {test : Option Expr} {body : List Stmt}
    {rest : List Case} :
    name ∈ caseNames (.mk test body :: rest) ↔ name ∈ lexicalNames body ∨ name ∈ caseNames rest := by
  simp [caseNames]

theorem ForInit.mem_names_iff {name : String} (init : ForInit) :
    name ∈ init.names ↔ name ∈ init.varNames ∨ name ∈ init.letNames := by
  cases init with
  | var kind decls => cases kind <;> simp [names, varNames, letNames]
  | empty | expr e => simp [names, varNames, letNames]

theorem ForHead.mem_names_iff {name : String} (head : ForHead) :
    name ∈ head.names ↔ name ∈ head.varNames ∨ name ∈ head.letNames := by
  cases head with
  | var kind decls => cases kind <;> simp [names, varNames, letNames]
  | pat p => simp [names, varNames, letNames]

section

variable {name : String}

mutual

/-- A function has the names that `var` declares in it, those that belong to its body, and those that
belong to blocks in it. -/
theorem Stmt.mem_declared_iff (s : Stmt) :
    name ∈ s.declared ↔
      name ∈ s.varNames ∨ name ∈ s.letNames ∨ name ∈ s.functionNames ∨ name ∈ s.blockNames := by
  cases s with
  | block body =>
    have hbody := mem_stmtsDeclared_iff body
    simp only [Stmt.declared, Stmt.varNames, Stmt.letNames, Stmt.functionNames, Stmt.blockNames,
      List.mem_append, hbody]
    simp
  | labeled label body =>
    have hbody := Stmt.mem_declared_iff body
    simp only [Stmt.declared, Stmt.varNames, Stmt.letNames, Stmt.functionNames, Stmt.blockNames,
      List.mem_append, hbody]
    grind
  | withStmt _ body | whileLoop _ body | doWhile _ body =>
    have hbody := Stmt.mem_declared_iff body
    simp only [Stmt.declared, Stmt.varNames, Stmt.letNames, Stmt.functionNames, Stmt.blockNames,
      List.mem_append, mem_lexicalNames_singleton, hbody]
    grind
  | ifStmt test cons alt =>
    have hcons := Stmt.mem_declared_iff cons
    cases alt with
    | none =>
      simp only [Stmt.declared, Stmt.varNames, Stmt.letNames, Stmt.functionNames, Stmt.blockNames,
      List.mem_append,   mem_lexicalNames_singleton, hcons]
      grind
    | some alt =>
      have halt := Stmt.mem_declared_iff alt
      simp only [Stmt.declared, Stmt.varNames, Stmt.letNames, Stmt.functionNames, Stmt.blockNames,
      List.mem_append,   mem_lexicalNames_singleton, hcons, halt]
      grind
  | switch discriminant cases =>
    have hcases := mem_casesDeclared_iff cases
    simp only [Stmt.declared, Stmt.varNames, Stmt.letNames, Stmt.functionNames, Stmt.blockNames,
      List.mem_append, hcases]
    simp
  | tryStmt block handler finalizer =>
    have hblock := mem_stmtsDeclared_iff block
    have hhandler := mem_handlerDeclared_iff handler
    have hfinalizer := mem_finalizerDeclared_iff finalizer
    simp only [Stmt.declared, Stmt.varNames, Stmt.letNames, Stmt.functionNames, Stmt.blockNames,
      List.mem_append, hblock,
      hhandler, hfinalizer]
    grind
  | forLoop init test update body =>
    have hbody := Stmt.mem_declared_iff body
    simp only [Stmt.declared, Stmt.varNames, Stmt.letNames, Stmt.functionNames, Stmt.blockNames,
      List.mem_append, mem_lexicalNames_singleton, init.mem_names_iff, hbody]
    grind
  | forIn left _ body | forOf _ left _ body =>
    have hbody := Stmt.mem_declared_iff body
    simp only [Stmt.declared, Stmt.varNames, Stmt.letNames, Stmt.functionNames, Stmt.blockNames,
      List.mem_append, mem_lexicalNames_singleton, left.mem_names_iff, hbody]
    grind
  | varDecl kind decls =>
    cases kind <;>
      simp [Stmt.declared, Stmt.varNames, Stmt.letNames, Stmt.functionNames, Stmt.blockNames]
  | _ => simp [Stmt.declared, Stmt.varNames, Stmt.letNames, Stmt.functionNames, Stmt.blockNames]

theorem mem_stmtsDeclared_iff (body : List Stmt) :
    name ∈ stmtsDeclared body ↔
      name ∈ stmtsVarNames body ∨ name ∈ lexicalNames body ∨ name ∈ stmtsBlockNames body := by
  cases body with
  | nil => simp [stmtsDeclared, stmtsVarNames, lexicalNames, stmtsBlockNames]
  | cons s rest =>
    have hs := Stmt.mem_declared_iff s
    have hrest := mem_stmtsDeclared_iff rest
    simp only [stmtsDeclared, stmtsVarNames, stmtsBlockNames, List.mem_append,
      mem_lexicalNames_cons, hs, hrest]
    grind

theorem mem_casesDeclared_iff (cases : List Case) :
    name ∈ casesDeclared cases ↔
      name ∈ casesVarNames cases ∨ name ∈ caseNames cases ∨ name ∈ casesBlockNames cases := by
  cases cases with
  | nil => simp [casesDeclared, casesVarNames, caseNames, casesBlockNames]
  | cons c rest =>
    cases c with
    | mk test body =>
      have hbody := mem_stmtsDeclared_iff body
      have hrest := mem_casesDeclared_iff rest
      simp only [casesDeclared, casesVarNames, casesBlockNames, List.mem_append,
        mem_caseNames_cons, hbody, hrest]
      grind

theorem mem_handlerDeclared_iff (handler : Option Catch) :
    name ∈ handlerDeclared handler ↔
      name ∈ handlerVarNames handler ∨ name ∈ handlerBlockNames handler := by
  cases handler with
  | none => simp [handlerDeclared, handlerVarNames, handlerBlockNames]
  | some c =>
    cases c with
    | mk span param body =>
      have hbody := mem_stmtsDeclared_iff body
      simp only [handlerDeclared, handlerVarNames, handlerBlockNames, List.mem_append, hbody]

theorem mem_finalizerDeclared_iff (finalizer : Option (List Stmt)) :
    name ∈ finalizerDeclared finalizer ↔
      name ∈ finalizerVarNames finalizer ∨ name ∈ finalizerBlockNames finalizer := by
  cases finalizer with
  | none => simp [finalizerDeclared, finalizerVarNames, finalizerBlockNames]
  | some body =>
    have hbody := mem_stmtsDeclared_iff body
    simp only [finalizerDeclared, finalizerVarNames, finalizerBlockNames, List.mem_append, hbody]

end

theorem mem_stmtsDeclared_iff_bodyNames {body : List Stmt} :
    name ∈ stmtsDeclared body ↔ name ∈ bodyNames body := by
  rw [mem_stmtsDeclared_iff, bodyNames, List.mem_append, List.mem_append, or_assoc]

end

theorem lexicalNames_subset (body : List Stmt) : lexicalNames body ⊆ stmtsDeclared body :=
  fun _ h => (mem_stmtsDeclared_iff body).2 (.inr (.inl h))

/-- What the body of a function declares is declared in the function. -/
theorem varNames_append_lexicalNames_subset (body : List Stmt) :
    stmtsVarNames body ++ lexicalNames body ⊆ stmtsDeclared body := by
  intro name hname
  rw [mem_stmtsDeclared_iff_bodyNames]
  exact List.mem_append_left _ hname

theorem lexicalNames_singleton_subset (s : Stmt) : lexicalNames [s] ⊆ s.declared := by
  have h := lexicalNames_subset [s]
  rwa [stmtsDeclared, stmtsDeclared, List.append_nil] at h

theorem caseNames_subset (cases : List Case) : caseNames cases ⊆ casesDeclared cases :=
  fun _ h => (mem_casesDeclared_iff cases).2 (.inr (.inl h))

end Script
namespace Engine

open Script

-- ---------------------------------------------------------------------------
-- Layers
-- ---------------------------------------------------------------------------

namespace Layer

/-- The names that a layer declares for a place inside of it. -/
def names : Layer → List String
  -- A variable or a function with the name of a parameter is that parameter.
  | .factory body => body.flatMap Stmt.letNames
  | .function _ _ _ _ .key => []
  | .function _ own params _ .params =>
    (own.map (·.name)).toList ++ patNames params ++ ["arguments"]
  | .function _ own params body .body =>
    (own.map (·.name)).toList ++ patNames params ++ ["arguments"] ++
      (stmtsVarNames body ++ lexicalNames body)
  | .arrow _ params body .body => patNames params ++ (stmtsVarNames body ++ lexicalNames body)
  | .arrow _ params _ _ | .arrowExpr _ params => patNames params
  | .namedClass name _ => [name.name]
  | .handler _ param => (param.map Pat.names).getD []
  | .block body => lexicalNames body
  | .loop names => names
  | .switch cases => caseNames cases
  | .staticBlock body => stmtsVarNames body ++ lexicalNames body

/-- The names that are written as declarations in a function, anywhere in its head and its body but
not in functions inside of it, or in the head of a catch clause or class. -/
def written : Layer → List String
  | .function _ own params body _ => (own.map (·.name)).toList ++ patNames params ++ bodyNames body
  | .arrow _ params body _ => patNames params ++ bodyNames body
  | .arrowExpr _ params => patNames params
  | .namedClass name _ => [name.name]
  | .handler _ param => (param.map Pat.names).getD []
  | .factory _ | .block _ | .loop _ | .switch _ | .staticBlock _ => []

end Layer

/-- The code that a statement belongs to. -/
inductive Owner where
  | factory
  | function (scope : Scope)
  | staticBlock
deriving DecidableEq

namespace Owner

/-- The owner of what stands inside of these layers. -/
def of : List Layer → Owner
  | [] | .factory _ :: _ => .factory
  | .function span own params body _ :: _ => .function (.ofFunction span own params body)
  | .arrow span params body _ :: _ => .function (.ofFunction span none params body)
  | .arrowExpr span params :: _ => .function (.ofArrowExpr span params)
  | .staticBlock _ :: _ => .staticBlock
  | .namedClass .. :: outer | .handler .. :: outer | .block _ :: outer | .loop _ :: outer
  | .switch _ :: outer => of outer

/-- What is declared in a block belongs to a function. -/
def isFunction : Owner → Bool
  | .function _ => true
  | .factory | .staticBlock => false

/-- One of the layers is code of this owner that is no scope to the walk, and declares the name. -/
def blockDeclares (owner : Owner) (name : String) : List Layer → Bool
  | [] => false
  | layer :: outer =>
    (layer.scope?.isNone && layer.names.contains name && of (layer :: outer) == owner) ||
      owner.blockDeclares name outer

end Owner

/-- If a layer inside of these ones declares the name, it does so where no function is, namely in a
static block or in a block of the factory's own code. Or it is a function whose `arguments` are not
declared as anything else. -/
def Layer.escapes (name : String) (outer : List Layer) (layer : Layer) : Bool :=
  match layer with
  | .function .. => !layer.written.contains name
  | .arrow .. | .arrowExpr .. | .namedClass .. | .handler .. => false
  | .factory _ | .block _ | .loop _ | .switch _ | .staticBlock _ =>
    !(Owner.of (layer :: outer)).isFunction

/-- All layers that declare the name do so where no function is. -/
def Layer.allEscape (name : String) : List Layer → Bool
  | [] => true
  | layer :: outer =>
    (!layer.names.contains name || layer.escapes name outer) && allEscape name outer

namespace Place

end Place
end Engine
end Unbundle

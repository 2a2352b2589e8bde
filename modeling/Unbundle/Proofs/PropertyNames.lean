-- SUMMARY: The property names in rewritten code, and which of them a rewrite changes.
import Unbundle.Proofs.Emission

/-!
# Property names

Retains of properties are no identifiers: the walk does not meet them, and a module should have the
property names of its factory. `mentionsStmts` lists the property names of some code, in object
literals, patterns, accesses and classes, in the order in which they stand there.

A property `x` of an object literal is spelled out when its value is replaced, so its name stays. A
property `x` of an assigned pattern is not: there the replaced variable and the name of the property
are one identifier, and the module assigns another property of the object (`renamingSample`). These
are the only names that change, and the only ones that vanish are those of accesses `x.default` that
give way to the import of a default (`property_names_kept`).
-/

namespace Unbundle.Engine

open Script

/-- What a property name is mentioned for. -/
inductive Role where
  | literal
  | pattern
  | access
  | classMember
deriving DecidableEq, Repr, Inhabited

/-- How the name of a property is written. -/
inductive Spelling where
  | named (name : String)
  | str (raw : String)
  | num (raw : String)
  | privateName (name : String)
  | computed
deriving DecidableEq, Repr, Inhabited

structure PropertyName where
  role : Role
  spelling : Spelling
deriving DecidableEq, Repr, Inhabited

/-- A property name in the code of a factory. -/
inductive Mention where
  | fixed (name : PropertyName)
  /-- The `default` of an access `x.default`; the place is that of `x`. -/
  | default (place : Place)
  /-- A property of a pattern that has the name of its variable. -/
  | shorthand (place : Place)

def Replacement.isImported : Replacement → Bool
  | .imported _ => true
  | .keep | .reserved _ => false

namespace Mention

/-- The name as it stands in the factory. -/
def name : Mention → PropertyName
  | .fixed name => name
  | .default _ => ⟨.access, .named "default"⟩
  | .shorthand place => ⟨.pattern, .named place.id.name⟩

/-- The access gives way to the import of a default. -/
def collapses (replace : Replacing) : Mention → Bool
  | .default place => (replace place).isImported
  | .fixed _ | .shorthand _ => false

/-- The name after a rewrite: in a pattern it changes with the variable. -/
def renamed (replace : Replacing) : Mention → PropertyName
  | .shorthand place => ⟨.pattern, .named (rewriteIdent replace place).name⟩
  | mention => mention.name

end Mention

mutual

def mentionsExpr (around : Around) : Expr → List Mention
  | .ident _ | .lit .. | .word .. | .privateName .. | .hole => []
  | .array _ elems => mentionsExprs around elems
  | .spread _ arg => mentionsExpr around arg
  | .object _ props => mentionsProperties around props
  | .fn name f => mentionsFunction around name f
  | .arrow span _ params body =>
    mentionsPats (around.enterFunction (.arrow span params body .params)) params ++
      mentionsStmts (around.enterFunction (.arrow span params body .body)) body
  | .arrowExpr span _ params body =>
    mentionsPats (around.enterFunction (.arrowExpr span params)) params ++
      mentionsExpr (around.enterFunction (.arrowExpr span params)) body
  | .cls none cls => mentionsClass around cls
  | .cls (some name) cls => mentionsClass (around.enter (.namedClass name cls)) cls
  | .template _ _ exprs => mentionsExprs around exprs
  | .tagged _ tag _ exprs => mentionsExpr around tag ++ mentionsExprs around exprs
  | .unary span op arg =>
    match constant? span op arg with
    | some _ => []
    | none => mentionsExpr around arg
  | .update _ _ _ arg => mentionsExpr around arg
  | .binary _ _ left right => mentionsExpr around left ++ mentionsExpr around right
  | .assign _ _ target value =>
    mentionsTarget (around.targeting true) target ++ mentionsExpr around value
  | .cond _ test cons alt =>
    mentionsExpr around test ++ mentionsExpr around cons ++ mentionsExpr around alt
  | .seq _ exprs => mentionsExprs around exprs
  | .yield _ _ arg => mentionsOptExpr around arg
  | .await _ arg => mentionsExpr around arg
  | .call _ callee args => mentionsExpr around callee ++ mentionsExprs around args
  | .newCall _ callee args => mentionsExpr around callee ++ mentionsExprs around args
  | .newBare _ callee => mentionsExpr around callee
  | .member span object key =>
    match defaultObject? object key with
    | some id => [.default (around.place id (.defaultObject span))]
    | none => mentionsExpr around object ++ mentionsKey around .access key
  | .optMember _ _ object key => mentionsExpr around object ++ mentionsKey around .access key
  | .optCall _ _ callee args => mentionsExpr around callee ++ mentionsExprs around args
  | .paren _ inner => mentionsExpr around inner

def mentionsExprs (around : Around) : List Expr → List Mention
  | [] => []
  | e :: rest => mentionsExpr around e ++ mentionsExprs around rest

def mentionsOptExpr (around : Around) : Option Expr → List Mention
  | none => []
  | some e => mentionsExpr around e

def mentionsKey (around : Around) (role : Role) : Key → List Mention
  | .computed e => .fixed ⟨role, .computed⟩ :: mentionsExpr around e
  | .named name => [.fixed ⟨role, .named name⟩]
  | .str raw => [.fixed ⟨role, .str raw⟩]
  | .num raw => [.fixed ⟨role, .num raw⟩]
  | .privateName name => [.fixed ⟨role, .privateName name⟩]

def mentionsProperty (around : Around) : Property → List Mention
  | .shorthand id => [.fixed ⟨.literal, .named id.name⟩]
  | .keyValue key value => mentionsKey around .literal key ++ mentionsExpr around value
  | .initialized id value => .fixed ⟨.literal, .named id.name⟩ :: mentionsExpr around value
  | .getter span key body =>
    mentionsKey (around.enter (.function span none [] body .key)) .literal key ++
      mentionsStmts (around.enter (.function span none [] body .body)) body
  | .setter span key param body =>
    mentionsKey (around.enter (.function span none [param] body .key)) .literal key ++
      mentionsPat (around.enter (.function span none [param] body .params)) param ++
      mentionsStmts (around.enter (.function span none [param] body .body)) body
  | .method key f => mentionsKey around .literal key ++ mentionsFunction around none f
  | .spread _ arg => mentionsExpr around arg

def mentionsProperties (around : Around) : List Property → List Mention
  | [] => []
  | p :: rest => mentionsProperty around p ++ mentionsProperties around rest

def mentionsPat (around : Around) : Pat → List Mention
  | .ident _ => []
  | .array _ elems => mentionsPats around elems
  | .hole => []
  | .object _ props => mentionsPatProperties around props
  | .rest _ arg => mentionsPat around arg
  | .default _ left right => mentionsPat around left ++ mentionsExpr around right
  | .expr e => mentionsExpr around e

def mentionsPats (around : Around) : List Pat → List Mention
  | [] => []
  | p :: rest => mentionsPat around p ++ mentionsPats around rest

/-- A property that is assigned to stays a property. -/
def mentionsTarget (around : Around) : Pat → List Mention
  | .expr (.member _ object key) => mentionsExpr around object ++ mentionsKey around .access key
  | .expr e => mentionsExpr around e
  | .ident _ => []
  | .array _ elems => mentionsPats around elems
  | .hole => []
  | .object _ props => mentionsPatProperties around props
  | .rest _ arg => mentionsPat around arg
  | .default _ left right => mentionsPat around left ++ mentionsExpr around right

def mentionsPatProperty (around : Around) : PatProperty → List Mention
  | .keyValue key value => mentionsKey around .pattern key ++ mentionsPat around value
  | .shorthand id default =>
    .shorthand (around.patternPlace id) :: mentionsOptExpr around default
  | .rest _ arg => mentionsPat around arg

def mentionsPatProperties (around : Around) : List PatProperty → List Mention
  | [] => []
  | p :: rest => mentionsPatProperty around p ++ mentionsPatProperties around rest

def mentionsFunction (around : Around) (name : Option Ident) : Function → List Mention
  | .mk span _ _ params body =>
    mentionsPats (around.enterFunction (.function span name params body .params)) params ++
      mentionsStmts (around.enterFunction (.function span name params body .body)) body

def mentionsClass (around : Around) : Script.Class → List Mention
  | .mk _ superClass members => mentionsMembers around members ++ mentionsOptExpr around superClass

def mentionsMember (around : Around) : ClassMember → List Mention
  | .ctor span params body =>
    mentionsPats (around.enter (.function span none params body .params)) params ++
      mentionsStmts (around.enter (.function span none params body .body)) body
  | .method _ _ key f => mentionsKey around .classMember key ++ mentionsFunction around none f
  | .field _ key value => mentionsKey around .classMember key ++ mentionsOptExpr around value
  | .staticBlock body => mentionsStmts (around.enter (.staticBlock body)) body
  | .empty => []

def mentionsMembers (around : Around) : List ClassMember → List Mention
  | [] => []
  | m :: rest => mentionsMember around m ++ mentionsMembers around rest

def mentionsStmt (around : Around) : Stmt → List Mention
  | .expr e => mentionsExpr around e
  | .block body => mentionsStmts (around.enter (.block body)) body
  | .empty | .debugger | .breakStmt _ | .continueStmt _ => []
  | .withStmt object body => mentionsExpr around object ++ mentionsStmt around body
  | .returnStmt arg => mentionsOptExpr around arg
  | .labeled _ body => mentionsStmt around body
  | .ifStmt test cons alt =>
    mentionsExpr around test ++ mentionsStmt (around.enter (.block [cons])) cons ++
      mentionsOptStmt around alt
  | .switch discriminant cases =>
    mentionsExpr around discriminant ++ mentionsCases (around.enter (.switch cases)) cases
  | .throwStmt arg => mentionsExpr around arg
  | .tryStmt block handler finalizer =>
    mentionsStmts (around.enter (.block block)) block ++ mentionsHandler around handler ++
      mentionsFinalizer around finalizer
  | .whileLoop test body => mentionsExpr around test ++ mentionsStmt around body
  | .doWhile test body => mentionsExpr around test ++ mentionsStmt around body
  | .forLoop init test update body =>
    mentionsForInit (around.enterLoop (Layer.ofForInit init)) init ++
      mentionsOptExpr (around.enterLoop (Layer.ofForInit init)) test ++
      mentionsOptExpr (around.enterLoop (Layer.ofForInit init)) update ++
      mentionsStmt (around.enterLoop (Layer.ofForInit init)) body
  | .forIn left right body =>
    mentionsForHead (around.enterLoop (Layer.ofForHead left)) left ++
      mentionsExpr (around.enterLoop (Layer.ofForHead left)) right ++
      mentionsStmt (around.enterLoop (Layer.ofForHead left)) body
  | .forOf _ left right body =>
    mentionsForHead (around.enterLoop (Layer.ofForHead left)) left ++
      mentionsExpr (around.enterLoop (Layer.ofForHead left)) right ++
      mentionsStmt (around.enterLoop (Layer.ofForHead left)) body
  | .varDecl _ decls => mentionsDeclarators around decls
  | .fnDecl _ f => mentionsFunction around none f
  | .classDecl _ cls => mentionsClass around cls

def mentionsStmts (around : Around) : List Stmt → List Mention
  | [] => []
  | s :: rest => mentionsStmt around s ++ mentionsStmts around rest

def mentionsOptStmt (around : Around) : Option Stmt → List Mention
  | none => []
  | some s => mentionsStmt (around.enter (.block [s])) s

def mentionsCases (around : Around) : List Case → List Mention
  | [] => []
  | .mk test body :: rest =>
    mentionsOptExpr around test ++ mentionsStmts around body ++ mentionsCases around rest

def mentionsHandler (around : Around) : Option Catch → List Mention
  | none => []
  | some (.mk span param body) =>
    mentionsOptPat (around.enter (.handler span param)) param ++
      mentionsStmts ((around.enter (.handler span param)).enter (.block body)) body

def mentionsOptPat (around : Around) : Option Pat → List Mention
  | none => []
  | some p => mentionsPat around p

def mentionsFinalizer (around : Around) : Option (List Stmt) → List Mention
  | none => []
  | some body => mentionsStmts (around.enter (.block body)) body

def mentionsDeclarators (around : Around) : List Declarator → List Mention
  | [] => []
  | .mk name init :: rest =>
    mentionsPat around name ++ mentionsOptExpr around init ++ mentionsDeclarators around rest

def mentionsForInit (around : Around) : ForInit → List Mention
  | .empty => []
  | .var _ decls => mentionsDeclarators around decls
  | .expr e => mentionsExpr around e

def mentionsForHead (around : Around) : ForHead → List Mention
  | .var _ decls => mentionsDeclarators (around.targeting false) decls
  | .pat pat => mentionsPat (around.targeting true) pat

end

/-- The property names of the statements of a factory or of a module, in order. -/
def propertyNames (body : List Stmt) : List PropertyName :=
  (mentionsStmts ⟨[.factory body], false, true⟩ body).map Mention.name

-- ---------------------------------------------------------------------------
-- Rewritten code
-- ---------------------------------------------------------------------------

/-- The names in one piece of code are those that a rewrite leaves of the other one. -/
def Retains (replace : Replacing) (mentions' mentions : List Mention) : Prop :=
  mentions'.map Mention.name =
    (mentions.filter fun mention => !mention.collapses replace).map (Mention.renamed replace)

namespace Retains

variable {replace : Replacing} {mention mention' : Mention}
  {mentions mentions' rest rest' : List Mention}

theorem nil : Retains replace [] [] := rfl

theorem append (h : Retains replace mentions' mentions) (hrest : Retains replace rest' rest) :
    Retains replace (mentions' ++ rest') (mentions ++ rest) := by
  unfold Retains at *
  rw [List.map_append, List.filter_append, List.map_append, h, hrest]

theorem cons (hkept : mention.collapses replace = false)
    (hname : mention'.name = mention.renamed replace) (h : Retains replace mentions' mentions) :
    Retains replace (mention' :: mentions') (mention :: mentions) := by
  unfold Retains at *
  rw [List.map_cons, List.filter_cons_of_pos (by rw [hkept]; rfl), List.map_cons, hname, h]

end Retains

/-- An access to `default` mentions the same names as any other access. -/
theorem names_member (around : Around) (span : Span) (object : Expr) (key : Key) :
    (mentionsExpr around (.member span object key)).map Mention.name =
      (mentionsExpr around object ++ mentionsKey around .access key).map Mention.name := by
  simp only [mentionsExpr]
  cases hd : defaultObject? object key with
  | none => rfl
  | some id =>
    obtain ⟨rfl, rfl⟩ := defaultObject?_eq_some hd
    rfl

/-- A target that is an expression mentions the names of that expression. -/
theorem names_target (around : Around) (e : Expr) :
    (mentionsTarget around (.expr e)).map Mention.name =
      (mentionsExpr around e).map Mention.name := by
  cases e with
  | member span object key => exact (names_member around span object key).symm
  | _ => rfl

theorem retains_constant {replace : Replacing} {around : Around} {span : Span} {op : UnaryOp}
    {arg value : Expr} (h : constant? span op arg = some value) :
    Retains replace (mentionsExpr around value) [] := by
  obtain ⟨_, _, -, rfl | ⟨b, rfl⟩⟩ := constant?_eq_some h
  · exact .nil
  · exact .nil

theorem retains_rewriteDefault (replace : Replacing) (around around' : Around) (span : Span)
    (id : Ident) :
    Retains replace
      (mentionsExpr around'
        (rewriteDefault span id (replace (around.place id (.defaultObject span)))))
      [.default (around.place id (.defaultObject span))] := by
  cases hr : replace (around.place id (.defaultObject span)) with
  | keep | reserved word =>
    rw [Retains, rewriteDefault, names_member]
    simp [Mention.collapses, hr, Replacement.isImported, mentionsExpr, mentionsKey, Mention.name,
      Mention.renamed]
  | imported name =>
    simp [Retains, rewriteDefault, Mention.collapses, hr, Replacement.isImported, mentionsExpr]

theorem retains_rewriteShorthand (replace : Replacing) (around around' : Around) (id : Ident) :
    Retains replace
      (mentionsProperty around' (rewriteShorthand id (replace (around.place id .shorthand))))
      [.fixed ⟨.literal, .named id.name⟩] := by
  cases hr : replace (around.place id .shorthand) with
  | keep | reserved name | imported name => rfl

section

variable (replace : Replacing)

mutual

theorem retains_mentionsExpr {layers layers' : List Layer} {inTarget : Bool} (e : Expr) :
    Retains replace (mentionsExpr ⟨layers', inTarget, entered⟩
      (rewriteExpr replace ⟨layers, inTarget, entered⟩ e))
      (mentionsExpr ⟨layers, inTarget, entered⟩ e) := by
  cases e with
  | ident id => exact .nil
  | lit span value => exact .nil
  | word span word => exact .nil
  | privateName span name => exact .nil
  | hole => exact .nil
  | array span elems => exact retains_mentionsExprs elems
  | spread span arg => exact retains_mentionsExpr arg
  | object span props => exact retains_mentionsProperties props
  | fn name f => exact retains_mentionsFunction name _ f
  | arrow span isAsync params body =>
    exact (retains_mentionsPats params).append (retains_mentionsStmts body)
  | arrowExpr span isAsync params body =>
    exact (retains_mentionsPats params).append (retains_mentionsExpr body)
  | cls name cls =>
    cases name with
    | none => exact retains_mentionsClass cls
    | some name => exact retains_mentionsClass cls
  | template span quasis exprs => exact retains_mentionsExprs exprs
  | tagged span tag quasis exprs =>
    exact (retains_mentionsExpr tag).append (retains_mentionsExprs exprs)
  | unary span op arg =>
    cases hc : constant? span op arg with
    | some value =>
      simp only [rewriteExpr, mentionsExpr, hc]
      exact retains_constant hc
    | none =>
      simp only [rewriteExpr, mentionsExpr, hc, constant?_rewriteExpr]
      exact retains_mentionsExpr arg
  | update span op before arg => exact retains_mentionsExpr arg
  | binary span op left right =>
    exact (retains_mentionsExpr left).append (retains_mentionsExpr right)
  | assign span op target value =>
    exact (retains_mentionsTarget target).append (retains_mentionsExpr value)
  | cond span test cons alt =>
    exact ((retains_mentionsExpr test).append (retains_mentionsExpr cons)).append
      (retains_mentionsExpr alt)
  | seq span exprs => exact retains_mentionsExprs exprs
  | yield span delegate arg => exact retains_mentionsOptExpr arg
  | await span arg => exact retains_mentionsExpr arg
  | call span callee args => exact (retains_mentionsExpr callee).append (retains_mentionsExprs args)
  | newCall span callee args =>
    exact (retains_mentionsExpr callee).append (retains_mentionsExprs args)
  | newBare span callee => exact retains_mentionsExpr callee
  | member span object key =>
    cases hd : defaultObject? object key with
    | some id =>
      simp only [rewriteExpr, mentionsExpr, hd]
      exact retains_rewriteDefault replace ⟨layers, inTarget, entered⟩
        ⟨layers', inTarget, entered⟩ span id
    | none =>
      -- The access may become one to `default`, on `undefined`.
      have hmentions : mentionsExpr ⟨layers, inTarget, entered⟩ (.member span object key) =
          mentionsExpr ⟨layers, inTarget, entered⟩ object ++
            mentionsKey ⟨layers, inTarget, entered⟩ .access key := by
        simp only [mentionsExpr, hd]
      rw [Retains, hmentions, rewriteExpr, hd, names_member]
      exact (retains_mentionsExpr object).append (retains_mentionsKey .access key)
  | optMember span optional object key =>
    exact (retains_mentionsExpr object).append (retains_mentionsKey .access key)
  | optCall span optional callee args =>
    exact (retains_mentionsExpr callee).append (retains_mentionsExprs args)
  | paren span inner => exact retains_mentionsExpr inner

theorem retains_mentionsExprs {layers layers' : List Layer} {inTarget : Bool} (es : List Expr) :
    Retains replace (mentionsExprs ⟨layers', inTarget, entered⟩
      (rewriteExprs replace ⟨layers, inTarget, entered⟩ es))
      (mentionsExprs ⟨layers, inTarget, entered⟩ es) := by
  cases es with
  | nil => exact .nil
  | cons e rest => exact (retains_mentionsExpr e).append (retains_mentionsExprs rest)

theorem retains_mentionsOptExpr {layers layers' : List Layer} {inTarget : Bool} (e : Option Expr) :
    Retains replace
      (mentionsOptExpr ⟨layers', inTarget, entered⟩
        (rewriteOptExpr replace ⟨layers, inTarget, entered⟩ e))
      (mentionsOptExpr ⟨layers, inTarget, entered⟩ e) := by
  cases e with
  | none => exact .nil
  | some e => exact retains_mentionsExpr e

theorem retains_mentionsKey {layers layers' : List Layer} {inTarget : Bool} (role : Role)
    (key : Key) :
    Retains replace
      (mentionsKey ⟨layers', inTarget, entered⟩ role
        (rewriteKey replace ⟨layers, inTarget, entered⟩ key))
      (mentionsKey ⟨layers, inTarget, entered⟩ role key) := by
  cases key with
  | computed e => exact .cons rfl rfl (retains_mentionsExpr e)
  | _ => exact .cons rfl rfl .nil

theorem retains_mentionsProperty {layers layers' : List Layer} {inTarget : Bool} (p : Property) :
    Retains replace
      (mentionsProperty ⟨layers', inTarget, entered⟩
        (rewriteProperty replace ⟨layers, inTarget, entered⟩ p))
      (mentionsProperty ⟨layers, inTarget, entered⟩ p) := by
  cases p with
  | shorthand id =>
    exact retains_rewriteShorthand replace ⟨layers, inTarget, entered⟩
      ⟨layers', inTarget, entered⟩ id
  | keyValue key value =>
    exact (retains_mentionsKey .literal key).append (retains_mentionsExpr value)
  | initialized id value => exact .cons rfl rfl (retains_mentionsExpr value)
  | getter span key body =>
    exact (retains_mentionsKey .literal key).append (retains_mentionsStmts body)
  | setter span key param body =>
    exact ((retains_mentionsKey .literal key).append (retains_mentionsPat param)).append
      (retains_mentionsStmts body)
  | method key f =>
    exact (retains_mentionsKey .literal key).append (retains_mentionsFunction none none f)
  | spread span arg => exact retains_mentionsExpr arg

theorem retains_mentionsProperties {layers layers' : List Layer} {inTarget : Bool}
    (ps : List Property) :
    Retains replace
      (mentionsProperties ⟨layers', inTarget, entered⟩
        (rewriteProperties replace ⟨layers, inTarget, entered⟩ ps))
      (mentionsProperties ⟨layers, inTarget, entered⟩ ps) := by
  cases ps with
  | nil => exact .nil
  | cons p rest => exact (retains_mentionsProperty p).append (retains_mentionsProperties rest)

theorem retains_mentionsPat {layers layers' : List Layer} {inTarget : Bool} (p : Pat) :
    Retains replace (mentionsPat ⟨layers', inTarget, entered⟩
      (rewritePat replace ⟨layers, inTarget, entered⟩ p))
      (mentionsPat ⟨layers, inTarget, entered⟩ p) := by
  cases p with
  | ident id => exact .nil
  | array span elems => exact retains_mentionsPats elems
  | hole => exact .nil
  | object span props => exact retains_mentionsPatProperties props
  | rest span arg => exact retains_mentionsPat arg
  | default span left right => exact (retains_mentionsPat left).append (retains_mentionsExpr right)
  | expr e => exact retains_mentionsExpr e

theorem retains_mentionsPats {layers layers' : List Layer} {inTarget : Bool} (ps : List Pat) :
    Retains replace (mentionsPats ⟨layers', inTarget, entered⟩
      (rewritePats replace ⟨layers, inTarget, entered⟩ ps))
      (mentionsPats ⟨layers, inTarget, entered⟩ ps) := by
  cases ps with
  | nil => exact .nil
  | cons p rest => exact (retains_mentionsPat p).append (retains_mentionsPats rest)

theorem retains_mentionsTarget {layers layers' : List Layer} {inTarget : Bool} (p : Pat) :
    Retains replace
      (mentionsTarget ⟨layers', inTarget, entered⟩
        (rewriteTarget replace ⟨layers, inTarget, entered⟩ p))
      (mentionsTarget ⟨layers, inTarget, entered⟩ p) := by
  cases p with
  | expr e =>
    cases e with
    | member span object key =>
      exact (retains_mentionsExpr object).append (retains_mentionsKey .access key)
    | _ => exact (names_target ⟨layers', inTarget, entered⟩ _).trans (retains_mentionsExpr _)
  | ident id => exact .nil
  | array span elems => exact retains_mentionsPats elems
  | hole => exact .nil
  | object span props => exact retains_mentionsPatProperties props
  | rest span arg => exact retains_mentionsPat arg
  | default span left right => exact (retains_mentionsPat left).append (retains_mentionsExpr right)

theorem retains_mentionsPatProperty {layers layers' : List Layer} {inTarget : Bool}
    (p : PatProperty) :
    Retains replace
      (mentionsPatProperty ⟨layers', inTarget, entered⟩
        (rewritePatProperty replace ⟨layers, inTarget, entered⟩ p))
      (mentionsPatProperty ⟨layers, inTarget, entered⟩ p) := by
  cases p with
  | keyValue key value =>
    exact (retains_mentionsKey .pattern key).append (retains_mentionsPat value)
  | shorthand id default =>
    exact .cons rfl rfl (retains_mentionsOptExpr default)
  | rest span arg => exact retains_mentionsPat arg

theorem retains_mentionsPatProperties {layers layers' : List Layer} {inTarget : Bool}
    (ps : List PatProperty) :
    Retains replace
      (mentionsPatProperties ⟨layers', inTarget, entered⟩
        (rewritePatProperties replace ⟨layers, inTarget, entered⟩ ps))
      (mentionsPatProperties ⟨layers, inTarget, entered⟩ ps) := by
  cases ps with
  | nil => exact .nil
  | cons p rest => exact (retains_mentionsPatProperty p).append (retains_mentionsPatProperties rest)

theorem retains_mentionsFunction {layers layers' : List Layer} {inTarget : Bool}
    (name name' : Option Ident) (f : Function) :
    Retains replace
      (mentionsFunction ⟨layers', inTarget, entered⟩ name'
        (rewriteFunction replace ⟨layers, inTarget, entered⟩ name f))
      (mentionsFunction ⟨layers, inTarget, entered⟩ name f) := by
  cases f with
  | mk span isAsync isGenerator params body =>
    exact (retains_mentionsPats params).append (retains_mentionsStmts body)

theorem retains_mentionsClass {layers layers' : List Layer} {inTarget : Bool} (cls : Script.Class) :
    Retains replace
      (mentionsClass ⟨layers', inTarget, entered⟩
        (rewriteClass replace ⟨layers, inTarget, entered⟩ cls))
      (mentionsClass ⟨layers, inTarget, entered⟩ cls) := by
  cases cls with
  | mk span superClass members =>
    exact (retains_mentionsMembers members).append (retains_mentionsOptExpr superClass)

theorem retains_mentionsMember {layers layers' : List Layer} {inTarget : Bool} (m : ClassMember) :
    Retains replace
      (mentionsMember ⟨layers', inTarget, entered⟩
        (rewriteMember replace ⟨layers, inTarget, entered⟩ m))
      (mentionsMember ⟨layers, inTarget, entered⟩ m) := by
  cases m with
  | ctor span params body =>
    exact (retains_mentionsPats params).append (retains_mentionsStmts body)
  | method isStatic kind key f =>
    exact (retains_mentionsKey .classMember key).append (retains_mentionsFunction none none f)
  | field isStatic key value =>
    exact (retains_mentionsKey .classMember key).append (retains_mentionsOptExpr value)
  | staticBlock body => exact retains_mentionsStmts body
  | empty => exact .nil

theorem retains_mentionsMembers {layers layers' : List Layer} {inTarget : Bool}
    (ms : List ClassMember) :
    Retains replace
      (mentionsMembers ⟨layers', inTarget, entered⟩
        (rewriteMembers replace ⟨layers, inTarget, entered⟩ ms))
      (mentionsMembers ⟨layers, inTarget, entered⟩ ms) := by
  cases ms with
  | nil => exact .nil
  | cons m rest => exact (retains_mentionsMember m).append (retains_mentionsMembers rest)

theorem retains_mentionsStmt {layers layers' : List Layer} {inTarget : Bool} (s : Stmt) :
    Retains replace (mentionsStmt ⟨layers', inTarget, entered⟩
      (rewriteStmt replace ⟨layers, inTarget, entered⟩ s))
      (mentionsStmt ⟨layers, inTarget, entered⟩ s) := by
  cases s with
  | expr e => exact retains_mentionsExpr e
  | block body => exact retains_mentionsStmts body
  | empty => exact .nil
  | debugger => exact .nil
  | breakStmt label => exact .nil
  | continueStmt label => exact .nil
  | withStmt object body => exact (retains_mentionsExpr object).append (retains_mentionsStmt body)
  | returnStmt arg => exact retains_mentionsOptExpr arg
  | labeled label body => exact retains_mentionsStmt body
  | ifStmt test cons alt =>
    exact ((retains_mentionsExpr test).append (retains_mentionsStmt cons)).append
      (retains_mentionsOptStmt alt)
  | switch discriminant cases =>
    exact (retains_mentionsExpr discriminant).append (retains_mentionsCases cases)
  | throwStmt arg => exact retains_mentionsExpr arg
  | tryStmt block handler finalizer =>
    exact ((retains_mentionsStmts block).append (retains_mentionsHandler handler)).append
      (retains_mentionsFinalizer finalizer)
  | whileLoop test body => exact (retains_mentionsExpr test).append (retains_mentionsStmt body)
  | doWhile test body => exact (retains_mentionsExpr test).append (retains_mentionsStmt body)
  | forLoop init test update body =>
    exact (((retains_mentionsForInit init).append (retains_mentionsOptExpr test)).append
      (retains_mentionsOptExpr update)).append (retains_mentionsStmt body)
  | forIn left right body =>
    exact ((retains_mentionsForHead left).append (retains_mentionsExpr right)).append
      (retains_mentionsStmt body)
  | forOf isAwait left right body =>
    exact ((retains_mentionsForHead left).append (retains_mentionsExpr right)).append
      (retains_mentionsStmt body)
  | varDecl kind decls => exact retains_mentionsDeclarators decls
  | fnDecl name f => exact retains_mentionsFunction none none f
  | classDecl name cls => exact retains_mentionsClass cls

theorem retains_mentionsStmts {layers layers' : List Layer} {inTarget : Bool} (body : List Stmt) :
    Retains replace
      (mentionsStmts ⟨layers', inTarget, entered⟩
        (rewriteStmts replace ⟨layers, inTarget, entered⟩ body))
      (mentionsStmts ⟨layers, inTarget, entered⟩ body) := by
  cases body with
  | nil => exact .nil
  | cons s rest => exact (retains_mentionsStmt s).append (retains_mentionsStmts rest)

theorem retains_mentionsOptStmt {layers layers' : List Layer} {inTarget : Bool} (s : Option Stmt) :
    Retains replace
      (mentionsOptStmt ⟨layers', inTarget, entered⟩
        (rewriteOptStmt replace ⟨layers, inTarget, entered⟩ s))
      (mentionsOptStmt ⟨layers, inTarget, entered⟩ s) := by
  cases s with
  | none => exact .nil
  | some s => exact retains_mentionsStmt s

theorem retains_mentionsCases {layers layers' : List Layer} {inTarget : Bool} (cases : List Case) :
    Retains replace
      (mentionsCases ⟨layers', inTarget, entered⟩
        (rewriteCases replace ⟨layers, inTarget, entered⟩ cases))
      (mentionsCases ⟨layers, inTarget, entered⟩ cases) := by
  cases cases with
  | nil => exact .nil
  | cons c rest =>
    cases c with
    | mk test body =>
      exact ((retains_mentionsOptExpr test).append (retains_mentionsStmts body)).append
        (retains_mentionsCases rest)

theorem retains_mentionsHandler {layers layers' : List Layer} {inTarget : Bool}
    (handler : Option Catch) :
    Retains replace
      (mentionsHandler ⟨layers', inTarget, entered⟩
        (rewriteHandler replace ⟨layers, inTarget, entered⟩ handler))
      (mentionsHandler ⟨layers, inTarget, entered⟩ handler) := by
  cases handler with
  | none => exact .nil
  | some c =>
    cases c with
    | mk span param body =>
      exact (retains_mentionsOptPat param).append (retains_mentionsStmts body)

theorem retains_mentionsOptPat {layers layers' : List Layer} {inTarget : Bool} (p : Option Pat) :
    Retains replace
      (mentionsOptPat ⟨layers', inTarget, entered⟩
        (rewriteOptPat replace ⟨layers, inTarget, entered⟩ p))
      (mentionsOptPat ⟨layers, inTarget, entered⟩ p) := by
  cases p with
  | none => exact .nil
  | some p => exact retains_mentionsPat p

theorem retains_mentionsFinalizer {layers layers' : List Layer} {inTarget : Bool}
    (finalizer : Option (List Stmt)) :
    Retains replace
      (mentionsFinalizer ⟨layers', inTarget, entered⟩
        (rewriteFinalizer replace ⟨layers, inTarget, entered⟩ finalizer))
      (mentionsFinalizer ⟨layers, inTarget, entered⟩ finalizer) := by
  cases finalizer with
  | none => exact .nil
  | some body => exact retains_mentionsStmts body

theorem retains_mentionsDeclarators {layers layers' : List Layer} {inTarget : Bool}
    (decls : List Declarator) :
    Retains replace
      (mentionsDeclarators ⟨layers', inTarget, entered⟩
        (rewriteDeclarators replace ⟨layers, inTarget, entered⟩ decls))
      (mentionsDeclarators ⟨layers, inTarget, entered⟩ decls) := by
  cases decls with
  | nil => exact .nil
  | cons d rest =>
    cases d with
    | mk name init =>
      exact ((retains_mentionsPat name).append (retains_mentionsOptExpr init)).append
        (retains_mentionsDeclarators rest)

theorem retains_mentionsForInit {layers layers' : List Layer} {inTarget : Bool} (init : ForInit) :
    Retains replace
      (mentionsForInit ⟨layers', inTarget, entered⟩
        (rewriteForInit replace ⟨layers, inTarget, entered⟩ init))
      (mentionsForInit ⟨layers, inTarget, entered⟩ init) := by
  cases init with
  | empty => exact .nil
  | var kind decls => exact retains_mentionsDeclarators decls
  | expr e => exact retains_mentionsExpr e

theorem retains_mentionsForHead {layers layers' : List Layer} {inTarget : Bool} (head : ForHead) :
    Retains replace
      (mentionsForHead ⟨layers', inTarget, entered⟩
        (rewriteForHead replace ⟨layers, inTarget, entered⟩ head))
      (mentionsForHead ⟨layers, inTarget, entered⟩ head) := by
  cases head with
  | var kind decls => exact retains_mentionsDeclarators decls
  | pat p => exact retains_mentionsPat p

end

end

-- ---------------------------------------------------------------------------
-- Modules
-- ---------------------------------------------------------------------------

namespace Factory

variable {f : Factory}

/-- The property names in the statements of the factory, in order. -/
def mentions (f : Factory) : List Mention :=
  mentionsStmts f.around f.body

/-- A property is renamed only if a bound parameter stands in its place in an assigned pattern. -/
theorem shorthand_of_renamed_ne {imports : List Import} {mention : Mention}
    (h : mention.renamed (f.reference imports) ≠ mention.name) :
    ∃ place, mention = .shorthand place ∧ place.isUse = true ∧ place.isShadowed = false ∧
      (f.binding.get? place.id.name).isSome := by
  cases mention with
  | fixed name | default place => exact absurd rfl h
  | shorthand place =>
    refine ⟨place, rfl,
      bound_of_reference_ne_keep fun hkeep : f.reference imports place = .keep => h ?_⟩
    rw [Mention.renamed, rewriteIdent, hkeep]
    rfl

end Factory

/-- The property names of a module are those of its factory, in order, except that the accesses to
`default` that give way to an import are missing. A name differs only where an assigned pattern has
a bound parameter as a shorthand property. -/
theorem property_names_kept {σ ε : Type} {sink : Sink σ ε} {settings : Settings} {start : σ}
    {script : Script} {k : Nat} {f : Factory} {m : Module}
    (hf : script.definitions[k]? = some (.module f))
    (hm : (handed sink settings start script)[k]? = some m) :
    ∃ imports body,
      m = ⟨f.name, .code imports body⟩ ∧
        propertyNames f.body = f.mentions.map Mention.name ∧
        propertyNames body =
          (f.mentions.filter fun mention => !mention.collapses (f.reference imports)).map
            (Mention.renamed (f.reference imports)) ∧
        ∀ mention ∈ f.mentions, mention.renamed (f.reference imports) ≠ mention.name →
          ∃ place, mention = .shorthand place ∧ place.isUse = true ∧ place.isShadowed = false ∧
            (f.binding.get? place.id.name).isSome := by
  refine ⟨f.locals.imports, _, (toModule_of_handed hf hm).trans f.module_eq_rewrite, rfl, ?_, ?_⟩
  · exact retains_mentionsStmts _ f.body
  · intro mention _ hne
    exact Factory.shorthand_of_renamed_ne hne

/-- `function (r) { ({ r } = o); }` -/
def renamingSample : Factory where
  name := "m"
  dependencies := ["require"]
  own := none
  span := ⟨26, 55⟩
  params := [.ident ⟨"r", ⟨36, 37⟩⟩]
  body :=
    [.expr (.paren ⟨41, 52⟩ (.assign ⟨42, 51⟩ .plain
      (.object ⟨42, 47⟩ [.shorthand ⟨"r", ⟨44, 45⟩⟩ none]) (.ident ⟨"o", ⟨50, 51⟩⟩)))]

theorem property_names_kept_renamingSample :
    ∃ imports body,
      renamingSample.module = ⟨"m", .code imports body⟩ ∧
        propertyNames renamingSample.body = renamingSample.mentions.map Mention.name ∧
        propertyNames body =
          (renamingSample.mentions.filter fun mention =>
            !mention.collapses (renamingSample.reference imports)).map
              (Mention.renamed (renamingSample.reference imports)) ∧
        ∀ mention ∈ renamingSample.mentions,
          mention.renamed (renamingSample.reference imports) ≠ mention.name →
            ∃ place, mention = .shorthand place ∧ place.isUse = true ∧
              place.isShadowed = false ∧ (renamingSample.binding.get? place.id.name).isSome :=
  property_names_kept
    (show renamingSample.script.definitions[0]? = some (.module renamingSample) from rfl)
    (handed_of_definitions rfl)

/-- The module of `renamingSample` assigns from the property `require` and not from `r`. -/
theorem renamingSample_renames_property :
    (handed keepAll ⟨none, .none⟩ [] renamingSample.script)[0]? =
        some ⟨"m", .code []
          [.expr (.paren ⟨41, 52⟩ (.assign ⟨42, 51⟩ .plain
            (.object ⟨42, 47⟩ [.shorthand ⟨"require", ⟨44, 45⟩⟩ none])
            (.ident ⟨"o", ⟨50, 51⟩⟩)))]⟩ ∧
      propertyNames renamingSample.body = [⟨.pattern, .named "r"⟩] ∧
      propertyNames
          [.expr (.paren ⟨41, 52⟩ (.assign ⟨42, 51⟩ .plain
            (.object ⟨42, 47⟩ [.shorthand ⟨"require", ⟨44, 45⟩⟩ none])
            (.ident ⟨"o", ⟨50, 51⟩⟩)))] =
        [⟨.pattern, .named "require"⟩] := by
  refine ⟨?_, rfl, rfl⟩
  rw [handed_of_definitions rfl]
  rfl

end Unbundle.Engine

-- SUMMARY: The syntax tree of a script: identifiers, expressions, patterns, functions, classes and statements.
import Unbundle.Source.Span

/-!
# Script trees

A script is a list of statements. Trees keep what the printed text depends on (the source text of
literals, parentheses, whether a function is a generator, …) and the source span of every node that
a diagnostic can point at. Comments and blank space are gone.

The layers of a tree refer to each other in every direction (a function holds statements, a pattern
holds default expressions), so they form one inductive family.
-/

namespace Unbundle

namespace Script

/-- An identifier: its name with escapes decoded, and where it stands. -/
structure Ident where
  name : String
  span : Span
deriving DecidableEq, Repr, Inhabited

-- ---------------------------------------------------------------------------
-- Leaves
-- ---------------------------------------------------------------------------

/-- A literal. `raw` is its source text, which is what gets printed. -/
inductive Lit where
  | null
  | bool (value : Bool)
  | num (raw : String)
  | bigint (raw : String)
  | str (raw : String) (value : String)
  | regex (raw : String)
deriving DecidableEq, Repr, Inhabited

/-- Words that stand for a value without naming a variable. -/
inductive Word where
  | this
  | super
  | newTarget
  /-- The callee of a dynamic import, `import(…)`. -/
  | importCall
deriving DecidableEq, Repr, Inhabited

inductive UnaryOp where
  | not | neg | plus | tilde | typeof | void | delete
deriving DecidableEq, Repr, Inhabited

inductive UpdateOp where
  | incr | decr
deriving DecidableEq, Repr, Inhabited

/-- Binary operators, the logical ones included. -/
inductive BinaryOp where
  | eq | ne | eqStrict | neStrict | lt | le | gt | ge
  | shl | shr | ushr | add | sub | mul | div | mod
  | bitOr | bitXor | bitAnd | inOp | instanceOf | exp
  | and | or | coalesce
deriving DecidableEq, Repr, Inhabited

/-- Plain assignment, or an operator applied to the old value. -/
inductive AssignOp where
  | plain
  | compound (op : BinaryOp)
deriving DecidableEq, Repr, Inhabited

inductive VarKind where
  | var | letKind | const
deriving DecidableEq, Repr, Inhabited

inductive MethodKind where
  | method | getter | setter
deriving DecidableEq, Repr, Inhabited

-- ---------------------------------------------------------------------------
-- The inductive family
-- ---------------------------------------------------------------------------

mutual

inductive Expr where
  | ident (id : Ident)
  | lit (span : Span) (value : Lit)
  | word (span : Span) (word : Word)
  /-- `#x`, as the left operand of `in`. -/
  | privateName (span : Span) (name : String)
  | array (span : Span) (elems : List Expr)
  /-- A missing array element. -/
  | hole
  /-- `...x`, in argument lists and array literals. -/
  | spread (span : Span) (arg : Expr)
  | object (span : Span) (props : List Property)
  | fn (name : Option Ident) (function : Function)
  | arrow (span : Span) (isAsync : Bool) (params : List Pat) (body : List Stmt)
  /-- An arrow function whose body is an expression. -/
  | arrowExpr (span : Span) (isAsync : Bool) (params : List Pat) (body : Expr)
  | cls (name : Option Ident) (cls : Class)
  /-- A template: the expressions stand between the pieces of text. -/
  | template (span : Span) (quasis : List String) (exprs : List Expr)
  | tagged (span : Span) (tag : Expr) (quasis : List String) (exprs : List Expr)
  | unary (span : Span) (op : UnaryOp) (arg : Expr)
  | update (span : Span) (op : UpdateOp) (before : Bool) (arg : Expr)
  | binary (span : Span) (op : BinaryOp) (left right : Expr)
  | assign (span : Span) (op : AssignOp) (target : Pat) (value : Expr)
  | cond (span : Span) (test cons alt : Expr)
  | seq (span : Span) (exprs : List Expr)
  | yield (span : Span) (delegate : Bool) (arg : Option Expr)
  | await (span : Span) (arg : Expr)
  | call (span : Span) (callee : Expr) (args : List Expr)
  | newCall (span : Span) (callee : Expr) (args : List Expr)
  /-- `new` without an argument list. -/
  | newBare (span : Span) (callee : Expr)
  | member (span : Span) (object : Expr) (key : Key)
  /-- A link of an optional chain; `optional` tells whether it is written `?.`. -/
  | optMember (span : Span) (optional : Bool) (object : Expr) (key : Key)
  | optCall (span : Span) (optional : Bool) (callee : Expr) (args : List Expr)
  | paren (span : Span) (inner : Expr)

/-- The name of a property, in a member access, an object literal, a pattern or a class. -/
inductive Key where
  | named (name : String)
  | str (raw : String)
  | num (raw : String)
  | privateName (name : String)
  | computed (expr : Expr)

/-- A property of an object literal. -/
inductive Property where
  | shorthand (id : Ident)
  | keyValue (key : Key) (value : Expr)
  /-- `x = v`, which only stands where the literal turns out to be a pattern. -/
  | initialized (id : Ident) (value : Expr)
  | getter (span : Span) (key : Key) (body : List Stmt)
  | setter (span : Span) (key : Key) (param : Pat) (body : List Stmt)
  | method (key : Key) (function : Function)
  | spread (span : Span) (arg : Expr)

/-- A binding pattern, or the target of an assignment. -/
inductive Pat where
  | ident (id : Ident)
  | array (span : Span) (elems : List Pat)
  /-- A skipped array element. -/
  | hole
  | object (span : Span) (props : List PatProperty)
  | rest (span : Span) (arg : Pat)
  | default (span : Span) (left : Pat) (right : Expr)
  /-- Any other assignable expression, in an assignment target. -/
  | expr (expr : Expr)

/-- A property of an object pattern. -/
inductive PatProperty where
  | keyValue (key : Key) (value : Pat)
  | shorthand (id : Ident) (default : Option Expr)
  | rest (span : Span) (arg : Pat)

inductive Function where
  | mk (span : Span) (isAsync isGenerator : Bool) (params : List Pat) (body : List Stmt)

inductive Class where
  | mk (span : Span) (superClass : Option Expr) (members : List ClassMember)

inductive ClassMember where
  | ctor (span : Span) (params : List Pat) (body : List Stmt)
  | method (isStatic : Bool) (kind : MethodKind) (key : Key) (function : Function)
  | field (isStatic : Bool) (key : Key) (value : Option Expr)
  | staticBlock (body : List Stmt)
  | empty

inductive Stmt where
  | expr (expr : Expr)
  | block (body : List Stmt)
  | empty
  | debugger
  | withStmt (object : Expr) (body : Stmt)
  | returnStmt (arg : Option Expr)
  | labeled (label : String) (body : Stmt)
  | breakStmt (label : Option String)
  | continueStmt (label : Option String)
  | ifStmt (test : Expr) (cons : Stmt) (alt : Option Stmt)
  | switch (discriminant : Expr) (cases : List Case)
  | throwStmt (arg : Expr)
  | tryStmt (block : List Stmt) (handler : Option Catch) (finalizer : Option (List Stmt))
  | whileLoop (test : Expr) (body : Stmt)
  | doWhile (test : Expr) (body : Stmt)
  | forLoop (init : ForInit) (test update : Option Expr) (body : Stmt)
  | forIn (left : ForHead) (right : Expr) (body : Stmt)
  | forOf (isAwait : Bool) (left : ForHead) (right : Expr) (body : Stmt)
  | varDecl (kind : VarKind) (decls : List Declarator)
  | fnDecl (name : Ident) (function : Function)
  | classDecl (name : Ident) (cls : Class)

/-- A clause of a `switch`; without a test it is the default clause. -/
inductive Case where
  | mk (test : Option Expr) (body : List Stmt)

inductive Catch where
  | mk (span : Span) (param : Option Pat) (body : List Stmt)

inductive Declarator where
  | mk (name : Pat) (init : Option Expr)

/-- What stands before the first semicolon of a `for` head. -/
inductive ForInit where
  | empty
  | var (kind : VarKind) (decls : List Declarator)
  | expr (expr : Expr)

/-- What is assigned on each turn of a `for…in` or `for…of` loop. -/
inductive ForHead where
  | var (kind : VarKind) (decls : List Declarator)
  | pat (pat : Pat)

end

/-- The property `x: name` that stands for the shorthand property `x`. -/
def Ident.spelledOut (id : Ident) (name : String) : Property :=
  .keyValue (.named id.name) (.ident { id with name := name })

end Script

/-- A script: its statements and where they stand. -/
structure Script where
  span : Span
  body : List Script.Stmt

end Unbundle

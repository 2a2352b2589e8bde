-- SUMMARY: The printed form of a script tree.
import Unbundle.Script.Spelling
import Unbundle.Text.Layout

/-!
# Printing scripts

The layout of a tree depends on the tree alone: literals keep their source text, every statement
ends its line (a block does not), and array and object literals take one line per item.
-/

namespace Unbundle.Script

open Text

-- ---------------------------------------------------------------------------
-- Small parts
-- ---------------------------------------------------------------------------

def Lit.text : Lit → String
  | .null => "null"
  | .bool true => "true"
  | .bool false => "false"
  | .num raw | .bigint raw | .str raw _ | .regex raw => raw

/-- The text of a number that needs a second dot before a property name: a decimal integer. -/
def needsDot (raw : String) : Bool :=
  let digits := raw.toList.filter (· != '_')
  digits.all Char.isDigit && !(1 < digits.length && digits.head? == some '0')

/-- What stands between an object and a property name. -/
def dotAfter : Expr → String
  | .lit _ (.num raw) => if needsDot raw then ".." else "."
  | _ => "."

/-- A sign before an operand that starts with the same sign is set off by a blank. -/
def needsBlank : UnaryOp → Expr → Bool
  | .plus, .unary _ .plus _ | .neg, .unary _ .neg _ => true
  | .plus, .update _ .incr true _ | .neg, .update _ .decr true _ => true
  | op, _ => op.isWord

def functionWord (isAsync isGenerator : Bool) : String :=
  (if isAsync then "async " else "") ++ "function" ++ (if isGenerator then "*" else "")

/-- The marks before the name of a method. -/
def methodMarks (isAsync isGenerator : Bool) : String :=
  (if isAsync then "async " else "") ++ (if isGenerator then "*" else "")

def staticMark (isStatic : Bool) : String :=
  if isStatic then "static " else ""

def accessorMark : MethodKind → String
  | .method => ""
  | .getter => "get "
  | .setter => "set "

/-- Statements in braces. -/
def braced (stmts : List Layout) : Layout :=
  if stmts.isEmpty then [.text "\x7b\x7d"] else Layout.enclose "\x7b" "\x7d" stmts

def parens (l : Layout) : Layout :=
  .text "(" :: l ++ [.text ")"]

/-- Array elements, one to a line. A missing last element is followed by a comma and a blank. -/
def elementLines : List (Option Layout) → Layout
  | [] => []
  | [some l] => l
  | [none] => [.text ", "]
  | some l :: rest => l ++ [.text ",", .line] ++ elementLines rest
  | none :: rest => [.text ",", .line] ++ elementLines rest

/-- Property lines of an object literal. -/
def propertyLines (props : List Layout) : Layout :=
  if props.isEmpty then [.text "\x7b\x7d"]
  else .text "\x7b" :: .line :: Layout.nest (Layout.join [.text ",", .line] props) ++
    [.line, .text "\x7d"]

/-- Pieces of template text with expressions between them. -/
def templateLayout : List String → List Layout → Layout
  | q :: qs, e :: es =>
    .text q :: .text "$\x7b" :: e ++ .text "\x7d" :: templateLayout qs es
  | q :: qs, [] => .text q :: templateLayout qs []
  | [], _ => []

/-- The statement is a block, which does not end its line. -/
def Stmt.isBlock : Stmt → Bool
  | .block _ => true
  | _ => false

-- ---------------------------------------------------------------------------
-- The tree
-- ---------------------------------------------------------------------------

mutual

def Expr.layout : Expr → Layout
  | .ident id => [.text id.name]
  | .lit _ value => [.text value.text]
  | .word _ word => [.text word.text]
  | .privateName _ name => [.text ("#" ++ name)]
  | .array _ [] => [.text "[]"]
  | .array _ (e :: rest) =>
    .text "[" :: .line :: Layout.nest (elementLines (elementLayouts (e :: rest))) ++
      [.line, .text "]"]
  | .hole => []
  | .spread _ arg => .text "..." :: arg.layout
  | .object _ props => propertyLines (propertyLayouts props)
  | .fn name function => function.layout (name.map (·.name))
  | .arrow _ isAsync params body =>
    .text (if isAsync then "async " else "") :: parens (Layout.commas (patLayouts params)) ++
      .text "=>" :: braced (stmtLayouts body)
  | .arrowExpr _ isAsync params body =>
    .text (if isAsync then "async " else "") :: parens (Layout.commas (patLayouts params)) ++
      .text "=>" :: Layout.nest body.layout
  | .cls name cls => cls.layout (name.map (·.name))
  | .template _ quasis exprs =>
    .text "`" :: templateLayout quasis (exprLayouts exprs) ++ [.text "`"]
  | .tagged _ tag quasis exprs =>
    tag.layout ++ .text "`" :: templateLayout quasis (exprLayouts exprs) ++ [.text "`"]
  | .unary _ op arg =>
    .text op.text :: .text (if needsBlank op arg then " " else "") :: arg.layout
  | .update _ op true arg => .text op.text :: arg.layout
  | .update _ op false arg => arg.layout ++ [.text op.text]
  | .binary _ op left right => left.layout ++ .text (" " ++ op.text ++ " ") :: right.layout
  | .assign _ op target value => target.layout ++ .text (" " ++ op.text ++ " ") :: value.layout
  | .cond _ test cons alt =>
    test.layout ++ .text " ? " :: cons.layout ++ .text " : " :: alt.layout
  | .seq _ exprs => Layout.commas (exprLayouts exprs)
  | .yield _ _ none => [.text "yield"]
  | .yield _ delegate (some arg) => .text (if delegate then "yield* " else "yield ") :: arg.layout
  | .await _ arg => .text "await " :: arg.layout
  | .call _ callee args => callee.layout ++ parens (Layout.commas (exprLayouts args))
  | .newCall _ callee args =>
    .text "new " :: callee.layout ++ parens (Layout.commas (exprLayouts args))
  | .newBare _ callee => .text "new " :: callee.layout
  | .member _ object key => object.layout ++ key.accessLayout (dotAfter object)
  | .optMember _ true object key => object.layout ++ .text "?." :: key.accessLayout ""
  | .optMember _ false object key => object.layout ++ key.accessLayout (dotAfter object)
  | .optCall _ optional callee args =>
    callee.layout ++ .text (if optional then "?." else "") ::
      parens (Layout.commas (exprLayouts args))
  | .paren _ inner => parens inner.layout

/-- A key as the name of a property. -/
def Key.layout : Key → Layout
  | .named name => [.text name]
  | .str raw | .num raw => [.text raw]
  | .privateName name => [.text ("#" ++ name)]
  | .computed e => .text "[" :: e.layout ++ [.text "]"]

/-- A key after an object; `dot` stands before a name. -/
def Key.accessLayout (dot : String) : Key → Layout
  | .named name => [.text (dot ++ name)]
  | .str raw | .num raw => [.text ("[" ++ raw ++ "]")]
  | .privateName name => [.text (dot ++ "#" ++ name)]
  | .computed e => .text "[" :: e.layout ++ [.text "]"]

def Property.layout : Property → Layout
  | .shorthand id => [.text id.name]
  | .keyValue key value => key.layout ++ .text ": " :: value.layout
  | .initialized id value => .text id.name :: .text " = " :: value.layout
  | .getter _ key body => .text "get " :: key.layout ++ .text " () " :: braced (stmtLayouts body)
  | .setter _ key param body =>
    .text "set " :: key.layout ++ .text " " :: parens param.layout ++ braced (stmtLayouts body)
  | .method key (.mk _ isAsync isGenerator params body) =>
    .text (methodMarks isAsync isGenerator) :: key.layout ++
      .text " " :: parens (Layout.commas (patLayouts params)) ++
      .text " " :: braced (stmtLayouts body)
  | .spread _ arg => .text "..." :: arg.layout

def Pat.layout : Pat → Layout
  | .ident id => [.text id.name]
  | .array _ elems => .text "[" :: Layout.commas (patLayouts elems) ++ [.text "]"]
  | .hole => []
  | .object _ [] => [.text "\x7b\x7d"]
  | .object _ (p :: props) =>
    .text "\x7b " :: Layout.commas (patPropertyLayouts (p :: props)) ++ [.text " \x7d"]
  | .rest _ arg => .text "..." :: arg.layout
  | .default _ left right => left.layout ++ .text " = " :: right.layout
  | .expr e => e.layout

def PatProperty.layout : PatProperty → Layout
  | .keyValue key value => key.layout ++ .text ": " :: value.layout
  | .shorthand id none => [.text id.name]
  | .shorthand id (some value) => .text id.name :: .text " = " :: value.layout
  | .rest _ arg => .text "..." :: arg.layout

/-- A function with the word `function`, and with its name if it has one. -/
def Function.layout (name : Option String) : Function → Layout
  | .mk _ isAsync isGenerator params body =>
    .text (functionWord isAsync isGenerator) :: .text (name.elim "" (" " ++ ·)) ::
      parens (Layout.commas (patLayouts params)) ++ .text " " :: braced (stmtLayouts body)

def Class.layout (name : Option String) : Class → Layout
  | .mk _ none members =>
    .text "class" :: .text (name.elim "" (" " ++ ·)) ::
      .text " " :: Layout.enclose "\x7b" "\x7d" (memberLayouts members)
  | .mk _ (some superClass) members =>
    .text "class" :: .text (name.elim "" (" " ++ ·)) :: .text " extends " :: superClass.layout ++
      .text " " :: Layout.enclose "\x7b" "\x7d" (memberLayouts members)

def ClassMember.layout : ClassMember → Layout
  | .ctor _ params body =>
    .text "constructor" :: parens (Layout.commas (patLayouts params)) ++ braced (stmtLayouts body)
  | .method isStatic kind key (.mk _ isAsync isGenerator params body) =>
    .text (staticMark isStatic ++ accessorMark kind ++ methodMarks isAsync isGenerator) ::
      key.layout ++ parens (Layout.commas (patLayouts params)) ++
      .text " " :: braced (stmtLayouts body)
  | .field isStatic key none => .text (staticMark isStatic) :: key.layout ++ [.text ";"]
  | .field isStatic key (some value) =>
    .text (staticMark isStatic) :: key.layout ++ .text " = " :: value.layout ++ [.text ";"]
  | .staticBlock body => .text "static" :: braced (stmtLayouts body)
  | .empty => [.text ";"]

def Stmt.layout : Stmt → Layout
  | .expr e => e.layout ++ [.text ";", .line]
  | .block body => braced (stmtLayouts body)
  | .empty => [.text ";", .line]
  | .debugger => [.text "debugger;", .line]
  | .withStmt object body => .text "with " :: parens object.layout ++ body.layout ++ [.line]
  | .returnStmt none => [.text "return;", .line]
  | .returnStmt (some arg) => .text "return " :: arg.layout ++ [.text ";", .line]
  | .labeled label body => .text (label ++ ": ") :: body.layout ++ [.line]
  | .breakStmt label => [.text ("break" ++ label.elim "" (" " ++ ·) ++ ";"), .line]
  | .continueStmt label => [.text ("continue" ++ label.elim "" (" " ++ ·) ++ ";"), .line]
  | .ifStmt test cons none => .text "if " :: parens test.layout ++ .text " " :: cons.layout ++ [.line]
  | .ifStmt test cons (some alt) =>
    .text "if " :: parens test.layout ++ .text " " :: cons.layout ++
      .text (if cons.isBlock then " " else "") :: .text "else " :: alt.layout ++ [.line]
  | .switch discriminant cases =>
    .text "switch" :: parens discriminant.layout ++
      Layout.enclose "\x7b" "\x7d" (caseLayouts cases) ++ [.line]
  | .throwStmt arg => .text "throw " :: arg.layout ++ [.text ";", .line]
  | .tryStmt block handler finalizer =>
    .text "try " :: braced (stmtLayouts block) ++ handlerLayout handler ++
      finalizerLayout finalizer ++ [.line]
  | .whileLoop test body => .text "while" :: parens test.layout ++ body.layout ++ [.line]
  | .doWhile test body =>
    .text "do " :: body.layout ++ .text "while " :: parens test.layout ++ [.line]
  | .forLoop init test update body =>
    .text "for(" :: init.layout ++ .text ";" :: afterSemicolon test ++
      .text ";" :: afterSemicolon update ++ .text ")" :: body.layout ++ [.line]
  | .forIn left right body =>
    .text "for(" :: left.layout ++ .text " in " :: right.layout ++ .text ")" :: body.layout ++ [.line]
  | .forOf isAwait left right body =>
    .text (if isAwait then "for await (" else "for (") :: left.layout ++
      .text " of " :: right.layout ++ .text ")" :: body.layout ++ [.line]
  | .varDecl kind decls =>
    .text (kind.text ++ " ") :: Layout.commas (declaratorLayouts decls) ++ [.text ";", .line]
  | .fnDecl name function => function.layout (some name.name) ++ [.line]
  | .classDecl name cls => cls.layout (some name.name) ++ [.line]

/-- A part of a loop head, after its semicolon. -/
def afterSemicolon : Option Expr → Layout
  | none => []
  | some e => .text " " :: e.layout

def handlerLayout : Option Catch → Layout
  | none => []
  | some (.mk _ none body) => .text " catch  " :: braced (stmtLayouts body)
  | some (.mk _ (some param) body) =>
    .text " catch " :: parens param.layout ++ .text " " :: braced (stmtLayouts body)

def finalizerLayout : Option (List Stmt) → Layout
  | none => []
  | some body => .text " finally" :: braced (stmtLayouts body)

def Case.layout : Case → Layout
  | .mk none body => .text "default:" :: .line :: Layout.nest (Layout.join [.line] (stmtLayouts body))
  | .mk (some test) body =>
    .text "case " :: test.layout ++ .text ":" :: .line ::
      Layout.nest (Layout.join [.line] (stmtLayouts body))

def Declarator.layout : Declarator → Layout
  | .mk name none => name.layout
  | .mk name (some init) => name.layout ++ .text " = " :: init.layout

def ForInit.layout : ForInit → Layout
  | .empty => []
  | .var kind decls => .text (kind.text ++ " ") :: Layout.commas (declaratorLayouts decls)
  | .expr e => e.layout

def ForHead.layout : ForHead → Layout
  | .var kind decls => .text (kind.text ++ " ") :: Layout.commas (declaratorLayouts decls)
  | .pat pat => pat.layout

def exprLayouts : List Expr → List Layout
  | [] => []
  | e :: rest => e.layout :: exprLayouts rest

def elementLayouts : List Expr → List (Option Layout)
  | [] => []
  | .hole :: rest => none :: elementLayouts rest
  | e :: rest => some e.layout :: elementLayouts rest

def propertyLayouts : List Property → List Layout
  | [] => []
  | p :: rest => p.layout :: propertyLayouts rest

def patLayouts : List Pat → List Layout
  | [] => []
  | p :: rest => p.layout :: patLayouts rest

def patPropertyLayouts : List PatProperty → List Layout
  | [] => []
  | p :: rest => p.layout :: patPropertyLayouts rest

def memberLayouts : List ClassMember → List Layout
  | [] => []
  | m :: rest => m.layout :: memberLayouts rest

def stmtLayouts : List Stmt → List Layout
  | [] => []
  | s :: rest => s.layout :: stmtLayouts rest

def caseLayouts : List Case → List Layout
  | [] => []
  | c :: rest => c.layout :: caseLayouts rest

def declaratorLayouts : List Declarator → List Layout
  | [] => []
  | d :: rest => d.layout :: declaratorLayouts rest

end

/-- The text of a list of statements. -/
def printStmts (body : List Stmt) : String :=
  Layout.render (stmtLayouts body).flatten

end Unbundle.Script

-- SUMMARY: Calls of `define`: which of them define a module or a text asset, and how others are described.
import Unbundle.Script.Spelling

/-!
# Definitions

`define('name', ['dep', …], function (param, …) {…})` defines a module if the name and every
dependency is a string literal, and the factory has at least one parameter and only plain names for
parameters. `define('text!path', [], function () { return '…' })` defines a text asset. Any other call
of `define` is left alone and described by the kinds of its arguments.
-/

namespace Unbundle.Amd

open Script

/-- What a module definition says. -/
structure Definition where
  name : String
  /-- Paths of the dependencies, in order. -/
  dependencies : List String
  /-- Names of the factory's parameters, in order. -/
  params : List String
deriving DecidableEq, Repr, Inhabited

/-- What a call defines. -/
inductive Recognized where
  /-- It is no call of `define`. -/
  | other
  | module (definition : Definition)
  | textAsset (path text : String)
  /-- A call of `define` in none of the known shapes. -/
  | unhandled (arguments : String)
deriving DecidableEq, Repr, Inhabited

/-- The value of a string literal. -/
def stringValue? : Expr → Option String
  | .lit _ (.str _ value) => some value
  | _ => none

/-- The name of a plain parameter. -/
def paramName? : Pat → Option String
  | .ident id => some id.name
  | _ => none

/-- The module that a list of arguments defines. -/
def moduleDefinition? : List Expr → Option Definition
  | [name, .array _ deps, .fn _ (.mk _ _ _ params _)] => do
    let name ← stringValue? name
    let dependencies ← deps.mapM stringValue?
    let params ← params.mapM paramName?
    if params.isEmpty then none else some ⟨name, dependencies, params⟩
  | _ => none

/-- What stands before the path in the name of a text asset. -/
def textMark : String := "text!"

/-- The path of a text asset with this name. -/
def textPath? (name : String) : Option String :=
  if textMark.toList.isPrefixOf name.toList then
    some (String.ofList (name.toList.drop textMark.length))
  else none

/-- The text asset that a list of arguments defines: its path and its text. -/
def textAsset? : List Expr → Option (String × String)
  | [name, .array _ [], .fn _ (.mk _ _ _ [] [.returnStmt (some value)])] => do
    let path ← (← stringValue? name) |> textPath?
    let text ← stringValue? value
    return (path, text)
  | _ => none

-- ---------------------------------------------------------------------------
-- Descriptions
-- ---------------------------------------------------------------------------

/-- The kind of an expression, in words. -/
def exprKind : Expr → String
  | .lit .. | .template .. => "Literal"
  | .array .. => "ArrayExpression"
  | .object .. => "ObjectExpression"
  | .fn .. => "FunctionExpression"
  | .arrow .. | .arrowExpr .. => "ArrowFunctionExpression"
  | .ident _ => "Identifier"
  | .call .. => "CallExpression"
  | .member _ object _ =>
    match object with
    | .word _ .super => "Expression"
    | _ => "MemberExpression"
  | .paren .. => "ParenthesizedExpression"
  | .cls .. => "ClassExpression"
  | _ => "Expression"

/-- An argument of `define`, in words. -/
def describeArgument : Expr → String
  | .spread .. => "SpreadElement"
  | .array span elems =>
    if elems.all fun e => (stringValue? e).isSome then exprKind (.array span elems)
    else "ArrayExpression(non-string elements)"
  | .fn name (.mk span isAsync isGenerator params body) =>
    if params.isEmpty then "FunctionExpression(no parameters)"
    else if params.all fun p => (paramName? p).isSome then
      exprKind (.fn name (.mk span isAsync isGenerator params body))
    else "FunctionExpression(non-identifier parameters)"
  | e => exprKind e

/-- The arguments of `define`, in words; a name that is a string is shown as it is. -/
def describeArguments (args : List Expr) : String :=
  let parts := match args with
    | [] => []
    | first :: rest =>
      match stringValue? first with
      | some name => s!"'{name}'" :: rest.map describeArgument
      | none => describeArgument first :: rest.map describeArgument
  ", ".intercalate parts

-- ---------------------------------------------------------------------------
-- Recognition
-- ---------------------------------------------------------------------------

/-- The callee is the plain name `define`. -/
def isDefine : Expr → Bool
  | .ident id => id.name == "define"
  | _ => false

/-- What a call of `callee` with these arguments defines. -/
def recognize (callee : Expr) (args : List Expr) : Recognized :=
  if !isDefine callee then .other
  else match textAsset? args with
    | some (path, text) => .textAsset path text
    | none =>
      match moduleDefinition? args with
      | some definition => .module definition
      | none => .unhandled (describeArguments args)

end Unbundle.Amd

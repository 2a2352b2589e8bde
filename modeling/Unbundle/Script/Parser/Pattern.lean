-- SUMMARY: Binding patterns, and literals that turn out to be assignment patterns or parameters.
import Unbundle.Script.Parser.Monad

/-!
# Patterns

A pattern that declares names is parsed as such. A pattern that is assigned to, or that is a
parameter of an arrow function, is first parsed as an expression, because what follows decides which
of the two it is; `toPattern` then turns it over.
-/

namespace Unbundle.Script

/-- The expression denotes a variable or a property, so it can be assigned to. -/
def Expr.isSimpleTarget : Expr → Bool
  | .ident _ => true
  | .member .. => true
  | .paren _ e => e.isSimpleTarget
  | _ => false

/-- The expression has a form that an assignment accepts as its target, whether or not a value can be
stored there. -/
def Expr.isTargetForm : Expr → Bool
  | .ident _ | .member .. | .optMember .. | .optCall .. | .paren .. | .hole => true
  | _ => false

/-- Expressions that are a target by themselves inside of an assignment pattern. -/
def Expr.isPartForm : Expr → Bool
  | .member .. | .call .. | .newCall .. | .newBare .. | .lit .. | .ident .. | .fn .. | .cls ..
  | .paren .. | .template .. => true
  | _ => false

mutual

/-- Where properties `x = v` stand that no pattern has taken up. Functions and classes see to their
own. -/
def Expr.initializedProps : Expr → List Nat
  | .array _ elems => initializedPropsOf elems
  | .spread _ e | .unary _ _ e | .update _ _ _ e | .await _ e | .newBare _ e | .paren _ e =>
    e.initializedProps
  | .object _ props => initializedPropsIn props
  | .template _ _ exprs | .seq _ exprs => initializedPropsOf exprs
  | .tagged _ tag _ exprs => tag.initializedProps ++ initializedPropsOf exprs
  | .binary _ _ l r => l.initializedProps ++ r.initializedProps
  | .assign _ _ _ value => value.initializedProps
  | .cond _ a b c => a.initializedProps ++ b.initializedProps ++ c.initializedProps
  | .yield _ _ (some e) => e.initializedProps
  | .call _ f args | .newCall _ f args | .optCall _ _ f args =>
    f.initializedProps ++ initializedPropsOf args
  | .member _ o k | .optMember _ _ o k => o.initializedProps ++ k.initializedProps
  | .ident _ | .lit .. | .word .. | .privateName .. | .hole | .fn .. | .arrow .. | .arrowExpr ..
  | .cls .. | .yield .. => []

def Key.initializedProps : Key → List Nat
  | .computed e => e.initializedProps
  | .named _ | .str _ | .num _ | .privateName _ => []

def initializedPropsOf : List Expr → List Nat
  | [] => []
  | e :: r => e.initializedProps ++ initializedPropsOf r

def initializedPropsIn : List Property → List Nat
  | [] => []
  | .initialized id value :: r => id.span.lo :: value.initializedProps ++ initializedPropsIn r
  | .keyValue key value :: r =>
    key.initializedProps ++ value.initializedProps ++ initializedPropsIn r
  | .spread _ e :: r => e.initializedProps ++ initializedPropsIn r
  | _ :: r => initializedPropsIn r

end

namespace Parser

/-- Notes every property `x = v` of an expression that is final. -/
def verify (e : Expr) : ParseM Unit :=
  e.initializedProps.forM fun pos => noteAt .initializedProperty pos

-- ---------------------------------------------------------------------------
-- Expressions taken as patterns
-- ---------------------------------------------------------------------------

/-- What a pattern is for. -/
inductive PatternUse where
  /-- Declares the names in it. -/
  | declare
  /-- Is assigned to, as a whole. -/
  | assign
  /-- Is assigned to, as a part of a pattern. -/
  | assignPart
deriving DecidableEq, Repr, Inhabited

/-- What the parts of a pattern are for. -/
def PatternUse.part : PatternUse → PatternUse
  | .declare => .declare
  | .assign | .assignPart => .assignPart

/-- Notes a comma after the last element of the literal that starts at `start`. -/
def noteTrailingComma (start : Nat) : ParseM Unit := do
  match (← get).trailingCommas.lookup start with
  | some pos => noteAt .trailingCommaAfterRest pos
  | none => pure ()

/-- The pattern for a single target. -/
def targetPattern : Expr → Pat
  | .ident id => .ident id
  | e => .expr e

/-- Skipped elements at the end of a pattern stand for nothing. -/
def dropTrailingHoles (elems : List Pat) : List Pat :=
  (elems.reverse.dropWhile fun | .hole => true | _ => false).reverse

mutual

/-- Takes an expression as a pattern. -/
def toPattern (use : PatternUse) : Expr → ParseM Pat
  | .array span elems => do
    return .array span (dropTrailingHoles (← toElements use.part span.lo elems))
  | .object span props => do
    return .object span (← toProperties use.part span.lo props)
  | .assign span .plain target value => do
    match use with
    | .assign =>
      noteAt .notAssignable span.lo
      return .expr (.assign span .plain target value)
    | _ => return .default span target value
  | .hole => return .hole
  | .ident id => return .ident id
  | e => do
    match use with
    | .assign =>
      unless e.isSimpleTarget do noteAt .notAssignable e.span.lo
      return .expr e
    | .assignPart =>
      if e.isPartForm then
        unless e.isSimpleTarget do noteAt .notSimpleTarget e.span.lo
      else noteAt .notAPattern e.span.lo
      return .expr e
    | .declare =>
      noteAt .notAPattern e.span.lo
      return .expr e

/-- Takes array elements as patterns; `start` is where the array starts. -/
def toElements (use : PatternUse) (start : Nat) : List Expr → ParseM (List Pat)
  | [] => return []
  | .spread span arg :: rest => do
    if rest.isEmpty then
      match arg with
      | .assign .. => noteAt .restWithInitializer span.lo
      | _ => pure ()
      noteTrailingComma start
    else noteAt .restNotFinal span.lo
    let pat ← toPattern use arg
    return .rest span pat :: (← toElements use start rest)
  | .hole :: rest => return .hole :: (← toElements use start rest)
  | e :: rest => do
    let pat ← toPattern use e
    return pat :: (← toElements use start rest)

/-- Takes properties as properties of a pattern; `start` is where the object starts. -/
def toProperties (use : PatternUse) (start : Nat) : List Property → ParseM (List PatProperty)
  | [] => return []
  | .shorthand id :: rest => return .shorthand id none :: (← toProperties use start rest)
  | .initialized id value :: rest =>
    return .shorthand id (some value) :: (← toProperties use start rest)
  | .keyValue key value :: rest => do
    let pat ← toPattern use value
    return .keyValue key pat :: (← toProperties use start rest)
  | .spread span arg :: rest => do
    unless rest.isEmpty do noteAt .restNotFinal span.lo
    noteTrailingComma start
    let pat ← toPattern use arg
    match use, pat with
    | .declare, .ident _ => pure ()
    | .declare, _ => noteAt .restWithoutIdent span.lo
    | _, .default .. => noteAt .restWithInitializer span.lo
    | _, _ => pure ()
    return .rest span pat :: (← toProperties use start rest)
  | .getter span .. :: _ | .setter span .. :: _ => failAt .notAPattern span.lo
  | .method _ function :: _ => failAt .notAPattern function.span.lo

end

/-- Takes the left side of `=` as the target of the assignment. -/
def toTarget (e : Expr) : ParseM Pat := do
  let pat ← toPattern .assign e
  match pat with
  | .expr e => if e.isTargetForm then return pat else failAt .invalidTarget e.span.lo
  | _ => return pat

/-- Takes the left side of a compound assignment as its target. -/
def toCompoundTarget (e : Expr) : ParseM Pat := do
  unless e.isSimpleTarget do noteAt .notSimpleTarget e.span.lo
  if e.isTargetForm then return targetPattern e else failAt .invalidTarget e.span.lo

/-- Takes the items between parentheses as parameters of an arrow function. -/
def toParams (trailingComma : Option Nat) : List Expr → ParseM (List Pat)
  | [] => return []
  | [.spread span arg] => do
    match arg with
    | .assign .. => noteAt .restWithInitializer span.lo
    | _ => pure ()
    match trailingComma with
    | some pos => noteAt .trailingCommaAfterRest pos
    | none => pure ()
    return [.rest span (← toPattern .declare arg)]
  | .spread span _ :: rest => do
    noteAt .restParamNotLast span.lo
    toParams trailingComma rest
  | e :: rest => do
    let pat ← toPattern .declare e
    return pat :: (← toParams trailingComma rest)

-- ---------------------------------------------------------------------------
-- Names
-- ---------------------------------------------------------------------------

/-- A word that names a variable. `yield` and `await` are told apart from names by the code around
them. -/
def ident (yieldAllowed awaitAllowed : Bool) : ParseM Ident := do
  match (← need) with
  | .word name =>
    let lexeme ← advance
    let words := (← read).words
    let id : Ident := ⟨name, lexeme.span⟩
    if name == "await" && words.inStaticBlock then failAt .expectedIdent lexeme.span.lo
    else if name == "await" && words.inAsync then failAt .reservedInAsync lexeme.span.lo
    else if name == "yield" then
      if yieldAllowed then return id else failAt .expectedIdent lexeme.span.lo
    else if name == "await" then
      if awaitAllowed then return id else failAt .expectedIdent lexeme.span.lo
    else if reservedWords.contains name && name != "enum" then
      failAt .expectedIdent lexeme.span.lo
    else return id
  | _ => failHere .expectedIdent

/-- A name that is declared. -/
def bindingIdent (letForbidden : Bool) : ParseM Ident := do
  if letForbidden && (← atWord "let") then
    failUnexpected "let is reserved in const, let, class declaration"
  else
    let id ← ident true true
    let words := (← read).words
    if (words.inGenerator && id.name == "yield") then noteAt .expectedIdent id.span.lo
    return id

/-- A word as the name of a property. -/
def propertyWord : ParseM Ident := do
  match (← need) with
  | .word name => return ⟨name, (← advance).span⟩
  | _ => failHere .expectedIdent

/-- The name after `#`, which is the current token. -/
def privateName : ParseM Ident := do
  let mark ← advance
  match (← need) with
  | .word name =>
    let lexeme ← advance
    return ⟨name, mark.span.join lexeme.span⟩
  | _ => failHere .expectedIdent

/-- The name of a property, with the word if it is one. -/
def propertyName (g : Grammar) : ParseM (Key × Option Ident) := do
  match (← need) with
  | .str raw _ =>
    let _ ← advance
    return (.str raw, none)
  | .num raw | .bigint raw =>
    let _ ← advance
    return (.num raw, none)
  | .word name =>
    let lexeme ← advance
    return (.named name, some ⟨name, lexeme.span⟩)
  | .punct "[" =>
    let _ ← advance
    let e ← withIn g.assign
    expectPunct "]"
    return (.computed e, none)
  | _ => failUnexpected "identifier, string literal, numeric literal or [ for the computed key"

-- ---------------------------------------------------------------------------
-- Binding patterns
-- ---------------------------------------------------------------------------

/-- A pattern, and a value to use where there is none. -/
def bindingElement (g : Grammar) : ParseM Pat := do
  let start ← position
  let left ← g.binding false
  if (← eatPunct "=") then
    let right ← withIn g.assign
    return .default (← spanFrom start) left right
  else return left

/-- A comma between items of a list that ends in `close`; `isRest` if the item before is a rest. -/
def itemComma (close : String) (isRest : Bool) : ParseM Unit := do
  unless (← atPunct close) do
    expectPunct ","
    if isRest && (← atPunct close) then
      noteAt .trailingCommaAfterRest (← get).prev.lo

/-- The end of a list that is closed by `close`, or the end of the text. -/
def atClose (close : String) : ParseM Bool := do
  return (← atPunct close) || (← atEof)

def arrayBinding (g : Grammar) : ParseM Pat := do
  let start := (← advance).span.lo
  let elems ← repeatFrom ([], none) fun (acc, lastRest) => do
    if (← atClose "]") then return .done acc.reverse
    else if (← eatPunct ",") then return .again (Pat.hole :: acc, lastRest)
    else
      match lastRest with
      | some pos => noteAt .restNotFinal pos
      | none => pure ()
      let elemStart ← position
      if (← eatPunct "...") then
        let pat ← g.binding false
        let span ← spanFrom elemStart
        itemComma "]" true
        return .again (.rest span pat :: acc, some elemStart)
      else
        let pat ← bindingElement g
        itemComma "]" false
        return .again (pat :: acc, lastRest)
  expectPunct "]"
  return .array (← spanFrom start) (dropTrailingHoles elems)

def bindingProperty (g : Grammar) : ParseM PatProperty := do
  let start ← position
  if (← eatPunct "...") then
    let pat ← g.binding false
    return .rest (← spanFrom start) pat
  else
    let (key, word?) ← propertyName g
    if (← eatPunct ":") then return .keyValue key (← bindingElement g)
    else match word? with
      | none => failUnexpected "an identifier"
      | some id =>
        if (← eatPunct "=") then return .shorthand id (some (← withIn g.assign))
        else
          if (← read).words.isReserved id.name then noteAt .reservedShorthand id.span.lo
          return .shorthand id none

/-- Notes rest properties of a declared pattern that are not last or not plain names. -/
def checkRestProperties (trailingComma : Option Nat) : List PatProperty → ParseM Unit
  | [] => return ()
  | [.rest span pat] =>
    match pat, trailingComma with
    | .ident _, some pos => noteAt .trailingCommaAfterRest pos
    | .ident _, none => pure ()
    | _, _ => failAt .restWithoutIdent span.lo
  | .rest span _ :: rest => do
    noteAt .restNotFinal span.lo
    checkRestProperties trailingComma rest
  | _ :: rest => checkRestProperties trailingComma rest

def objectBinding (g : Grammar) : ParseM Pat := do
  let start := (← advance).span.lo
  let (props, comma) ← repeatFrom ([], none) fun (acc, _) => do
    if (← eatPunct "\x7d") then return .done (acc.reverse, none)
    else
      let prop ← bindingProperty g
      if (← atPunct "\x7d") then return .again (prop :: acc, none)
      else
        expectPunct ","
        let pos := (← get).prev.lo
        if (← eatPunct "\x7d") then return .done ((prop :: acc).reverse, some pos)
        else return .again (prop :: acc, (none : Option Nat))
  checkRestProperties comma props
  return .object (← spanFrom start) props

/-- A name or a pattern that declares names. -/
def binding (g : Grammar) (letForbidden : Bool) : ParseM Pat := do
  match (← need) with
  | .word _ => return .ident (← bindingIdent letForbidden)
  | .punct "[" => arrayBinding g
  | .punct "\x7b" => objectBinding g
  | _ => failUnexpected "yield, an identifier, [ or \x7b"

end Parser
end Unbundle.Script

-- SUMMARY: Blocks, parameter lists, functions and classes.
import Unbundle.Script.Parser.Pattern

/-!
# Functions

A function is parsed from its parameter list on; what stands before it (`async`, `function`, a method
name, …) is up to the caller, who also says where the function starts.
-/

namespace Unbundle.Script.Parser

-- ---------------------------------------------------------------------------
-- Blocks
-- ---------------------------------------------------------------------------

/-- The current token is the directive that makes code strict. -/
def atUseStrict : ParseM Bool := do
  match (← token) with
  | .str raw _ => return raw == "'use strict'" || raw == "\"use strict\""
  | _ => return false

/-- Statements up to a closing brace, or to the end of the text, which is noted. -/
def blockStatements (g : Grammar) : ParseM (List Stmt) :=
  itemsUntil
    (do
      if (← atEof) then
        noteHere (.expected "\x7d" (← token).describe)
        return true
      else atPunct "\x7d")
    (do return [← g.statement true false])

/-- A block in braces. A directive at its start may make it strict; the brace that closes it is read
as code around it. -/
def block (g : Grammar) (directives : Bool) : ParseM (List Stmt) := do
  expectPunct "\x7b"
  let strict := directives && (← atUseStrict)
  let body ← withContext
    (fun ctx => if strict then { ctx with words := { ctx.words with strict := true } } else ctx)
    (blockStatements g)
  let _ ← eatPunct "\x7d"
  return body

-- ---------------------------------------------------------------------------
-- Parameters and bodies
-- ---------------------------------------------------------------------------

/-- Parameters between parentheses, which are not part of it. -/
def formalParams (g : Grammar) : ParseM (List Pat) :=
  repeatFrom ([], none) fun (acc, lastRest) => do
    if (← atClose ")") then return .done acc.reverse
    else
      match lastRest with
      | some pos => noteAt .restParamNotLast pos
      | none => pure ()
      let start ← position
      if (← eatPunct "...") then
        let pat ← g.binding false
        if (← eatPunct "=") then
          let _ ← g.assign
          noteAt .restWithInitializer pat.span.lo
        let span ← spanFrom start
        itemComma ")" true
        return .again (.rest span pat :: acc, some start)
      else
        let pat ← bindingElement g
        itemComma ")" false
        return .again (pat :: acc, lastRest)

/-- All parameters are plain names. -/
def simpleParams (params : List Pat) : Bool :=
  params.all fun | .ident _ => true | _ => false

/-- Parses the inside of a function, where the labels outside are not seen. -/
def withFreshLabels {α : Type} (p : ParseM α) : ParseM α := do
  let labels := (← get).labels
  modify fun s => { s with labels := [] }
  let result ← p
  modify fun s => { s with labels := labels }
  return result

/-- The braces of a function body, in the context of the body. -/
def functionBlock (g : Grammar) (params : List Pat) : ParseM (List Stmt) := do
  let directive ← peek
  let body ← block g true
  let isDirective := match directive.token with
    | .str raw _ => raw == "'use strict'" || raw == "\"use strict\""
    | _ => false
  if isDirective && !simpleParams params then
    noteAt .useStrictWithComplexParams directive.span.lo
  return body

/-- Accepts any parameters. -/
def anyParams (_ : List Pat) : ParseM Unit :=
  pure ()

/-- The rest of a function, from its parameter list on. -/
def functionRest (g : Grammar) (isAsync isGenerator : Bool)
    (checkParams : List Pat → ParseM Unit) : ParseM (List Pat × List Stmt) := do
  expectPunct "("
  let params ← withinFunction isAsync isGenerator false true do
    let params ← formalParams g
    checkParams params
    return params
  expectPunct ")"
  let body ← withinFunction isAsync isGenerator false false
    (withFreshLabels (functionBlock g params))
  return (params, body)

/-- A function that starts at `start` and whose parameter list comes next. -/
def functionFrom (g : Grammar) (start : Nat) (isAsync isGenerator : Bool)
    (checkParams : List Pat → ParseM Unit) : ParseM Function := do
  let (params, body) ← functionRest g isAsync isGenerator checkParams
  return .mk (← spanFrom start) isAsync isGenerator params body

/-- Parses a function in a class or an object literal, where `super` may be used. -/
def asMethod {α : Type} (p : ParseM α) : ParseM α :=
  withContext (fun ctx => { ctx with superAllowed := true }) p

/-- A function from the word `function` on. -/
def functionHead (g : Grammar) (start : Nat) (isAsync isExpr : Bool) :
    ParseM (Option Ident × Function) := do
  let _ ← advance
  let isGenerator ← eatPunct "*"
  withContext (fun ctx => { ctx with superAllowed := false }) do
    let name ←
      if isExpr then
        withContext
          (fun ctx => { ctx with
            words := { ctx.words with inAsync := isAsync, inGenerator := isGenerator } }) do
          if (← atIdent) then return some (← bindingIdent false) else return none
      else some <$> bindingIdent false
    return (name, ← functionFrom g start isAsync isGenerator anyParams)

def functionDecl (g : Grammar) (start : Nat) (isAsync : Bool) : ParseM Stmt := do
  match (← functionHead g start isAsync false) with
  | (some name, function) => return .fnDecl name function
  | (none, _) => failHere .expectedIdent

/-- The body of an arrow function, after `=>`. -/
def arrowFrom (g : Grammar) (start : Nat) (isAsync : Bool) (params : List Pat) : ParseM Expr :=
  withinFunction isAsync false true false do
    if (← atPunct "\x7b") then
      let body ← withFreshLabels (functionBlock g params)
      return .arrow (← spanFrom start) isAsync params body
    else
      let body ← g.assign
      return .arrowExpr (← spanFrom start) isAsync params body

-- ---------------------------------------------------------------------------
-- Accessors
-- ---------------------------------------------------------------------------

/-- A getter has no parameters; `pos` is where the complaint goes. -/
def checkGetterParams (pos : Nat) (params : List Pat) : ParseM Unit := do
  unless params.isEmpty do noteAt .getterParams pos

/-- A setter has one parameter; `pos` is where the complaint goes. -/
def checkSetterParams (pos : Nat) (params : List Pat) : ParseM Unit := do
  if params.length != 1 then noteAt .setterParams pos
  match params with
  | .rest span _ :: _ => noteAt .restInSetter span.lo
  | _ => pure ()

-- ---------------------------------------------------------------------------
-- Classes
-- ---------------------------------------------------------------------------

/-- The name of a class member, with where it starts. -/
def memberName (g : Grammar) : ParseM (Key × Nat) := do
  let start ← position
  if (← atPunct "#") then
    let id ← privateName
    if id.name == "constructor" then noteAt .privateConstructor start
    return (.privateName id.name, start)
  else return ((← propertyName g).1, start)

/-- The member is named `constructor`. -/
def isConstructorName : Key → Bool
  | .named name => name == "constructor"
  | .str raw => unquote? raw == some "constructor"
  | _ => false

/-- A field may stand here, given what follows its name; `breaks` allows a line break to end it. -/
def atFieldEnd (breaks : Bool) : ParseM Bool := do
  if (← atAnyPunct ["=", "\x7d"]) then return true
  else if breaks then atSemicolon
  else atPunct ";"

def fieldFrom (g : Grammar) (isStatic : Bool) (key : Key) (keyStart : Nat) :
    ParseM ClassMember := do
  if isConstructorName key && !isStatic then failAt .fieldNamedConstructor keyStart
  let value ← withContext
    (fun ctx => { ctx with includeIn := true, newTargetAllowed := true, superAllowed := true }) do
    if (← eatPunct "=") then return some (← g.assign) else return none
  unless (← eatSemicolon) do noteHere .expectedSemicolon
  return .field isStatic key value

def methodFrom (g : Grammar) (start : Nat) (isStatic : Bool) (kind : MethodKind) (key : Key)
    (isAsync isGenerator : Bool) (checkParams : List Pat → ParseM Unit) : ParseM ClassMember := do
  let function ← asMethod (functionFrom g start isAsync isGenerator checkParams)
  return .method isStatic kind key function

/-- A member after `static`, if that stands before it. -/
def memberFrom (g : Grammar) (start : Nat) (isStatic : Bool) : ParseM ClassMember := do
  if isStatic && (← atPunct "\x7b") then
    let body ← withContext
      (fun ctx => { ctx with
        words := { ctx.words with inStaticBlock := true, inAsync := false, inGenerator := false }
        topLevel := false, newTargetAllowed := true, superAllowed := true
        breakAllowed := false, continueAllowed := false })
      (withFreshLabels (block g false))
    return .staticBlock body
  else if (← eatPunct "*") then
    let (key, keyStart) ← memberName g
    if isConstructorName key && !isStatic then noteAt .generatorConstructor keyStart
    methodFrom g start isStatic .method key false true anyParams
  else
    let (key, keyStart) ← memberName g
    if (← atPunct "(") then
      if isConstructorName key && !isStatic then
        let (params, body) ← asMethod (functionRest g false false anyParams)
        return .ctor (← spanFrom start) params body
      else methodFrom g start isStatic .method key false false anyParams
    else
      let isName w := match key with | .named name => name == w | _ => false
      let generatorNext := (← newlineBefore) && (← atPunct "*")
      let accessor := (isName "get" || isName "set") && !(← atFieldEnd false) && !generatorNext
      if !accessor && (← atFieldEnd true) then fieldFrom g isStatic key keyStart
      else if isName "async" && !(← newlineBefore) then
        let isGenerator ← eatPunct "*"
        let (key, keyStart) ← memberName g
        if isConstructorName key && !isStatic then failAt .asyncConstructor keyStart
        methodFrom g start isStatic .method key true isGenerator anyParams
      else if accessor then
        let (name, nameStart) ← memberName g
        if isConstructorName name && !isStatic then noteAt .accessorConstructor nameStart
        if isName "get" then
          methodFrom g start isStatic .getter name false false (checkGetterParams keyStart)
        else methodFrom g start isStatic .setter name false false (checkSetterParams keyStart)
      else failUnexpected "* for generator, private key, identifier or async"

def classMember (g : Grammar) : ParseM ClassMember := do
  let start ← position
  if (← atWord "static") then
    let word ← advance
    if (← atPunct "(") then methodFrom g start false .method (.named "static") false false anyParams
    else if (← atFieldEnd false) then fieldFrom g false (.named "static") word.span.lo
    else memberFrom g start true
  else memberFrom g start false

/-- Members up to the closing brace; a second constructor is noted. -/
def classMembers (g : Grammar) : ParseM (List ClassMember) :=
  repeatFrom ([], false) fun (acc, hasCtor) => do
    if (← atClose "\x7d") then return .done acc.reverse
    else if (← eatPunct ";") then return .again (.empty :: acc, hasCtor)
    else
      let member ← classMember g
      match member with
      | .ctor span .. =>
        if hasCtor then noteAt .duplicateConstructor span.lo
        return .again (member :: acc, true)
      | _ => return .again (member :: acc, hasCtor)

/-- A class from the word `class` on. Its code is strict. -/
def classFrom (g : Grammar) (isExpr : Bool) : ParseM (Option Ident × Class) := do
  let start ← position
  let (name, superClass, members) ← withContext
    (fun ctx => { ctx with words := { ctx.words with strict := true } }) do
    let _ ← advance
    let name ←
      if isExpr then
        if (← atIdent) then pure (some (← bindingIdent true)) else pure none
      else some <$> bindingIdent true
    let superClass ← if (← eatWord "extends") then some <$> g.leftHandSide else pure none
    expectPunct "\x7b"
    let members ← classMembers g
    return (name, superClass, members)
  if (← atEof) then noteHere (.expected "\x7d" (← token).describe)
  else expectPunct "\x7d"
  return (name, .mk (← spanFrom start) superClass members)

def classDecl (g : Grammar) : ParseM Stmt := do
  match (← classFrom g false) with
  | (some name, cls) => return .classDecl name cls
  | (none, _) => failHere .expectedIdent

end Unbundle.Script.Parser

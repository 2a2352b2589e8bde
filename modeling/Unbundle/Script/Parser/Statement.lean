-- SUMMARY: Statements and declarations.
import Unbundle.Script.Parser.Expression

/-!
# Statements

A statement is recognised by its first word; anything else is an expression statement or a label.
-/

namespace Unbundle.Script.Parser

-- ---------------------------------------------------------------------------
-- Variable declarations
-- ---------------------------------------------------------------------------

def varKind? : Token → Option VarKind
  | .word "var" => some .var
  | .word "let" => some .letKind
  | .word "const" => some .const
  | _ => none

/-- A declared name or pattern with its initializer. In the head of a loop a pattern needs none
before `in` and `of`. -/
def declarator (g : Grammar) (inHead : Bool) (kind : VarKind) : ParseM Declarator := do
  let start ← position
  let name ← g.binding (kind != .var)
  if inHead && ((← atWord "in") || (← atWord "of")) then return .mk name none
  else if (← eatPunct "=") then
    let init ← g.assign
    verify init
    return .mk name (some init)
  else match name with
    | .ident _ => return .mk name none
    | _ => failAt .destructuringWithoutInit start

/-- The declarators after `var`, `let` or `const`. -/
def declarators (g : Grammar) (inHead : Bool) (kind : VarKind) (word : Span) :
    ParseM (List Declarator) :=
  repeatFrom [] fun acc => do
    if (← atPunct ";") || (← atEof) then
      let prev := (← get).prev
      noteAt .trailingComma (if prev == word then prev.hi else prev.lo)
      return .done acc.reverse
    else
      let d ← withContext
        (fun ctx => if kind != .var || !inHead then { ctx with includeIn := true } else ctx)
        (declarator g inHead kind)
      if (← eatPunct ",") then return .again (d :: acc)
      else return .done (d :: acc).reverse

/-- Passes over tokens until a statement may end. -/
def skipToSemicolon : ParseM Unit :=
  repeatFrom () fun _ => do
    if (← eatSemicolon) then return .done ()
    else
      let _ ← advance
      match (← token) with
      | .bad _ => return .done ()
      | _ => return .again ()

def varDeclaration (g : Grammar) (kind : VarKind) : ParseM Stmt := do
  let word ← advance
  let decls ← declarators g false kind word.span
  unless (← eatSemicolon) do
    noteHere .expectedSemicolon
    tryCatch (do let _ ← g.expr) fun _ => pure ()
    skipToSemicolon
  return .varDecl kind decls

/-- The word `let` starts a declaration here, not an expression. -/
def letDeclares : ParseM Bool := do
  match (← peek).token with
  | .punct "[" | .punct "\x7b" => return true
  | .word w => return !reservedWords.contains w
  | _ => return false

-- ---------------------------------------------------------------------------
-- Loops
-- ---------------------------------------------------------------------------

/-- An expression in parentheses. -/
def condition (g : Grammar) : ParseM Expr := do
  expectPunct "("
  let e ← withIn g.expr
  expectPunct ")"
  return e

/-- The part of a `for` statement between its parentheses. -/
inductive LoopHead where
  | steps (init : ForInit) (test update : Option Expr)
  | keys (left : ForHead) (right : Expr)
  | values (left : ForHead) (right : Expr)

/-- The test and the step of a loop, after the first semicolon. -/
def loopSteps (g : Grammar) (init : ForInit) : ParseM LoopHead := do
  let test ←
    if (← eatPunct ";") then pure none
    else
      let e ← withIn g.expr
      expectPunct ";"
      pure (some e)
  let update ← if (← atPunct ")") then pure none else some <$> withIn g.expr
  return .steps init test update

/-- What is looped over, from `of` or `in` on. -/
def loopSource (g : Grammar) (left : ForHead) : ParseM LoopHead := do
  if (← eatWord "of") then return .values left (← withIn g.assign)
  else
    let _ ← advance
    return .keys left (← withIn g.expr)

/-- The declaration in the head of a `for…in` or `for…of` loop declares one name without a value. -/
def checkLoopDeclaration (decls : List Declarator) : ParseM Unit := do
  match decls with
  | [.mk name init] =>
    if init.isSome && ((← read).words.strict || (← atWord "of")) then
      noteAt .initializerInForHead name.span.lo
  | _ => (decls.drop 1).forM fun | .mk name _ => noteAt .manyBindingsInForHead name.span.lo

def loopHead (g : Grammar) : ParseM LoopHead := do
  let declares ← match (← token) with
    | .word "let" => letDeclares
    | .word "var" | .word "const" => pure true
    | _ => pure false
  match declares, varKind? (← token) with
  | true, some kind =>
    let word ← advance
    let decls ← withContext (fun ctx => { ctx with includeIn := false })
      (declarators g true kind word.span)
    if (← atWord "of") || (← atWord "in") then
      checkLoopDeclaration decls
      loopSource g (.var kind decls)
    else
      expectPunct ";"
      loopSteps g (.var kind decls)
  | _, _ =>
    if (← eatPunct ";") then loopSteps g .empty
    else
      let init ← withContext (fun ctx => { ctx with includeIn := false }) g.expr
      if (← atWord "of") || (← atWord "in") then
        let pat ← toPattern .assign init
        loopSource g (.pat pat)
      else
        expectPunct ";"
        verify init
        loopSteps g (.expr init)

def forStatement (g : Grammar) : ParseM Stmt := do
  let _ ← advance
  let awaitPos ← position
  let isAwait ← eatWord "await"
  expectPunct "("
  let head ← withContext
    (fun ctx => { ctx with forHead := true, forAwaitHead := isAwait }) (loopHead g)
  expectPunct ")"
  let body ← withinLoop (g.statement false false)
  match head with
  | .steps init test update =>
    if isAwait then failAt .awaitForStatement awaitPos
    else return .forLoop init test update body
  | .keys left right =>
    if isAwait then failAt .awaitForStatement awaitPos else return .forIn left right body
  | .values left right => return .forOf isAwait left right body

def whileStatement (g : Grammar) : ParseM Stmt := do
  let _ ← advance
  let test ← condition g
  return .whileLoop test (← withinLoop (g.statement false false))

def doStatement (g : Grammar) : ParseM Stmt := do
  let _ ← advance
  let body ← withinLoop (g.statement false false)
  expectWord "while"
  let test ← condition g
  let _ ← eatSemicolon
  return .doWhile test body

-- ---------------------------------------------------------------------------
-- Jumps and labels
-- ---------------------------------------------------------------------------

/-- `break` or `continue`, with a label or without. -/
def jump (isBreak : Bool) : ParseM Stmt := do
  let word ← advance
  let label ←
    if (← eatSemicolon) then pure none
    else
      let id ← ident true true
      expectSemicolon
      pure (some id.name)
  let ctx ← read
  let labels := (← get).labels
  let unknown := label.any fun l => !labels.contains l
  if isBreak then
    if unknown then noteAt .breakUnknownLabel word.span.lo
    else if !ctx.breakAllowed then noteAt .breakOutsideLoop word.span.lo
    return .breakStmt label
  else
    if !ctx.continueAllowed then noteAt .continueOutsideLoop word.span.lo
    else if unknown then noteAt .jumpCrossesFunction word.span.lo
    return .continueStmt label

/-- A labelled statement, after the colon. -/
def labeled (g : Grammar) (label : Ident) : ParseM Stmt :=
  withContext (fun ctx => { ctx with breakAllowed := true }) do
    let outer := (← get).labels
    modify fun s => { s with labels := label.name :: outer }
    let start ← position
    let body ←
      if (← atWord "function") then
        let f ← functionDecl g start false
        match f with
        | .fnDecl _ (.mk _ _ true _ _) => noteAt .labelledGeneratorOrAsync start
        | _ => pure ()
        pure f
      else g.statement false false
    if outer.contains label.name then noteAt (.duplicateLabel label.name) label.span.lo
    modify fun s => { s with labels := outer }
    return .labeled label.name body

def returnStatement (g : Grammar) : ParseM Stmt := do
  let word ← advance
  let arg ← if (← atSemicolon) then pure none else some <$> withIn g.expr
  expectSemicolon
  unless (← read).inFunction do noteAt .returnOutsideFunction word.span.lo
  return .returnStmt arg

def throwStatement (g : Grammar) : ParseM Stmt := do
  let _ ← advance
  if (← newlineBefore) then failHere .lineBreakAfterThrow
  else
    let arg ← withIn g.expr
    expectSemicolon
    return .throwStmt arg

-- ---------------------------------------------------------------------------
-- Branches
-- ---------------------------------------------------------------------------

def ifStatement (g : Grammar) : ParseM Stmt := do
  let _ ← advance
  let test ← condition g
  let cons ← g.statement false false
  let alt ← if (← eatWord "else") then some <$> g.statement false false else pure none
  return .ifStmt test cons alt

/-- The statements of a `switch` clause. -/
def caseBody (g : Grammar) : ParseM (List Stmt) :=
  itemsUntil
    (do return (← atClose "\x7d") || (← atWord "case") || (← atWord "default"))
    (do return [← g.statement true false])

def switchCases (g : Grammar) : ParseM (List Case) :=
  repeatFrom ([], false) fun (acc, hasDefault) => do
    if (← atWord "case") then
      let _ ← advance
      let test ← withIn g.expr
      expectPunct ":"
      return .again (.mk (some test) (← caseBody g) :: acc, hasDefault)
    else if (← atWord "default") then
      let word ← advance
      if hasDefault then failAt .multipleDefaults word.span.lo
      else
        expectPunct ":"
        return .again (.mk none (← caseBody g) :: acc, true)
    else return .done acc.reverse

def switchStatement (g : Grammar) : ParseM Stmt := do
  let _ ← advance
  let discriminant ← condition g
  expectPunct "\x7b"
  let cases ← withContext (fun ctx => { ctx with breakAllowed := true }) (switchCases g)
  expectPunct "\x7d"
  return .switch discriminant cases

def catchClause (g : Grammar) : ParseM (Option Catch) := do
  let start ← position
  if (← eatWord "catch") then
    let param ←
      if (← eatPunct "(") then
        let pat ← g.binding false
        expectPunct ")"
        pure (some pat)
      else pure none
    let body ← block g false
    return some (.mk (← spanFrom start) param body)
  else return none

def finallyBlock (g : Grammar) : ParseM (Option (List Stmt)) := do
  if (← eatWord "finally") then return some (← block g false) else return none

def tryStatement (g : Grammar) : ParseM Stmt := do
  let _ ← advance
  let body ← block g false
  let pos ← position
  let handler ← catchClause g
  let finalizer ← finallyBlock g
  if handler.isNone && finalizer.isNone then noteAt .catchOrFinallyExpected pos
  return .tryStmt body handler finalizer

/-- A `catch` or `finally` without its `try`, which is noted and passed over. -/
def strayHandler (g : Grammar) : ParseM Stmt := do
  noteHere .expectedSemicolon
  tryCatch (do let _ ← catchClause g) fun _ => pure ()
  tryCatch (do let _ ← finallyBlock g) fun _ => pure ()
  return .empty

-- ---------------------------------------------------------------------------
-- Expression statements
-- ---------------------------------------------------------------------------

/-- An expression that starts with `import`; other uses of the word belong to modules. -/
def importOrExport (g : Grammar) : ParseM Stmt := do
  let next := (← peek).token
  if (← atWord "import") && (next == .punct "(" || next == .punct ".") then
    let e ← withIn g.expr
    let _ ← eatSemicolon
    return .expr e
  else failHere .importExportInScript

/-- `await` at the start of a statement. -/
def awaitStatement (g : Grammar) (topLevel : Bool) : ParseM Stmt := do
  if topLevel then noteHere .topLevelAwait
  let e ← awaitExpr g true
  let e ← withIn (g.binaryRest e 0)
  let _ ← eatSemicolon
  return .expr e

/-- An expression statement or a labelled statement. -/
def exprStatement (g : Grammar) : ParseM Stmt := do
  let e ← withIn g.expr
  match e with
  | .ident id => if (← eatPunct ":") then return (← labeled g id)
  | _ => verify e
  if (← eatSemicolon) then return .expr e
  else match (← token) with
    | .punct p =>
      if (BinaryOp.ofPunct? p).isSome then
        noteHere .expectedSemicolon
        return .expr (← g.binaryRest e 0)
      else failHere .expectedSemicolonAfterExpr
    | _ => failHere .expectedSemicolonAfterExpr

-- ---------------------------------------------------------------------------
-- Statements
-- ---------------------------------------------------------------------------

/-- Notes a declaration where only statements are allowed. -/
def checkDeclaration (decls : Bool) : ParseM Unit := do
  unless decls do noteHere .declarationNotAllowed

/-- A statement that starts with a word. -/
def wordStatement (g : Grammar) (decls topLevel : Bool) (word : String) : ParseM Stmt := do
  let start ← position
  match word with
  | "import" | "export" => importOrExport g
  | "break" => jump true
  | "continue" => jump false
  | "debugger" =>
    let _ ← advance
    expectSemicolon
    return .debugger
  | "do" => doStatement g
  | "for" => forStatement g
  | "while" => whileStatement g
  | "if" => ifStatement g
  | "return" => returnStatement g
  | "switch" => switchStatement g
  | "throw" => throwStatement g
  | "try" => tryStatement g
  | "catch" | "finally" => strayHandler g
  | "with" =>
    let _ ← advance
    let object ← condition g
    return .withStmt object (← g.statement false false)
  | "function" =>
    checkDeclaration decls
    functionDecl g start false
  | "class" =>
    checkDeclaration decls
    classDecl g
  | "var" => varDeclaration g .var
  | "const" => if decls then varDeclaration g .const else exprStatement g
  | "let" => if decls && (← letDeclares) then varDeclaration g .letKind else exprStatement g
  | "await" => if decls || topLevel then awaitStatement g topLevel else exprStatement g
  | "async" =>
    let next ← peek
    if next.token == .word "function" && !next.newline then
      let _ ← advance
      functionDecl g start true
    else exprStatement g
  | _ => exprStatement g

/-- A statement, or a declaration where those are allowed. -/
def statement (g : Grammar) (decls topLevel : Bool) : ParseM Stmt := do
  match (← need) with
  | .word word => wordStatement g decls topLevel word
  | .punct "\x7b" => return .block (← block g false)
  | .punct ";" =>
    let _ ← advance
    return .empty
  | _ => exprStatement g

end Unbundle.Script.Parser

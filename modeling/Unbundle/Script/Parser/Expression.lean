-- SUMMARY: Expressions: literals, calls and member accesses, operators, assignments, arrow functions.
import Unbundle.Script.Parser.Function

/-!
# Expressions

The rules follow the levels of the grammar, the tightest first: primary expressions, member accesses
and calls, unary and postfix operators, binary operators, conditionals, assignments, commas.

An operand that cannot be parsed does not always stop the parser: before a binary operator it is
noted and left out, and so is the operand of a prefix operator.
-/

namespace Unbundle.Script.Parser

/-- Stands for an operand whose problem has been noted. -/
def missing : Expr := .hole

/-- An arrow function ends the expression it starts. -/
def isArrow : Expr → Bool
  | .arrow .. | .arrowExpr .. => true
  | _ => false

-- ---------------------------------------------------------------------------
-- Regular expressions
-- ---------------------------------------------------------------------------

/-- The number of characters of a regular expression after its first slash, the last slash included.
A slash between brackets or after a backslash does not end it. -/
def regexWidth? : (inClass escaped : Bool) → List Char → Option Nat
  | _, _, [] => none
  | inClass, escaped, c :: r =>
    if isLineTerminator c then none
    else if escaped then (regexWidth? inClass false r).map (· + 1)
    else if c == '\\' then (regexWidth? inClass true r).map (· + 1)
    else if c == '[' then (regexWidth? true false r).map (· + 1)
    else if c == ']' then (regexWidth? false false r).map (· + 1)
    else if c == '/' && !inClass then some 1
    else (regexWidth? inClass false r).map (· + 1)

/-- The first flag that an earlier one repeats. -/
def repeatedFlag? : List Char → Option Char
  | [] => none
  | c :: r => if r.contains c then some c else repeatedFlag? r

/-- A regular expression; the current token starts with its first slash. -/
def regex : ParseM Expr := do
  let start := (← get).cur.start
  match regexWidth? false false start.next.chars with
  | none =>
    let problem := ⟨.unterminatedRegex, start.pos⟩
    modify fun s => { s with cur := { s.cur with token := .bad problem } }
    throw problem
  | some width =>
    let body := start.skip (width + 1)
    let flags := body.chars.takeWhile Text.isIdentPart
    let after := body.skip flags.length
    match repeatedFlag? flags with
    | some flag => modify fun s =>
        { s with notes := ⟨.duplicatedRegexFlag flag, start.pos⟩ :: s.notes }
    | none => pure ()
    resumeAt start.pos after
    return .lit ⟨start.pos, after.pos⟩ (.regex (start.textTo after))

-- ---------------------------------------------------------------------------
-- Templates
-- ---------------------------------------------------------------------------

/-- A piece of template text: how long it is, whether an expression follows, and the first malformed
escape in it. -/
structure TemplateText where
  width : Nat
  exprNext : Bool
  bad : Option Reason
deriving Repr, Inhabited

/-- Puts `n` characters in front of a piece. -/
def TemplateText.prepend (n : Nat) (bad : Option Reason) (t : TemplateText) : TemplateText :=
  ⟨n + t.width, t.exprNext, bad.or t.bad⟩

/-- The reason why an escape cannot stand in a template. -/
def templateEscape? (text : List Char) : Option Reason :=
  match Escape.read text with
  | .chars .. => none
  | .octal .. => some .legacyOctalInStrict
  | .bad reason => some reason

/-- Reads template text up to the closing mark or an expression; `none` if neither comes. -/
def templateText? : List Char → Option TemplateText
  | [] => none
  | '`' :: _ => some ⟨0, false, none⟩
  | '$' :: '{' :: _ => some ⟨0, true, none⟩
  | '\\' :: c :: r => (templateText? r).map (·.prepend 2 (templateEscape? (c :: r)))
  | _ :: r => (templateText? r).map (·.prepend 1 none)

/-- Line breaks in a template are line feeds. -/
def unifyLineBreaks : List Char → List Char
  | '\r' :: '\n' :: r => '\n' :: unifyLineBreaks r
  | '\r' :: r => '\n' :: unifyLineBreaks r
  | c :: r => c :: unifyLineBreaks r
  | [] => []

/-- A template from its first mark on, which is the current token: pieces of text, and the
expressions between them. -/
def templateParts (g : Grammar) (isTagged : Bool) : ParseM (List String × List Expr) := do
  let start := (← get).cur
  repeatFrom (start, [], []) fun (mark, quasis, exprs) => do
    let text := mark.after
    match templateText? text.chars with
    | none =>
      let endPos := text.skip text.size
      resumeAt mark.span.lo endPos
      failAt .eof endPos.pos
    | some t =>
      match t.bad with
      | some reason => unless isTagged do failAt reason text.pos
      | none => pure ()
      let stop := text.skip t.width
      let raw := (text.textTo stop).toList
      let raw := String.ofList (if isTagged then raw else unifyLineBreaks raw)
      if t.exprNext then
        resumeAt stop.pos (stop.skip 2)
        let e ← withIn g.expr
        unless (← atPunct "\x7d") do failExpected "\x7d"
        return .again ((← get).cur, raw :: quasis, e :: exprs)
      else
        resumeAt stop.pos stop.next
        return .done ((raw :: quasis).reverse, exprs.reverse)

def template (g : Grammar) : ParseM Expr := do
  let start ← position
  let (quasis, exprs) ← templateParts g false
  return .template (← spanFrom start) quasis exprs

-- ---------------------------------------------------------------------------
-- Literals in brackets and braces
-- ---------------------------------------------------------------------------

/-- An argument or an array element. -/
def exprOrSpread (g : Grammar) : ParseM Expr := do
  let start ← position
  if (← eatPunct "...") then
    let e ← withIn g.assign
    return .spread (← spanFrom start) e
  else withIn g.assign

/-- Remembers the comma before the current token, which closes the literal that starts at `start`. -/
def recordTrailingComma (start : Nat) : ParseM Unit :=
  modify fun s => { s with trailingCommas := (start, s.prev.lo) :: s.trailingCommas }

def arrayLiteral (g : Grammar) : ParseM Expr := do
  let start := (← advance).span.lo
  let elems ← itemsUntil (atClose "]") do
    if (← eatPunct ",") then return [.hole]
    else
      let e ← exprOrSpread g
      unless (← atPunct "]") do
        expectPunct ","
        if (← atPunct "]") then recordTrailingComma start
      return [e]
  expectPunct "]"
  return .array (← spanFrom start) elems

/-- A method, getter or setter after its first word. -/
def accessorOrMethod (g : Grammar) (start : Nat) (word : String) : ParseM Property := do
  let isGenerator ← if word == "async" then eatPunct "*" else pure false
  let keyStart ← position
  let (key, _) ← propertyName g
  asMethod do
    match word with
    | "get" =>
      let (_, body) ← functionRest g false false (checkGetterParams keyStart)
      return .getter (← spanFrom start) key body
    | "set" =>
      let (params, body) ← functionRest g false false (checkSetterParams keyStart)
      return .setter (← spanFrom start) key (params.headD .hole) body
    | _ => return .method key (← functionFrom g start true isGenerator anyParams)

def property (g : Grammar) : ParseM Property := do
  let start ← position
  if (← eatPunct "...") then
    let e ← withIn g.assign
    return .spread (← spanFrom start) e
  else if (← eatPunct "*") then
    let (key, _) ← propertyName g
    return .method key (← asMethod (functionFrom g start false true anyParams))
  else
    let (key, word?) ← propertyName g
    if (← eatPunct ":") then return .keyValue key (← withIn g.assign)
    else if (← atPunct "(") then
      return .method key (← asMethod (functionFrom g start false false anyParams))
    else match word? with
      | none => failUnexpected "identifier"
      | some id =>
        if (← atAnyPunct ["=", ",", "\x7d"]) then
          if (← read).words.isReserved id.name then noteAt .reservedShorthand id.span.lo
          if (← eatPunct "=") then return .initialized id (← withIn g.assign)
          else return .shorthand id
        else if ["get", "set", "async"].contains id.name then accessorOrMethod g start id.name
        else failUnexpected "... , *,  (, [, :, , ?, = or an identifier"

def objectLiteral (g : Grammar) : ParseM Expr := do
  let start := (← advance).span.lo
  let props ← itemsUntil (eatPunct "\x7d") do
    let prop ← property g
    unless (← atPunct "\x7d") do
      expectPunct ","
      if (← atPunct "\x7d") then recordTrailingComma start
    return [prop]
  return .object (← spanFrom start) props

-- ---------------------------------------------------------------------------
-- Parentheses and arrow functions
-- ---------------------------------------------------------------------------

/-- Items between parentheses, with the place of a comma after the last. -/
def parenItems (g : Grammar) : ParseM (List Expr × Option Nat) := do
  expectPunct "("
  let result ← repeatFrom ([], none) fun (acc, comma) => do
    if (← atClose ")") then return .done (acc.reverse, comma)
    else
      let e ← exprOrSpread g
      if (← atPunct ")") then return .again (e :: acc, none)
      else
        expectPunct ","
        return .again (e :: acc, some (← get).prev.lo)
  expectPunct ")"
  return result

/-- Notes properties `x = v` of a parenthesized object. -/
def checkParenItem : Expr → ParseM Unit
  | .object _ props => props.forM fun
    | .initialized id _ => noteAt .initializedProperty id.span.lo
    | _ => pure ()
  | _ => pure ()

/-- The span of the first spread item. -/
def spreadItem? (items : List Expr) : Option Span :=
  items.findSome? fun | .spread _ e => some e.span | _ => none

/-- Parentheses: an arrow function if `=>` follows, else a grouped expression, or the arguments of
a call if `asyncWord` is the word `async` before them. -/
def parenOrArrow (g : Grammar) (canBeArrow : Bool) (asyncWord : Option Ident) : ParseM Expr := do
  let here ← position
  let start := match asyncWord with
    | some id => id.span.lo
    | none => here
  let (items, comma) ← withIn (parenItems g)
  if (← atPunct "=>") then
    if (← newlineBefore) then failHere .lineBreakBeforeArrow
    else if !canBeArrow then failHere .arrowNotAllowed
    else
      let _ ← advance
      let params ← toParams comma items
      arrowFrom g start asyncWord.isSome params
  else
    items.forM checkParenItem
    match asyncWord with
    | some id => return .call (← spanFrom start) (.ident id) items
    | none =>
      match items, spreadItem? items with
      | [], _ => failAt .emptyParen start
      | _, some span => failAt .spreadInParen span.lo
      | [e], none => return .paren (← spanFrom start) e
      | e :: rest, none =>
        let last := rest.getLastD e
        return .paren (← spanFrom start) (.seq (e.span.join last.span) (e :: rest))

/-- A variable, or an arrow function with a single parameter. -/
def identOrArrow (g : Grammar) (canBeArrow : Bool) : ParseM Expr := do
  let words := (← read).words
  let id ← ident (!words.inGenerator) (!words.inAsync)
  if canBeArrow && id.name == "async" && (← atIdent) && !(← newlineBefore) then
    let arrowNext := (← peek).token == .punct "=>"
    if (← read).forHead && (← atWord "of") && !arrowNext then
      unless (← read).forAwaitHead do noteAt .asyncInForOf id.span.lo
      return .ident id
    else
      let param ← bindingIdent false
      expectPunct "=>"
      arrowFrom g id.span.lo true [.ident param]
  else if canBeArrow && !(← newlineBefore) && (← atPunct "=>") then
    let _ ← advance
    arrowFrom g id.span.lo false [.ident id]
  else return .ident id

-- ---------------------------------------------------------------------------
-- Primary expressions
-- ---------------------------------------------------------------------------

/-- Reads a token that is a whole literal. -/
def literal (value : Lit) : ParseM Expr := do
  return .lit (← advance).span value

def functionExpr (g : Grammar) (start : Nat) (isAsync : Bool) : ParseM Expr := do
  let (name, function) ← functionHead g start isAsync true
  return .fn name function

/-- An expression that starts with a word. -/
def wordExpr (g : Grammar) (canBeArrow : Bool) (name : String) : ParseM Expr := do
  let start := (← get).cur.span.lo
  match name with
  | "this" => return .word (← advance).span .this
  | "null" => literal .null
  | "true" => literal (.bool true)
  | "false" => literal (.bool false)
  | "function" => functionExpr g start false
  | "class" =>
    let (name, cls) ← classFrom g true
    return .cls name cls
  | "async" =>
    let next ← peek
    if next.token == .word "function" && !next.newline then
      let _ ← advance
      functionExpr g start true
    else if canBeArrow && next.token == .punct "(" && !next.newline then
      let word ← advance
      parenOrArrow g canBeArrow (some ⟨"async", word.span⟩)
    else identOrArrow g canBeArrow
  | _ =>
    if name == "let" || (← atIdent) then identOrArrow g canBeArrow
    else failHere .expressionExpected

def primary (g : Grammar) : ParseM Expr := do
  let canBeArrow := (← get).arrowStart == some (← position)
  match (← token) with
  | .word name => wordExpr g canBeArrow name
  | .num raw => literal (.num raw)
  | .bigint raw => literal (.bigint raw)
  | .str raw value => literal (.str raw value)
  | .punct "[" => arrayLiteral g
  | .punct "\x7b" => objectLiteral g
  | .punct "(" => parenOrArrow g canBeArrow none
  | .punct "`" => template g
  | .punct "/" | .punct "/=" => regex
  | .punct "#" =>
    let id ← privateName
    return .privateName id.span id.name
  | .bad p => throw p
  | _ => failHere .expressionExpected

-- ---------------------------------------------------------------------------
-- Member accesses and calls
-- ---------------------------------------------------------------------------

/-- A list of arguments in parentheses. -/
def arguments (g : Grammar) : ParseM (List Expr) := do
  expectPunct "("
  let args ← repeatFrom [] fun acc => do
    if (← atClose ")") then return .done acc.reverse
    else
      unless acc.isEmpty do expectPunct ","
      if (← atPunct ")") then return .done acc.reverse
      else return .again ((← exprOrSpread g) :: acc)
  expectPunct ")"
  return args

/-- The links of an optional chain. -/
def isOptChain : Expr → Bool
  | .optMember .. | .optCall .. => true
  | _ => false

/-- A member access, which belongs to an optional chain if its object does. -/
def memberOf (span : Span) (questionDot : Bool) (object : Expr) (key : Key) : Expr :=
  if questionDot || isOptChain object then .optMember span questionDot object key
  else .member span object key

/-- A call, which belongs to an optional chain if its callee does. -/
def callOf (span : Span) (questionDot : Bool) (callee : Expr) (args : List Expr) : Expr :=
  if questionDot || isOptChain callee then .optCall span questionDot callee args
  else .call span callee args

/-- `super` may only be accessed where the enclosing method has one. -/
def checkSuperAccess (object : Expr) : ParseM Unit := do
  match object with
  | .word span .super => unless (← read).superAllowed do failAt .invalidSuper span.lo
  | _ => pure ()

/-- A property name after a dot. -/
def dottedKey (object : Expr) : ParseM Key := do
  if (← atPunct "#") then
    match object with
    | .word span .super => failAt .invalidSuperCall span.lo
    | _ => return .privateName (← privateName).name
  else return .named (← propertyWord).name

/-- What is left of a member access or a call when no further link follows. -/
def endLinks (callsForbidden : Bool) (e : Expr) : ParseM Expr := do
  match e with
  | .word _ .super => failHere (if callsForbidden then .invalidSuperCall else .invalidSuper)
  | .word _ .importCall => failHere .importArguments
  | e => return e

/-- The current token is `?.`, and a parenthesis follows it. -/
def atOptionalCall : ParseM Bool := do
  if (← atPunct "?.") then return (← peek).token == .punct "(" else return false

/-- A property access by name, after its dot. -/
def dotLink (start : Nat) (questionDot : Bool) (e : Expr) : ParseM Expr := do
  match e with
  | .word span .importCall =>
    noteAt .importMetaInScript span.lo
    let _ ← propertyWord
    return .ident ⟨"import.meta", ← spanFrom start⟩
  | _ =>
    let key ← dottedKey e
    checkSuperAccess e
    return memberOf (← spanFrom start) questionDot e key

/-- A property access by value, after its bracket. -/
def bracketLink (g : Grammar) (start : Nat) (questionDot : Bool) (e : Expr) : ParseM Expr := do
  checkSuperAccess e
  let key ← withIn g.expr
  expectPunct "]"
  return memberOf (← spanFrom start) questionDot e (.computed key)

/-- A call, whose parenthesis is the current token. -/
def callLink (g : Grammar) (start : Nat) (questionDot : Bool) (e : Expr) : ParseM Expr := do
  let args ← arguments g
  return callOf (← spanFrom start) questionDot e args

/-- A template with the tag `e`. -/
def templateLink (g : Grammar) (start : Nat) (e : Expr) : ParseM Expr := do
  let (quasis, exprs) ← templateParts g true
  if isOptChain e then noteAt .optionalChainTemplate start
  return .tagged (← spanFrom start) e quasis exprs

/-- A link that `?.` starts. -/
def optionalLink (g : Grammar) (start : Nat) (e : Expr) : ParseM Expr := do
  let _ ← advance
  if (← eatPunct "[") then bracketLink g start true e
  else if (← atPunct "(") then callLink g start true e
  else if (← atPunct "`") then failHere .optionalChainTemplate
  else dotLink start true e

/-- One more link after `e`, or none. -/
def link (g : Grammar) (start : Nat) (callsForbidden : Bool) (e : Expr) :
    ParseM (Turn Expr Expr) := do
  match (← token), e with
  | .punct "?.", _ =>
    if callsForbidden && (← atOptionalCall) then return .done (← endLinks callsForbidden e)
    else return .again (← optionalLink g start e)
  | .punct "[", _ =>
    let _ ← advance
    return .again (← bracketLink g start false e)
  | .punct ".", _ =>
    let _ ← advance
    return .again (← dotLink start false e)
  | .punct "(", _ =>
    if callsForbidden then return .done (← endLinks callsForbidden e)
    else return .again (← callLink g start false e)
  | .punct "`", .word _ .super | .punct "`", .word _ .importCall =>
    return .done (← endLinks callsForbidden e)
  | .punct "`", _ => return .again (← templateLink g start e)
  | _, _ => return .done (← endLinks callsForbidden e)

/-- The member accesses and, unless forbidden, calls that follow `e`. -/
def links (g : Grammar) (callsForbidden : Bool) (e : Expr) : ParseM Expr :=
  let start := e.span.lo
  repeatFrom e fun e => link g start callsForbidden e

/-- The expression contains an optional chain where a constructor is wanted. -/
def chainInConstructor? : Expr → Option Span
  | .optMember span .. | .optCall span .. => some span
  | .member _ object _ => if isOptChain object then some object.span else none
  | _ => none

/-- `new.target`, after the dot. -/
def newTarget (g : Grammar) (start : Nat) : ParseM Expr := do
  if (← eatWord "target") then
    unless (← read).newTargetAllowed do noteAt .newTargetOutsideFunction start
    links g true (.word (← spanFrom start) .newTarget)
  else failUnexpected "target"

/-- A member access without calls, or `new`. -/
def newOrMember (g : Grammar) : ParseM Expr := do
  let start ← position
  if (← eatWord "new") then
    if (← eatPunct ".") then newTarget g start
    else
      let callee ← g.newOrMember
      if isArrow callee then return callee
      else
        match chainInConstructor? callee with
        | some span => failAt .optionalChainInNew span.lo
        | none => if (← atOptionalCall) then failAt .optionalChainInNew callee.span.lo
        if (← atPunct "(") then
          let args ← arguments g
          links g true (.newCall (← spanFrom start) callee args)
        else return .newBare (← spanFrom start) callee
  else if (← atWord "super") then links g true (.word (← advance).span .super)
  else if (← atWord "import") then links g true (.word (← advance).span .importCall)
  else
    let e ← primary g
    if isArrow e then return e else links g true e

/-- A member access or a call. -/
def leftHandSide (g : Grammar) : ParseM Expr := do
  if (← atWord "super") then links g false (.word (← advance).span .super)
  else if (← atWord "import") then links g false (.word (← advance).span .importCall)
  else
    let e ← newOrMember g
    match e with
    | .newBare .. | .arrow .. | .arrowExpr .. => return e
    | _ => if (← atPunct "(") || (← atOptionalCall) then links g false e else return e

-- ---------------------------------------------------------------------------
-- Operators
-- ---------------------------------------------------------------------------

/-- Notes an operand of `++` or `--` that is neither variable nor property. -/
def checkUpdateTarget (e : Expr) : ParseM Unit := do
  unless e.isSimpleTarget do noteAt .notAssignable e.span.lo

def prefixOp? : Token → Option UnaryOp
  | .word "delete" => some .delete
  | .word "void" => some .void
  | .word "typeof" => some .typeof
  | .punct "+" => some .plus
  | .punct "-" => some .neg
  | .punct "~" => some .tilde
  | .punct "!" => some .not
  | _ => none

def updateOp? : Token → Option UpdateOp
  | .punct "++" => some .incr
  | .punct "--" => some .decr
  | _ => none

/-- `await` with its operand; alone, it is a name. -/
def awaitExpr (g : Grammar) (isStatement : Bool) : ParseM Expr := do
  let word ← advance
  let ctx ← read
  if (← atPunct "*") then failHere .awaitStar
  else if (← atAnyPunct [")", "]", ","]) || (← atSemicolon) then
    if ctx.words.inAsync then noteAt .reservedInAsync word.span.lo
    return .ident ⟨"await", word.span⟩
  else
    if !isStatement && ctx.topLevel then noteHere .topLevelAwait
    if ctx.inFunction && !ctx.words.inAsync then noteHere .awaitInFunction
    let e ← g.unary
    return .await (← spanFrom word.span.lo) e

/-- An operand: prefix operators, then a left-hand side, then a postfix operator. -/
def unary (g : Grammar) : ParseM Expr := do
  let start ← position
  let t ← token
  match prefixOp? t, updateOp? t with
  | some op, _ =>
    let _ ← advance
    let arg ← tryCatch g.unary fun problem => do
      note problem
      return missing
    return .unary (← spanFrom start) op arg
  | none, some op =>
    let _ ← advance
    let arg ← g.unary
    checkUpdateTarget arg
    return .update (← spanFrom start) op true arg
  | none, none =>
    if t == .word "await" then awaitExpr g false
    else
      let e ← g.leftHandSide
      if isArrow e || (← newlineBefore) then return e
      else match updateOp? (← token) with
        | some op =>
          checkUpdateTarget e
          let _ ← advance
          return .update (← spanFrom start) op false e
        | none => return e

/-- Logical operators, which do not mix with `??`. -/
def isLogical : Expr → Bool
  | .binary _ .and .. | .binary _ .or .. => true
  | _ => false

def isCoalesce : Expr → Bool
  | .binary _ .coalesce .. => true
  | _ => false

def isUnaryOrAwait : Expr → Bool
  | .unary .. | .await .. => true
  | _ => false

/-- The operators that follow the operand `left` and bind tighter than `least`. -/
def binaryRest (g : Grammar) (left : Expr) (least : Nat) : ParseM Expr :=
  repeatFrom left fun left => do
    match (← binaryOp?) with
    | none => return .done left
    | some op =>
      if op.precedence ≤ least then return .done left
      else if op == .exp && isUnaryOrAwait left then failHere .unaryBeforeExponent
      else
        let _ ← advance
        let operand ← g.unary
        let bound := if op == .exp then op.precedence - 1 else op.precedence
        let right ← g.binaryRest operand bound
        if op == .coalesce then
          if isLogical left then noteAt .mixedCoalesce left.span.lo
          if isLogical right then noteAt .mixedCoalesce right.span.lo
        let e : Expr := .binary (left.span.join right.span) op left right
        if isLogical e && isCoalesce left then noteAt .mixedCoalesce e.span.lo
        return .again e

/-- Operands joined by binary operators. A missing first operand before an operator is noted. -/
def binary (g : Grammar) : ParseM Expr := do
  let left ← tryCatch g.unary fun problem => do
    let _ ← need
    match (← binaryOp?) with
    | some _ =>
      noteHere .expressionExpected
      return missing
    | none => throw problem
  if isArrow left then return left else g.binaryRest left 0

/-- A conditional expression. -/
def conditional (g : Grammar) : ParseM Expr := do
  let start ← position
  let test ← binary g
  if isArrow test then return test
  else if (← eatPunct "?") then
    let cons ← withIn g.assign
    expectPunct ":"
    let alt ← g.assign
    return .cond (← spanFrom start) test cons alt
  else return test

/-- A token that an expression may start with. -/
def startsExpr : Token → Bool
  | .num _ | .bigint _ | .str .. => true
  | .punct p =>
    ["(", "[", "\x7b", "`", "!", "~", "+", "-", "++", "--", "#", "/", "/=", "..."].contains p
  | .word w =>
    !reservedWords.contains w ||
      ["new", "this", "super", "class", "function", "import", "typeof", "void", "delete", "null",
        "true", "false"].contains w
  | .eof | .bad _ => false

/-- `yield`, in a generator. -/
def yieldExpr (g : Grammar) : ParseM Expr := do
  let word ← advance
  let next ← token
  if (← atSemicolon) || !(next == .punct "*" || startsExpr next) then
    return .yield word.span false none
  else
    let delegate ← eatPunct "*"
    let e ← g.assign
    return .yield (← spanFrom word.span.lo) delegate (some e)

/-- Expressions that are never the target of an assignment, whatever follows. -/
def endsAssign : Expr → Bool
  | .cond .. | .binary .. | .unary .. | .update .. | .arrow .. | .arrowExpr .. => true
  | _ => false

/-- One expression without commas. -/
def assign (g : Grammar) : ParseM Expr := do
  if (← read).words.inGenerator && (← atWord "yield") then yieldExpr g
  else
    let first ← need
    let start ← position
    let arrow := match first with
      | .punct "(" => true
      | .word w => w == "yield" || w == "await" || w == "let" || !reservedWords.contains w
      | _ => false
    modify fun s => { s with arrowStart := if arrow then some start else none }
    let left ← conditional g
    if endsAssign left then return left
    else match (← token) with
      | .punct p =>
        match AssignOp.ofPunct? p with
        | none => return left
        | some op =>
          let target ← match op with
            | .plain => toTarget left
            | .compound _ => toCompoundTarget left
          let _ ← advance
          let value ← g.assign
          return .assign (← spanFrom start) op target value
      | _ => return left

/-- Expressions joined by commas. -/
def expr (g : Grammar) : ParseM Expr := do
  let start ← position
  let first ← g.assign
  if (← atPunct ",") then
    let rest ← itemsUntil (do return !(← atPunct ",")) do
      let _ ← advance
      return [← g.assign]
    return .seq (← spanFrom start) (first :: rest)
  else return first

end Unbundle.Script.Parser

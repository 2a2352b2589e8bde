-- SUMMARY: The parsing monad: the current token, noted problems, and the code around the current place.
import Unbundle.Script.Token.Lexer
import Unbundle.Script.Spelling

/-!
# Parsing monad

A parser reads tokens one at a time: the state holds the current token and nothing beyond it, because
how the next one is read depends on where the grammar stands. A fatal problem is thrown; a lesser
one is noted, and parsing goes on.

The grammar is recursive without end, so its entry points are bundled in `Grammar` and tied together
by depth in `Unbundle.Script.Parser`. Loops over a list of items are bounded by the text that is left.
-/

namespace Unbundle.Script.Parser

/-- What surrounds the current place. -/
structure Context where
  words : WordContext := {}
  topLevel : Bool := true
  inFunction : Bool := false
  inParams : Bool := false
  newTargetAllowed : Bool := false
  superAllowed : Bool := false
  breakAllowed : Bool := false
  continueAllowed : Bool := false
  /-- The operator `in` may stand here. -/
  includeIn : Bool := true
  forHead : Bool := false
  forAwaitHead : Bool := false
deriving Repr, Inhabited

structure State where
  cur : Lexeme
  /-- Where the token before the current one stands. -/
  prev : Span
  /-- Noted problems, the latest first. -/
  notes : List Problem
  /-- Labels of the enclosing statements of the current function. -/
  labels : List String
  /-- Where an arrow function may start. -/
  arrowStart : Option Nat
  /-- Literals that end in a comma: where they start, and where the comma stands. -/
  trailingCommas : List (Nat × Nat)
deriving Repr, Inhabited

abbrev ParseM := ReaderT Context (EStateM Problem State)

-- ---------------------------------------------------------------------------
-- Tokens
-- ---------------------------------------------------------------------------

def token : ParseM Token := do
  return (← get).cur.token

/-- Steps to the next token and answers with the one left behind. -/
def advance : ParseM Lexeme := do
  let ctx ← read
  let s ← get
  let next := Lexeme.read ctx.words s.cur.after false
  set { s with cur := next, prev := s.cur.span, notes := next.notes.reverse ++ s.notes }
  return s.cur

/-- The token after the current one. -/
def peek : ParseM Lexeme := do
  let ctx ← read
  return Lexeme.read ctx.words (← get).cur.after false

/-- Resumes behind a piece of text that the grammar read by itself. -/
def resumeAt (start : Nat) (after : Cursor) : ParseM Unit := do
  let ctx ← read
  let next := Lexeme.read ctx.words after false
  modify fun s =>
    { s with cur := next, prev := ⟨start, after.pos⟩, notes := next.notes.reverse ++ s.notes }

/-- Where the current token starts; at the end of the text, where the last token ends. -/
def position : ParseM Nat := do
  let s ← get
  return if s.cur.token == .eof then s.prev.hi else s.cur.span.lo

/-- Where a problem with the current token is reported: the end of the text counts for the token
before it. -/
def problemPosition : ParseM Nat := do
  let s ← get
  return if s.cur.token == .eof then s.prev.lo else s.cur.span.lo

/-- The span from `start` to the end of the token before the current one. -/
def spanFrom (start : Nat) : ParseM Span := do
  return ⟨start, (← get).prev.hi⟩

/-- A line break, or the end of the text, stands before the current token. -/
def newlineBefore : ParseM Bool := do
  let s ← get
  return s.cur.newline || s.cur.token == .eof

-- ---------------------------------------------------------------------------
-- Problems
-- ---------------------------------------------------------------------------

def failAt {α : Type} (reason : Reason) (pos : Nat) : ParseM α :=
  throw ⟨reason, pos⟩

/-- Stops with a problem of the current token. -/
def failHere {α : Type} (reason : Reason) : ParseM α := do
  failAt reason (← problemPosition)

/-- Stops because the current token is not one of the wanted ones. -/
def failUnexpected {α : Type} (wanted : String) : ParseM α := do
  failHere (.unexpected (← token).describe wanted)

/-- Notes a problem. A place that makes no token is passed over, and noted first. -/
def note (problem : Problem) : ParseM Unit := do
  match (← token) with
  | .bad p =>
    modify fun s => { s with notes := p :: s.notes }
    let _ ← advance
  | _ => pure ()
  modify fun s => { s with notes := problem :: s.notes }

def noteAt (reason : Reason) (pos : Nat) : ParseM Unit :=
  note ⟨reason, pos⟩

def noteHere (reason : Reason) : ParseM Unit := do
  noteAt reason (← problemPosition)

/-- The current token, which has to be there. -/
def need : ParseM Token := do
  match (← token) with
  | .eof => failAt .eof (← get).cur.span.lo
  | .bad p => throw p
  | t => return t

-- ---------------------------------------------------------------------------
-- Tests and expectations
-- ---------------------------------------------------------------------------

def atPunct (p : String) : ParseM Bool := do
  return (← token) == .punct p

def atWord (w : String) : ParseM Bool := do
  return (← token) == .word w

def atEof : ParseM Bool := do
  return (← token) == .eof

def atAnyPunct (ps : List String) : ParseM Bool := do
  match (← token) with
  | .punct p => return ps.contains p
  | _ => return false

def eatPunct (p : String) : ParseM Bool := do
  if (← atPunct p) then
    let _ ← advance
    return true
  else return false

def eatWord (w : String) : ParseM Bool := do
  if (← atWord w) then
    let _ ← advance
    return true
  else return false

/-- Stops because `wanted` is missing. -/
def failExpected {α : Type} (wanted : String) : ParseM α := do
  failHere (.expected wanted (← token).describe)

def expectPunct (p : String) : ParseM Unit := do
  unless (← eatPunct p) do failExpected p

def expectWord (w : String) : ParseM Unit := do
  unless (← eatWord w) do failExpected w

/-- A statement may end here. -/
def atSemicolon : ParseM Bool := do
  match (← token) with
  | .punct ";" | .punct "\x7d" | .eof => return true
  | _ => newlineBefore

/-- Ends a statement, if it may end here. -/
def eatSemicolon : ParseM Bool := do
  match (← token) with
  | .punct ";" =>
    let _ ← advance
    return true
  | _ => atSemicolon

def expectSemicolon : ParseM Unit := do
  unless (← eatSemicolon) do failExpected ";"

/-- The current token is a word that may name a variable here. -/
def atIdent : ParseM Bool := do
  match (← token) with
  | .word w => return !(← read).words.isReserved w
  | _ => return false

/-- The operator `in`, `instanceof` or a binary punctuator at the current token. -/
def binaryOp? : ParseM (Option BinaryOp) := do
  match (← token) with
  | .punct p => return BinaryOp.ofPunct? p
  | .word "instanceof" => return some .instanceOf
  | .word "in" => return if (← read).includeIn then some .inOp else none
  | _ => return none

-- ---------------------------------------------------------------------------
-- Context
-- ---------------------------------------------------------------------------

def withContext {α : Type} (f : Context → Context) (p : ParseM α) : ParseM α :=
  fun ctx => p (f ctx)

/-- Parses where the operator `in` may stand. -/
def withIn {α : Type} (p : ParseM α) : ParseM α :=
  withContext (fun ctx => { ctx with includeIn := true }) p

/-- Parses the body of a loop. -/
def withinLoop {α : Type} (p : ParseM α) : ParseM α :=
  withContext (fun ctx => { ctx with breakAllowed := true, continueAllowed := true }) p

/-- Parses what a function encloses: parameters if `params`, else the body. -/
def withinFunction {α : Type} (isAsync isGenerator isArrow params : Bool) (p : ParseM α) :
    ParseM α :=
  withContext
    (fun ctx => { ctx with
      words := { ctx.words with
        inAsync := isAsync, inGenerator := isGenerator, inStaticBlock := false }
      topLevel := false
      inFunction := if params then ctx.inFunction else true
      inParams := params
      newTargetAllowed := ctx.newTargetAllowed || !isArrow
      breakAllowed := false
      continueAllowed := false
      forHead := false })
    p

-- ---------------------------------------------------------------------------
-- Repetition
-- ---------------------------------------------------------------------------

/-- One turn of a loop: go on with a new state, or end with a result. -/
inductive Turn (σ α : Type) where
  | again (state : σ)
  | done (result : α)

def repeatBounded {σ α : Type} : Nat → (σ → ParseM (Turn σ α)) → σ → ParseM α
  | 0, _, _ => failHere .tooDeep
  | n + 1, turn, state => do
    match (← turn state) with
    | .again state' => repeatBounded n turn state'
    | .done result => return result

/-- Repeats `turn`, which consumes text each time it goes on. -/
def repeatFrom {σ α : Type} (state : σ) (turn : σ → ParseM (Turn σ α)) : ParseM α := do
  repeatBounded ((← get).cur.start.size + 2) turn state

/-- Reads items until `stop`; the items come in order. -/
def itemsUntil {α : Type} (stop : ParseM Bool) (item : ParseM (List α)) : ParseM (List α) :=
  repeatFrom [] fun acc => do
    if (← stop) then return .done acc.reverse
    else return .again ((← item).reverse ++ acc)

-- ---------------------------------------------------------------------------
-- The grammar's entry points
-- ---------------------------------------------------------------------------

/-- The parts of the grammar that others refer to. -/
structure Grammar where
  /-- Expressions joined by commas. -/
  expr : ParseM Expr
  /-- One expression without commas. -/
  assign : ParseM Expr
  /-- An operand of a binary operator. -/
  unary : ParseM Expr
  /-- The operators that follow an operand and bind tighter than a bound. -/
  binaryRest : Expr → Nat → ParseM Expr
  /-- What may follow `new`. -/
  newOrMember : ParseM Expr
  /-- A call or member access. -/
  leftHandSide : ParseM Expr
  /-- A name or a destructuring pattern that declares names. -/
  binding : (letForbidden : Bool) → ParseM Pat
  /-- A statement; declarations only where they are allowed. -/
  statement : (decls topLevel : Bool) → ParseM Stmt

end Unbundle.Script.Parser

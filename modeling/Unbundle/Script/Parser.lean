-- SUMMARY: Parsing a whole script.
import Unbundle.Script.Parser.Statement

/-!
# Parsing a script

`Script.parse` reads a text as a list of statements, or says where and why it is not one. The text
may start with a byte order mark, which does not count for positions, and a `#!` line.
-/

namespace Unbundle.Script

namespace Parser

/-- A grammar all of whose parts give up. -/
def Grammar.exhausted : Grammar where
  expr := failHere .tooDeep
  assign := failHere .tooDeep
  unary := failHere .tooDeep
  binaryRest _ _ := failHere .tooDeep
  newOrMember := failHere .tooDeep
  leftHandSide := failHere .tooDeep
  binding _ := failHere .tooDeep
  statement _ _ := failHere .tooDeep

/-- The grammar for constructs that nest up to a depth. -/
def grammar : Nat → Grammar
  | 0 => .exhausted
  | depth + 1 =>
    { expr := fun ctx s => expr (grammar depth) ctx s
      assign := fun ctx s => assign (grammar depth) ctx s
      unary := fun ctx s => unary (grammar depth) ctx s
      binaryRest := fun left least ctx s => binaryRest (grammar depth) left least ctx s
      newOrMember := fun ctx s => newOrMember (grammar depth) ctx s
      leftHandSide := fun ctx s => leftHandSide (grammar depth) ctx s
      binding := fun letForbidden ctx s => binding (grammar depth) letForbidden ctx s
      statement := fun decls topLevel ctx s => statement (grammar depth) decls topLevel ctx s }

/-- Statements up to the end of the text. -/
def statements (g : Grammar) : ParseM (List Stmt) := do
  let strict ← atUseStrict
  withContext (fun ctx => { ctx with words := { ctx.words with strict := strict } })
    (itemsUntil atEof do return [← g.statement true true])

/-- The start of the text, after a `#!` line. -/
def skipShebang (text : Cursor) : Cursor :=
  match text.chars with
  | '#' :: '!' :: r => text.skip ((r.takeWhile fun c => !isLineTerminator c).length + 2)
  | _ => text

/-- Every construct takes at least one character, and nests through at most eight parts of the
grammar. -/
def depthFor (text : Cursor) : Nat :=
  8 * (text.size + 8)

/-- The state before the first token. -/
def State.initial (text : Cursor) : State where
  cur := Lexeme.read {} (skipShebang text) true
  prev := ⟨text.pos, text.pos⟩
  notes := (Lexeme.read {} (skipShebang text) true).notes
  labels := []
  arrowStart := none
  trailingCommas := []

end Parser

/-- The text without a byte order mark at its start. -/
def dropMark (source : String) : String :=
  match source.toList with
  | '\ufeff' :: rest => String.ofList rest
  | _ => source

open Unbundle.Script.Parser in
/-- Reads a text as a script. `file` only appears in the error. -/
def parse (file source : String) : Except SyntaxError Script :=
  let source := dropMark source
  let text := Cursor.ofText source.toList
  let refuse (problem : Problem) : SyntaxError :=
    ⟨file, Location.ofPosition source problem.pos, problem.reason⟩
  let first := State.initial text
  match statements (grammar (depthFor text)) {} first with
  | .error problem _ => .error (refuse problem)
  | .ok body last =>
    match last.notes.getLast? with
    | some problem => .error (refuse problem)
    | none =>
      let lo := if (skipShebang text).pos == text.pos then first.cur.span.lo else text.pos
      .ok ⟨if first.cur.token == .eof then ⟨text.pos, text.pos⟩ else ⟨lo, last.prev.hi⟩, body⟩

end Unbundle.Script

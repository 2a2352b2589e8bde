-- SUMMARY: Tokens of a script, reserved words, and the cursor they are read from.
import Unbundle.Script.Numeral
import Unbundle.Script.Problem

/-!
# Tokens

A token is a word, a literal, a punctuator, the end of the text, or a place where the text makes no
token. Regular expressions and templates are not told apart from punctuators here: only the grammar
knows where they may start.
-/

namespace Unbundle.Script

/-- The text that is still to be read. -/
structure Cursor where
  chars : List Char
  pos : Nat
  /-- The number of characters that are left. -/
  size : Nat
deriving Repr, Inhabited

namespace Cursor

/-- The start of a text. -/
def ofText (text : List Char) : Cursor :=
  ⟨text, 1, text.length⟩

/-- Steps over one character. -/
def next (c : Cursor) : Cursor :=
  match c.chars with
  | [] => c
  | x :: r => ⟨r, c.pos + x.utf8Size, c.size - 1⟩

/-- Steps over `n` characters. -/
def skip : Nat → Cursor → Cursor
  | 0, c => c
  | n + 1, c => skip n c.next

/-- The text between two cursors of the same source. -/
def textTo (c d : Cursor) : String :=
  String.ofList (c.chars.take (c.size - d.size))

end Cursor

inductive Token where
  | word (name : String)
  | num (raw : String)
  | bigint (raw : String)
  | str (raw value : String)
  | punct (text : String)
  | eof
  | bad (problem : Problem)
deriving DecidableEq, Repr, Inhabited

/-- A token with its surroundings. -/
structure Lexeme where
  token : Token
  span : Span
  /-- A line break stands between this token and the one before. -/
  newline : Bool
  /-- Where the token's text starts. -/
  start : Cursor
  /-- What follows the token. -/
  after : Cursor
  /-- Lesser problems of the token's text. -/
  notes : List Problem
deriving Repr, Inhabited

-- ---------------------------------------------------------------------------
-- Words
-- ---------------------------------------------------------------------------

/-- What code around a word makes it reserved. -/
structure WordContext where
  strict : Bool := false
  inAsync : Bool := false
  inGenerator : Bool := false
  inStaticBlock : Bool := false
deriving DecidableEq, Repr, Inhabited

/-- Words that are never identifiers. -/
def reservedWords : List String :=
  ["break", "case", "catch", "continue", "debugger", "default", "do", "export", "else", "finally",
    "for", "function", "if", "return", "switch", "throw", "try", "var", "const", "while", "with",
    "new", "this", "super", "class", "extends", "import", "in", "instanceof", "typeof", "void",
    "delete", "null", "true", "false", "enum"]

/-- Words that strict code reserves. -/
def strictWords : List String :=
  ["let", "implements", "interface", "package", "private", "protected", "public"]

def WordContext.isReserved (ctx : WordContext) (name : String) : Bool :=
  reservedWords.contains name ||
    (name == "await" && (ctx.inAsync || ctx.inStaticBlock || ctx.strict)) ||
    (name == "yield" && (ctx.inGenerator || ctx.strict)) ||
    (strictWords.contains name && ctx.strict)

-- ---------------------------------------------------------------------------
-- Tokens in messages
-- ---------------------------------------------------------------------------

/-- Drops the zeros at the end of a row of digits. -/
def trimZeros (digits : List Char) : List Char :=
  (digits.reverse.dropWhile (· == '0')).reverse

/-- A number in positional notation without superfluous zeros. -/
def Numeral.positional (n : Numeral) : String :=
  let digits := Nat.toDigits 10 n.mantissa
  if 0 ≤ n.exponent then
    String.ofList digits ++ (if n.mantissa == 0 then "" else "".pushn '0' n.exponent.toNat)
  else
    let places := n.exponent.natAbs
    let padded := List.replicate (places + 1 - digits.length) '0' ++ digits
    let whole := padded.take (padded.length - places)
    match trimZeros (padded.drop (padded.length - places)) with
    | [] => String.ofList whole
    | fraction => String.ofList (whole ++ '.' :: fraction)

/-- A token as messages name it. -/
def Token.describe : Token → String
  | .word name => name
  | .num raw => s!"numeric literal ({(Numeral.ofText raw).positional}, {raw})"
  | .bigint raw => s!"bigint literal ({raw}, {raw})"
  | .str raw value => s!"string literal ({value}, {raw})"
  | .punct text => text
  | .eof => "<eof>"
  | .bad _ => "<lexing error>"

end Unbundle.Script

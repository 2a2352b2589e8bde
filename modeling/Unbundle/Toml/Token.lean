-- SUMMARY: Tokens of a TOML document.
import Unbundle.Toml.Problem

/-!
# Tokens

Tokens are read without regard to the grammar: a string that is not closed ends with its line (one
with triple quotes, with the document), and everything between punctuation and blank space is an
atom.
-/

namespace Unbundle.Toml

inductive TokenKind where
  | dot | equals | comma | leftSquare | rightSquare | leftCurly | rightCurly
  | blank | comment | newline
  | literal | basic | multiLiteral | multiBasic
  | atom | eof
deriving DecidableEq, Repr, Inhabited

structure Token where
  kind : TokenKind
  span : Span
  text : List Char
deriving DecidableEq, Repr, Inhabited

/-- The characters that end an atom. -/
def endsAtom (c : Char) : Bool :=
  ['.', '=', ',', '[', ']', '{', '}', ' ', '\t', '#', '\r', '\n'].contains c

/-- The width of a string of one line after its opening quote. A backslash escapes in strings between
double quotes. -/
def stringWidth (quote : Char) : List Char → Nat
  | [] => 0
  | '\\' :: c :: rest =>
    if quote == '"' && (c == '"' || c == '\\') then stringWidth quote rest + 2
    else if c == quote then 2
    else if c == '\n' then 1
    else if c == '\\' then stringWidth quote ('\\' :: rest) + 1
    else stringWidth quote rest + 2
  | c :: rest =>
    if c == quote then 1
    else if c == '\n' || (c == '\r' && rest.head? == some '\n') then 0
    else stringWidth quote rest + 1

/-- How many quotes, of two at most, stand at the start of a text. -/
def extraQuotes (quote : Char) : List Char → Nat
  | a :: b :: _ => if a == quote then (if b == quote then 2 else 1) else 0
  | [a] => if a == quote then 1 else 0
  | [] => 0

/-- The width of a string of several lines after its opening quotes. -/
def multiWidth (quote : Char) : List Char → Nat
  | [] => 0
  | '\\' :: c :: rest =>
    if quote == '"' then multiWidth quote rest + 2
    else multiWidth quote (c :: rest) + 1
  | a :: b :: c :: rest =>
    if a == quote && b == quote && c == quote then 3 + extraQuotes quote rest
    else multiWidth quote (b :: c :: rest) + 1
  | _ :: rest => multiWidth quote rest + 1

/-- The kind and the width of the token at the start of a text. -/
def tokenAt : List Char → TokenKind × Nat
  | [] => (.eof, 0)
  | '.' :: _ => (.dot, 1)
  | '=' :: _ => (.equals, 1)
  | ',' :: _ => (.comma, 1)
  | '[' :: _ => (.leftSquare, 1)
  | ']' :: _ => (.rightSquare, 1)
  | '{' :: _ => (.leftCurly, 1)
  | '}' :: _ => (.rightCurly, 1)
  | '\r' :: '\n' :: _ => (.newline, 2)
  | '\r' :: _ | '\n' :: _ => (.newline, 1)
  | '#' :: rest =>
    let body := rest.takeWhile (· != '\n')
    let body := if body.getLast? == some '\r' && body.length < rest.length then body.dropLast else body
    (.comment, body.length + 1)
  | '\'' :: '\'' :: '\'' :: rest => (.multiLiteral, multiWidth '\'' rest + 3)
  | '"' :: '"' :: '"' :: rest => (.multiBasic, multiWidth '"' rest + 3)
  | '\'' :: rest => (.literal, stringWidth '\'' rest + 1)
  | '"' :: rest => (.basic, stringWidth '"' rest + 1)
  | c :: rest =>
    if c == ' ' || c == '\t' then
      (.blank, (rest.takeWhile fun c => c == ' ' || c == '\t').length + 1)
    else (.atom, (rest.takeWhile (!endsAtom ·)).length + 1)

/-- The tokens of a text that starts at byte `pos`. Every token but the last has characters, so the
length of the text is enough fuel. -/
def tokensFrom : (fuel : Nat) → List Char → (pos : Nat) → List Token
  | 0, _, pos => [⟨.eof, ⟨pos, pos⟩, []⟩]
  | fuel + 1, text, pos =>
    match tokenAt text with
    | (.eof, _) => [⟨.eof, ⟨pos, pos⟩, []⟩]
    | (kind, width) =>
      let taken := text.take width
      let after := pos + byteSize taken
      ⟨kind, ⟨pos, after⟩, taken⟩ :: tokensFrom fuel (text.drop width) after

/-- The tokens of a document, without a byte order mark at its start. -/
def tokens (document : String) : List Token :=
  match document.toList with
  | '\ufeff' :: rest => tokensFrom rest.length rest 3
  | text => tokensFrom text.length text 0

end Unbundle.Toml

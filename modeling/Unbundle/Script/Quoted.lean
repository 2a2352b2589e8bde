-- SUMMARY: String literals: writing a text between single quotes, and reading the escapes of a literal.
import Unbundle.Script.Numeral
import Unbundle.Script.Problem

/-!
# Quoted text

`quote` writes a text as a single-quoted literal. `Escape.read` reads one escape sequence, and
`scan` reads the inside of a literal up to its closing quote.

An escape that names half of a surrogate pair denotes no character; it stands for its own source
text.
-/

namespace Unbundle.Script

-- ---------------------------------------------------------------------------
-- Writing
-- ---------------------------------------------------------------------------

/-- A character between single quotes: quotes, backslashes and line terminators are escaped. -/
def quoteChar : Char → List Char
  | '\\' => ['\\', '\\']
  | '\'' => ['\\', '\'']
  | '\n' => ['\\', 'n']
  | '\r' => ['\\', 'r']
  | '\u2028' => ['\\', 'u', '2', '0', '2', '8']
  | '\u2029' => ['\\', 'u', '2', '0', '2', '9']
  | c => [c]

/-- The single-quoted literal that denotes `value`. -/
def quote (value : String) : String :=
  String.ofList ('\'' :: value.toList.flatMap quoteChar ++ ['\''])

-- ---------------------------------------------------------------------------
-- Escapes
-- ---------------------------------------------------------------------------

def isLineTerminator (c : Char) : Bool :=
  c == '\n' || c == '\r' || c == '\u2028' || c == '\u2029'

/-- What an escape sequence denotes, and how many characters after the backslash it takes. -/
inductive Escape where
  | chars (value : List Char) (width : Nat)
  /-- An octal escape, which strict code does not have. -/
  | octal (value : List Char) (width : Nat)
  | bad (reason : Reason)
deriving Repr, Inhabited

/-- The number that the hexadecimal digits spell, if all are digits. -/
def hexValue? (digits : List Char) : Option Nat :=
  if digits.isEmpty then none
  else digits.foldl (fun n c => do return (← n) * 16 + (← digit? 16 c)) (some 0)

/-- The character with a code point; `none` for half of a surrogate pair. -/
def charOfPoint? (n : Nat) : Option Char :=
  if h : n.isValidChar then some (Char.ofNatAux n h) else none

namespace Escape

/-- The escape for code point `n`, written with the text `source`. -/
def ofPoint (n : Nat) (source : List Char) : Escape :=
  match charOfPoint? n with
  | some c => .chars [c] source.length
  | none => .chars ('\\' :: source) source.length

/-- An escape `\u…`, given what follows the `u`. -/
def readUnicode (text : List Char) : Escape :=
  match text with
  | '{' :: r =>
    let digits := r.takeWhile fun c => (digit? 16 c).isSome
    match hexValue? digits with
    | none => .bad (.badEscape "1-6 hex characters")
    | some n =>
      if 0x10ffff < n then .bad (.badEscape "1-6 hex characters in the range 0 to 10FFFF.")
      else if (r.drop digits.length).head? == some '}' then
        ofPoint n ('u' :: '{' :: digits ++ ['}'])
      else .bad .invalidUnicodeEscape
  | a :: b :: c :: d :: _ =>
    match hexValue? [a, b, c, d] with
    | some n => ofPoint n ['u', a, b, c, d]
    | none => .bad (.badEscape "4 hex characters")
  | _ => .bad (.badEscape "4 hex characters")

/-- An escape of up to three octal digits below 256, given its first digit `d` and what follows. -/
def readOctal (d : Nat) (text : List Char) : Escape :=
  match text.head?.bind (digit? 8), text.tail.head?.bind (digit? 8) with
  | none, _ => .octal [Char.ofNat d] 1
  | some d', none => .octal [Char.ofNat (d * 8 + d')] 2
  | some d', some d'' =>
    if d < 4 then .octal [Char.ofNat ((d * 8 + d') * 8 + d'')] 3
    else .octal [Char.ofNat (d * 8 + d')] 2

/-- One escape sequence, given what follows the backslash. -/
def read (text : List Char) : Escape :=
  match text with
  | [] => .chars [] 0
  | '\r' :: '\n' :: _ => .chars [] 2
  | 'n' :: _ => .chars ['\n'] 1
  | 'r' :: _ => .chars ['\r'] 1
  | 't' :: _ => .chars ['\t'] 1
  | 'b' :: _ => .chars ['\x08'] 1
  | 'v' :: _ => .chars ['\x0b'] 1
  | 'f' :: _ => .chars ['\x0c'] 1
  | 'x' :: r =>
    match hexValue? (r.take 2) with
    | some n => if 2 ≤ r.length then .chars [Char.ofNat n] 3 else .bad (.badEscape "2 hex characters")
    | none => .bad (.badEscape "2 hex characters")
  | 'u' :: r => readUnicode r
  | c :: r =>
    if isLineTerminator c then .chars [] 1
    else match digit? 8 c with
      | none => .chars [c] 1
      | some d =>
        if d == 0 && !(r.head?.any fun a => (digit? 8 a).isSome) then .chars ['\x00'] 1
        else readOctal d r

end Escape

-- ---------------------------------------------------------------------------
-- Reading
-- ---------------------------------------------------------------------------

/-- The inside of a literal. Places in it are counted in characters. -/
structure QuotedText where
  value : List Char
  /-- How many characters were read, the closing quote included. -/
  width : Nat
  closed : Bool
  /-- The place of the backslash of the first octal escape. -/
  octal : Option Nat
  /-- A malformed escape, and the place of its backslash. -/
  bad : Option (Reason × Nat)
deriving Repr, Inhabited

/-- Puts `value`, written with `width` characters, in front of what follows it. -/
def QuotedText.prepend (value : List Char) (width : Nat) (q : QuotedText) : QuotedText where
  value := value ++ q.value
  width := width + q.width
  closed := q.closed
  octal := q.octal.map (width + ·)
  bad := q.bad.map fun (reason, place) => (reason, width + place)

/-- Reads up to the closing `mark`. A literal breaks off at a line feed, a carriage return, the end
of the text or a malformed escape. Every step consumes text, so the length of the text is enough
fuel. -/
def scanQuoted (mark : Char) : (fuel : Nat) → List Char → QuotedText
  | 0, _ => ⟨[], 0, false, none, none⟩
  | fuel + 1, text =>
    match text with
    | [] => ⟨[], 0, false, none, none⟩
    | c :: r =>
      if c == mark then ⟨[], 1, true, none, none⟩
      else if c == '\n' || c == '\r' then ⟨[], 0, false, none, none⟩
      else if c == '\\' then
        match Escape.read r with
        | .chars value width => (scanQuoted mark fuel (r.drop width)).prepend value (width + 1)
        | .octal value width =>
          { (scanQuoted mark fuel (r.drop width)).prepend value (width + 1) with octal := some 0 }
        | .bad reason => ⟨[], 1, false, none, some (reason, 0)⟩
      else (scanQuoted mark fuel r).prepend [c] 1

/-- The value of a complete literal, quotes included. -/
def unquote? (literal : String) : Option String :=
  match literal.toList with
  | mark :: body =>
    if mark == '\'' || mark == '"' then
      let q := scanQuoted mark body.length body
      if q.closed && q.width == body.length then some (String.ofList q.value) else none
    else none
  | [] => none

end Unbundle.Script

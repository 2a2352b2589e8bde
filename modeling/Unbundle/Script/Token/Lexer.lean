-- SUMMARY: Reading tokens: blank space and comments, words, numbers, strings, punctuators.
import Unbundle.Script.Quoted
import Unbundle.Script.Token
import Unbundle.Text.Identifier

/-!
# The lexer

`Lexeme.read` reads the token at a cursor. It skips blank space and comments first; the comment
forms `<!--` and, at the start of a line, `-->` included.
-/

namespace Unbundle.Script

-- ---------------------------------------------------------------------------
-- Blank space
-- ---------------------------------------------------------------------------

/-- Blank characters that do not end a line. -/
def isBlank (c : Char) : Bool :=
  c == ' ' || c == '\t' || c == '\x0b' || c == '\x0c' || c == '\u00a0' || c == '\ufeff' ||
    c == '\u1680' || ('\u2000' ≤ c && c ≤ '\u200a') || c == '\u202f' || c == '\u205f' ||
    c == '\u3000'

/-- What the skipper is inside of. -/
inductive SkipMode where
  | code
  | lineComment
  /-- A block comment that starts at this place. -/
  | blockComment (start : Nat)
deriving DecidableEq, Repr, Inhabited

/-- Where blank space and comments end, counted in characters. -/
structure Skipped where
  place : Nat
  newline : Bool
  /-- Start of a block comment that is not closed. -/
  unclosed : Option Nat
deriving Repr, Inhabited

/-- Counts the characters of blank space and comments at the start of a text. `newline` tells whether
a line break was passed, and `place` how many characters were. -/
def skipBlank : SkipMode → List Char → (place : Nat) → (newline : Bool) → Skipped
  | .blockComment start, [], place, newline => ⟨place, newline, some start⟩
  | _, [], place, newline => ⟨place, newline, none⟩
  | .blockComment start, c :: r, place, newline =>
    match c, r with
    | '*', '/' :: r' => skipBlank .code r' (place + 2) newline
    | c, r => skipBlank (.blockComment start) r (place + 1) (newline || isLineTerminator c)
  | .lineComment, c :: r, place, newline =>
    if isLineTerminator c then skipBlank .code r (place + 1) true
    else skipBlank .lineComment r (place + 1) newline
  | .code, c :: r, place, newline =>
    match c, r with
    | '/', '/' :: r' => skipBlank .lineComment r' (place + 2) newline
    | '/', '*' :: r' => skipBlank (.blockComment place) r' (place + 2) newline
    | '<', '!' :: '-' :: '-' :: r' => skipBlank .lineComment r' (place + 4) newline
    | '-', '-' :: '>' :: r' =>
      if newline then skipBlank .lineComment r' (place + 3) newline else ⟨place, newline, none⟩
    | c, r =>
      if isLineTerminator c then skipBlank .code r (place + 1) true
      else if isBlank c then skipBlank .code r (place + 1) newline
      else ⟨place, newline, none⟩

-- ---------------------------------------------------------------------------
-- Words
-- ---------------------------------------------------------------------------

/-- The characters of a word, with escapes decoded. Places in it are counted in characters. -/
structure WordText where
  name : List Char
  /-- How many characters were read. -/
  width : Nat
  escaped : Bool
  /-- The place of an escape that names no identifier character. -/
  invalid : Option Nat
  /-- A malformed escape and its place. -/
  bad : Option (Reason × Nat)
deriving Repr, Inhabited

/-- Puts `value`, written with `width` characters, in front of the rest of a word. -/
def WordText.prepend (value : List Char) (width : Nat) (escaped invalid : Bool) (w : WordText) :
    WordText where
  name := value ++ w.name
  width := width + w.width
  escaped := escaped || w.escaped
  invalid := if invalid then some 0 else w.invalid.map (width + ·)
  bad := w.bad.map fun (reason, place) => (reason, width + place)

/-- Reads identifier characters; `first` tells whether the next one starts the word. Every step
consumes text, so the length of the text is enough fuel. -/
def scanWord : (fuel : Nat) → (first : Bool) → List Char → WordText
  | 0, _, _ => ⟨[], 0, false, none, none⟩
  | fuel + 1, first, text =>
    let allowed c := if first then Text.isIdentStart c else Text.isIdentPart c
    match text with
    | '\\' :: 'u' :: r =>
      match Escape.readUnicode r with
      | .chars value width | .octal value width =>
        (scanWord fuel false (r.drop (width - 1))).prepend value (width + 1) true
          (!value.all allowed)
      | .bad reason => ⟨[], 1, true, none, some (reason, 0)⟩
    | '\\' :: _ => ⟨[], 1, true, none, some (.expectedUnicodeEscape, 0)⟩
    | c :: r =>
      if allowed c then (scanWord fuel false r).prepend [c] 1 false false
      else ⟨[], 0, false, none, none⟩
    | [] => ⟨[], 0, false, none, none⟩

-- ---------------------------------------------------------------------------
-- Numbers
-- ---------------------------------------------------------------------------

/-- A row of digits, which `_` may group. -/
structure DigitRow where
  /-- How many characters it takes. -/
  width : Nat
  /-- At least one digit was read. -/
  any : Bool
  /-- Some `_` does not stand between two digits. -/
  misplaced : Bool
deriving Repr, Inhabited

/-- Reads digits of a base; `prev` tells whether the character before was a digit. -/
def scanDigits (base : Nat) : (prev : Bool) → List Char → DigitRow
  | _, [] => ⟨0, false, false⟩
  | prev, c :: r =>
    if c == '_' then
      let row := scanDigits base false r
      let between := prev && r.head?.any fun d => (digit? base d).isSome
      ⟨row.width + 1, row.any, row.misplaced || !between⟩
    else if (digit? base c).isSome then
      let row := scanDigits base true r
      ⟨row.width + 1, true, row.misplaced⟩
    else ⟨0, false, false⟩

def Cursor.digits (base : Nat) (c : Cursor) : DigitRow :=
  scanDigits base false c.chars

/-- A token before it is given its surroundings. -/
structure TokenText where
  token : Token
  after : Cursor
  notes : List Problem
deriving Repr, Inhabited

/-- A digit row's complaint about separators, reported where the row starts. -/
def DigitRow.notes (row : DigitRow) (start : Cursor) : List Problem :=
  if row.misplaced then [⟨.misplacedNumericSeparator, start.pos⟩] else []

/-- Ends a number at `after`: no identifier may follow directly. -/
def endNumber (token : Token) (after : Cursor) (notes : List Problem) : TokenText :=
  match after.chars with
  | c :: _ =>
    if Text.isIdentStart c || c == '\\' then
      ⟨.bad ⟨.identAfterNumber, after.pos⟩, after, notes⟩
    else ⟨token, after, notes⟩
  | [] => ⟨token, after, notes⟩

/-- A number with a base mark such as `0x`; `start` is at the zero. -/
def scanRadix (base : Nat) (kind : String) (start : Cursor) : TokenText :=
  let body := start.skip 2
  let row := body.digits base
  let after := body.skip row.width
  if !row.any then ⟨.bad ⟨.expectedDigit kind, body.pos⟩, after, row.notes body⟩
  else match after.chars with
    | 'n' :: _ => endNumber (.bigint (start.textTo after.next)) after.next (row.notes body)
    | _ => endNumber (.num (start.textTo after)) after (row.notes body)

/-- The exponent part of a decimal number, if there is one at `c`. -/
def scanExponent (start c : Cursor) (notes : List Problem) : TokenText :=
  let finish (after : Cursor) (notes : List Problem) :=
    endNumber (.num (start.textTo after)) after notes
  match c.chars with
  | e :: r =>
    if e == 'e' || e == 'E' then
      let digits := match r with
        | '+' :: _ | '-' :: _ => c.skip 2
        | _ => c.next
      let row := digits.digits 10
      if row.any then finish (digits.skip row.width) (notes ++ row.notes digits)
      else
        let reason := if r.isEmpty then .exponentWithoutDigits else .expectedDigit "a decimal"
        ⟨.bad ⟨reason, digits.pos⟩, digits, notes⟩
    else finish c notes
  | [] => finish c notes

/-- The fraction and exponent of a decimal number whose integer part ends at `c`. -/
def scanFraction (start c : Cursor) (notes : List Problem) : TokenText :=
  match c.chars with
  | '.' :: _ =>
    let row := c.next.digits 10
    scanExponent start (c.next.skip row.width) (notes ++ row.notes c.next)
  | _ => scanExponent start c notes

/-- A decimal number, or an octal number of the old form; `start` is at its first digit. -/
def scanDecimal (strict : Bool) (start : Cursor) : TokenText :=
  let row := start.digits 10
  let notes := row.notes start
  let after := start.skip row.width
  match after.chars with
  | 'n' :: _ => endNumber (.bigint (start.textTo after.next)) after.next notes
  | _ =>
    let text := start.textTo after
    if text.startsWith "0" && 1 < text.length then
      if text.toList.all fun c => c == '_' || (digit? 8 c).isSome then
        let octal := if strict then [⟨.legacyOctalInStrict, start.pos⟩] else []
        endNumber (.num text) after (notes ++ octal)
      else
        let decimal := if strict then [⟨.legacyDecimalInStrict, start.pos⟩] else []
        scanFraction start after (notes ++ decimal)
    else scanFraction start after notes

/-- The number at `start`, which is at a digit or at a point before a digit. -/
def scanNumber (strict : Bool) (start : Cursor) : TokenText :=
  match start.chars with
  | '0' :: 'x' :: _ | '0' :: 'X' :: _ => scanRadix 16 "a hexadecimal" start
  | '0' :: 'o' :: _ | '0' :: 'O' :: _ => scanRadix 8 "an octal" start
  | '0' :: 'b' :: _ | '0' :: 'B' :: _ => scanRadix 2 "a binary" start
  | '.' :: _ => scanFraction start start []
  | _ => scanDecimal strict start

-- ---------------------------------------------------------------------------
-- Punctuators
-- ---------------------------------------------------------------------------

/-- Punctuators, longer ones before their beginnings. -/
def punctuators : List String :=
  [">>>=", "...", "===", "!==", "**=", "<<=", ">>=", ">>>", "&&=", "||=", "??=", "=>", "==", "!=",
    "<=", ">=", "&&", "||", "??", "?.", "++", "--", "+=", "-=", "*=", "/=", "%=", "&=", "|=", "^=",
    "<<", ">>", "**", "\x7b", "\x7d", "(", ")", "[", "]", ";", ",", "<", ">", "+", "-", "*", "/",
    "%", "&", "|", "^", "!", "~", "?", ":", "=", "#", ".", "@", "`"]

/-- The longest punctuator at the start of `text`. A `?.` before a digit is a question mark. -/
def punctAt? (text : List Char) : Option String :=
  punctuators.find? fun p =>
    p.toList.isPrefixOf text &&
      !(p == "?." && ((text.drop 2).head?.any fun c => c.isDigit))

-- ---------------------------------------------------------------------------
-- Tokens
-- ---------------------------------------------------------------------------

/-- A word token. A reserved word may not be written with escapes. -/
def scanWordToken (ctx : WordContext) (start : Cursor) : TokenText :=
  let w := scanWord start.size true start.chars
  let after := start.skip w.width
  match w.bad with
  | some (reason, place) => ⟨.bad ⟨reason, (start.skip place).pos⟩, after, []⟩
  | none =>
    let name := String.ofList w.name
    if w.escaped && ctx.isReserved name then
      ⟨.bad ⟨.escapeInReservedWord name, start.pos⟩, after, []⟩
    else
      let notes := match w.invalid with
        | some place => [⟨.invalidIdentChar, (start.skip place).pos⟩]
        | none => []
      ⟨.word name, after, notes⟩

/-- A string token; `start` is at the quote `mark`. -/
def scanStringToken (strict : Bool) (mark : Char) (start : Cursor) : TokenText :=
  let body := start.next
  let q := scanQuoted mark body.size body.chars
  let after := body.skip q.width
  match q.bad with
  | some (reason, place) => ⟨.bad ⟨reason, (body.skip place).pos⟩, after, []⟩
  | none =>
    let octal := match q.octal with
      | some place => if strict then [⟨.legacyOctalInStrict, (body.skip place).pos⟩] else []
      | none => []
    let unclosed := if q.closed then [] else [⟨.unterminatedString, start.pos⟩]
    ⟨.str (start.textTo after) (String.ofList q.value), after, octal ++ unclosed⟩

/-- The token at `start`, where no blank space stands. -/
def scanToken (ctx : WordContext) (start : Cursor) : TokenText :=
  match start.chars with
  | [] => ⟨.eof, start, []⟩
  | c :: r =>
    if Text.isIdentStart c || c == '\\' then scanWordToken ctx start
    else if c.isDigit || (c == '.' && r.head?.any Char.isDigit) then scanNumber ctx.strict start
    else if c == '\'' || c == '"' then scanStringToken ctx.strict c start
    else match punctAt? start.chars with
      | some p => ⟨.punct p, start.skip p.length, []⟩
      | none => ⟨.bad ⟨.unexpectedChar c, start.pos⟩, start.next, []⟩

/-- The next token at or after `cursor`. -/
def Lexeme.read (ctx : WordContext) (cursor : Cursor) (newline : Bool) : Lexeme :=
  let skipped := skipBlank .code cursor.chars 0 newline
  let start := cursor.skip skipped.place
  match skipped.unclosed with
  | some place =>
    let problem := ⟨.unterminatedBlockComment, (cursor.skip place).pos⟩
    ⟨.bad problem, ⟨start.pos, start.pos⟩, skipped.newline, start, start, []⟩
  | none =>
    let t := scanToken ctx start
    ⟨t.token, ⟨start.pos, t.after.pos⟩, skipped.newline, start, t.after, t.notes⟩

end Unbundle.Script

-- SUMMARY: What quoted strings and keys of a TOML document denote.
import Unbundle.Toml.Written

/-!
# Quoted strings

Four kinds of strings: between single quotes nothing is escaped, between double quotes a backslash
escapes, and triple quotes allow line breaks. All functions walk the characters of a string and know
the byte they are at, so that a complaint can point to it.
-/

namespace Unbundle.Toml

/-- Characters that may stand for themselves: all but control characters other than the tab. -/
def isPlain (c : Char) : Bool :=
  c == '\t' || (' ' ≤ c && c != '\x7f')

/-- The end of a carriage return that stands alone. -/
def loneReturn (stop : Nat) : Problem :=
  .wanting "carriage return must be followed by newline" [.description "newline"] stop stop

-- ---------------------------------------------------------------------------
-- Escapes
-- ---------------------------------------------------------------------------

/-- What may follow a backslash. -/
def escapes : List Expected :=
  ["b", "e", "f", "n", "r", "\\", "\"", "x", "u", "U"].map .literal

/-- The value of a hexadecimal digit. -/
def hexDigit? (c : Char) : Option Nat :=
  if '0' ≤ c && c ≤ '9' then some (c.toNat - '0'.toNat)
  else if 'a' ≤ c && c ≤ 'f' then some (c.toNat - 'a'.toNat + 10)
  else if 'A' ≤ c && c ≤ 'F' then some (c.toNat - 'A'.toNat + 10)
  else none

/-- The character with a code point, unless that is half of a surrogate pair or too large. -/
def codePoint? (n : Nat) : Option Char :=
  if n.isValidChar then some (Char.ofNat n) else none

/-- A character given by `width` hexadecimal digits at the byte `pos`. -/
def hexEscape (width : Nat) (text : List Char) (pos : Nat) : Except Problem Char :=
  let digits := (text.take width).map hexDigit?
  let known := digits.takeWhile Option.isSome
  if known.length < width then
    .error (.wanting "too few unicode value digits" [.description "unicode hexadecimal value"]
      (pos + known.length) (pos + known.length))
  else
    match codePoint? (known.reduceOption.foldl (fun n d => 16 * n + d) 0) with
    | some c => .ok c
    | none => .error (.wanting "invalid value" [.description "unicode hexadecimal value"] pos pos)

/-- An escape, after its backslash: the character and how many characters it takes. -/
def escape (text : List Char) (pos : Nat) : Except Problem (Char × Nat) :=
  match text with
  | 'b' :: _ => .ok ('\x08', 1)
  | 'e' :: _ => .ok ('\x1b', 1)
  | 'f' :: _ => .ok ('\x0c', 1)
  | 'n' :: _ => .ok ('\n', 1)
  | 'r' :: _ => .ok ('\r', 1)
  | 't' :: _ => .ok ('\t', 1)
  | '\\' :: _ => .ok ('\\', 1)
  | '"' :: _ => .ok ('"', 1)
  | 'x' :: rest => (·, 3) <$> hexEscape 2 rest (pos + 1)
  | 'u' :: rest => (·, 5) <$> hexEscape 4 rest (pos + 1)
  | 'U' :: rest => (·, 9) <$> hexEscape 8 rest (pos + 1)
  | _ => .error (.wanting "missing escaped value" escapes pos pos)

-- ---------------------------------------------------------------------------
-- The four kinds
-- ---------------------------------------------------------------------------

/-- The inside of a string between single quotes. -/
def literalBody : List Char → (pos : Nat) → Except Problem (List Char)
  | [], _ => .ok []
  | c :: rest, pos => do
    if isPlain c && c != '\'' then
      return c :: (← literalBody rest (pos + c.utf8Size))
    else
      throw (.wanting "invalid literal string" [.description "non-single-quote visible characters"]
        pos pos)

/-- The inside of a string between triple single quotes. -/
def multiLiteralBody : List Char → (pos : Nat) → Except Problem (List Char)
  | [], _ => .ok []
  | c :: rest, pos => do
    if c == '\r' && rest.head? != some '\n' then throw (loneReturn (pos + 1))
    else if isPlain c || c == '\n' || c == '\r' then
      return c :: (← multiLiteralBody rest (pos + c.utf8Size))
    else
      throw (.wanting "invalid multi-line literal string"
        [.description "non-single-quote characters"] pos pos)

/-- The inside of a string between double quotes. -/
def basicBody : (fuel : Nat) → List Char → (pos : Nat) → Except Problem (List Char)
  | 0, _, _ | _, [], _ => .ok []
  | fuel + 1, c :: rest, pos => do
    if c == '\\' then
      let (found, width) ← escape rest (pos + 1)
      return found :: (← basicBody fuel (rest.drop width) (pos + 1 + width))
    else if isPlain c && c != '"' then
      return c :: (← basicBody fuel rest (pos + c.utf8Size))
    else
      let run := (c :: rest).takeWhile fun c => !(isPlain c && c != '"') && c != '\\'
      throw (.wanting "invalid basic string"
        [.description "non-double-quote visible characters", .literal "\\"] pos (pos + byteSize run))

/-- How many characters of blank space, line breaks included, stand at the start of a text. -/
def blankWidth : List Char → Nat
  | [] => 0
  | '\r' :: '\n' :: rest => blankWidth rest + 2
  | c :: rest => if c == ' ' || c == '\t' || c == '\n' then blankWidth rest + 1 else 0

/-- A line break that is escaped, after the backslash: all blank space up to the next visible
character is left out. Gives its width. -/
def escapedBreak (text : List Char) (pos : Nat) : Except Problem Nat :=
  let blanks := text.takeWhile fun c => c == ' ' || c == '\t'
  let stop := pos + blanks.length
  match text.drop blanks.length with
  | '\n' :: _ | '\r' :: '\n' :: _ => .ok (blankWidth text)
  | '\r' :: _ => .error (loneReturn (stop + 1))
  | _ => .error (.wanting "invalid multi-line basic string" [.description "newline"] stop stop)

/-- The inside of a string between triple double quotes. -/
def multiBasicBody : (fuel : Nat) → List Char → (pos : Nat) → Except Problem (List Char)
  | 0, _, _ | _, [], _ => .ok []
  | fuel + 1, c :: rest, pos => do
    if c == '\\' then
      if rest.head?.any fun c => c == ' ' || c == '\t' || c == '\r' || c == '\n' then
        let width ← escapedBreak rest (pos + 1)
        multiBasicBody fuel (rest.drop width) (pos + 1 + width)
      else
        let (found, width) ← escape rest (pos + 1)
        return found :: (← multiBasicBody fuel (rest.drop width) (pos + 1 + width))
    else if c == '\r' && rest.head? != some '\n' then throw (loneReturn (pos + 1))
    else if isPlain c || c == '\n' || c == '\r' then
      return c :: (← multiBasicBody fuel rest (pos + c.utf8Size))
    else
      throw (.wanting "invalid multi-line basic string"
        [.description "characters", .literal "\\"] pos (pos + c.utf8Size))

/-- Takes off the closing quotes of a string, of which `text` starts after the opening ones. -/
def unclosed? (what : String) (quotes : List Char) (text : List Char) (stop : Nat) :
    Except Problem (List Char) :=
  if quotes.isSuffixOf text then .ok (text.take (text.length - quotes.length))
  else .error (.wanting what [.literal (String.ofList quotes)] stop stop)

/-- Takes off a line break at the start of a text; gives the byte after it. -/
def skipBreak (text : List Char) (pos : Nat) : List Char × Nat :=
  match text with
  | '\n' :: rest => (rest, pos + 1)
  | '\r' :: '\n' :: rest => (rest, pos + 2)
  | _ => (text, pos)

/-- What a quoted string denotes. -/
def decodeString (kind : TokenKind) (text : List Char) (span : Span) : Except Problem String := do
  match kind with
  | .literal =>
    let body ← unclosed? "invalid literal string" ['\''] (text.drop 1) span.hi
    return String.ofList (← literalBody body (span.lo + 1))
  | .multiLiteral =>
    let (body, pos) := skipBreak (text.drop 3) (span.lo + 3)
    let body ← unclosed? "invalid multi-line literal string" ['\'', '\'', '\''] body span.hi
    return String.ofList (← multiLiteralBody body pos)
  | .basic =>
    let body ← unclosed? "invalid basic string" ['"'] (text.drop 1) span.hi
    return String.ofList (← basicBody body.length body (span.lo + 1))
  | .multiBasic =>
    let (body, pos) := skipBreak (text.drop 3) (span.lo + 3)
    let body ← unclosed? "invalid multi-line basic string" ['"', '"', '"'] body span.hi
    return String.ofList (← multiBasicBody body.length body pos)
  | _ => return String.ofList text

-- ---------------------------------------------------------------------------
-- Keys
-- ---------------------------------------------------------------------------

/-- A part of a key. -/
structure Key where
  name : String
  span : Span
deriving DecidableEq, Repr, Inhabited

/-- What a key without quotes consists of. -/
def keyCharacters : List Expected :=
  [.description "letters", .description "numbers", .literal "-", .literal "_"]

def isKeyChar (c : Char) : Bool :=
  c.isAlphanum || c == '-' || c == '_'

/-- What a key without quotes denotes: itself. -/
def decodeBareKey (key : WrittenKey) : Except Problem String :=
  if key.text.isEmpty then
    .error (.wanting "unquoted keys cannot be empty" keyCharacters key.span.lo key.span.lo)
  else
    let fine := key.text.takeWhile isKeyChar
    let stop := key.span.lo + byteSize fine
    if fine.length < key.text.length then
      .error (.wanting "invalid unquoted key" keyCharacters stop stop)
    else .ok (String.ofList key.text)

/-- What a part of a key denotes. -/
def decodeKey (key : WrittenKey) : Except Problem Key := do
  let oneLine := [Expected.description "basic string", .description "literal string"]
  let name ←
    match key.kind with
    | .literal | .basic => decodeString key.kind key.text key.span
    | .multiLiteral =>
      throw (.wanting "keys cannot be multi-line literal strings" oneLine key.span.lo key.span.hi)
    | .multiBasic =>
      throw (.wanting "keys cannot be multi-line basic strings" oneLine key.span.lo key.span.hi)
    | _ => decodeBareKey key
  return ⟨name, key.span⟩

end Unbundle.Toml

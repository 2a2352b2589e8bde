-- SUMMARY: The grammar of TOML documents: tables, keys and values as they are written.
import Unbundle.Toml.Token

/-!
# Written documents

A document is a list of lines: pairs of a key and a value, and headers of tables. Keys and values are
kept as they are written; what they denote is decided later.
-/

namespace Unbundle.Toml

/-- A part of a key, as it is written. -/
structure WrittenKey where
  kind : TokenKind
  text : List Char
  span : Span
deriving DecidableEq, Repr, Inhabited

/-- A value, as it is written. -/
inductive Written where
  | scalar (kind : TokenKind) (text : List Char) (span : Span)
  | array (span : Span) (items : List Written)
  | table (span : Span) (pairs : List (List WrittenKey × Written))
deriving Repr, Inhabited

inductive Line where
  | pair (key : List WrittenKey) (value : Written)
  /-- The header of a table; `isArray` if it adds to an array of tables. -/
  | header (isArray : Bool) (key : List WrittenKey) (span : Span)
deriving Repr, Inhabited

/-- Reads tokens, of which the last is the end of the document. -/
abbrev Reader := StateT (List Token) (Except Problem)

namespace Reader

def token : Reader Token := do
  return (← get).headD ⟨.eof, ⟨0, 0⟩, []⟩

def kind : Reader TokenKind := do
  return (← token).kind

def fail {α : Type} (what : String) (expected : List Expected) (span : Span) : Reader α :=
  throw (.wanting what expected span.lo span.hi)

/-- Comments have no control characters but tabs, and a carriage return is followed by a line feed. -/
def checkDecor (t : Token) : Reader Unit :=
  match t.kind with
  | .comment =>
    let fine := t.text.takeWhile fun c => c == '\t' || (' ' ≤ c && c != '\x7f')
    let stop := t.span.lo + byteSize fine
    if fine.length < t.text.length then
      fail "invalid comment character" [.description "printable characters"] ⟨stop, stop⟩
    else pure ()
  | .newline =>
    if t.text == ['\r'] then
      fail "carriage return must be followed by newline" [.description "newline"]
        ⟨t.span.hi, t.span.hi⟩
    else pure ()
  | _ => pure ()

/-- Steps over a token; the end of the document stays. -/
def advance : Reader Token := do
  let t ← token
  checkDecor t
  if t.kind != .eof then modify List.tail
  return t

/-- Complains about what is missing before a token. -/
def failBefore {α : Type} (what : String) (expected : List Expected) (t : Token) : Reader α :=
  fail what expected ⟨t.span.lo, t.span.lo⟩

def skipBlank : Reader Unit := do
  if (← kind) == .blank then
    let _ ← advance

/-- The rest of a line, where only a comment may stand. -/
def endLine : Reader Unit := do
  skipBlank
  if (← kind) == .comment then
    let _ ← advance
  let t ← token
  match t.kind with
  | .newline =>
    let _ ← advance
  | .eof => pure ()
  | _ => failBefore "unexpected key or value" [.description "newline", .literal "#"] t

end Reader

open Reader

/-- The kinds of tokens that can be a part of a key. -/
def TokenKind.isKey : TokenKind → Bool
  | .literal | .basic | .multiLiteral | .multiBasic | .atom => true
  | _ => false

/-- A key: parts with dots between them. A missing part is empty. -/
def readKey : (fuel : Nat) → Reader (List WrittenKey)
  | 0 => return []
  | fuel + 1 => do
    skipBlank
    let t ← token
    let part ←
      if t.kind.isKey then
        let _ ← advance
        pure ⟨t.kind, t.text, t.span⟩
      else pure ⟨.atom, [], ⟨t.span.lo, t.span.lo⟩⟩
    skipBlank
    if (← kind) == .dot then
      let _ ← advance
      return part :: (← readKey fuel)
    else return [part]

/-- An atom together with the dots and atoms that follow it, also those after a blank. -/
def readAtom : (fuel : Nat) → List Char → Span → Reader Written
  | 0, text, span => return .scalar .atom text span
  | fuel + 1, text, span => do
    match ← get with
    | t :: next :: rest =>
      if t.kind == .dot || t.kind == .atom then
        set (next :: rest)
        readAtom fuel (text ++ t.text) (span.join t.span)
      else if t.kind == .blank && next.kind == .atom then
        set rest
        readAtom fuel (text ++ t.text ++ next.text) (span.join next.span)
      else return .scalar .atom text span
    | _ => return .scalar .atom text span

mutual

def readValue : (fuel : Nat) → Reader Written
  | 0 => return .array ⟨0, 0⟩ []
  | fuel + 1 => do
    let t ← token
    match t.kind with
    | .equals => fail "extra `=`" [] t.span
    | .leftSquare =>
      let _ ← advance
      readItems fuel t.span true []
    | .leftCurly =>
      let _ ← advance
      readPairs fuel t.span true []
    | .rightSquare => failBefore "missing array opening" [.literal "["] t
    | .rightCurly => failBefore "missing inline table opening" [.literal "\x7b"] t
    | .dot | .atom =>
      let _ ← advance
      readAtom fuel t.text t.span
    | .literal | .basic | .multiLiteral | .multiBasic =>
      let _ ← advance
      return .scalar t.kind t.text t.span
    | .comma | .blank | .comment | .newline | .eof =>
      return .scalar .atom [] ⟨t.span.lo, t.span.lo⟩

/-- The items of an array; `needsItem` at its start and after a comma. -/
def readItems : (fuel : Nat) → Span → (needsItem : Bool) → List Written → Reader Written
  | 0, span, _, items => return .array span items.reverse
  | fuel + 1, span, needsItem, items => do
    let t ← token
    match t.kind with
    | .blank | .comment | .newline =>
      let _ ← advance
      readItems fuel span needsItem items
    | .eof => fail "unclosed array" [.literal "]"] t.span
    | .comma =>
      if needsItem then fail "extra comma in array" [.description "value"] t.span
      else
        let _ ← advance
        readItems fuel span true items
    | .equals => fail "unexpected `=` in array" [.description "value", .literal "]"] t.span
    | .rightSquare =>
      let _ ← advance
      return .array (span.join t.span) items.reverse
    | _ =>
      if needsItem then
        let item ← readValue fuel
        readItems fuel span false (item :: items)
      else failBefore "missing comma between array elements" [.literal ","] t

/-- The pairs of a table in braces. -/
def readPairs : (fuel : Nat) → Span → (needsPair : Bool) → List (List WrittenKey × Written) →
    Reader Written
  | 0, span, _, pairs => return .table span pairs.reverse
  | fuel + 1, span, needsPair, pairs => do
    let t ← token
    match t.kind with
    | .blank =>
      let _ ← advance
      readPairs fuel span needsPair pairs
    | .newline =>
      fail "newlines are unsupported in inline tables" [] t.span
    | .comment => fail "comments are unsupported in inline tables" [] t.span
    | .eof => fail "unclosed inline table" [.literal "\x7d"] t.span
    | .comma =>
      if needsPair then fail "extra comma in inline table" [.description "key"] t.span
      else
        let _ ← advance
        readPairs fuel span true pairs
    | .rightCurly =>
      if needsPair && !pairs.isEmpty then
        fail "trailing commas are not supported in inline tables" [] ⟨t.span.lo, t.span.lo⟩
      else
        let _ ← advance
        return .table (span.join t.span) pairs.reverse
    | _ =>
      if needsPair then
        let key ← readKey fuel
        if (← kind) == .equals then
          let _ ← advance
          skipBlank
          let value ← readValue fuel
          readPairs fuel span false ((key, value) :: pairs)
        else failBefore "missing value for key" [.literal "="] (← token)
      else failBefore "missing comma between key-value pairs" [.literal ","] t

end

/-- The header of a table, from its bracket on. -/
def readHeader (fuel : Nat) : Reader Line := do
  let opening ← advance
  let isArray := (← kind) == .leftSquare
  if isArray then
    let _ ← advance
  let key ← readKey fuel
  let t ← token
  let last := (key.getLast?.map (·.span.hi)).getD t.span.lo
  if t.kind != .rightSquare then
    if isArray then fail "unclosed array table" [.literal "]]"] ⟨last, last⟩
    else fail "unclosed table" [.literal "]"] ⟨last, last⟩
  else
    let _ ← advance
    if isArray then
      let second ← token
      if second.kind != .rightSquare then
        fail "unclosed array table" [.literal "]"] ⟨t.span.hi, t.span.hi⟩
      else
        let _ ← advance
        endLine
        return .header true key (opening.span.join second.span)
    else
      endLine
      return .header false key (opening.span.join t.span)

/-- A pair of a key and a value on a line of its own. -/
def readPair (fuel : Nat) : Reader Line := do
  let key ← readKey fuel
  let t ← token
  if t.kind != .equals then failBefore "key with no value" [.literal "="] t
  else
    let _ ← advance
    skipBlank
    let value ← readValue fuel
    endLine
    return .pair key value

/-- The lines of a document. -/
def readLines : (fuel : Nat) → Reader (List Line)
  | 0 => return []
  | fuel + 1 => do
    let t ← token
    match t.kind with
    | .eof => return []
    | .blank | .newline | .comment =>
      let _ ← advance
      readLines fuel
    | .leftSquare =>
      let line ← readHeader (fuel + 1)
      return line :: (← readLines fuel)
    | .rightSquare => failBefore "missing table open" [.literal "["] t
    | _ =>
      let line ← readPair (fuel + 1)
      return line :: (← readLines fuel)

/-- Reads a document as it is written. -/
def read (document : String) : Except Problem (List Line) :=
  let ts := tokens document
  (readLines (2 * ts.length + 2)).run' ts

end Unbundle.Toml

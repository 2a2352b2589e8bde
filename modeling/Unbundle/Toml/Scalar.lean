-- SUMMARY: What values without parts denote: strings, numbers, truth values, moments.
import Unbundle.Decimal.Shortest
import Unbundle.Toml.Moment
import Unbundle.Toml.Quoted

/-!
# Scalars

A value that is not quoted is recognized by its first character, and complaints follow from what it
seems to be.
-/

namespace Unbundle.Toml

/-- A real number as it is written. -/
inductive Real where
  /-- The number `mantissa * 10 ^ exponent`, or its negative. -/
  | finite (negative : Bool) (mantissa : Nat) (exponent : Int)
  | infinite (negative : Bool)
  | nan
deriving DecidableEq, Repr, Inhabited

/-- The shortest text of the nearest double; `none` if the number is too large for one. -/
def Real.text? : Real → Option String
  | .finite negative mantissa exponent =>
    (Decimal.text? mantissa exponent).map fun s => if negative then "-" ++ s else s
  | .infinite negative => some (if negative then "-inf" else "inf")
  | .nan => some "NaN"

/-- A value without parts. -/
inductive Scalar where
  | string (s : String)
  /-- A whole number; `none` if its digits do not make one. -/
  | integer (value : Option Int)
  | float (value : Real)
  | boolean (b : Bool)
  | moment
deriving DecidableEq, Repr, Inhabited

/-- The kind of a scalar, as messages name it. -/
def Scalar.kindName : Scalar → String
  | .string _ => "string"
  | .integer _ => "integer"
  | .float _ => "float"
  | .boolean _ => "boolean"
  | .moment => "datetime"

-- ---------------------------------------------------------------------------
-- Numbers
-- ---------------------------------------------------------------------------

namespace Atom

/-- A value without quotes, with the byte that it starts at. -/
structure Source where
  text : List Char
  span : Span
deriving Repr, Inhabited

/-- The byte where a rest of the value starts. -/
def Source.offset (a : Source) (rest : List Char) : Nat :=
  a.span.hi - byteSize rest

/-- The digits of a number in some radix; `none` if there are none or others. -/
def natOf? (radix : Nat) (ds : List Char) : Option Nat :=
  if ds.isEmpty then none
  else ds.foldl (fun n? d => do
    let n ← n?
    let v ← hexDigit? d
    if v < radix then some (radix * n + v) else none) (some 0)

/-- The whole number with an optional sign that a text denotes. -/
def intOf? : List Char → Option Int
  | '-' :: ds => (natOf? 10 ds).map fun n => -(n : Int)
  | '+' :: ds => (natOf? 10 ds).map Int.ofNat
  | ds => (natOf? 10 ds).map Int.ofNat

/-- The real number that a text of digits, a point and an exponent denotes. -/
def realOf (text : List Char) : Real :=
  let (negative, text) := match text with
    | '-' :: rest => (true, rest)
    | '+' :: rest => (false, rest)
    | _ => (false, text)
  let whole := text.takeWhile Char.isDigit
  let rest := text.drop whole.length
  let fraction := match rest with
    | '.' :: more => more.takeWhile Char.isDigit
    | _ => []
  let power := (text.dropWhile fun c => c != 'e' && c != 'E').drop 1
  .finite negative ((natOf? 10 (whole ++ fraction)).getD 0)
    ((intOf? power).getD 0 - (fraction.length : Int))

/-- A word that is no value. -/
def unquoted (a : Source) : Problem :=
  .wanting "string values must be quoted" [.description "literal string"] a.span.lo a.span.hi

-- ---------------------------------------------------------------------------
-- Places of underscores, zeros and digits
-- ---------------------------------------------------------------------------

/-- The parts of a text between underscores, each with what follows the part. -/
def parts : List Char → List (List Char × List Char)
  | [] => [([], [])]
  | '_' :: rest => ([], '_' :: rest) :: parts rest
  | c :: rest =>
    match parts rest with
    | (part, more) :: others => (c :: part, more) :: others
    | [] => [([c], [])]

/-- Complains about the first underscore without digits on both sides. -/
def checkUnderscores (a : Source) (isDigit : Char → Bool) (stream : List Char) :
    Except Problem Unit := do
  let complain (pos : Nat) : Except Problem Unit :=
    throw (.wanting "`_` may only go between digits" [] pos (pos + 1))
  if stream.contains '_' then
    if stream.head? == some '_' then complain (a.offset stream)
    if stream.getLast? == some '_' then complain (a.span.hi - 1)
    for (part, more) in parts stream do
      let stop := a.offset more
      let start := stop - byteSize part
      if a.span.lo < start && !part.head?.all isDigit then complain (start - 1)
      if 1 < part.length && !more.isEmpty && !part.getLast?.all isDigit then complain stop
      if part.isEmpty && a.span.lo < start && !more.isEmpty then complain (start - 1)

/-- Complains about a zero before other digits. -/
def leadingZero (a : Source) (value : List Char) : Problem :=
  .wanting "unexpected leading zero" [] (a.offset value) (a.offset value + 1)

/-- Digits and underscores; gives what follows them. -/
def checkDigits (a : Source) (value : List Char) (zeroFirst : Bool) (what : String) :
    Except Problem (List Char) :=
  let run := value.takeWhile fun c => c.isDigit || c == '_'
  let count := (run.filter Char.isDigit).length
  if count == 0 then
    .error (.wanting what [.description "digits"] (a.offset value) (a.offset value))
  else if 1 < count && value.head? == some '0' && !zeroFirst then .error (leadingZero a value)
  else .ok (value.drop run.length)

/-- Checks a number with a point or an exponent. -/
def checkFloat (a : Source) (value : List Char) : Except Problem Unit := do
  let rest ← checkDigits a value false "invalid mantissa"
  let rest ← match rest with
    | '.' :: more => checkDigits a more true "invalid fraction"
    | _ => pure rest
  let rest ← match rest with
    | 'e' :: '+' :: more | 'e' :: '-' :: more | 'E' :: '+' :: more | 'E' :: '-' :: more
    | 'e' :: more | 'E' :: more => checkDigits a more true "invalid exponent"
    | _ => pure rest
  if !rest.isEmpty then throw (.wanting "invalid float" [] (a.offset rest) a.span.hi)

/-- A number with a point or an exponent. -/
def float (a : Source) (value : List Char) : Except Problem Scalar := do
  checkFloat a value
  checkUnderscores a Char.isDigit a.text
  return .float (realOf (a.text.filter (· != '_')))

/-- A whole number of decimal digits. -/
def integer (a : Source) : Except Problem Scalar := do
  checkUnderscores a (fun c => (hexDigit? c).isSome) a.text
  return .integer (intOf? (a.text.filter (· != '_')))

/-- A whole number that starts with a digit or an underscore. -/
def whole (a : Source) (value : List Char) : Except Problem Scalar :=
  if value.head? == some '0' then .error (leadingZero a value) else integer a

/-- A date, a time, or both. -/
def moment (a : Source) : Except Problem Scalar :=
  match Moment.fault? a.text with
  | none => .ok .moment
  | some f => .error (.plain f.message a.span)

/-- A number or a moment: what follows the first digits decides. -/
def number (a : Source) (value : List Char) : Except Problem Scalar :=
  let rest := value.dropWhile Char.isDigit
  match rest.head? with
  | none => whole a value
  | some c =>
    if c == '-' || c == ':' then moment a
    else if rest.contains ' ' then .error (unquoted a)
    else if rest.any fun c => c == '.' || c == 'e' || c == 'E' then float a value
    else if c == '_' then whole a value
    else .error (unquoted a)

-- ---------------------------------------------------------------------------
-- Other radices
-- ---------------------------------------------------------------------------

/-- A way to write whole numbers. -/
structure Radix where
  mark : Char
  size : Nat
  name : String

def radices : List Radix :=
  [⟨'x', 16, "hexadecimal"⟩, ⟨'o', 8, "octal"⟩, ⟨'b', 2, "binary"⟩]

/-- The digits after the mark of a radix. -/
def radixed (a : Source) (r : Radix) (digits : List Char) : Except Problem Scalar := do
  let signs := ['+', '-']
  if digits.head?.any signs.contains then
    throw (.wanting "unexpected sign" [] (a.offset digits) (a.offset digits + 1))
  let isDigit (c : Char) := (hexDigit? c).any (· < r.size) || c == '_'
  let fine := digits.takeWhile isDigit
  match digits.drop fine.length with
  | c :: rest =>
    let stop := a.offset (c :: rest)
    throw ⟨⟨s!"invalid {r.name} number", none⟩, ⟨stop, stop + c.utf8Size⟩⟩
  | [] =>
    checkUnderscores a (fun c => (hexDigit? c).isSome) digits
    return .integer ((natOf? r.size (digits.filter (· != '_'))).map Int.ofNat)

/-- A value whose first digit is a zero. -/
def zero (a : Source) (value : List Char) (signed : Bool) : Except Problem Scalar := do
  match value with
  | _ :: c :: rest =>
    match radices.find? (fun r => r.mark == c.toLower) with
    | some r =>
      if signed then
        throw (.wanting "integers with a radix cannot be signed" [] a.span.lo (a.span.lo + 1))
      if c != r.mark then
        throw (.wanting "radix must be lowercase" [.literal (String.ofList ['0', r.mark])]
          (a.offset value) (a.offset value + 2))
      radixed a r rest
    | none =>
      if c == 'd' || c == 'D' then
        if signed then
          throw (.wanting "integers with a radix cannot be signed" [] a.span.lo (a.span.lo + 1))
        throw (.wanting "redundant integer number prefix" [] a.span.lo (a.span.lo + 2))
      else number a value
  | _ => integer a

-- ---------------------------------------------------------------------------
-- Values without quotes
-- ---------------------------------------------------------------------------

/-- A word that is spelled exactly. -/
def word (a : Source) (rest : List Char) (spelling what : String) (denoted : Scalar) :
    Except Problem Scalar :=
  if rest == spelling.toList then .ok denoted
  else .error (.wanting what [.literal spelling] (a.offset rest) a.span.hi)

/-- What follows a sign. -/
def signed (a : Source) (negative : Bool) (rest : List Char) : Except Problem Scalar :=
  match rest with
  | [] => .error (unquoted a)
  | c :: _ =>
    if c == '+' || c == '-' then
      .error (.wanting "redundant numeric sign" [] (a.offset rest) (a.offset rest + 1))
    else if c == '0' then zero a rest true
    else if c.isDigit || c == '_' then number a rest
    else if c == '.' then float a a.text
    else if c == 'i' || c == 'I' then
      word a rest "inf" "invalid float" (.float (.infinite negative))
    else if c == 'n' || c == 'N' then word a rest "nan" "invalid float" (.float .nan)
    else .error (unquoted a)

/-- What a value without quotes denotes. -/
def decode (a : Source) : Except Problem Scalar :=
  match a.text with
  | [] => .error (unquoted a)
  | c :: rest =>
    if c == '+' || c == '-' then signed a (c == '-') rest
    else if c == '0' then zero a a.text false
    else if c.isDigit || c == '_' then number a a.text
    else if c == '.' then float a a.text
    else if c == 't' || c == 'T' then word a a.text "true" "invalid boolean" (.boolean true)
    else if c == 'f' || c == 'F' then word a a.text "false" "invalid boolean" (.boolean false)
    else if c == 'i' || c == 'I' then
      word a a.text "inf" "invalid float" (.float (.infinite false))
    else if c == 'n' || c == 'N' then word a a.text "nan" "invalid float" (.float .nan)
    else .error (unquoted a)

end Atom

/-- What a value without parts denotes. -/
def decodeScalar (kind : TokenKind) (text : List Char) (span : Span) : Except Problem Scalar :=
  match kind with
  | .literal | .basic | .multiLiteral | .multiBasic => .string <$> decodeString kind text span
  | _ => Atom.decode ⟨text, span⟩

end Unbundle.Toml

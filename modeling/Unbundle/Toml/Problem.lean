-- SUMMARY: Why a TOML document is refused, and how that is shown.
import Unbundle.Source.Span

/-!
# Problems of a document

A problem points at a part of the document. It is shown with the line that it starts in, and carets
below the part.
-/

namespace Unbundle.Toml

/-- Something that could have stood in a place. -/
inductive Expected where
  | literal (text : String)
  | description (text : String)
deriving DecidableEq, Repr, Inhabited

def Expected.text : Expected → String
  | .literal s => s!"`{s}`"
  | .description s => s

/-- What is wrong. -/
structure Complaint where
  what : String
  /-- What could have stood there instead, if that is said. -/
  expected : Option (List Expected)
deriving DecidableEq, Repr, Inhabited

def Complaint.message (c : Complaint) : String :=
  match c.expected with
  | none => c.what
  | some [] => c.what ++ ", expected nothing"
  | some wanted => c.what ++ ", expected " ++ ", ".intercalate (wanted.map Expected.text)

/-- A complaint and the bytes it is about, counted from zero. -/
structure Problem where
  complaint : Complaint
  span : Span
deriving DecidableEq, Repr, Inhabited

/-- Where a byte of a document stands: its line, the text of the line, and the column, both counted
from zero. -/
structure Place where
  line : Nat
  content : List Char
  column : Nat
deriving Repr, Inhabited

/-- The lines of a text, each with the line feed that ends it. -/
def linesOf : List Char → List (List Char)
  | [] => []
  | c :: rest =>
    if c == '\n' then [c] :: linesOf rest
    else match linesOf rest with
      | [] => [[c]]
      | l :: ls => (c :: l) :: ls

/-- The number of bytes of a text. -/
def byteSize (text : List Char) : Nat :=
  text.foldl (fun size c => size + c.utf8Size) 0

namespace Place

/-- The column of the byte `target` of a line, given the bytes and characters before: characters are
counted, but bytes if the character there takes several. -/
def columnOf (target : Nat) : List Char → (bytes chars : Nat) → Nat
  | [], _, chars => chars
  | c :: rest, bytes, chars =>
    if target ≤ bytes then (if c.utf8Size == 1 then chars else bytes)
    else columnOf target rest (bytes + c.utf8Size) (chars + 1)

/-- Looks for the byte `target` in lines of which the first starts at `start`. The end of the text
belongs to the last line. -/
def find (target : Nat) : List (List Char) → (line start : Nat) → Place
  | [], line, start => ⟨line, [], target - start⟩
  | [l], line, start => ⟨line, l.filter (· != '\n'), columnOf (target - start) l 0 0⟩
  | l :: rest, line, start =>
    if target < start + byteSize l then
      ⟨line, l.filter (· != '\n'), columnOf (target - start) l 0 0⟩
    else find target rest (line + 1) (start + byteSize l)

end Place

namespace Problem

/-- A problem about a part of the document, with what could have stood there. -/
def wanting (what : String) (expected : List Expected) (lo hi : Nat) : Problem :=
  ⟨⟨what, some expected⟩, ⟨lo, hi⟩⟩

/-- A problem that says no more than what is wrong. -/
def plain (what : String) (span : Span) : Problem :=
  ⟨⟨what, none⟩, span⟩

/-- The problem with the line that it starts in. -/
def message (p : Problem) (document : String) : String :=
  let place := Place.find p.span.lo (linesOf document.toList) 0 0
  let number := toString (place.line + 1)
  let gutter := "".pushn ' ' (number.length + 1)
  let carets := min (p.span.hi - p.span.lo) (byteSize place.content - place.column)
  s!"TOML parse error at line {number}, column {place.column + 1}\n" ++
    s!"{gutter}|\n" ++
    s!"{number} | {String.ofList place.content}\n" ++
    s!"{gutter}|" ++ "".pushn ' ' (place.column + 1) ++ "".pushn '^' (max carets 1) ++ "\n" ++
    p.complaint.message ++ "\n"

end Problem
end Unbundle.Toml

-- SUMMARY: Indented text: pieces of text, line ends and indentation, and their rendering.

/-!
# Layouts

A layout is a list of pieces. Rendering writes text as it is, except that text at the start of a line
is preceded by four blanks per level of indentation. A line end at the start of a line does nothing,
so no blank lines arise; neither does empty text.
-/

namespace Unbundle.Text

inductive Piece where
  | text (s : String)
  /-- Ends the line, unless it is empty. -/
  | line
  | indent
  | dedent
deriving DecidableEq, Repr, Inhabited

abbrev Layout := List Piece

/-- What has been written, and where the pen stands. -/
structure Pen where
  written : String
  level : Nat
  lineStart : Bool
deriving DecidableEq, Repr, Inhabited

namespace Pen

def start : Pen := ⟨"", 0, true⟩

/-- The blanks of a level of indentation. -/
def blanks (level : Nat) : String :=
  "".pushn ' ' (4 * level)

def write (p : Pen) : Piece → Pen
  | .text s =>
    if s.isEmpty then p
    else
      let margin := if p.lineStart then blanks p.level else ""
      { p with written := p.written ++ margin ++ s, lineStart := false }
  | .line => if p.lineStart then p else { p with written := p.written.push '\n', lineStart := true }
  | .indent => { p with level := p.level + 1 }
  | .dedent => { p with level := p.level - 1 }

end Pen

namespace Layout

/-- The text of a layout. -/
def render (l : Layout) : String :=
  (l.foldl Pen.write .start).written

def ofText (s : String) : Layout := [.text s]

/-- Layouts with a separator between them. -/
def join (separator : Layout) : List Layout → Layout
  | [] => []
  | [l] => l
  | l :: rest => l ++ separator ++ join separator rest

/-- Layouts on one line, with a comma and a blank between them. -/
def commas (items : List Layout) : Layout :=
  join (ofText ", ") items

/-- A layout one level further in. -/
def nest (l : Layout) : Layout :=
  .indent :: l ++ [.dedent]

/-- Lines between two marks, one level further in. -/
def enclose (opening closing : String) (lines : List Layout) : Layout :=
  .text opening :: .line :: nest (join [.line] lines) ++ [.line, .text closing]

end Layout
end Unbundle.Text

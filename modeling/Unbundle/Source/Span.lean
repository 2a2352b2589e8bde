-- SUMMARY: Ranges of the source text and their positions as line and column.
import Unbundle.Text.Character

/-!
# Source positions

Positions are byte offsets into the UTF-8 text, counted from 1. A diagnostic shows them as line and
column: lines end at `\n`, columns count terminal cells, and one more for every character that takes
two units of UTF-16.
-/

namespace Unbundle

/-- A half-open range of the source text. -/
structure Span where
  lo : Nat
  hi : Nat
deriving DecidableEq, Repr, Inhabited, Hashable

namespace Span

/-- The span as log messages show it. -/
def text (s : Span) : String :=
  s!"{s.lo}..{s.hi}"

/-- The span from the start of `a` to the end of `b`. -/
def join (a b : Span) : Span :=
  ⟨a.lo, b.hi⟩

end Span

/-- A position for readers, both parts counted from 1. -/
structure Location where
  line : Nat
  column : Nat
deriving DecidableEq, Repr, Inhabited

namespace Location

/-- How far a character moves the column. -/
def columns (c : Char) : Nat :=
  Text.charWidth c + (if 0x10000 ≤ c.toNat then 1 else 0)

/-- Walks from position `at_` of `line`, where `cells` columns are already taken, to `target`. -/
def walk (target : Nat) : List Char → (at_ line cells : Nat) → Location
  | [], _, line, cells => ⟨line, cells + 1⟩
  | c :: rest, at_, line, cells =>
    if target ≤ at_ then ⟨line, cells + 1⟩
    else if c == '\n' then walk target rest (at_ + c.utf8Size) (line + 1) 0
    else walk target rest (at_ + c.utf8Size) line (cells + columns c)

/-- The location of the byte position `target` in `source`. -/
def ofPosition (source : String) (target : Nat) : Location :=
  walk target source.toList 1 1 0

end Location
end Unbundle

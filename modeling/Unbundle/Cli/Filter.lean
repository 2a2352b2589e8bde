-- SUMMARY: Which events are shown on the command line.
import Unbundle.Log
import Unbundle.Text.Character

/-!
# Filters

A filter is a list of directives. A directive sets how much is shown of the events whose source starts
with its name; the longest name wins. One without a name applies to all others.
-/

namespace Unbundle.Cli

structure Directive where
  name : Option String
  /-- The least important level that is shown; `none` shows nothing. -/
  level : Option Level
deriving DecidableEq, Repr, Inhabited

namespace Directive

/-- The directive concerns events of a source. -/
def applies (d : Directive) (source : String) : Bool :=
  match d.name with
  | none => true
  | some name => name.toList.isPrefixOf source.toList

/-- The length of the name. -/
def length (d : Directive) : Nat :=
  (d.name.map String.utf8ByteSize).getD 0

end Directive

abbrev Filter := List Directive

namespace Filter

/-- The words for levels. -/
def levels : List (String × Option Level) :=
  [("off", none), ("error", some .error), ("warn", some .warn), ("info", some .info),
    ("debug", some .debug), ("trace", some .trace)]

/-- The level that a word names, in any case of letters. -/
def levelOf? (word : String) : Option (Option Level) :=
  levels.lookup (String.ofList (word.toList.map Char.toLower))

/-- Replaces the directive of the same name, or adds it. -/
def add (f : Filter) (d : Directive) : Filter :=
  if f.any (·.name == d.name) then f.map fun old => if old.name == d.name then d else old
  else f ++ [d]

/-- Reads a directive; the error is the part that cannot be read. -/
def directive (text : String) : Except String Directive :=
  match text.splitOn "=" with
  | [word] =>
    match levelOf? word with
    | some level => .ok ⟨none, level⟩
    | none => .ok ⟨some word, some .trace⟩
  | [name, word] =>
    let word := Text.trimBlank word
    if word.isEmpty then .ok ⟨some name, some .trace⟩
    else match levelOf? word with
      | some level => .ok ⟨some name, level⟩
      | none => .error word
  | _ => .error text

/-- Adds the directives of a specification, and says which parts of it are ignored. -/
def parse (f : Filter) (spec : String) : Filter × List String :=
  match spec.splitOn "/" with
  | names :: rest =>
    if 1 < rest.length then (f, [s!"invalid logging spec '{spec}' (too many '/'s)"])
    else
      let texts := ((names.splitOn ",").map Text.trimBlank).filter (!·.isEmpty)
      texts.foldl (fun (f, ignored) text =>
        match directive text with
        | .ok d => (f.add d, ignored)
        | .error part => (f, ignored ++ [s!"invalid logging spec '{part}'"])) (f, [])
  | [] => (f, [])

/-- The directive for a source: the longest that applies, of equals the last. -/
def find? (f : Filter) (source : String) : Option Directive :=
  (f.filter (·.applies source)).foldl (fun best d =>
    match best with
    | none => some d
    | some b => if b.length ≤ d.length then some d else some b) none

/-- An event is shown. -/
def shows (f : Filter) (e : Event) : Bool :=
  match (f.find? e.source).bind (·.level) with
  | some level => e.isShown level
  | none => false

end Filter

/-- An event as a line on the command line; further lines of it are indented. -/
def eventLine (e : Event) : String :=
  let level := e.level.text
  let padded := level.pushn ' ' (5 - level.length)
  let message := "\n    ".intercalate (e.message.splitOn "\n")
  s!"[{padded} {e.source}] {message}"

end Unbundle.Cli

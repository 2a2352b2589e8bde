-- SUMMARY: One layer of the configuration: what a file or the command line sets.
import Unbundle.Config
import Unbundle.Text.Character
import Unbundle.Toml.Table

/-!
# Layers

A layer sets some of the settings. Layers are put on top of each other, and the last one that sets a
setting wins. A layer is read from a TOML document, all of it or nothing.
-/

namespace Unbundle.Config

/-- What a layer sets. -/
structure Layer where
  outputFolder : Option String := none
  dry : Option Bool := none
  clean : Option Bool := none
  /-- The limit as it is written. -/
  limit : Option Int := none
  prettier : Option Bool := none
  logging : Option Logging := none
deriving DecidableEq, Repr, Inhabited

/-- Puts a layer on top. -/
def apply (c : Config) (layer : Layer) : Config where
  outputFolder := layer.outputFolder.or c.outputFolder
  dry := layer.dry.getD c.dry
  clean := layer.clean.getD c.clean
  prettier := layer.prettier.getD c.prettier
  limit := (layer.limit.map limitOfInt).getD c.limit
  logging := layer.logging.getD c.logging

-- ---------------------------------------------------------------------------
-- Settings of a document
-- ---------------------------------------------------------------------------

namespace Layer

open Toml

/-- The least number that takes more than this many bits. -/
def wide (bits : Nat) : Int := Int.ofNat (Nat.pow 2 bits)

/-- The least number that a setting can hold. -/
def leastInteger : Int := -wide 63

/-- The word that holds a whole number which is too large for the usual ones. -/
def wideWord (n : Int) : String :=
  if n < leastInteger || wide 64 ≤ n then (if n < wide 127 then " as i128" else " as u128") else ""

/-- What a value is, for a complaint about its type. -/
def describe : Value → String
  | .scalar (.string s) => s!"string {Text.escaped false s}"
  | .scalar (.integer n?) =>
    let n := n?.getD 0
    s!"integer `{n}`{wideWord n}"
  | .scalar (.float r) =>
    let text := r.text?.getD ""
    s!"floating point `{text}`"
  | .scalar (.boolean b) => s!"boolean `{b}`"
  | .scalar .moment | .table .. => "map"
  | .array .. => "sequence"

/-- A number that no word can hold. -/
def overflow? : Value → Option String
  | .scalar (.integer none) => some "integer number overflowed"
  | .scalar (.integer (some n)) =>
    if n < -wide 127 || wide 128 ≤ n then some "integer number overflowed" else none
  | .scalar (.float r) => if r.text?.isNone then some "floating-point number overflowed" else none
  | _ => none

/-- A complaint about the type of a value. -/
def wrongType (wanted : String) (span : Span) (value : Value) : Problem :=
  match overflow? value with
  | some what => .plain what span
  | none => .plain s!"invalid type: {describe value}, expected {wanted}" span

def readFolder (span : Span) : Value → Except Problem String
  | .scalar (.string s) => .ok s
  | value => .error (wrongType "path string" span value)

def readFlag (span : Span) : Value → Except Problem Bool
  | .scalar (.boolean b) => .ok b
  | value => .error (wrongType "a boolean" span value)

def readLimit (span : Span) (value : Value) : Except Problem Int :=
  match value with
  | .scalar (.integer (some n)) =>
    if leastInteger ≤ n && n < wide 63 then .ok n
    else if wide 63 ≤ n && n < wide 64 then
      .error (.plain s!"invalid value: integer `{n}`, expected i64" span)
    else .error (wrongType "i64" span value)
  | value => .error (wrongType "i64" span value)

/-- A word for how much is logged. -/
def loggingOf (word : String) (span : Span) : Except Problem Logging :=
  if word == "none" then .ok .none
  else if word == "verbose" then .ok .verbose
  else .error (.plain s!"unknown variant `{word}`, expected `none` or `verbose`" span)

/-- The value below a word in a table holds nothing. -/
def checkHollow (span : Span) : Value → Except Problem Unit
  | .array _ [] | .table _ [] => .ok ()
  | .array .. => .error (.plain "expected empty array" span)
  | .table .. => .error (.plain "expected empty table" span)
  | .scalar s => .error (.plain s!"expected table, found {s.kindName}" span)

/-- How much is logged: a word, or a table with the word as its only key. -/
def readLogging (span : Span) : Value → Except Problem Logging
  | .scalar (.string word) => loggingOf word span
  | .table _ [] => .error (.plain "wanted exactly 1 element, found 0 elements" span)
  | .table _ [(key, below, value)] => do
    let logging ← loggingOf key.name key.span
    checkHollow below value
    return logging
  | .table .. => .error (.plain "wanted exactly 1 element, more than 1 element" span)
  | _ => .error (.plain "wanted string or table" span)

/-- The keys of a document. -/
def fields : List String :=
  ["output-folder", "dry", "clean", "limit", "prettier", "logging"]

def unknownField (key : Key) : Problem :=
  let known := ", ".intercalate (fields.map fun f => s!"`{f}`")
  .plain s!"unknown field `{key.name}`, expected one of {known}" key.span

/-- Takes over an entry of a document. -/
def addEntry (layer : Layer) : Entry → Except Problem Layer
  | (key, span, value) => do
    match key.name with
    | "output-folder" => return { layer with outputFolder := some (← readFolder span value) }
    | "dry" => return { layer with dry := some (← readFlag span value) }
    | "clean" => return { layer with clean := some (← readFlag span value) }
    | "limit" => return { layer with limit := some (← readLimit span value) }
    | "prettier" => return { layer with prettier := some (← readFlag span value) }
    | "logging" => return { layer with logging := some (← readLogging span value) }
    | _ => throw (unknownField key)

/-- The entries of a table in the order of their keys. -/
def sorted (entries : List Entry) : List Entry :=
  entries.mergeSort fun a b => !decide (b.1.name < a.1.name)

/-- The layer that a document describes. Its entries are checked in the order of their keys. -/
def ofDocument (document : String) : Except Problem Layer := do
  let table ← Table.ofDocument document
  (sorted table.entries).foldlM addEntry {}

end Layer

/-- Puts a document on top of the settings; if it is refused, says why. -/
def applyDocument (c : Config) (document : String) : Except String Config :=
  match Layer.ofDocument document with
  | .ok layer => .ok (c.apply layer)
  | .error problem => .error (problem.message document)

/-- Why a run without an output folder is refused. -/
def noOutputFolder : String :=
  "No output folder configured; pass --output or set `output-folder`"

end Unbundle.Config

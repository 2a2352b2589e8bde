-- SUMMARY: Which dates and times of a TOML document are well formed.

/-!
# Dates and times

A moment is a date, a time, or both with an optional offset. No setting is a moment, so all that
matters is whether it is well formed, and if not, what is wrong.
-/

namespace Unbundle.Toml.Moment

/-- What is wrong with a moment: which part of it, and what was expected there. -/
structure Fault where
  part : Option String
  expected : Option String
deriving DecidableEq, Repr, Inhabited

def Fault.message (f : Fault) : String :=
  "invalid " ++ f.part.getD "datetime" ++ (f.expected.map (", expected " ++ ·)).getD ""

/-- A run of digits, or a single other character. -/
inductive Piece where
  | digits (ds : List Char)
  | mark (c : Char)
deriving DecidableEq, Repr, Inhabited

def pieces : List Char → List Piece
  | [] => []
  | c :: rest =>
    if c.isDigit then
      match pieces rest with
      | .digits ds :: more => .digits (c :: ds) :: more
      | more => .digits [c] :: more
    else .mark c :: pieces rest

abbrev Reader := StateT (List Piece) (Except Fault)

/-- Reads a run of digits. -/
def number (part : Option String) (expected : String) : Reader (List Char) := do
  match ← get with
  | .digits ds :: rest =>
    set rest
    return ds
  | _ => throw ⟨part, some expected⟩

/-- Reads one of some characters. -/
def mark (cs : List Char) (part : Option String) (expected : String) : Reader Char := do
  match ← get with
  | .mark c :: rest =>
    if cs.contains c then
      set rest
      return c
    else throw ⟨part, some expected⟩
  | _ => throw ⟨part, some expected⟩

def value (ds : List Char) : Nat :=
  ds.foldl (fun n d => 10 * n + (d.toNat - '0'.toNat)) 0

/-- Checks the width of a run of digits. -/
def checkWidth (ds : List Char) (width : Nat) (part expected : String) : Reader Unit :=
  if ds.length != width then throw ⟨some part, some expected⟩ else pure ()

/-- Checks that a number is in a range. -/
def checkRange (ds : List Char) (least most : Nat) (part expected : String) : Reader Unit :=
  if value ds < least || most < value ds then throw ⟨some part, some expected⟩ else pure ()

def isLeap (year : Nat) : Bool :=
  year % 4 == 0 && (year % 100 != 0 || year % 400 == 0)

def daysIn (year month : Nat) : Nat :=
  if month == 2 then (if isLeap year then 29 else 28)
  else if month == 4 || month == 6 || month == 9 || month == 11 then 30
  else 31

/-- The rest of a date, after its year and a dash. -/
def date (year : List Char) : Reader Unit := do
  let month ← number (some "date") "month"
  let _ ← mark ['-'] (some "date") "`-` (MM-DD)"
  let day ← number (some "date") "day"
  checkWidth year 4 "date" "a four-digit year (YYYY)"
  checkWidth month 2 "date" "a two-digit month (MM)"
  checkWidth day 2 "date" "a two-digit day (DD)"
  checkRange month 1 12 "date" "month between 01 and 12"
  let days := daysIn (value year) (value month)
  checkRange day 1 days "date" s!"day between 01 and {days}"

/-- A time of the day. -/
def time : Reader Unit := do
  let hour ← number (some "time") "hour"
  let _ ← mark [':'] (some "time") "`:` (HH:MM)"
  let minute ← number (some "time") "minute"
  let _ ← mark [':'] (some "time") "`:` (MM:SS)"
  let second ← number (some "time") "second"
  if (← get).head? == some (.mark '.') then
    modify List.tail
    let _ ← number (some "time") "nanosecond"
  checkWidth hour 2 "time" "a two-digit hour (HH)"
  checkWidth minute 2 "time" "a two-digit minute (MM)"
  checkWidth second 2 "time" "a two-digit second (SS)"
  checkRange hour 0 23 "time" "hour between 00 and 23"
  checkRange minute 0 59 "time" "minute between 00 and 59"
  checkRange second 0 60 "time" "second between 00 and 60"

/-- An offset from universal time. -/
def offset : Reader Unit := do
  let sign ← mark ['Z', 'z', '+', '-'] (some "offset") "`Z`, +OFFSET, -OFFSET"
  if sign == '+' || sign == '-' then
    let hours ← number (some "offset") "hours"
    let _ ← mark [':'] (some "offset") "`:` (HH:MM)"
    let minutes ← number (some "offset") "minutes"
    checkWidth hours 2 "offset" "a two-digit hour (HH)"
    checkWidth minutes 2 "offset" "a two-digit minute (MM)"
    checkRange hours 0 23 "offset" "hours between 00 and 23"
    checkRange minutes 0 59 "offset" "minutes between 00 and 59"

/-- Nothing may be left. -/
def finish : Reader Unit := do
  if !(← get).isEmpty then throw ⟨none, none⟩

def moment : Reader Unit := do
  let start ← get
  let first ← number none "year or hour"
  let sep ← mark ['-', ':'] none "`-` (YYYY-MM) or `:` (HH:MM)"
  if sep == ':' then
    set start
    time
  else
    date first
    if !(← get).isEmpty then
      let _ ← mark ['T', 't', ' '] (some "date-time") "`T` between date and time"
      time
      if !(← get).isEmpty then offset
  finish

/-- What is wrong with a moment, if anything is. -/
def fault? (text : List Char) : Option Fault :=
  match moment.run (pieces text) with
  | .ok _ => none
  | .error f => some f

end Unbundle.Toml.Moment

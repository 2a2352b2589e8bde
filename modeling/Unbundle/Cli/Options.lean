-- SUMMARY: The options of the command line and how arguments are read.
import Unbundle.Config.Layer

/-!
# Options

Arguments are read one after the other. An option that wants a value takes it from the same argument
or from the next one; in the latter case it stays open, and is settled when another option follows or
the arguments end.
-/

namespace Unbundle.Cli

-- ---------------------------------------------------------------------------
-- What can be asked for
-- ---------------------------------------------------------------------------

inductive Opt where
  | input | output | clean | dry | limit | prettier | quiet | verbose | config | help | version
deriving DecidableEq, Repr, Inhabited

/-- How an option is spelled and described. -/
structure Spelling where
  option : Opt
  short : Option Char
  long : String
  /-- What its value is called, if it takes one. -/
  value : Option String
  description : String

/-- All options, in the order they are listed. -/
def spellings : List Spelling :=
  [⟨.input, some 'i', "input", some "INPUT", "Bundle to deminify"⟩,
    ⟨.output, some 'o', "output", some "OUTPUT",
      "Output folder (overrides `output-folder` from the config)"⟩,
    ⟨.clean, none, "clean", none, "Remove the output folder before writing"⟩,
    ⟨.dry, none, "dry", none, "Do not write any files"⟩,
    ⟨.limit, none, "limit", some "LIMIT",
      "Maximum number of modules to emit; negative means unlimited"⟩,
    ⟨.prettier, none, "prettier", none, "Format emitted code with prettier"⟩,
    ⟨.quiet, some 'q', "quiet", none, "Only report fatal errors"⟩,
    ⟨.verbose, some 'v', "verbose", none, "Increase log verbosity (-v for debug, -vv for trace)"⟩,
    ⟨.config, none, "config", some "CONFIG", "Config file to use instead of ./demin.toml"⟩,
    ⟨.help, some 'h', "help", none, "Print help"⟩,
    ⟨.version, some 'V', "version", none, "Print version"⟩]

/-- An option as messages and the help show it. -/
def Spelling.text (s : Spelling) : String :=
  match s.value with
  | some value => s!"--{s.long} <{value}>"
  | none => if s.option == .verbose then s!"--{s.long}..." else s!"--{s.long}"

def Opt.spelling (o : Opt) : Spelling :=
  (spellings.find? (·.option == o)).getD ⟨o, none, "", none, ""⟩

def Opt.text (o : Opt) : String := o.spelling.text

/-- Why arguments are refused. -/
inductive UsageError where
  | missingRequired
  | missingValue (option : Opt)
  | invalidLimit (value reason : String)
  | unexpectedArgument (argument : String)
  | unexpectedValue (value : String) (option : Opt)
  | repeated (option : Opt)
deriving DecidableEq, Repr, Inhabited

def UsageError.message : UsageError → String
  | .missingRequired => "the following required arguments were not provided:"
  | .missingValue option => s!"a value is required for '{option.text}' but none was supplied"
  | .invalidLimit value reason => s!"invalid value '{value}' for '{Opt.limit.text}': {reason}"
  | .unexpectedArgument argument => s!"unexpected argument '{argument}' found"
  | .unexpectedValue value option =>
    s!"unexpected value '{value}' for '{option.text}' found; no more were expected"
  | .repeated option => s!"the argument '{option.text}' cannot be used multiple times"

/-- What ends the reading of arguments early. -/
inductive Stop where
  | help
  | version
  | usage (error : UsageError)
deriving DecidableEq, Repr, Inhabited

-- ---------------------------------------------------------------------------
-- Numbers
-- ---------------------------------------------------------------------------

/-- Reads digits up to the first fault. `sign` is 1 or -1, and `fits` tells which numbers are small
enough. -/
def readDigits (sign : Int) (fits : Int → Bool) (overflow : String) :
    List Char → Int → Except String Int
  | [], n => .ok n
  | c :: rest, n =>
    if !c.isDigit then .error "invalid digit found in string"
    else
      let next := 10 * n + sign * ((c.toNat - '0'.toNat : Nat) : Int)
      if fits next then readDigits sign fits overflow rest next else .error overflow

/-- Reads a number of 64 bits with an optional sign. -/
def readNumber (text : String) : Except String Int :=
  let positive := readDigits 1 (· < Config.Layer.wide 63) "number too large to fit in target type"
  let negative := readDigits (-1) (Config.Layer.leastInteger ≤ ·) "number too small to fit in target type"
  match text.toList with
  | [] => .error "cannot parse integer from empty string"
  | ['+'] | ['-'] => .error "invalid digit found in string"
  | '+' :: digits => positive digits 0
  | '-' :: digits => negative digits 0
  | digits => positive digits 0

/-- The text after a minus sign looks like a number: digits with at most one point among them, and at
most one exponent, neither first, the exponent not last. -/
def looksNumeric (cs : List Char) : Bool :=
  let mantissa := cs.takeWhile (· != 'e')
  let exponent := cs.drop (mantissa.length + 1)
  let hasExponent := mantissa.length < cs.length
  mantissa.all (fun c => c.isDigit || c == '.') && (mantissa.filter (· == '.')).length ≤ 1 &&
    mantissa.head? != some '.' &&
    (!hasExponent || (!mantissa.isEmpty && !exponent.isEmpty && exponent.all Char.isDigit))

-- ---------------------------------------------------------------------------
-- Reading arguments
-- ---------------------------------------------------------------------------

/-- What the arguments so far say. -/
structure Options where
  input : Option String := none
  output : Option String := none
  clean : Bool := false
  dry : Bool := false
  limit : Option Int := none
  prettier : Bool := false
  quiet : Bool := false
  verbose : Nat := 0
  config : Option String := none
deriving DecidableEq, Repr, Inhabited

/-- An option that was given and awaits being settled, with its value if that has come. -/
structure Pending where
  option : Opt
  value : Option String
deriving DecidableEq, Repr, Inhabited

structure Reading where
  options : Options := {}
  pending : Option Pending := none
  /-- Only positional arguments follow. -/
  trailing : Bool := false
deriving DecidableEq, Repr, Inhabited

def refuse {α : Type} (error : UsageError) : Except Stop α := .error (.usage error)

/-- A path that is given as a value. -/
def settlePath (option : Opt) (old : Option String) (value : String) :
    Except Stop (Option String) :=
  if old.isSome then refuse (.repeated option)
  else if value.isEmpty then refuse (.missingValue option)
  else .ok (some value)

/-- Takes over the value of an option. -/
def Options.settle (o : Options) (option : Opt) (value : String) : Except Stop Options := do
  match option with
  | .input => return { o with input := ← settlePath option o.input value }
  | .output => return { o with output := ← settlePath option o.output value }
  | .config => return { o with config := ← settlePath option o.config value }
  | .limit =>
    if o.limit.isSome then refuse (.repeated option)
    else match readNumber value with
      | .ok n => return { o with limit := some n }
      | .error reason => refuse (.invalidLimit value reason)
  | _ => return o

/-- A flag that may be given once. -/
def raise (option : Opt) (old : Bool) : Except Stop Bool :=
  if old then refuse (.repeated option) else .ok true

/-- Takes over an option without a value. -/
def Options.flag (o : Options) (option : Opt) : Except Stop Options := do
  match option with
  | .clean => return { o with clean := ← raise option o.clean }
  | .dry => return { o with dry := ← raise option o.dry }
  | .prettier => return { o with prettier := ← raise option o.prettier }
  | .quiet => return { o with quiet := ← raise option o.quiet }
  | .verbose => return { o with verbose := o.verbose + 1 }
  | .help => throw .help
  | .version => throw .version
  | _ => return o

namespace Reading

/-- Settles the option that awaits it. -/
def resolve (r : Reading) : Except Stop Reading := do
  match r.pending with
  | none => return r
  | some ⟨option, none⟩ => refuse (.missingValue option)
  | some ⟨option, some value⟩ =>
    return { r with options := ← r.options.settle option value, pending := none }

/-- Reads an option that takes a value. -/
def take (r : Reading) (option : Opt) (attached : Option String) : Except Stop Reading := do
  let r ← r.resolve
  match attached with
  | some value => return { r with options := ← r.options.settle option value }
  | none => return { r with pending := some ⟨option, none⟩ }

/-- Reads an option without a value. -/
def flag (r : Reading) (option : Opt) : Except Stop Reading := do
  let r ← r.resolve
  return { r with options := ← r.options.flag option }

/-- The option that waits for its value. -/
def awaiting? (r : Reading) : Option Opt :=
  match r.pending with
  | some ⟨option, none⟩ => some option
  | _ => none

/-- Reads an argument that starts with two dashes. -/
def long (r : Reading) (body : List Char) : Except Stop Reading :=
  let name := body.takeWhile (· != '=')
  let attached := if name.length < body.length then
      some (String.ofList (body.drop (name.length + 1))) else none
  match spellings.find? (·.long.toList == name) with
  | none => refuse (.unexpectedArgument (String.ofList ('-' :: '-' :: name)))
  | some s =>
    if s.value.isSome then r.take s.option attached
    else match attached with
      | some value => refuse (.unexpectedValue value s.option)
      | none => r.flag s.option

/-- Reads the letters after a single dash. -/
def short (r : Reading) : List Char → Except Stop Reading
  | [] => .ok r
  | c :: rest => do
    match spellings.find? (·.short == some c) with
    | none => refuse (.unexpectedArgument (String.ofList ['-', c]))
    | some s =>
      if s.value.isSome then
        match rest with
        | [] => r.take s.option none
        | '=' :: value => r.take s.option (some (String.ofList value))
        | value => r.take s.option (some (String.ofList value))
      else (← r.flag s.option).short rest

/-- Reads an argument that is no option: the value of the option before. -/
def plain (r : Reading) (argument : String) : Except Stop Reading :=
  match r.awaiting? with
  | some option => .ok { r with pending := some ⟨option, some argument⟩ }
  | none => refuse (.unexpectedArgument argument)

/-- Reads an argument. -/
def argument (r : Reading) (argument : String) : Except Stop Reading :=
  if r.trailing then refuse (.unexpectedArgument argument)
  else match argument.toList with
    | ['-', '-'] => .ok { r with trailing := true }
    | '-' :: '-' :: body => r.long body
    | '-' :: c :: rest =>
      if r.awaiting? == some .limit && looksNumeric (c :: rest) then r.plain argument
      else r.short (c :: rest)
    | _ => r.plain argument

end Reading

/-- Reads all arguments. The input must be given. -/
def Options.parse (arguments : List String) : Except Stop Options := do
  let r ← arguments.foldlM Reading.argument {}
  let r ← r.resolve
  if r.options.input.isNone then refuse .missingRequired else return r.options

/-- What the options set. -/
def Options.layer (o : Options) : Config.Layer where
  outputFolder := o.output
  clean := if o.clean then some true else none
  dry := if o.dry then some true else none
  limit := o.limit
  prettier := if o.prettier then some true else none
  logging := if o.quiet then some .none else none

end Unbundle.Cli

-- SUMMARY: What a run reports: events, their levels, sources and wording.
import Unbundle.Source.Span

/-!
# Log

Everything a run reports is an `Event`. Its level decides who gets to see it, its source names the part
of the program it comes from, and its message is what is shown.
-/

namespace Unbundle

inductive Level where
  | error | warn | info | debug | trace
deriving DecidableEq, Repr, Inhabited

namespace Level

def text : Level → String
  | .error => "ERROR"
  | .warn => "WARN"
  | .info => "INFO"
  | .debug => "DEBUG"
  | .trace => "TRACE"

/-- More detailed levels have a higher rank. -/
def rank : Level → Nat
  | .error => 1
  | .warn => 2
  | .info => 3
  | .debug => 4
  | .trace => 5

end Level

/-- Whether diagnostics about the input are wanted. -/
inductive Logging where
  | none | verbose
deriving DecidableEq, Repr, Inhabited

namespace Logging

def isVerbose : Logging → Bool
  | .verbose => true
  | .none => false

def text : Logging → String
  | .none => "none"
  | .verbose => "verbose"

end Logging

/-- How a module uses a dependency at one place. -/
inductive UseKind where
  /-- By name: the dependency as a whole. -/
  | name
  /-- By name, as a property of an object literal that has the same name. -/
  | shorthand
  /-- By its property `default`. -/
  | defaultMember
deriving DecidableEq, Repr, Inhabited

namespace UseKind

def text : UseKind → String
  | .name => "Ident"
  | .shorthand => "Shorthand"
  | .defaultMember => "DefaultMember"

def isDefault : UseKind → Bool
  | .defaultMember => true
  | _ => false

end UseKind

inductive Event where
  | noHome (reason : String)
  | loadingUserConfig (path : String)
  | loadingProjectConfig (path : String)
  | parsed (file : String) (statements : Nat)
  | removing (folder : String)
  | deminified (modules : Nat) (input folder : String)
  | emitting (name : String)
  | nothingToEmit
  | enteringModule (name : String) (dependencies : Nat)
  | leavingModule (name : String)
  | textAsset (path : String)
  | limitReached (modules : Nat)
  | unhandledDefine (arguments : String)
  | duplicateName (name : String)
  | unhandledNamespace (param : String)
  | unhandledDefault (param : String)
  | synthesized (name : String) (imports replacements : Nat)
  | allocated (name basis : String)
  | pending (kind : UseKind) (span : Span) (path param : String)
  | factoryScope (name : String) (depth : Nat)
  | leftScope (span : Span)
deriving DecidableEq, Repr, Inhabited

namespace Event

def level : Event → Level
  | .deminified .. | .emitting _ => .info
  | .unhandledDefine _ | .duplicateName _ | .unhandledNamespace _ | .unhandledDefault _ => .warn
  | .allocated .. | .pending .. | .factoryScope .. | .leftScope _ => .trace
  | _ => .debug

/-- The part of the program that reports the event. -/
def source : Event → String
  | .noHome _ => "demin::dirs"
  | .loadingUserConfig _ | .loadingProjectConfig _ => "demin::config"
  | .parsed .. => "demin::parser"
  | .removing _ | .deminified .. => "demin::orchestrator"
  | .emitting _ => "demin::emit"
  | .nothingToEmit | .enteringModule .. | .leavingModule _ | .textAsset _ | .limitReached _
  | .unhandledDefine _ => "demin::deminify::driver"
  | .duplicateName _ | .allocated .. => "demin::deminify::naming"
  | .unhandledNamespace _ | .unhandledDefault _ | .synthesized .. => "demin::deminify::imports"
  | .pending .. => "demin::deminify::requires"
  | .factoryScope .. | .leftScope _ => "demin::deminify::scope"

def message : Event → String
  | .noHome reason => s!"No home directory for user configuration: {reason}"
  | .loadingUserConfig path => s!"Loading user config from {path}"
  | .loadingProjectConfig path => s!"Loading project config from {path}"
  | .parsed file statements => s!"Parsed {file}: {statements} top-level statements"
  | .removing folder => s!"Removing {folder}"
  | .deminified modules input folder => s!"Deminified {modules} modules from {input} into {folder}"
  | .emitting name => s!"Emitting {name}"
  | .nothingToEmit => "Module limit is 0, nothing to emit"
  | .enteringModule name n => s!"Entering module '{name}' ({n} bound dependencies)"
  | .leavingModule name => s!"Leaving module '{name}'"
  | .textAsset path => s!"Text asset '{path}'"
  | .limitReached modules => s!"Reached the limit of {modules} modules"
  | .unhandledDefine arguments => s!"Unhandled define() case: define({arguments})"
  | .duplicateName name => s!"Duplicate variable, may cause conflicts: {name}"
  | .unhandledNamespace param => s!"Unhandled namespace module variable: {param}"
  | .unhandledDefault param => s!"Unhandled default module variable: {param}"
  | .synthesized name imports replacements =>
    s!"Module '{name}': {imports} imports, {replacements} rewrites"
  | .allocated name basis => s!"Allocated '{name}' for '{basis}'"
  | .pending kind span path param =>
    s!"Pending {kind.text}({span.text}) of '{path}' through '{param}'"
  | .factoryScope name depth => s!"Factory scope of '{name}' is ScopeId({depth})"
  | .leftScope span => s!"Left scope at {span.text}"

/-- The event as one line. -/
def line (e : Event) : String :=
  s!"{e.level.text} {e.message}"

/-- The event is shown to those who ask for `limit` and what is more important. -/
def isShown (limit : Level) (e : Event) : Bool :=
  e.level.rank ≤ limit.rank

end Event

/-- Events that are only reported when diagnostics are wanted. -/
def Logging.warnings (logging : Logging) (events : List Event) : List Event :=
  if logging.isVerbose then events else []

end Unbundle

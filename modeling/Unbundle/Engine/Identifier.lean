-- SUMMARY: What an identifier means inside of a factory, what it leaves on record, and what replaces it.
import Unbundle.Imports
import Unbundle.Scope

/-!
# Identifiers of a factory

Inside of a factory an identifier is of interest if it resolves to the factory's own scope. A
parameter for `require` or `exports` gives way to that word; a parameter for a module gives way to
the local name of an import, which is known only when the whole factory has been walked. Every other
name is kept, and imports stay clear of it.
-/

namespace Unbundle.Engine

open Script

/-- The module whose factory is being walked. -/
structure Active where
  definition : Amd.Definition
  binding : Amd.Binding
  /-- The depth of the factory's scope. -/
  depth : Nat
deriving Repr, Inhabited

/-- Where an identifier stands. -/
inductive Site where
  /-- Read or written as a value. -/
  | reference
  /-- The object of an access to `default`, which has this span. -/
  | defaultObject (member : Span)
  /-- A property of an object literal whose value has the same name. -/
  | shorthand
  /-- Declares a name. -/
  | declaration
deriving DecidableEq, Repr, Inhabited

def Site.declares : Site → Bool
  | .declaration => true
  | .reference | .defaultObject _ | .shorthand => false

def Site.kind : Site → UseKind
  | .reference | .declaration => .name
  | .defaultObject _ => .defaultMember
  | .shorthand => .shorthand

/-- The part of the source that a use takes up. -/
def Site.span (id : Ident) : Site → Span
  | .defaultObject member => member
  | _ => id.span

/-- What a name means in the active module. -/
inductive Meaning where
  /-- Not declared by the factory. -/
  | foreign
  /-- Declared by the factory, but bound to no dependency. -/
  | unbound (isParam : Bool)
  /-- A parameter that is bound to a dependency. -/
  | bound (target : Amd.Target)
deriving DecidableEq, Repr, Inhabited

def Active.meaning (a : Active) (scopes : Scope.Stack) (name : String) : Meaning :=
  if scopes.resolve name == some a.depth then
    match a.binding.get? name with
    | some target => .bound target
    | none => .unbound (a.definition.params.contains name)
  else .foreign

/-- What takes the place of an identifier. -/
inductive Replacement where
  | keep
  /-- Another word for the same thing. -/
  | reserved (word : String)
  /-- The local name of an import. -/
  | imported (name : String)
deriving DecidableEq, Repr, Inhabited

/-- Records an identifier of the active module. -/
def record (findings : Findings) (meaning : Meaning) (id : Ident) (site : Site) : Findings :=
  match meaning, site with
  | .foreign, _ => findings.addName id.name
  | .unbound false, _ | .unbound true, .declaration => findings.addName id.name
  | .unbound true, site => (findings.addUse ⟨id.name, site.kind, site.span id⟩).addName id.name
  | .bound _, .declaration => findings
  | .bound (.module _), site => findings.addUse ⟨id.name, site.kind, site.span id⟩
  | .bound .require, .shorthand => findings.spellOut id.span "require"
  | .bound .exports, .shorthand => findings.spellOut id.span "exports"
  | .bound _, _ => findings

/-- What an identifier of the active module gives rise to report. -/
def identEvents (meaning : Meaning) (id : Ident) (site : Site) : List Event :=
  match meaning, site with
  | .bound (.module _), .declaration => []
  | .bound (.module path), site => [.pending site.kind (site.span id) path id.name]
  | _, _ => []

/-- What takes the place of an identifier, once the imports have names. -/
def replacement (meaning : Meaning) (site : Site) (locals : Locals) : Replacement :=
  match meaning, site with
  | .bound _, .declaration => .keep
  | .bound .require, _ => .reserved "require"
  | .bound .exports, _ => .reserved "exports"
  | .bound (.module path), site =>
    match locals.get? site.kind path with
    | some name => .imported name
    | none => .keep
  | _, _ => .keep

/-- What takes the place of an identifier on the way: only words that need no import, and not where
a property has to be spelled out. -/
def replacementInPlace (meaning : Meaning) (site : Site) : Replacement :=
  match meaning, site with
  | .bound _, .declaration | .bound _, .shorthand => .keep
  | .bound .require, _ => .reserved "require"
  | .bound .exports, _ => .reserved "exports"
  | _, _ => .keep

/-- How a draft is filled in. -/
inductive Filling where
  /-- With what the walk writes on its way. -/
  | inPlace
  /-- With all that there is to write, given the names of the imports. -/
  | complete (locals : Locals)

/-- What is filled in at an identifier. -/
def Filling.at (meaning : Meaning) (site : Site) : Filling → Replacement
  | .inPlace => replacementInPlace meaning site
  | .complete locals => replacement meaning site locals

/-- A tree that is to be filled in. -/
abbrev Draft (α : Type) := Filling → α

/-- An identifier with its replacement in place. -/
def Replacement.rename (id : Ident) : Replacement → Ident
  | .keep => id
  | .reserved word => { id with name := word }
  | .imported name => { id with name := name }

end Unbundle.Engine

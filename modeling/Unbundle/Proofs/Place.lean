-- SUMMARY: Where an identifier stands: the layers of code around it, and the scopes among them.
import Unbundle.Engine.Identifier

/-!
# Places

A place in a factory is known by what encloses it. Each enclosing piece of code that could declare
names is a `Layer`; the layers of a place are listed innermost first and end at the factory itself.

The scopes that the walk has open at a place are read off its layers: functions of any form, catch
clauses and named class expressions open one, while blocks, loops, `switch` statements and static
blocks do not. They are layers all the same, because the language gives them scopes.
-/

namespace Unbundle.Engine

open Script

/-- The part of a function that a place belongs to. -/
inductive Part where
  /-- The computed name of an accessor. -/
  | key
  | params
  | body
deriving DecidableEq, Repr, Inhabited

/-- A piece of code that encloses a place. -/
inductive Layer where
  /-- The body of the factory itself. -/
  | factory (body : List Stmt)
  /-- A function, method, accessor or constructor; `own` is a function expression's own name. -/
  | function (span : Span) (own : Option Ident) (params : List Pat) (body : List Stmt) (part : Part)
  | arrow (span : Span) (params : List Pat) (body : List Stmt) (part : Part)
  /-- An arrow function whose body is an expression. -/
  | arrowExpr (span : Span) (params : List Pat)
  | namedClass (name : Ident) (cls : Script.Class)
  | handler (span : Span) (param : Option Pat)
  | block (body : List Stmt)
  /-- A loop whose head declares variables of its own. -/
  | loop (names : List String)
  | switch (cases : List Case)
  | staticBlock (body : List Stmt)

namespace Layer

/-- The scope that the walk opens for a layer. -/
def scope? : Layer → Option Scope
  | .function span own params body _ => some (.ofFunction span own params body)
  | .arrow span params body _ => some (.ofFunction span none params body)
  | .arrowExpr span params => some (.ofArrowExpr span params)
  | .namedClass name cls => some (.ofNamedClass name cls)
  | .handler span param => some (.ofCatch span param)
  | .factory _ | .block _ | .loop _ | .switch _ | .staticBlock _ => none

/-- The layer of a loop whose head has these declarations; `var` declares nothing of its own. -/
def ofDeclarators : VarKind → List Declarator → List Layer
  | .var, _ => []
  | .letKind, decls | .const, decls => [.loop (decls.flatMap Declarator.names)]

def ofForInit : ForInit → List Layer
  | .var kind decls => ofDeclarators kind decls
  | .empty | .expr _ => []

def ofForHead : ForHead → List Layer
  | .var kind decls => ofDeclarators kind decls
  | .pat _ => []

theorem filterMap_scope?_ofDeclarators (kind : VarKind) (decls : List Declarator) :
    (ofDeclarators kind decls).filterMap scope? = [] := by
  cases kind <;> rfl

@[simp] theorem filterMap_scope?_ofForInit (init : ForInit) :
    (ofForInit init).filterMap scope? = [] := by
  cases init with
  | var kind decls => exact filterMap_scope?_ofDeclarators kind decls
  | empty | expr e => rfl

@[simp] theorem filterMap_scope?_ofForHead (head : ForHead) :
    (ofForHead head).filterMap scope? = [] := by
  cases head with
  | var kind decls => exact filterMap_scope?_ofDeclarators kind decls
  | pat p => rfl

/-- The code inside of a layer belongs to the same owner as the layer itself. -/
def isTransparent : Layer → Bool
  | .namedClass .. | .handler .. | .block _ | .loop _ | .switch _ => true
  | .factory _ | .function .. | .arrow .. | .arrowExpr .. | .staticBlock _ => false

end Layer

-- ---------------------------------------------------------------------------
-- Where declarations belong
-- ---------------------------------------------------------------------------

/-- The depth of the layer that variables, functions and classes in here belong to: the number of
layers from that one outwards. -/
def hoist? : List Layer → Option Nat
  | [] => some 0
  | .staticBlock _ :: _ => none
  | layer :: outer => if layer.isTransparent then hoist? outer else some (outer.length + 1)

/-- The depth of the layer that a name declared right in here belongs to. What stands right in a
catch clause is its parameter, and what stands right in a named class is its name. -/
def home? : List Layer → Option Nat
  | .handler .. :: outer | .namedClass .. :: outer => some (outer.length + 1)
  | layers => hoist? layers

theorem hoist?_le {layers : List Layer} {depth : Nat} (h : hoist? layers = some depth) :
    depth ≤ layers.length := by
  induction layers with
  | nil => simp_all [hoist?]
  | cons layer outer ih =>
    cases layer with
    | staticBlock body => cases h
    | block body | loop names | switch cases | namedClass name cls | handler span param =>
      exact Nat.le_succ_of_le (ih h)
    | factory body | function span own params body part | arrow span params body part
    | arrowExpr span params =>
      cases h
      simp

/-- Statements may stand right in these layers: what they declare is hoisted. -/
def Hoists (layers : List Layer) : Prop :=
  home? layers = hoist? layers

/-- A block leaves what is declared in it to the code around it. -/
theorem Hoists.home?_cons {layers : List Layer} {layer : Layer} (h : Hoists layers)
    (hscope : layer.scope? = none) (hlayer : layer.isTransparent = true) :
    home? (layer :: layers) = home? layers := by
  cases layer with
  | block body | loop names | switch cases => exact h.symm
  | namedClass name cls | handler span param => cases hscope
  | factory body | staticBlock body => cases hlayer
  | function span own params body part | arrow span params body part | arrowExpr span params =>
    cases hscope

/-- The body of a catch clause leaves what is declared in it to the code around the clause. -/
theorem Hoists.home?_catchBody {layers : List Layer} (h : Hoists layers) {body : List Stmt}
    {span : Span} {param : Option Pat} :
    home? (.block body :: .handler span param :: layers) = home? layers :=
  h.symm

/-- What is declared right in a layer that opens a scope belongs to this layer. -/
theorem home?_cons_of_scope {layer : Layer} {scope : Scope} (h : layer.scope? = some scope)
    (layers : List Layer) : home? (layer :: layers) = some (layers.length + 1) := by
  cases layer with
  | factory body | block body | loop names | switch cases | staticBlock body => cases h
  | _ => rfl

/-- What surrounds a part of a factory. -/
structure Around where
  /-- The layers around it, the innermost first. -/
  layers : List Layer
  /-- The walk takes it for a part of the target of an assignment. -/
  inTarget : Bool
  /-- There are layers between that target and the part, or there is no such target. -/
  entered : Bool

namespace Around

/-- By the grammar, a pattern declares names here. In a static block that belongs to a target the
walk takes it to be assigned to. -/
def binds (a : Around) : Bool :=
  a.entered || !a.inTarget

/-- The scopes that are open, the innermost first. -/
def scopes (a : Around) : Scope.Stack :=
  a.layers.filterMap Layer.scope?

/-- One layer further in. -/
def enter (a : Around) (layer : Layer) : Around :=
  { a with layers := layer :: a.layers, entered := true }

/-- One function further in, where names are declared again. -/
def enterFunction (a : Around) (layer : Layer) : Around :=
  ⟨layer :: a.layers, false, true⟩

/-- Inside of a loop that has these layers. -/
def enterLoop (a : Around) (layers : List Layer) : Around :=
  { a with layers := layers ++ a.layers, entered := true }

theorem scopes_enter {layer : Layer} {scope : Scope} (h : layer.scope? = some scope) (a : Around) :
    (a.enter layer).scopes = scope :: a.scopes :=
  List.filterMap_cons_some h

theorem scopes_enter_of_none {layer : Layer} (h : layer.scope? = none) (a : Around) :
    (a.enter layer).scopes = a.scopes :=
  List.filterMap_cons_none h

/-- A loop opens no scope. -/
theorem scopes_enterLoop (a : Around) {layers : List Layer}
    (h : layers.filterMap Layer.scope? = []) : (a.enterLoop layers).scopes = a.scopes := by
  simp [scopes, enterLoop, h]

/-- Inside of an assignment target, or outside of one. -/
def targeting (a : Around) (inTarget : Bool) : Around :=
  ⟨a.layers, inTarget, !inTarget⟩

/-- The names that a pattern declares here. -/
def declares (a : Around) (names : List String) : List String :=
  if a.binds then names else []

@[simp] theorem declares_nil (a : Around) : a.declares [] = [] := by
  unfold declares
  split <;> rfl

theorem declares_append (a : Around) (names names' : List String) :
    a.declares (names ++ names') = a.declares names ++ a.declares names' := by
  unfold declares
  split <;> rfl

theorem declares_subset (a : Around) (names : List String) : a.declares names ⊆ names := by
  unfold declares
  split
  · exact List.Subset.refl _
  · exact List.nil_subset _

theorem declares_of_entered {a : Around} (h : a.entered = true) (names : List String) :
    a.declares names = names := by
  simp [declares, binds, h]

end Around

/-- An identifier and where it stands. -/
structure Place where
  layers : List Layer
  id : Ident
  /-- What the walk takes it for. -/
  site : Site
  /-- By the grammar, the identifier introduces a name: it is a parameter, a declarator, or the name
  of a function or class. -/
  binds : Bool

namespace Place

/-- The scopes that are open at a place, the innermost first. -/
def scopes (p : Place) : Scope.Stack :=
  p.layers.filterMap Layer.scope?

/-- A scope between the factory and the place declares the name. -/
def isShadowed (p : Place) : Bool :=
  p.scopes.any (·.declares p.id.name)

/-- The walk takes the name to be used, not declared. -/
def isUse (p : Place) : Bool :=
  p.site != .declaration

/-- A name is introduced here, but the walk takes it to be used. -/
def isMisread (p : Place) : Bool :=
  p.binds && p.isUse

end Place

/-- The name that an identifier at this site declares. -/
def Site.names (site : Site) (id : Ident) : List String :=
  if site.declares then [id.name] else []

theorem Site.names_subset (site : Site) (id : Ident) : site.names id ⊆ [id.name] := by
  unfold names
  split
  · exact List.Subset.refl _
  · exact List.nil_subset _

/-- The place of an identifier with this surrounding. -/
def Around.place (a : Around) (id : Ident) (site : Site) : Place :=
  ⟨a.layers, id, site, site.declares⟩

/-- The place of an identifier in a pattern. -/
def Around.patternPlace (a : Around) (id : Ident) : Place :=
  ⟨a.layers, id, if a.inTarget then .reference else .declaration, a.binds⟩

end Unbundle.Engine

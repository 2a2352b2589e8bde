-- SUMMARY: The names that a scope declares are those that a walker meets as declarations in it.
import Mathlib.Data.List.Infix
import Unbundle.Proofs.Encounters
import Unbundle.Proofs.Ownership

/-!
# Declared names and declarations

The names of a scope are collected before its code is walked, by going through statements and
patterns alone. A walker goes through all of the code. `Opening` lists the kinds of code that open a
scope, and `Opening.declarations` the declarations in it that belong to that scope.

By `housed_stmts` the collected names suffice. `Collected` says that there are not too many of
them: for each one there is a declaration that a walker meets unless it leaves something out
(`Outline.Shows`). Both together are `declared_iff_met`.
-/

namespace Unbundle.Engine

open Script

variable {σ ε : Type}

-- ---------------------------------------------------------------------------
-- What a walker notes
-- ---------------------------------------------------------------------------

/-- What a walker has met since it was the other one. -/
def Walker.metSince (before after : Walker σ ε) : List Encounter :=
  after.encounters.drop before.encounters.length

/-- A walker has the same notes as before. -/
structure Walker.SameNotes (before after : Walker σ ε) : Prop where
  leftOut : after.leftOut = before.leftOut
  encounters : after.encounters = before.encounters

/-- A walker forgets none of its notes. -/
structure Walker.Extended (before after : Walker σ ε) : Prop where
  leftOut : before.leftOut ≤ after.leftOut
  encounters : before.encounters <+: after.encounters

namespace Walker

theorem sameNotes_openScope (w : Walker σ ε) (scope : Scope) :
    w.SameNotes (w.openScope scope) := by
  unfold openScope
  split
  · split <;> exact ⟨rfl, rfl⟩
  · exact ⟨rfl, rfl⟩

theorem sameNotes_closeScope (w : Walker σ ε) : w.SameNotes w.closeScope := by
  unfold closeScope
  split <;> exact ⟨rfl, rfl⟩

theorem sameNotes_closeModule (sink : Sink σ ε) (settings : Settings) (w : Walker σ ε) :
    w.SameNotes (w.closeModule sink settings) := by
  unfold closeModule
  split <;> exact ⟨rfl, rfl⟩

namespace Extended

variable {w w' w'' : Walker σ ε}

theorem refl (w : Walker σ ε) : Extended w w :=
  ⟨Nat.le_refl _, List.prefix_refl _⟩

theorem trans (h : Extended w w') (h' : Extended w' w'') : Extended w w'' :=
  ⟨Nat.le_trans h.leftOut h'.leftOut, h.encounters.trans h'.encounters⟩

theorem of_sameNotes (h : w.SameNotes w') : Extended w w' :=
  ⟨Nat.le_of_eq h.leftOut.symm, h.encounters ▸ List.prefix_refl _⟩

theorem meet (w : Walker σ ε) (id : Ident) (site : Site) : Extended w (w.meet id site) := by
  refine ⟨Nat.le_of_eq ?_, ?_⟩
  · unfold Walker.meet
    simp only
    split <;> rfl
  · rw [encounters_meet]
    exact List.prefix_append _ _

/-- What was met before. -/
theorem metSince_subset_left (h : Extended w' w'') : w.metSince w' ⊆ w.metSince w'' :=
  (List.IsPrefix.drop h.encounters _).subset

/-- What is met from later on. -/
theorem metSince_subset_right (h : Extended w w') : w'.metSince w'' ⊆ w.metSince w'' :=
  List.drop_subset_drop_left _ h.encounters.length_le

end Extended
end Walker

theorem extended_drive (sink : Sink σ ε) (settings : Settings) (part : Outline) (w : Walker σ ε) :
    w.Extended (part.drive sink settings w) := by
  induction part generalizing w with
  | nothing => exact .refl w
  | both first second ih ih' => exact (ih w).trans (ih' _)
  | ident id site => exact .meet w id site
  | patternIdent id => exact .meet w id _
  | unlessStopped part ih =>
    unfold Outline.drive
    split
    · exact ⟨Nat.le_succ _, List.prefix_refl _⟩
    · exact ih w
  | within scope part ih =>
    exact ((Walker.Extended.of_sameNotes (w.sameNotes_openScope scope)).trans
      (ih (w.openScope scope))).trans (.of_sameNotes (Walker.sameNotes_closeScope _))
  | targeting inTarget part ih =>
    have h := ih { w with inTarget := inTarget }
    exact ⟨h.leftOut, h.encounters⟩
  | call callee args parts ih =>
    unfold Outline.drive
    split
    · rename_i f _ _
      have h := ih (w.openModule f)
      exact Walker.Extended.trans ⟨h.leftOut, h.encounters⟩
        (.of_sameNotes (Walker.sameNotes_closeModule sink settings _))
    · exact .of_sameNotes ⟨rfl, rfl⟩
    · have h := ih (w.report (unhandledEvents settings.logging callee args))
      exact ⟨h.leftOut, h.encounters⟩
    · exact ih w

-- ---------------------------------------------------------------------------
-- Parts that show an identifier
-- ---------------------------------------------------------------------------

/-- Inside of the scopes `scopes`, a walker that follows the part and leaves nothing out meets the
identifier, and then has the scopes `around` open. -/
def Outline.Shows (part : Outline) (scopes : Scope.Stack) (id : Ident) (around : Scope.Stack) :
    Prop :=
  ∀ (σ ε : Type) (sink : Sink σ ε) (settings : Settings) (base : Scope.Stack) (w : Walker σ ε),
    w.tracker = .ofStack (scopes ++ base) →
      (part.drive sink settings w).leftOut = w.leftOut →
        ∃ e ∈ w.metSince (part.drive sink settings w),
          e.id = id ∧ e.tracker = .ofStack (around ++ base)

namespace Outline.Shows

variable {part rest : Outline} {scopes around : Scope.Stack} {id : Ident}

theorem ident (site : Site) : (Outline.ident id site).Shows scopes id scopes := by
  intro σ ε sink settings base w htracker _
  refine ⟨⟨id, site, w.tracker, w.entered⟩, ?_, rfl, htracker⟩
  simp [Walker.metSince, Outline.drive]

theorem patternIdent : (Outline.patternIdent id).Shows scopes id scopes := by
  intro σ ε sink settings base w htracker hleft
  exact ident _ σ ε sink settings base w htracker hleft

theorem left (h : part.Shows scopes id around) : (part.both rest).Shows scopes id around := by
  intro σ ε sink settings base w htracker hleft
  have hgrown := extended_drive sink settings part w
  have hrest := extended_drive sink settings rest (part.drive sink settings w)
  have hpart : (part.drive sink settings w).leftOut = w.leftOut :=
    Nat.le_antisymm (hleft ▸ hrest.leftOut) hgrown.leftOut
  obtain ⟨e, he, hat⟩ := h σ ε sink settings base w htracker hpart
  exact ⟨e, hrest.metSince_subset_left he, hat⟩

theorem right (h : rest.Shows scopes id around) : (part.both rest).Shows scopes id around := by
  intro σ ε sink settings base w htracker hleft
  have hgrown := extended_drive sink settings part w
  have hrest := extended_drive sink settings rest (part.drive sink settings w)
  have hpart : (part.drive sink settings w).leftOut = w.leftOut :=
    Nat.le_antisymm (hleft ▸ hrest.leftOut) hgrown.leftOut
  have hrestored := restored_drive sink settings part w
  obtain ⟨e, he, hat⟩ := h σ ε sink settings base _ (hrestored.tracker.trans htracker)
    (hleft.trans hpart.symm)
  exact ⟨e, hgrown.metSince_subset_right he, hat⟩

theorem unlessStopped (h : part.Shows scopes id around) :
    (Outline.unlessStopped part).Shows scopes id around := by
  intro σ ε sink settings base w htracker hleft
  simp only [Outline.drive] at hleft ⊢
  split at hleft
  · exact absurd hleft (Nat.succ_ne_self _)
  · rename_i hs
    rw [if_neg hs]
    exact h σ ε sink settings base w htracker hleft

theorem targeting {inTarget : Bool} (h : part.Shows scopes id around) :
    (Outline.targeting inTarget part).Shows scopes id around :=
  fun σ ε sink settings base w htracker hleft =>
    h σ ε sink settings base { w with inTarget := inTarget } htracker hleft

theorem within {scope : Scope} (h : part.Shows (scope :: scopes) id around) :
    (Outline.within scope part).Shows scopes id around := by
  intro σ ε sink settings base w htracker hleft
  have hopen := w.sameNotes_openScope scope
  have hclose := Walker.sameNotes_closeScope (part.drive sink settings (w.openScope scope))
  have hinner : (w.openScope scope).tracker = .ofStack (scope :: scopes ++ base) := by
    rw [Walker.tracker_openScope, htracker]
    rfl
  obtain ⟨e, he, hat⟩ := h σ ε sink settings base _ hinner
    ((hclose.leftOut.symm.trans hleft).trans hopen.leftOut.symm)
  refine ⟨e, ?_, hat⟩
  simp only [Walker.metSince, Outline.drive] at he ⊢
  rwa [hclose.encounters, ← hopen.encounters]

/-- What is shown where no scope is known to be open is shown inside of any. -/
theorem under (h : part.Shows [] id around) (outer : Scope.Stack) :
    part.Shows outer id (around ++ outer) := by
  intro σ ε sink settings base w htracker hleft
  rw [List.append_assoc]
  exact h σ ε sink settings (outer ++ base) w htracker hleft

end Outline.Shows

-- ---------------------------------------------------------------------------
-- Collected names
-- ---------------------------------------------------------------------------

/-- For each of the names there is a declaration among the steps, which belongs to the layer of this
depth and is shown by the part. -/
def Collected (depth : Option Nat) (scopes : Scope.Stack) (names : List String) (steps : List Step)
    (part : Outline) : Prop :=
  ∀ name ∈ names, ∃ p, .ident p ∈ steps ∧ p.site = .declaration ∧ p.home? = depth ∧
    p.id.name = name ∧ part.Shows scopes p.id p.scopes

namespace Collected

variable {depth : Option Nat} {scopes : Scope.Stack} {names names' : List String}
  {steps steps' : List Step} {part rest : Outline}

theorem nil : Collected depth scopes [] steps part := by
  intro name hname
  cases hname

theorem ident {p : Place} {site : Site} (hsite : p.site = .declaration) (hhome : p.home? = depth)
    (hscopes : p.scopes = scopes) :
    Collected depth scopes [p.id.name] [.ident p] (.ident p.id site) := by
  intro name hname
  rw [List.mem_singleton] at hname
  exact ⟨p, List.mem_singleton_self _, hsite, hhome, hname.symm, hscopes ▸ .ident site⟩

theorem left (h : Collected depth scopes names steps part) :
    Collected depth scopes names (steps ++ steps') (part.both rest) := by
  intro name hname
  obtain ⟨p, hp, hsite, hhome, hid, hshows⟩ := h name hname
  exact ⟨p, List.mem_append_left _ hp, hsite, hhome, hid, hshows.left⟩

theorem right (h : Collected depth scopes names steps' rest) :
    Collected depth scopes names (steps ++ steps') (part.both rest) := by
  intro name hname
  obtain ⟨p, hp, hsite, hhome, hid, hshows⟩ := h name hname
  exact ⟨p, List.mem_append_right _ hp, hsite, hhome, hid, hshows.right⟩

theorem append (h : Collected depth scopes names steps part)
    (h' : Collected depth scopes names' steps' rest) :
    Collected depth scopes (names ++ names') (steps ++ steps') (part.both rest) := by
  intro name hname
  rcases List.mem_append.1 hname with hname | hname
  · exact h.left name hname
  · exact h'.right name hname

theorem unlessStopped (h : Collected depth scopes names steps part) :
    Collected depth scopes names steps (.unlessStopped part) := by
  intro name hname
  obtain ⟨p, hp, hsite, hhome, hid, hshows⟩ := h name hname
  exact ⟨p, hp, hsite, hhome, hid, hshows.unlessStopped⟩

theorem targeting {inTarget : Bool} (h : Collected depth scopes names steps part) :
    Collected depth scopes names steps (.targeting inTarget part) := by
  intro name hname
  obtain ⟨p, hp, hsite, hhome, hid, hshows⟩ := h name hname
  exact ⟨p, hp, hsite, hhome, hid, hshows.targeting⟩

theorem within {scope : Scope} (h : Collected depth (scope :: scopes) names steps part) :
    Collected depth scopes names (stepsWithin scope steps) (.within scope part) := by
  intro name hname
  obtain ⟨p, hp, hsite, hhome, hid, hshows⟩ := h name hname
  exact ⟨p, subset_stepsWithin _ _ hp, hsite, hhome, hid, hshows.within⟩

end Collected

theorem compositional_collected :
    Compositional fun around names (p : Piece Unit Unit _) => around.inTarget = false →
      Collected (home? around.layers) around.scopes names p.steps p.outline where
  pure _ _ _ := .nil
  map _ h := h
  seq h h' htarget := (h htarget).append (h' htarget)
  unlessStopped _ h htarget := (h htarget).unlessStopped
  targeted _ _ := .nil
  untargeted h _ := (h rfl).targeting
  ident around id site _ := by
    cases site with
    | declaration => exact .ident (p := around.place id .declaration) rfl rfl rfl
    | _ => exact .nil
  patternIdent around id htarget name hname := by
    obtain rfl := List.mem_singleton.1 (around.declares_subset _ hname)
    refine ⟨around.patternPlace id, List.mem_singleton_self _, ?_, rfl, rfl, .patternIdent⟩
    simp [Around.patternPlace, htarget]
  unary _ _ _ _ := .nil
  call _ _ _ _ _ := .nil
  scope _ _ := .nil
  block hscope hlayer _ hlayers h htarget := by
    exact Around.scopes_enter_of_none hscope _ ▸ hlayers.home?_cons hscope hlayer ▸ h htarget
  staticBlock _ _ := .nil
  handler _ _ hlayers _ hbody htarget := by
    have hcode : Collected (home? (.block _ :: .handler _ _ :: _)) _ _ _ _ := hbody htarget
    rw [hlayers.home?_catchBody] at hcode
    exact hcode.right.within

-- ---------------------------------------------------------------------------
-- Code that opens a scope
-- ---------------------------------------------------------------------------

/-- Code that opens a scope. -/
inductive Opening where
  | script (script : Script)
  /-- A function or a method; `own` is a function expression's own name. -/
  | function (own : Option Ident) (fn : Function)
  | arrow (span : Span) (isAsync : Bool) (params : List Pat) (body : List Stmt)
  | arrowExpr (span : Span) (isAsync : Bool) (params : List Pat) (body : Expr)
  | ctor (span : Span) (params : List Pat) (body : List Stmt)
  | getter (span : Span) (key : Key) (body : List Stmt)
  | setter (span : Span) (key : Key) (param : Pat) (body : List Stmt)
  | handler (span : Span) (param : Option Pat) (body : List Stmt)
  | namedClass (name : Ident) (cls : Script.Class)

namespace Opening

/-- The scope that is opened. -/
def scope : Opening → Scope
  | .script s => .ofScript s
  | .function own (.mk span _ _ params body) => .ofFunction span own params body
  | .arrow span _ params body => .ofFunction span none params body
  | .arrowExpr span _ params _ => .ofArrowExpr span params
  | .ctor span params body => .ofFunction span none params body
  | .getter span _ body => .ofFunction span none [] body
  | .setter span _ param body => .ofFunction span none [param] body
  | .handler span param _ => .ofCatch span param
  | .namedClass name cls => .ofNamedClass name cls

/-- What a walk does with the code. -/
def outline : Opening → Outline
  | .script s => .within (.ofScript s) (outlineStmts s.body)
  | .function own fn => outlineFunction own fn
  | .arrow span isAsync params body => outlineExpr (.arrow span isAsync params body)
  | .arrowExpr span isAsync params body => outlineExpr (.arrowExpr span isAsync params body)
  | .ctor span params body => outlineMember (.ctor span params body)
  | .getter span key body => outlineProperty (.getter span key body)
  | .setter span key param body => outlineProperty (.setter span key param body)
  | .handler span param body => outlineHandler (some (.mk span param body))
  | .namedClass name cls => outlineExpr (.cls (some name) cls)

/-- The steps of the code, on its own. -/
def steps : Opening → List Step
  | .script s => stepsWithin (.ofScript s) (stepsStmts ⟨[], false, true⟩ s.body)
  | .function own fn => stepsFunction ⟨[], false, true⟩ own fn
  | .arrow span isAsync params body => stepsExpr ⟨[], false, true⟩ (.arrow span isAsync params body)
  | .arrowExpr span isAsync params body =>
    stepsExpr ⟨[], false, true⟩ (.arrowExpr span isAsync params body)
  | .ctor span params body => stepsMember ⟨[], false, true⟩ (.ctor span params body)
  | .getter span key body => stepsProperty ⟨[], false, true⟩ (.getter span key body)
  | .setter span key param body => stepsProperty ⟨[], false, true⟩ (.setter span key param body)
  | .handler span param body => stepsHandler ⟨[], false, true⟩ (some (.mk span param body))
  | .namedClass name cls => stepsExpr ⟨[], false, true⟩ (.cls (some name) cls)

/-- The depth of the layer of the code itself; a script is no layer. -/
def depth : Opening → Nat
  | .script _ => 0
  | _ => 1

/-- The scopes of the code that are not those of its layers. -/
def base : Opening → Scope.Stack
  | .script s => [.ofScript s]
  | _ => []

/-- The declarations in the code that belong to its scope. -/
def declarations (o : Opening) : List Place :=
  (o.steps.filterMap Step.place?).filter fun p =>
    p.site == .declaration && p.home? == some o.depth

/-- Where the scopes `outer` are around the code, this is a meeting with a declaration that belongs
to its scope. -/
def Owns (o : Opening) (outer : Scope.Stack) (e : Encounter) : Prop :=
  ∃ p ∈ o.declarations, e.id = p.id ∧ e.tracker = .ofStack (p.scopes ++ o.base ++ outer)

theorem mem_declarations {o : Opening} {p : Place} :
    p ∈ o.declarations ↔
      .ident p ∈ o.steps ∧ p.site = .declaration ∧ p.home? = some o.depth := by
  rw [declarations, List.mem_filter, mem_filterMap_place?, Bool.and_eq_true, beq_iff_eq, beq_iff_eq]

/-- What the scope declares is what is declared in the code for it. -/
structure Agrees (o : Opening) : Prop where
  owned : ∀ p ∈ o.declarations, p.id.name ∈ o.scope.declared ∧ o.scope ∈ p.scopes ++ o.base
  collected : ∀ name ∈ o.scope.declared, ∃ p ∈ o.declarations, p.id.name = name ∧
    o.outline.Shows [] p.id (p.scopes ++ o.base)

end Opening

/-- In code right inside of a scope that has a layer, the names are those that are declared for this
scope. -/
structure Opened (scope : Scope) (names : List String) (steps : List Step) (part : Outline) :
    Prop where
  owned : ∀ p, .ident p ∈ steps → p.site = .declaration → p.home? = some 1 →
    p.id.name ∈ names ∧ scope ∈ p.scopes
  collected : Collected (some 1) [scope] names steps part

namespace Opened

variable {scope : Scope} {names names' : List String} {steps steps' : List Step}
  {part rest : Outline}

/-- Code right inside of the layer. -/
theorem of_layer {layer : Layer} (hhome : home? [layer] = some 1)
    (hscope : layer.scope? = some scope) (h : Housed [layer] names steps)
    (hcollected : Collected (home? [layer]) [scope] names steps part) :
    Opened scope names steps part := by
  refine ⟨fun p hp hsite hdepth => ?_, hhome ▸ hcollected⟩
  rcases h p hp hsite with hinner | ⟨⟨hsuffix, -⟩, hname⟩
  · exact absurd (hinner 1 hdepth) (Nat.lt_irrefl _)
  · have hmem : layer ∈ p.layers := hsuffix.subset (List.mem_singleton_self _)
    exact ⟨hname, List.mem_filterMap.2 ⟨layer, hmem, hscope⟩⟩

/-- The body of a catch clause declares nothing for the clause. -/
theorem of_catchBody {body : List Stmt} {span : Span} {param : Option Pat}
    (h : Housed [.block body, .handler span param] names steps) : Opened scope [] steps part := by
  refine ⟨fun p hp hsite hdepth => ?_, .nil⟩
  rcases h p hp hsite with hinner | ⟨⟨-, hsame⟩, -⟩
  · exact absurd (hinner 1 hdepth) (by simp)
  · rw [hsame] at hdepth
    cases hdepth

theorem append (h : Opened scope names steps part) (h' : Opened scope names' steps' rest) :
    Opened scope (names ++ names') (steps ++ steps') (part.both rest) := by
  refine ⟨fun p hp hsite hdepth => ?_, h.collected.append h'.collected⟩
  rcases List.mem_append.1 hp with hp | hp
  · obtain ⟨hname, hscope⟩ := h.owned p hp hsite hdepth
    exact ⟨List.mem_append_left _ hname, hscope⟩
  · obtain ⟨hname, hscope⟩ := h'.owned p hp hsite hdepth
    exact ⟨List.mem_append_right _ hname, hscope⟩

/-- Code after which nothing is declared. -/
theorem left (h : Opened scope names steps part) (h' : Opened scope [] steps' rest) :
    Opened scope names (steps ++ steps') (part.both rest) := by
  simpa using h.append h'

/-- Code right inside of the layer that declares nothing. -/
theorem of_quiet {layer : Layer} (hhome : home? [layer] = some 1)
    (hscope : layer.scope? = some scope) (h : Housed [layer] [] steps) :
    Opened scope [] steps part :=
  of_layer hhome hscope h .nil

variable (span : Span) (own : Option Ident) (params : List Pat) (body : List Stmt)

/-- The parameters of a function. -/
theorem functionParams :
    Opened (.ofFunction span own params body) (patNames params)
      (stepsPats ⟨[.function span own params body .params], false, true⟩ params)
      (outlinePats params) :=
  let inside : Around := ⟨[.function span own params body .params], false, true⟩
  of_layer rfl rfl (compositional_housed.holds_pats inside params)
    (compositional_collected.holds_pats inside params rfl)

/-- The body of a function declares for the function what is hoisted out of it. -/
theorem functionBody :
    Opened (.ofFunction span own params body) (stmtsDeclared body)
      (stepsStmts ⟨[.function span own params body .body], false, true⟩ body) (outlineStmts body) :=
  let inside : Around := ⟨[.function span own params body .body], false, true⟩
  of_layer rfl rfl (compositional_housed.holds_stmts inside rfl rfl body)
    (compositional_collected.holds_stmts inside rfl rfl body rfl)

/-- The key of an accessor stands in the accessor's scope and declares nothing there. -/
theorem accessorKey (key : Key) :
    Opened (.ofFunction span own params body) []
      (stepsKey ⟨[.function span own params body .key], false, true⟩ key) (outlineKey key) :=
  of_quiet rfl rfl (compositional_housed.holds_key _ key)

end Opened

namespace Opening

/-- What holds right inside of the scope holds of the code. -/
theorem agrees_of_opened {o : Opening} {steps : List Step} {part : Outline}
    (h : Opened o.scope o.scope.declared steps part) (hdepth : o.depth = 1) (hbase : o.base = [])
    (hsteps : o.steps = stepsWithin o.scope steps)
    (hshows : ∀ id around, part.Shows [o.scope] id around → o.outline.Shows [] id around) :
    o.Agrees := by
  refine ⟨fun p hp => ?_, fun name hname => ?_⟩
  · obtain ⟨hmem, hsite, hhome⟩ := mem_declarations.1 hp
    rw [hsteps] at hmem
    rw [hbase, List.append_nil]
    exact h.owned p (mem_of_mem_stepsWithin hmem rfl) hsite (hdepth ▸ hhome)
  · obtain ⟨p, hp, hsite, hhome, hid, hshown⟩ := h.collected name hname
    refine ⟨p, mem_declarations.2 ⟨?_, hsite, hdepth ▸ hhome⟩, hid, ?_⟩
    · exact hsteps ▸ subset_stepsWithin o.scope steps hp
    · rw [hbase, List.append_nil]
      exact hshows _ _ hshown

theorem agrees_script (s : Script) : (Opening.script s).Agrees := by
  refine ⟨fun p hp => ?_, fun name hname => ?_⟩
  · obtain ⟨hmem, hsite, hhome⟩ := mem_declarations.1 hp
    rcases @housed_stmts ⟨[], false, true⟩ rfl rfl s.body p (mem_of_mem_stepsWithin hmem rfl)
      hsite with hinner | ⟨-, hname⟩
    · exact absurd (hinner 0 hhome) (Nat.lt_irrefl _)
    · exact ⟨hname, by simp [base, scope]⟩
  · obtain ⟨p, hp, hsite, hhome, hid, hshown⟩ :=
      compositional_collected.holds_stmts ⟨[], false, true⟩ rfl rfl s.body rfl name hname
    refine ⟨p, mem_declarations.2 ⟨?_, hsite, hhome⟩, hid, ?_⟩
    · exact List.mem_cons_of_mem _ (List.mem_append_left _ hp)
    · exact (hshown.under [.ofScript s]).within

theorem agrees (o : Opening) : o.Agrees := by
  cases o with
  | script s => exact agrees_script s
  | function own fn =>
    cases fn with
    | mk span isAsync isGenerator params body =>
      let inParams : Around := ⟨[.function span own params body .params], false, true⟩
      have hname : Opened (.ofFunction span own params body) _ _ _ :=
        .of_layer rfl rfl (compositional_housed.holds_name inParams own)
          (compositional_collected.holds_name inParams own rfl)
      have hparams := Opened.functionParams span own params body
      have hbody := Opened.functionBody span own params body
      exact agrees_of_opened ((hname.append hparams).append hbody) rfl rfl rfl
        fun _ _ h => h.within.targeting
  | arrow span isAsync params body =>
    let inParams : Around := ⟨[.arrow span params body .params], false, true⟩
    let inBody : Around := ⟨[.arrow span params body .body], false, true⟩
    have hparams : Opened (.ofFunction span none params body) _ _ _ :=
      .of_layer rfl rfl (compositional_housed.holds_pats inParams params)
        (compositional_collected.holds_pats inParams params rfl)
    have hbody : Opened (.ofFunction span none params body) _ _ _ :=
      .of_layer rfl rfl (compositional_housed.holds_stmts inBody rfl rfl body)
        (compositional_collected.holds_stmts inBody rfl rfl body rfl)
    exact agrees_of_opened (hparams.append hbody) rfl rfl rfl
      fun _ _ h => h.within.targeting.unlessStopped
  | arrowExpr span isAsync params body =>
    let inside : Around := ⟨[.arrowExpr span params], false, true⟩
    have hparams : Opened (.ofArrowExpr span params) _ _ _ :=
      .of_layer rfl rfl (compositional_housed.holds_pats inside params)
        (compositional_collected.holds_pats inside params rfl)
    have hbody : Opened (.ofArrowExpr span params) [] _ (outlineExpr body) :=
      .of_quiet rfl rfl (compositional_housed.holds_expr inside body)
    exact agrees_of_opened (hparams.left hbody) rfl rfl rfl
      fun _ _ h => h.within.targeting.unlessStopped
  | ctor span params body =>
    have hparams := Opened.functionParams span none params body
    have hbody := Opened.functionBody span none params body
    exact agrees_of_opened (hparams.append hbody) rfl rfl rfl fun _ _ h => h.within
  | getter span key body =>
    have hkey := Opened.accessorKey span none [] body key
    have hbody := Opened.functionBody span none [] body
    exact agrees_of_opened (hkey.append hbody) rfl rfl rfl fun _ _ h => h.within
  | setter span key param body =>
    let inParam : Around := ⟨[.function span none [param] body .params], false, true⟩
    have hkey := Opened.accessorKey span none [param] body key
    have hparam : Opened (.ofFunction span none [param] body) (patNames [param])
        (stepsPat inParam param) (outlinePat param) := by
      rw [patNames, patNames, List.append_nil]
      exact .of_layer rfl rfl (compositional_housed.holds_pat inParam param)
        (compositional_collected.holds_pat inParam param rfl)
    have hbody := Opened.functionBody span none [param] body
    exact agrees_of_opened ((hkey.append hparam).append hbody) rfl rfl rfl fun _ _ h => h.within
  | handler span param body =>
    let layer := Layer.handler span param
    have hparam : Opened (.ofCatch span param) _ _ _ :=
      .of_layer rfl rfl (compositional_housed.holds_optPat ⟨[layer], false, true⟩ param)
        (compositional_collected.holds_optPat ⟨[layer], false, true⟩ param rfl)
    have hbody : Opened (.ofCatch span param) [] _ (outlineStmts body) :=
      .of_catchBody (@housed_stmts ⟨[.block body, layer], false, true⟩ rfl rfl body)
    exact agrees_of_opened (hparam.left hbody) rfl rfl rfl fun _ _ h => h.within
  | namedClass name cls =>
    let inside : Around := ⟨[.namedClass name cls], false, true⟩
    have hname : Opened (.ofNamedClass name cls) [name.name] _ (.ident name .declaration) :=
      .of_layer rfl rfl (.declaration rfl)
        (.ident (p := inside.place name .declaration) rfl rfl rfl)
    have hclass : Opened (.ofNamedClass name cls) [] _ (outlineClass cls) :=
      .of_quiet rfl rfl (compositional_housed.holds_class inside cls)
    exact agrees_of_opened (hname.left hclass) rfl rfl rfl fun _ _ h => h.within.unlessStopped

end Opening

-- ---------------------------------------------------------------------------
-- Agreement
-- ---------------------------------------------------------------------------

/-- If a walker goes through code that opens a scope and leaves nothing out, then the names that the
scope declares are those of the declarations that it meets for this scope. At each of them the name
resolves. -/
theorem declared_iff_met (o : Opening) (outer : Scope.Stack) (sink : Sink σ ε) (settings : Settings)
    (w : Walker σ ε) (htracker : w.tracker = .ofStack outer)
    (hleft : (o.outline.drive sink settings w).leftOut = w.leftOut) :
    (∀ name, name ∈ o.scope.declared ↔
      ∃ e ∈ w.metSince (o.outline.drive sink settings w), o.Owns outer e ∧ e.id.name = name) ∧
      ∀ e ∈ w.metSince (o.outline.drive sink settings w), o.Owns outer e →
        (e.tracker.resolve e.id.name).isSome := by
  have hagrees := o.agrees
  refine ⟨fun name => ⟨fun hname => ?_, ?_⟩, ?_⟩
  · obtain ⟨p, hp, rfl, hshown⟩ := hagrees.collected name hname
    obtain ⟨e, he, hid, hat⟩ := hshown σ ε sink settings outer w htracker hleft
    exact ⟨e, he, ⟨p, hp, hid, hat⟩, by rw [hid]⟩
  · rintro ⟨e, -, ⟨p, hp, hid, -⟩, rfl⟩
    rw [hid]
    exact (hagrees.owned p hp).1
  · rintro e - ⟨p, hp, hid, hat⟩
    obtain ⟨hname, hscope⟩ := hagrees.owned p hp
    rw [hat, hid, Scope.Tracker.resolve_ofStack]
    exact Scope.Stack.isSome_resolve (List.mem_append_left _ hscope)
      (List.contains_iff_mem.2 hname)

/-- `function f({a, b: [c]}) { { var d; } try { } catch (e) { let g; } }` -/
def declaringSample : Opening :=
  .function (some ⟨"f", ⟨10, 11⟩⟩)
    (.mk ⟨1, 72⟩ false false
      [.object ⟨12, 23⟩ [.shorthand ⟨"a", ⟨13, 14⟩⟩ none,
        .keyValue (.named "b") (.array ⟨19, 22⟩ [.ident ⟨"c", ⟨20, 21⟩⟩])]]
      [.block [.varDecl .var [.mk (.ident ⟨"d", ⟨33, 34⟩⟩) none]],
        .tryStmt [] (some (.mk ⟨46, 70⟩ (some (.ident ⟨"e", ⟨53, 54⟩⟩))
          [.varDecl .letKind [.mk (.ident ⟨"g", ⟨62, 63⟩⟩) none]])) none])

theorem declared_iff_met_declaringSample :
    let w : Walker Unit Unit := .initial ()
    let after := declaringSample.outline.drive (fun s _ => ⟨s, [], none⟩) ⟨none, .none⟩ w
    (w.tracker = .ofStack [] ∧ after.leftOut = w.leftOut) ∧
      (∀ name, name ∈ declaringSample.scope.declared ↔
        ∃ e ∈ w.metSince after, declaringSample.Owns [] e ∧ e.id.name = name) ∧
      ∀ e ∈ w.metSince after, declaringSample.Owns [] e →
        (e.tracker.resolve e.id.name).isSome :=
  ⟨⟨rfl, rfl⟩, declared_iff_met declaringSample [] _ _ _ rfl rfl⟩

/-- The catch clause keeps its parameter. -/
example : declaringSample.declarations.map (·.id.name) = ["f", "a", "c", "d", "g"] := by
  decide

end Unbundle.Engine

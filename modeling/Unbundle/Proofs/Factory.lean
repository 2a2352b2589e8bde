-- SUMMARY: Factories of modules: what their identifiers mean and what replaces them.
import Unbundle.Proofs.Rewrite

/-!
# Factories

A `Factory` is the part of a module definition that turns into the module: its dependencies, its
parameters and its statements. What an identifier of a factory means depends on its place alone, and
not on the code around the factory: `Factory.meaning` says the same as the walk, whatever scopes are
open around the factory (`meaning_active`).

`Factory.reference` says what the module has in place of each identifier, given its imports.
-/

namespace Unbundle

open Script

-- ---------------------------------------------------------------------------
-- Resolution
-- ---------------------------------------------------------------------------

namespace Scope.Stack

theorem resolve_lt {name : String} {stack : Scope.Stack} {depth : Nat}
    (h : stack.resolve name = some depth) : depth < stack.length := by
  induction stack with
  | nil => simp [resolve] at h
  | cons scope outer ih =>
    simp only [resolve] at h
    split at h
    · simp only [Option.some.injEq] at h
      simp [← h]
    · have := ih h
      simp only [List.length_cons]
      omega

/-- A name resolves to a scope in the midst of a stack if that is the innermost to declare it. -/
theorem resolve_append_cons (name : String) (inner : Scope.Stack) (scope : Scope)
    (outer : Scope.Stack) :
    resolve name (inner ++ scope :: outer) = some outer.length ↔
      inner.any (·.declares name) = false ∧ scope.declares name = true := by
  induction inner with
  | nil =>
    by_cases hs : scope.declares name
    · simp [resolve, hs]
    · have hne : resolve name outer ≠ some outer.length :=
        fun h => absurd (resolve_lt h) (by omega)
      simp [resolve, hs, hne]
  | cons s inner ih =>
    by_cases hs : s.declares name
    · simp only [List.cons_append, resolve, hs, List.any_cons, if_true, List.length_append,
        List.length_cons, Option.some.injEq, Bool.true_or, Bool.true_eq_false, false_and, iff_false]
      omega
    · simp only [List.cons_append, resolve, hs, List.any_cons, Bool.false_or]
      simpa using ih

end Scope.Stack

namespace Engine

/-- The part of a module definition that turns into the module. -/
structure Factory where
  /-- The name of the module. -/
  name : String
  /-- Paths of the dependencies, in order. -/
  dependencies : List String
  /-- The own name of the function. -/
  own : Option Ident
  span : Span
  params : List Pat
  body : List Stmt

namespace Factory

/-- What the definition says. -/
def definition (f : Factory) : Amd.Definition :=
  ⟨f.name, f.dependencies, patNames f.params⟩

/-- What the parameters stand for. -/
def binding (f : Factory) : Amd.Binding :=
  .ofDefinition f.definition

/-- The scope of the factory. -/
def scope (f : Factory) : Scope :=
  .ofFunction f.span f.own f.params f.body

/-- What surrounds the statements of the factory, as seen from inside. -/
def around (f : Factory) : Around :=
  ⟨[.factory f.body], false, true⟩

/-- What the walk meets in the factory. -/
def steps (f : Factory) : List Step :=
  stepsName ⟨[], false, true⟩ f.own ++ stepsPats ⟨[], false, true⟩ f.params ++
    stepsStmts f.around f.body

/-- The places of the identifiers in the factory's statements. -/
def places (f : Factory) : List Place :=
  (stepsStmts f.around f.body).filterMap Step.place?

/-- What an identifier of the factory means. -/
def meaning (f : Factory) (p : Place) : Meaning :=
  if p.isShadowed = false ∧ f.scope.declares p.id.name then
    match f.binding.get? p.id.name with
    | some target => .bound target
    | none => .unbound (f.definition.params.contains p.id.name)
  else .foreign

/-- The factory as the active module, with these scopes around it. -/
def active (f : Factory) (outer : Scope.Stack) : Active :=
  ⟨f.definition, f.binding, outer.length⟩

/-- What a name means to the walk does not depend on the scopes around the factory. -/
theorem meaning_active (f : Factory) (outer : Scope.Stack) (p : Place) :
    (f.active outer).meaning (p.scopes ++ f.scope :: outer) p.id.name = f.meaning p := by
  have h : (Scope.Stack.resolve p.id.name (p.scopes ++ f.scope :: outer) ==
      some (f.active outer).depth) = true ↔
        p.isShadowed = false ∧ f.scope.declares p.id.name = true := by
    rw [beq_iff_eq]
    exact Scope.Stack.resolve_append_cons p.id.name p.scopes f.scope outer
  unfold Active.meaning meaning
  by_cases hp : p.isShadowed = false ∧ f.scope.declares p.id.name = true
  · rw [if_pos hp, if_pos (h.2 hp)]
    rfl
  · rw [if_neg hp, if_neg (fun hr => hp (h.1 hr))]

-- ---------------------------------------------------------------------------
-- The module
-- ---------------------------------------------------------------------------

/-- What a step adds to the findings. -/
def note (f : Factory) (findings : Findings) : Step → Findings
  | .ident p => record findings (f.meaning p) p.id p.site
  | .enter _ | .leave _ | .undefined _ => findings

/-- What a step gives rise to report. -/
def events (f : Factory) : Step → List Event
  | .ident p => identEvents (f.meaning p) p.id p.site
  | .leave scope => [.leftScope scope.span]
  | .enter _ | .undefined _ => []

/-- What is put at each place. -/
def filled (f : Factory) (filling : Filling) : Replacing :=
  fun p => filling.at (f.meaning p) p.site

/-- What is put at each place, once the imports have names. -/
def replacing (f : Factory) (locals : Locals) : Replacing :=
  f.filled (.complete locals)

/-- What is found in the factory. -/
def findings (f : Factory) : Findings :=
  f.steps.foldl f.note .empty

/-- The local names of the imports. -/
def locals (f : Factory) : Locals :=
  (Imports.ofFindings f.binding .none f.findings).locals

/-- The module that the factory turns into. -/
def module (f : Factory) : Module :=
  ⟨f.name, .code f.locals.imports (rewriteStmts (f.replacing f.locals) f.around f.body)⟩

-- ---------------------------------------------------------------------------
-- Bound names
-- ---------------------------------------------------------------------------

/-- A bound name is the name of a parameter. -/
theorem mem_params_of_bound {f : Factory} {name : String} {target : Amd.Target}
    (h : f.binding.get? name = some target) : name ∈ patNames f.params := by
  obtain ⟨before, after, heq, -⟩ := List.lookup_eq_some_iff.1 h
  have hmem : (name, target) ∈ f.binding.entries.reverse := by simp [heq]
  exact (List.of_mem_zip (List.mem_reverse.1 hmem)).1

/-- The scope of the factory declares its parameters. -/
theorem declares_of_bound {f : Factory} {name : String} {target : Amd.Target}
    (h : f.binding.get? name = some target) : f.scope.declares name = true := by
  have := mem_params_of_bound h
  simp [scope, Scope.declares, Scope.ofFunction, this]

/-- Whether a name is bound can be read off the parameters alone. -/
theorem meaning_eq_bound {f : Factory} {p : Place} {target : Amd.Target} :
    f.meaning p = .bound target ↔
      p.isShadowed = false ∧ f.binding.get? p.id.name = some target := by
  unfold meaning
  constructor
  · intro h
    split at h
    · rename_i hp
      split at h
      · rename_i t ht
        cases h
        exact ⟨hp.1, ht⟩
      · cases h
    · cases h
  · rintro ⟨hs, ht⟩
    rw [if_pos ⟨hs, declares_of_bound ht⟩, ht]

end Factory
end Engine
end Unbundle

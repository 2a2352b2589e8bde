-- SUMMARY: Every definition of a script is what one of its calls defines.
import Unbundle.Proofs.Outside

/-!
# Defining calls

The definitions of a script are collected by going through the script. Each of them is what some
call defines (`called_definitionsStmts`), so it has the shape that such a call has: the parameters
of its factory are plain names (`Factory.paramName?_of_found`).
-/

namespace Unbundle.Engine

open Script

/-- Each of these definitions is what some call defines. -/
def Called (found : List Found) : Prop :=
  ∀ d ∈ found, ∃ callee args, found? callee args = some d

namespace Called

variable {found rest : List Found}

theorem nil : Called [] := by
  intro d hd
  cases hd

theorem append (h : Called found) (hrest : Called rest) : Called (found ++ rest) := by
  intro d hd
  rcases List.mem_append.1 hd with hd | hd
  · exact h d hd
  · exact hrest d hd

/-- At a call, either it defines something, or its parts do. -/
theorem call {callee : Expr} {args : List Expr} (hcallee : Called (definitionsExpr callee))
    (hargs : Called (definitionsExprs args)) (span : Span) :
    Called (definitionsExpr (.call span callee args)) := by
  simp only [definitionsExpr]
  cases hfound : found? callee args with
  | none => exact hcallee.append hargs
  | some found =>
    intro d hd
    obtain rfl := List.mem_singleton.1 hd
    exact ⟨callee, args, hfound⟩

end Called

/-- Whatever the walk is, the definitions that it comes across are defined by calls. -/
theorem gathers_called : Gathers fun (_ : Walk Unit Unit _) found => Called found where
  pure _ := .nil
  map _ _ _ h := h
  seq h h' := h.append h'
  unlessStopped _ _ _ h := h
  targeting _ _ _ h := h
  within _ _ _ h := h
  ident _ _ := .nil
  patternIdent _ h _ := h
  call span _ _ hcallee hargs := .call hcallee hargs span

theorem called_definitionsStmts (body : List Stmt) : Called (definitionsStmts body) :=
  gathers_called.holds_visitStmts body

-- ---------------------------------------------------------------------------
-- Parameters
-- ---------------------------------------------------------------------------

/-- If every item has a value, each of them has one. -/
theorem isSome_of_mapM {α β : Type} {g : α → Option β} {items : List α} {values : List β}
    (h : items.mapM g = some values) : ∀ a ∈ items, (g a).isSome := by
  intro a ha
  have hmem : g a ∈ values.map some := mapM_eq_some_iff.1 h ▸ List.mem_map_of_mem ha
  obtain ⟨value, -, hvalue⟩ := List.mem_map.1 hmem
  rw [← hvalue, Option.isSome_some]

/-- The parameters of a factory that a call defines are plain names. -/
theorem Factory.paramName?_of_found {callee : Expr} {args : List Expr} {f : Factory}
    (h : found? callee args = some (.module f)) :
    ∀ p ∈ f.params, (Amd.paramName? p).isSome := by
  unfold found? at h
  split at h
  · rename_i d name deps own span isAsync isGenerator params body hd
    cases h
    obtain ⟨_, _, _, _, _, _, _, _, hargs, hnames⟩ :=
      moduleDefinition?_eq_some (moduleDefinition?_of_recognize hd)
    cases hargs
    exact isSome_of_mapM hnames
  · cases h
  · cases h

/-- The parameters of a factory of the script are plain names. -/
theorem Factory.paramName?_of_definition {script : Script} {k : Nat} {f : Factory}
    (hf : script.definitions[k]? = some (.module f)) :
    ∀ p ∈ f.params, (Amd.paramName? p).isSome := by
  obtain ⟨callee, args, h⟩ := called_definitionsStmts script.body _ (List.mem_of_getElem? hf)
  exact Factory.paramName?_of_found h

end Unbundle.Engine

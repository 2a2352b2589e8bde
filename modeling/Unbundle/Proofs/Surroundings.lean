-- SUMMARY: A walker gives back its surroundings, and knows what a name means as the walk does.
import Unbundle.Proofs.Outline

/-!
# Surroundings of a walker

A walker changes its variables on the way in and changes them back on the way out. Whatever outline
it follows, and wherever the walk stops, it gives back the surroundings it was given
(`restored_drive`); so scopes are always given up in the order in which they were opened.

`Walker.Has` says that a walker has the surroundings that a walk is given: the same scopes are open,
and it is in the same module. A name means the same to both (`Walker.Has.meaning_eq`).
-/

namespace Unbundle.Engine

open Script

variable {σ ε : Type}

-- ---------------------------------------------------------------------------
-- Surroundings are given back
-- ---------------------------------------------------------------------------

/-- The module of a walker before and after a part: it is the same one, and the index of its
factory's scope is not forgotten. -/
def Entered.Kept (before after : Option Entered) : Prop :=
  after = before ∨ ∃ f id, before = some ⟨f, none⟩ ∧ after = some ⟨f, some id⟩

namespace Entered.Kept

variable {before middle after : Option Entered}

theorem refl : Kept before before :=
  .inl rfl

theorem trans (h : Kept before middle) (h' : Kept middle after) : Kept before after := by
  rcases h with rfl | ⟨f, id, hbefore, hmiddle⟩
  · exact h'
  · rcases h' with rfl | ⟨f', id', hmiddle', -⟩
    · exact .inr ⟨f, id, hbefore, hmiddle⟩
    · rw [hmiddle] at hmiddle'
      cases hmiddle'

theorem of_none (h : Kept none after) : after = none := by
  rcases h with h | ⟨f, id, h, -⟩
  · exact h
  · cases h

theorem of_open {f : Factory} {id : Nat} (h : Kept (some ⟨f, some id⟩) after) :
    after = some ⟨f, some id⟩ := by
  rcases h with h | ⟨f', id', h, -⟩
  · exact h
  · cases h

end Entered.Kept

/-- A walker has the surroundings again that it had before. -/
structure Walker.Restored (before after : Walker σ ε) : Prop where
  tracker : after.tracker = before.tracker
  inTarget : after.inTarget = before.inTarget
  entered : Entered.Kept before.entered after.entered
  inOrder : after.inOrder = before.inOrder

namespace Walker

@[simp] theorem tracker_openScope (w : Walker σ ε) (scope : Scope) :
    (w.openScope scope).tracker = w.tracker.enter scope := by
  unfold openScope
  split
  · split <;> rfl
  · rfl

@[simp] theorem inTarget_openScope (w : Walker σ ε) (scope : Scope) :
    (w.openScope scope).inTarget = w.inTarget := by
  unfold openScope
  split
  · split <;> rfl
  · rfl

@[simp] theorem inOrder_openScope (w : Walker σ ε) (scope : Scope) :
    (w.openScope scope).inOrder = w.inOrder := by
  unfold openScope
  split
  · split <;> rfl
  · rfl

theorem kept_openScope (w : Walker σ ε) (scope : Scope) :
    Entered.Kept w.entered (w.openScope scope).entered := by
  unfold openScope
  split
  · rename_i f hentered
    split
    · exact .inr ⟨f, w.tracker.depth, hentered, rfl⟩
    · exact .refl
  · exact .refl

/-- Giving up the scope that was opened last. -/
theorem closeScope_of_enter {w : Walker σ ε} {tracker : Scope.Tracker} {scope : Scope}
    (h : w.tracker = tracker.enter scope) :
    w.closeScope = { w.report [.leftScope scope.span] with tracker := tracker } := by
  have hlast : w.tracker.slots.back? = some ⟨scope, tracker.current⟩ := by
    rw [h]
    simp [Scope.Tracker.enter]
  unfold closeScope
  rw [hlast]
  simp [h, report]

namespace Restored

variable {w w' w'' : Walker σ ε}

theorem refl (w : Walker σ ε) : Restored w w :=
  ⟨rfl, rfl, .refl, rfl⟩

theorem trans (h : Restored w w') (h' : Restored w' w'') : Restored w w'' :=
  ⟨h'.tracker.trans h.tracker, h'.inTarget.trans h.inTarget, h.entered.trans h'.entered,
    h'.inOrder.trans h.inOrder⟩

theorem report (w : Walker σ ε) (events : List Event) : Restored w (w.report events) :=
  ⟨rfl, rfl, .refl, rfl⟩

theorem meet (w : Walker σ ε) (id : Ident) (site : Site) : Restored w (w.meet id site) := by
  unfold Walker.meet
  simp only
  split
  · exact ⟨rfl, rfl, .refl, rfl⟩
  · exact ⟨rfl, rfl, .refl, rfl⟩

theorem deliver (sink : Sink σ ε) (settings : Settings) (m : Module) (w : Walker σ ε) :
    Restored w (w.deliver sink settings m) :=
  ⟨rfl, rfl, .refl, rfl⟩

/-- A scope is opened and given up again. -/
theorem within {scope : Scope} (h : Restored (w.openScope scope) w') :
    Restored w w'.closeScope := by
  have htracker : w'.tracker = w.tracker.enter scope := by
    rw [h.tracker, tracker_openScope]
  rw [closeScope_of_enter htracker]
  refine ⟨rfl, ?_, ?_, ?_⟩
  · exact h.inTarget.trans (inTarget_openScope w scope)
  · exact (kept_openScope w scope).trans h.entered
  · exact h.inOrder.trans (inOrder_openScope w scope)

/-- A module is entered and left again. -/
theorem module {sink : Sink σ ε} {settings : Settings} {f : Factory} (hentered : w.entered = none)
    (h : Restored (w.openModule f) w') : Restored w (w'.closeModule sink settings) := by
  unfold closeModule
  split
  · rename_i hnone
    -- The module cannot be lost on the way.
    rcases h.entered with hsame | ⟨f', id, -, hopen⟩
    · rw [hsame] at hnone
      cases hnone
    · rw [hopen] at hnone
      cases hnone
  · exact ⟨h.tracker, h.inTarget, .inl hentered.symm, h.inOrder⟩

end Restored
end Walker

/-- Following an outline gives back the surroundings, wherever the walk stops. -/
theorem restored_drive (sink : Sink σ ε) (settings : Settings) (part : Outline) (w : Walker σ ε) :
    w.Restored (part.drive sink settings w) := by
  induction part generalizing w with
  | nothing => exact .refl w
  | both first second ih ih' => exact (ih w).trans (ih' _)
  | ident id site => exact .meet w id site
  | patternIdent id => exact .meet w id _
  | unlessStopped part ih =>
    unfold Outline.drive
    split
    · exact ⟨rfl, rfl, .refl, rfl⟩
    · exact ih w
  | within scope part ih => exact (ih (w.openScope scope)).within
  | targeting inTarget part ih =>
    have h := ih { w with inTarget := inTarget }
    exact ⟨h.tracker, rfl, h.entered, h.inOrder⟩
  | call callee args parts ih =>
    unfold Outline.drive
    split
    · rename_i f hentered hfound
      exact (ih (w.openModule f)).module hentered
    · exact (Walker.Restored.report w _).trans (.deliver sink settings _ _)
    · exact (Walker.Restored.report w _).trans (ih _)
    · exact ih w

-- ---------------------------------------------------------------------------
-- The surroundings of a walk
-- ---------------------------------------------------------------------------

/-- Where these scopes are open, a walker in this module is what a walk in that one is. -/
inductive Entered.Stands (scopes : Scope.Stack) : Option Active → Option Entered → Prop where
  | outside : Stands scopes none none
  | inside (f : Factory) (inner outer : Scope.Stack) : scopes = inner ++ f.scope :: outer →
      Stands scopes (some (f.active outer)) (some ⟨f, some outer.length⟩)

namespace Entered.Stands

variable {scopes : Scope.Stack} {active : Option Active} {before after : Option Entered}

theorem kept (h : Stands scopes active before) (hkept : Kept before after) :
    Stands scopes active after := by
  cases h with
  | outside =>
    rw [hkept.of_none]
    exact .outside
  | inside f inner outer hscopes =>
    rw [hkept.of_open]
    exact .inside f inner outer hscopes

theorem enter (h : Stands scopes active before) (scope : Scope) :
    Stands (scope :: scopes) active before := by
  cases h with
  | outside => exact .outside
  | inside f inner outer hscopes =>
    exact .inside f (scope :: inner) outer (by rw [hscopes, List.cons_append])

/-- The scope of the factory is open already. -/
theorem not_pending {f : Factory} : ¬ Stands scopes active (some ⟨f, none⟩) := by
  intro h
  cases h

theorem of_none (h : Stands scopes active none) : active = none := by
  cases h
  rfl

theorem of_some {entered : Entered} (h : Stands scopes active (some entered)) :
    ∃ a, active = some a := by
  cases h with
  | inside f inner outer hscopes => exact ⟨f.active outer, rfl⟩

theorem of_open {f : Factory} {id : Nat} (h : Stands scopes active (some ⟨f, some id⟩)) :
    ∃ outer : Scope.Stack, active = some (f.active outer) ∧ id = outer.length := by
  cases h with
  | inside f inner outer hscopes => exact ⟨outer, rfl, rfl⟩

/-- The index of the factory's scope is the index of that scope. -/
theorem scope?_eq {f : Factory} {id : Nat} (h : Stands scopes active (some ⟨f, some id⟩)) :
    (Scope.Tracker.ofStack scopes).scope? id = some f.scope := by
  cases h with
  | inside f inner outer hscopes =>
    rw [Scope.Tracker.scope?_eq_getElem?_scopes, Scope.Tracker.scopes_ofStack, hscopes]
    simp

end Entered.Stands

/-- The walker has the surroundings of a walk. -/
structure Walker.Has (env : Env σ ε) (w : Walker σ ε) : Prop where
  tracker : w.tracker = .ofStack env.scopes
  inTarget : w.inTarget = env.inTarget
  entered : Entered.Stands env.scopes env.active w.entered

namespace Walker.Has

variable {env : Env σ ε} {w w' : Walker σ ε}

theorem restored (h : w.Has env) (hw : w.Restored w') : w'.Has env :=
  ⟨hw.tracker.trans h.tracker, hw.inTarget.trans h.inTarget, h.entered.kept hw.entered⟩

theorem report (h : w.Has env) (events : List Event) : (w.report events).Has env :=
  ⟨h.tracker, h.inTarget, h.entered⟩

theorem targeting (h : w.Has env) (inTarget : Bool) :
    { w with inTarget := inTarget }.Has { env with inTarget := inTarget } :=
  ⟨h.tracker, rfl, h.entered⟩

/-- With these surroundings the scope of the factory is open already, or there is none. -/
theorem openScope_eq (h : w.Has env) (scope : Scope) :
    w.openScope scope = { w with tracker := w.tracker.enter scope } := by
  unfold openScope
  split
  · rename_i f hpending
    exact absurd (hpending ▸ h.entered) Entered.Stands.not_pending
  · rfl

theorem within (h : w.Has env) (scope : Scope) :
    (w.openScope scope).Has { env with scopes := env.scopes.enter scope } := by
  rw [h.openScope_eq]
  refine ⟨?_, h.inTarget, h.entered.enter scope⟩
  rw [h.tracker]
  rfl

/-- A name means the same to the walker and to the walk. -/
theorem meaning_eq (h : w.Has env) {f : Factory} {id : Nat}
    (hentered : w.entered = some ⟨f, some id⟩) (name : String) :
    ∃ active, env.active = some active ∧
      meaning f id w.tracker name = active.meaning env.scopes name := by
  obtain ⟨outer, hactive, rfl⟩ := Entered.Stands.of_open (hentered ▸ h.entered)
  refine ⟨f.active outer, hactive, ?_⟩
  rw [h.tracker]
  simp only [meaning, Scope.Tracker.resolve_ofStack]
  rfl

end Walker.Has

end Unbundle.Engine

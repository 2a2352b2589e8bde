-- SUMMARY: The arena that open scopes are kept in, and the stack of scopes that it stands for.
import Unbundle.Proofs.Factory

/-!
# Scopes in an arena

A `Scope.Tracker` keeps the open scopes in an array, the outermost first. A scope is known by its
index, every slot holds the index of the scope around it, and the tracker knows the current one. A
name is looked up from the current scope outwards, along the indices.

`Tracker.ofStack` is the tracker after the scopes of a stack have been entered. It resolves names as
the stack does (`resolve_ofStack`), and leaving a scope gives back the tracker from before
(`leave_enter`).
-/

namespace Unbundle.Scope

/-- An open scope, with the index of the scope around it. -/
structure Slot where
  scope : Scope
  parent : Option Nat
deriving DecidableEq, Repr, Inhabited

/-- The open scopes, the outermost first, and the index of the current one. -/
structure Tracker where
  slots : Array Slot
  current : Option Nat
deriving DecidableEq, Repr, Inhabited

namespace Tracker

def empty : Tracker := ⟨#[], none⟩

/-- The number of open scopes. -/
def depth (t : Tracker) : Nat :=
  t.slots.size

/-- The open scopes, the outermost first. -/
def scopes (t : Tracker) : List Scope :=
  t.slots.toList.map (·.scope)

/-- The open scope that has an index. -/
def scope? (t : Tracker) (id : Nat) : Option Scope :=
  t.slots[id]?.map (·.scope)

/-- Opens a scope inside of the current one. -/
def enter (t : Tracker) (scope : Scope) : Tracker :=
  ⟨t.slots.push ⟨scope, t.current⟩, some t.slots.size⟩

/-- Gives up the scope that was opened last; the one around it is current again. -/
def leave (t : Tracker) : Tracker :=
  match t.slots.back? with
  | none => t
  | some slot => ⟨t.slots.pop, slot.parent⟩

/-- The scope that `leave` gives up is the current one. -/
def isInOrder (t : Tracker) : Bool :=
  t.slots.isEmpty || t.current == some (t.slots.size - 1)

/-- Looks a name up from a scope outwards. An index that does not go outwards ends the search. -/
def resolveFrom (t : Tracker) (name : String) (id : Nat) : Option Nat :=
  match t.slots[id]? with
  | none => none
  | some slot =>
    if slot.scope.declares name then some id
    else match slot.parent with
      | none => none
      | some parent => if parent < id then t.resolveFrom name parent else none
termination_by id

/-- The innermost open scope that declares a name. -/
def resolve (t : Tracker) (name : String) : Option Nat :=
  t.current.bind (t.resolveFrom name)

/-- The tracker that has the scopes of a stack open. -/
def ofStack : Stack → Tracker
  | [] => empty
  | scope :: outer => (ofStack outer).enter scope

-- ---------------------------------------------------------------------------
-- Entering and leaving
-- ---------------------------------------------------------------------------

variable (t : Tracker) (scope : Scope)

/-- Leaving a scope undoes entering it. -/
@[simp] theorem leave_enter : (t.enter scope).leave = t := by
  simp [leave, enter]

@[simp] theorem isInOrder_enter : (t.enter scope).isInOrder = true := by
  simp [isInOrder, enter]

@[simp] theorem scopes_enter : (t.enter scope).scopes = t.scopes ++ [scope] := by
  simp [scopes, enter]

theorem depth_eq_length_scopes : t.depth = t.scopes.length := by
  simp [depth, scopes]

theorem scope?_eq_getElem?_scopes (id : Nat) : t.scope? id = t.scopes[id]? := by
  simp [scope?, scopes]

-- ---------------------------------------------------------------------------
-- Resolution
-- ---------------------------------------------------------------------------

/-- What is looked up further out does not see the scope that was entered last. -/
theorem resolveFrom_enter (name : String) {id : Nat} (h : id < t.depth) :
    (t.enter scope).resolveFrom name id = t.resolveFrom name id := by
  induction id using Nat.strongRecOn with
  | ind id ih =>
    have hslot : (t.enter scope).slots[id]? = t.slots[id]? := Array.getElem?_push_lt h ▸
      (Array.getElem?_eq_getElem h).symm
    rw [resolveFrom, resolveFrom, hslot]
    cases t.slots[id]? with
    | none => rfl
    | some slot =>
      simp only
      split
      · rfl
      · split
        · rfl
        · rename_i parent _
          split
          · rename_i hparent
            exact ih parent hparent (Nat.lt_trans hparent h)
          · rfl

theorem resolve_enter (name : String) (hcurrent : ∀ id, t.current = some id → id < t.depth) :
    (t.enter scope).resolve name =
      if scope.declares name then some t.depth else t.resolve name := by
  have hslot : (t.enter scope).slots[t.depth]? = some ⟨scope, t.current⟩ := by
    simp [enter, depth]
  change (t.enter scope).resolveFrom name t.depth = _
  rw [resolveFrom, hslot]
  simp only
  split
  · rfl
  · cases hc : t.current with
    | none => simp [resolve, hc]
    | some id =>
      have hid := hcurrent id hc
      simp [resolve, hc, hid, resolveFrom_enter]

-- ---------------------------------------------------------------------------
-- Trackers of stacks
-- ---------------------------------------------------------------------------

@[simp] theorem scopes_ofStack (stack : Stack) : (ofStack stack).scopes = stack.reverse := by
  induction stack with
  | nil => rfl
  | cons scope outer ih => rw [ofStack, scopes_enter, ih, List.reverse_cons]

@[simp] theorem depth_ofStack (stack : Stack) : (ofStack stack).depth = stack.length := by
  rw [depth_eq_length_scopes, scopes_ofStack, List.length_reverse]

theorem current_ofStack (stack : Stack) : (ofStack stack).current = stack.current? := by
  cases stack with
  | nil => rfl
  | cons scope outer =>
    change some (ofStack outer).depth = some outer.length
    rw [depth_ofStack]

theorem current_ofStack_lt {stack : Stack} {id : Nat} (h : (ofStack stack).current = some id) :
    id < (ofStack stack).depth := by
  rw [current_ofStack] at h
  cases stack with
  | nil => cases h
  | cons scope outer =>
    cases h
    simp

/-- Names resolve in the arena as they do in the stack. -/
@[simp] theorem resolve_ofStack (stack : Stack) (name : String) :
    (ofStack stack).resolve name = stack.resolve name := by
  induction stack with
  | nil => rfl
  | cons scope outer ih =>
    rw [ofStack, resolve_enter _ _ _ fun _ => current_ofStack_lt, ih, depth_ofStack]
    rfl

end Tracker

/-- A name that an open scope declares resolves to some scope. -/
theorem Stack.isSome_resolve {stack : Stack} {name : String} {scope : Scope} (hmem : scope ∈ stack)
    (hdeclares : scope.declares name = true) : (stack.resolve name).isSome := by
  induction stack with
  | nil => cases hmem
  | cons inner outer ih =>
    rw [Stack.resolve]
    split
    · rfl
    · rename_i hinner
      rcases List.mem_cons.1 hmem with rfl | hmem
      · exact absurd hdeclares hinner
      · exact ih hmem

end Unbundle.Scope

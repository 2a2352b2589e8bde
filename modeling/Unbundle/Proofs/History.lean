-- SUMMARY: Whatever scopes are entered and left, the arena stays a chain and resolves like the stack.
import Mathlib.Order.Bounds.Defs
import Unbundle.Proofs.Tracker

/-!
# Histories of open scopes

A history is any list of moves, each of which enters a scope or leaves the last one; leaving with no
scope open does nothing. After every history the slots of a `Tracker` form a chain (`IsChain`): each
slot names the one before it, and the last one is current. So the walk outwards from the current scope
meets every slot once, from the last to the first, and looking a name up on the way finds the last
slot that declares it.
-/

namespace Unbundle.Scope

/-- What happens to the open scopes. -/
inductive Move where
  | enter (scope : Scope)
  | leave
deriving DecidableEq, Repr

/-- The moves leave the scopes that they enter, and no others. -/
inductive Balanced : List Move → Prop where
  | nil : Balanced []
  | nest (scope : Scope) {inner rest : List Move} (hinner : Balanced inner)
    (hrest : Balanced rest) : Balanced (.enter scope :: inner ++ .leave :: rest)

namespace Stack

def move (stack : Stack) : Move → Stack
  | .enter scope => stack.enter scope
  | .leave => stack.leave

def run (stack : Stack) (moves : List Move) : Stack :=
  moves.foldl move stack

end Stack

namespace Tracker

def move (t : Tracker) : Move → Tracker
  | .enter scope => t.enter scope
  | .leave => t.leave

def run (t : Tracker) (moves : List Move) : Tracker :=
  moves.foldl move t

/-- The index before an index, or before the end of the slots. -/
def before : Nat → Option Nat
  | 0 => none
  | i + 1 => some i

/-- The last slot is current, and each slot is inside of the one before it. -/
structure IsChain (t : Tracker) : Prop where
  current : t.current = before t.depth
  parent : ∀ {i : Nat} {slot : Slot}, t.slots[i]? = some slot → slot.parent = before i

/-- The walk from a scope outwards: it reads the slot of each index that it meets, goes on with the
parent, and ends at a slot that has none. An index without a slot leads nowhere. -/
inductive Outward (t : Tracker) : Option Nat → List Nat → Prop where
  | stop : Outward t none []
  | step {id : Nat} {slot : Slot} {ids : List Nat} (hslot : t.slots[id]? = some slot)
    (hrest : Outward t slot.parent ids) : Outward t (some id) (id :: ids)

/-- An open scope that has an index declares a name. -/
def declaresAt (t : Tracker) (name : String) (id : Nat) : Bool :=
  (t.scope? id).any (·.declares name)

variable {t : Tracker} {moves : List Move}

theorem run_append (t : Tracker) (moves more : List Move) :
    t.run (moves ++ more) = (t.run moves).run more :=
  List.foldl_append

-- ---------------------------------------------------------------------------
-- Chains
-- ---------------------------------------------------------------------------

theorem isChain_empty : empty.IsChain where
  current := rfl
  parent h := by simp [empty] at h

theorem IsChain.enter (h : t.IsChain) (scope : Scope) : (t.enter scope).IsChain where
  current := by simp [Tracker.enter, depth, before]
  parent := by
    intro i slot hslot
    rw [Tracker.enter, Array.getElem?_push] at hslot
    split at hslot
    · rename_i hi
      cases hslot
      rw [hi]
      exact h.current
    · exact h.parent hslot

theorem IsChain.leave (h : t.IsChain) : t.leave.IsChain := by
  unfold Tracker.leave
  cases hback : t.slots.back? with
  | none => exact h
  | some slot =>
    refine ⟨?_, ?_⟩
    · rw [Array.back?] at hback
      simpa [depth] using h.parent hback
    · intro i slot hslot
      rw [Array.getElem?_pop] at hslot
      split at hslot
      · exact h.parent hslot
      · cases hslot

/-- A move keeps the chain. -/
theorem IsChain.move (h : t.IsChain) (m : Move) : (t.move m).IsChain := by
  cases m with
  | enter scope => exact h.enter scope
  | leave => exact h.leave

theorem IsChain.run (h : t.IsChain) (moves : List Move) : (t.run moves).IsChain := by
  induction moves generalizing t with
  | nil => exact h
  | cons m moves ih => exact ih (h.move m)

-- ---------------------------------------------------------------------------
-- The walk outwards
-- ---------------------------------------------------------------------------

theorem lt_depth_of_before {i id : Nat} (hi : i ≤ t.depth) (h : before i = some id) :
    id < t.depth := by
  cases i with
  | zero => cases h
  | succ i =>
    cases h
    exact hi

/-- The current scope and the parents of open scopes are open. -/
theorem IsChain.lt_depth (h : t.IsChain) {id : Nat}
    (hid : t.current = some id ∨ ∃ slot ∈ t.slots, slot.parent = some id) : id < t.depth := by
  rcases hid with hcurrent | ⟨slot, hmem, hparent⟩
  · rw [h.current] at hcurrent
    exact lt_depth_of_before (Nat.le_refl _) hcurrent
  · obtain ⟨i, hslot⟩ := Array.getElem?_of_mem hmem
    have hi : i < t.depth := (Array.getElem?_eq_some_iff.1 hslot).1
    rw [h.parent hslot] at hparent
    exact lt_depth_of_before (Nat.le_of_lt hi) hparent

theorem exists_slot {i : Nat} (hi : i < t.depth) : ∃ slot, t.slots[i]? = some slot :=
  ⟨_, Array.getElem?_eq_getElem hi⟩

/-- The walk meets every index below the one it starts from, in turn. -/
theorem IsChain.outward (h : t.IsChain) {i : Nat} (hi : i ≤ t.depth) :
    t.Outward (before i) (List.range i).reverse := by
  induction i with
  | zero => exact .stop
  | succ i ih =>
    obtain ⟨slot, hslot⟩ := exists_slot hi
    rw [List.range_succ, List.reverse_append]
    apply Outward.step hslot
    rw [h.parent hslot]
    exact ih (Nat.le_of_succ_le hi)

-- ---------------------------------------------------------------------------
-- Resolution
-- ---------------------------------------------------------------------------

/-- In a chain every parent is further out, so the look-up goes on until there is none. -/
theorem IsChain.resolveFrom_eq (h : t.IsChain) (name : String) {i : Nat} (hi : i < t.depth) :
    t.resolveFrom name i =
      if t.declaresAt name i then some i else (before i).bind (t.resolveFrom name) := by
  obtain ⟨slot, hslot⟩ := exists_slot hi
  have hdeclares : t.declaresAt name i = slot.scope.declares name := by
    simp [declaresAt, scope?, hslot]
  rw [Tracker.resolveFrom, hslot, hdeclares]
  simp only [h.parent hslot]
  cases i with
  | zero => rfl
  | succ i => simp [before]

/-- Looking a name up tests the scopes that the walk meets. -/
theorem IsChain.bind_resolveFrom (h : t.IsChain) (name : String) {i : Nat} (hi : i ≤ t.depth) :
    (before i).bind (t.resolveFrom name) =
      (List.range i).reverse.find? (t.declaresAt name) := by
  induction i with
  | zero => rfl
  | succ i ih =>
    rw [List.range_succ, List.reverse_append, before, Option.bind_some,
      h.resolveFrom_eq name hi, ih (Nat.le_of_succ_le hi)]
    change _ = List.find? _ (i :: _)
    rw [List.find?_cons]
    cases t.declaresAt name i <;> rfl

theorem IsChain.resolve (h : t.IsChain) (name : String) :
    t.resolve name = (List.range t.depth).reverse.find? (t.declaresAt name) := by
  rw [Tracker.resolve, h.current]
  exact h.bind_resolveFrom name (Nat.le_refl _)

/-- Searching from the end finds the greatest index. -/
theorem find?_reverse_range {p : Nat → Bool} {n i : Nat} :
    (List.range n).reverse.find? p = some i ↔ IsGreatest {j | j < n ∧ p j = true} i := by
  induction n with
  | zero =>
    constructor
    · intro h
      cases h
    · intro h
      exact absurd h.1.1 (Nat.not_lt_zero i)
  | succ n ih =>
    rw [List.range_succ, List.reverse_append]
    change List.find? p (n :: _) = some i ↔ _
    rw [List.find?_cons]
    cases hn : p n with
    | true =>
      constructor
      · intro h
        cases h
        exact ⟨⟨Nat.lt_succ_self _, hn⟩, fun j hj => Nat.le_of_lt_succ hj.1⟩
      · intro h
        have hle : n ≤ i := h.2 ⟨Nat.lt_succ_self n, hn⟩
        exact congrArg some (Nat.le_antisymm hle (Nat.le_of_lt_succ h.1.1))
    | false =>
      have hset : {j | j < n + 1 ∧ p j = true} = {j | j < n ∧ p j = true} := by
        ext j
        constructor
        · rintro ⟨hj, hp⟩
          have hne : j ≠ n := fun h => by simp [h, hn] at hp
          exact ⟨by omega, hp⟩
        · rintro ⟨hj, hp⟩
          exact ⟨Nat.lt_succ_of_lt hj, hp⟩
      rw [hset]
      exact ih

theorem lt_depth_of_declaresAt {name : String} {i : Nat} (h : t.declaresAt name i = true) :
    i < t.depth := by
  apply Nat.lt_of_not_le
  intro hi
  have hnone : t.slots[i]? = none := Array.getElem?_eq_none hi
  simp [declaresAt, scope?, hnone] at h

/-- A name resolves to the last open scope that declares it. -/
theorem IsChain.resolve_eq_some (h : t.IsChain) (name : String) (id : Nat) :
    t.resolve name = some id ↔ IsGreatest {i | t.declaresAt name i = true} id := by
  have hset : {i | i < t.depth ∧ t.declaresAt name i = true} = {i | t.declaresAt name i = true} := by
    ext i
    exact ⟨fun hi => hi.2, fun hi => ⟨lt_depth_of_declaresAt hi, hi⟩⟩
  rw [h.resolve, find?_reverse_range, hset]

theorem IsChain.resolve_eq_none (h : t.IsChain) (name : String) :
    t.resolve name = none ↔ ∀ i, t.declaresAt name i = false := by
  rw [h.resolve, List.find?_eq_none]
  constructor
  · intro hnone i
    rw [← Bool.not_eq_true]
    intro hi
    exact hnone i (by simpa using lt_depth_of_declaresAt hi) hi
  · intro hnone i _
    simp [hnone i]

-- ---------------------------------------------------------------------------
-- Histories
-- ---------------------------------------------------------------------------

theorem move_ofStack (stack : Stack) (m : Move) :
    (ofStack stack).move m = ofStack (stack.move m) := by
  cases m with
  | enter scope => rfl
  | leave =>
    cases stack with
    | nil => rfl
    | cons scope outer => exact leave_enter (ofStack outer) scope

/-- The arena goes through a history in step with the stack. -/
theorem run_ofStack (stack : Stack) (moves : List Move) :
    (ofStack stack).run moves = ofStack (stack.run moves) := by
  induction moves generalizing stack with
  | nil => rfl
  | cons m moves ih =>
    change ((ofStack stack).move m).run moves = ofStack ((stack.move m).run moves)
    rw [move_ofStack]
    exact ih (stack.move m)

/-- Moves that leave what they enter change nothing. -/
theorem run_balanced (h : Balanced moves) (t : Tracker) : t.run moves = t := by
  induction h generalizing t with
  | nil => rfl
  | nest scope hinner hrest ihinner ihrest =>
    rename_i inner rest
    change (t.enter scope).run (inner ++ .leave :: rest) = t
    rw [run_append, ihinner]
    change (t.enter scope).leave.run rest = t
    rw [leave_enter]
    exact ihrest t

/-- After every history the slots form a chain: the last one is current, and each names the one before
it. Every index that is kept has a slot, the walk outwards meets all slots from the last to the first
and ends, and a name resolves to the last slot that declares it, as in the stack of the engine.
Leaving a scope gives back the tracker from before it was entered, and so do balanced moves. -/
theorem history_keeps_chain (moves : List Move) :
    let t := empty.run moves
    t.current = before t.depth ∧
      (∀ i slot, t.slots[i]? = some slot → slot.parent = before i) ∧
      (∀ id, (t.current = some id ∨ ∃ slot ∈ t.slots, slot.parent = some id) → id < t.depth) ∧
      t.Outward t.current (List.range t.depth).reverse ∧
      (∀ name,
        t.resolve name = (List.range t.depth).reverse.find? (t.declaresAt name) ∧
        (∀ id, t.resolve name = some id ↔ IsGreatest {i | t.declaresAt name i = true} id) ∧
        (t.resolve name = none ↔ ∀ i, t.declaresAt name i = false) ∧
        t.resolve name = (Stack.run [] moves).resolve name) ∧
      (∀ scope, (t.enter scope).leave = t) ∧
      ∀ more, Balanced more →
        empty.run (moves ++ more) = t ∧
          ∀ name, (empty.run (moves ++ more)).resolve name = t.resolve name := by
  intro t
  have h : t.IsChain := isChain_empty.run moves
  have hstack : t = ofStack (Stack.run [] moves) := run_ofStack [] moves
  refine ⟨h.current, fun i slot => h.parent, fun id => h.lt_depth, ?_, ?_, leave_enter t, ?_⟩
  · rw [h.current]
    exact h.outward (Nat.le_refl _)
  · intro name
    refine ⟨h.resolve name, h.resolve_eq_some name, h.resolve_eq_none name, ?_⟩
    rw [hstack, resolve_ofStack]
  · intro more hmore
    have hsame : empty.run (moves ++ more) = t := by
      rw [run_append]
      exact run_balanced hmore t
    exact ⟨hsame, fun name => by rw [hsame]⟩

/-- A scope is left before one is entered, the outer scope declares `a` and `b`, the inner one `a`, and
two scopes come and go. -/
theorem history_keeps_chain_sample :
    let outer : Scope := ⟨⟨1, 90⟩, ["a", "b"]⟩
    let inner : Scope := ⟨⟨20, 60⟩, ["a"]⟩
    let moves : List Move := [.leave, .enter outer, .enter inner]
    let more : List Move := [.enter outer, .enter inner, .leave, .leave]
    Balanced more ∧ (empty.run (moves ++ more)).resolve "a" = some 1 ∧
      (empty.run (moves ++ more)).resolve "b" = some 0 := by
  intro outer inner moves more
  have hmore : Balanced more := .nest outer (.nest inner .nil .nil) .nil
  obtain ⟨-, -, -, -, hresolve, -, hbalanced⟩ := history_keeps_chain moves
  obtain ⟨-, hsame⟩ := hbalanced more hmore
  refine ⟨hmore, ?_, ?_⟩
  · rw [hsame, (hresolve "a").2.2.2]
    rfl
  · rw [hsame, (hresolve "b").2.2.2]
    rfl

end Tracker
end Unbundle.Scope

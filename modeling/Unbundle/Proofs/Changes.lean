-- SUMMARY: What making directories, writing files and removing directories do to a disk.
import Unbundle.Proofs.Locals
import Unbundle.Proofs.Route
import Unbundle.Writer

/-!
# Changes of disks

Equations for what is found on a disk after a change, and for running the operations that change
disks. Proofs about these operations use the equations and do not open the monad that they run in.
-/

namespace Unbundle

namespace Disk

-- ---------------------------------------------------------------------------
-- Nodes
-- ---------------------------------------------------------------------------

variable {d : Disk}

/-- The root is always there. -/
@[simp] theorem get?_nil : d.get? [] = some .dir := rfl

theorem get?_of_ne_nil {l : Route} (h : l ≠ []) : d.get? l = d.nodes.lookup l := by
  simp [get?, h]

theorem get?_insert {l other : Route} {node : Node} (h : l ≠ []) :
    (d.insert l node).get? other = if other = l then some node else d.get? other := by
  by_cases hother : other = l
  · subst hother
    simp [get?, insert, h]
  · have hlookup : (d.nodes.filter (·.1 != l)).lookup other = d.nodes.lookup other := by
      rw [Locals.lookup_filter (· != l), if_pos (by simpa using hother)]
    simp only [get?, insert, List.lookup_cons, beq_false_of_ne hother, hlookup, hother, if_false]

theorem get?_erase {l other : Route} (h : other ≠ []) :
    (d.erase l).get? other = if other != l then d.get? other else none := by
  rw [get?_of_ne_nil h, get?_of_ne_nil h]
  exact Locals.lookup_filter (· != l) d.nodes other

theorem get?_eraseBelow {l other : Route} (h : other ≠ []) :
    (d.eraseBelow l).get? other =
      if !(l.isPrefixOf other && other != l) then d.get? other else none := by
  rw [get?_of_ne_nil h, get?_of_ne_nil h]
  exact Locals.lookup_filter (fun k => !(l.isPrefixOf k && k != l)) d.nodes other

/-- A directory is removed with everything below it, and nothing else is. -/
theorem get?_erase_eraseBelow {l other : Route} (h : l ≠ []) :
    ((d.eraseBelow l).erase l).get? other = if l <+: other then none else d.get? other := by
  by_cases hother : other = []
  · subst hother
    rw [if_neg (by simpa using h), get?_nil, get?_nil]
  · rw [get?_erase hother, get?_eraseBelow hother]
    by_cases hl : other = l
    · simp [hl]
    · by_cases hbelow : l <+: other
      · simp [hl, hbelow, List.isPrefixOf_iff_prefix.2 hbelow]
      · have hnot : l.isPrefixOf other = false := by
          simpa [← List.isPrefixOf_iff_prefix] using hbelow
        simp [hl, hbelow, hnot]

/-- Only what has a name can be made or removed; the root has none. -/
theorem Spot.route_ne_nil {s : Spot} (h : s.isNamed = true) : s.route ≠ [] := by
  simp only [isNamed, Bool.and_eq_true, Bool.not_eq_true', bne_iff_ne, ne_eq] at h
  simp [route, h]

-- ---------------------------------------------------------------------------
-- Running
-- ---------------------------------------------------------------------------

variable {ε ε' α β : Type} (d)

theorem run_bind (c : ExceptT ε (StateM Disk) α) (f : α → ExceptT ε (StateM Disk) β) :
    (c >>= f).run d =
      match c.run d with
      | (.ok a, d') => (f a).run d'
      | (.error e, d') => (.error e, d') := by
  unfold ExceptT.run
  simp only [bind, ExceptT.bind, ExceptT.mk, StateT.bind, ExceptT.bindCont]
  cases c d with
  | mk r d' => cases r <;> rfl

theorem run_tryCatch (c : ExceptT ε (StateM Disk) α) (f : ε → ExceptT ε (StateM Disk) α) :
    (tryCatch c f).run d =
      match c.run d with
      | (.ok a, d') => (.ok a, d')
      | (.error e, d') => (f e).run d' := by
  unfold ExceptT.run
  simp only [tryCatch, tryCatchThe, MonadExceptOf.tryCatch, ExceptT.tryCatch, ExceptT.mk, bind,
    StateT.bind]
  cases c d with
  | mk r d' => cases r <;> rfl

theorem run_adapt (g : ε → ε') (c : ExceptT ε (StateM Disk) α) :
    (c.adapt g).run d = ((c.run d).1.mapError g, (c.run d).2) := rfl

/-- A change of errors keeps successes, and makes none. -/
theorem eq_ok_of_mapError {r : Except ε α} {g : ε → ε'} {a : α} (h : r.mapError g = .ok a) :
    r = .ok a := by
  cases r with
  | error e => cases h
  | ok b =>
    cases h
    rfl

theorem run_get : (get : ExceptT ε (StateM Disk) Disk).run d = (.ok d, d) := rfl

theorem run_lift (r : Except ε α) : (liftM r : ExceptT ε (StateM Disk) α).run d = (r, d) := by
  cases r <;> rfl

theorem run_ite (p : Prop) [Decidable p] (c c' : ExceptT ε (StateM Disk) α) :
    (if p then c else c').run d = if p then c.run d else c'.run d := by
  split <;> rfl

theorem run_makeDir (path : String) :
    (makeDir path).run d =
      match d.spot path with
      | .error fault => (.error fault, d)
      | .ok s =>
        if !s.isNamed || (d.get? s.route).isSome then (.error .occupied, d)
        else (.ok (), d.insert s.route .dir) := by
  unfold makeDir
  rw [run_bind, run_get]
  simp only [run_bind, run_lift]
  cases d.spot path with
  | error fault => rfl
  | ok s =>
    simp only [run_ite]
    rfl

theorem run_write (path : String) (content : ByteArray) :
    (write path content).run d =
      match d.spot path with
      | .error fault => (.error fault, d)
      | .ok s =>
        if !s.isNamed || s.slash then (.error .isDirectory, d)
        else match d.get? s.route with
          | some .dir => (.error .isDirectory, d)
          | some (.file _ executable) => (.ok (), d.insert s.route (.file content executable))
          | none => (.ok (), d.insert s.route (.file content false)) := by
  unfold write
  rw [run_bind, run_get]
  simp only [run_bind, run_lift]
  cases d.spot path with
  | error fault => rfl
  | ok s =>
    simp only [run_ite]
    split
    · rfl
    · cases d.get? s.route with
      | none => rfl
      | some node => cases node <;> rfl

theorem run_removeAll (path : String) :
    (removeAll path).run d =
      match d.stat path, d.spot path with
      | .error fault, _ => (.error fault, d)
      | .ok (.file ..), _ => (.error .notDirectory, d)
      | .ok .dir, .error fault => (.error fault, d)
      | .ok .dir, .ok s =>
        if s.isNamed then (.ok (), (d.eraseBelow s.route).erase s.route)
        else if s.last == "." then (.error .invalidArgument, d.eraseBelow s.route)
        else if s.last == ".." then (.error .notEmpty, d.eraseBelow s.route)
        else (.error .busy, d.eraseBelow s.route) := by
  unfold removeAll
  rw [run_bind, run_get]
  simp only [run_bind, run_lift]
  cases d.stat path with
  | error fault => rfl
  | ok node =>
    cases node with
    | file => rfl
    | dir =>
      simp only [run_bind, run_lift]
      cases d.spot path with
      | error fault => rfl
      | ok s =>
        simp only [run_ite]
        rfl

variable {d}

theorem spot_of_stat {path : String} {node : Node} (h : d.stat path = .ok node) :
    ∃ s, d.spot path = .ok s := by
  cases hs : d.spot path with
  | ok s => exact ⟨s, rfl⟩
  | error fault =>
    simp [stat, hs, bind, Except.bind] at h

/-- A directory is removed, it is not found and nothing changes, or there is another reason why it
cannot be removed. -/
theorem removeAll_cases (path : String) (d : Disk) :
    (∃ s, d.spot path = .ok s ∧ s.isNamed = true ∧
        (removeAll path).run d = (.ok (), (d.eraseBelow s.route).erase s.route)) ∨
      (d.stat path = .error .notFound ∧ (removeAll path).run d = (.error .notFound, d)) ∨
      ∃ fault d', fault ≠ .notFound ∧ d'.current = d.current ∧
        (removeAll path).run d = (.error fault, d') := by
  rw [run_removeAll]
  cases hstat : d.stat path with
  | error fault =>
    by_cases hfault : fault = .notFound
    · subst hfault
      exact .inr (.inl ⟨rfl, rfl⟩)
    · exact .inr (.inr ⟨fault, d, hfault, rfl, rfl⟩)
  | ok node =>
    cases node with
    | file => exact .inr (.inr ⟨.notDirectory, d, by decide, rfl, rfl⟩)
    | dir =>
      obtain ⟨s, hs⟩ := spot_of_stat hstat
      simp only [hs]
      split
      · rename_i hnamed
        exact .inl ⟨s, rfl, hnamed, rfl⟩
      · split
        · exact .inr (.inr ⟨.invalidArgument, d.eraseBelow s.route, by decide, rfl, rfl⟩)
        · split
          · exact .inr (.inr ⟨.notEmpty, d.eraseBelow s.route, by decide, rfl, rfl⟩)
          · exact .inr (.inr ⟨.busy, d.eraseBelow s.route, by decide, rfl, rfl⟩)

end Disk
end Unbundle

-- SUMMARY: How disks change: what saving a file adds, and what stays as it is.
import Unbundle.Proofs.Changes

/-!
# Growing disks

Saving a file makes the directories above it and writes it; nothing else on the disk changes, also
when it fails half-way. `Disk.Grows made` says this of two disks: what is new was made, and what was
there is still there, except for files that were written over. It is a preorder, so it passes from
the single operations to whole runs.
-/

namespace Unbundle

namespace Disk

-- ---------------------------------------------------------------------------
-- Growth
-- ---------------------------------------------------------------------------

/-- What is new on the second disk was made; what was on the first one is still there, or it is a
file that was written over. -/
structure Grows (made : Route → Node → Prop) (d d' : Disk) : Prop where
  current : d'.current = d.current
  new (l : Route) (node : Node) : d'.get? l = some node → d.get? l = some node ∨ made l node
  kept (l : Route) (node : Node) : d.get? l = some node →
    ∃ node', d'.get? l = some node' ∧
      (node' = node ∨ node.isDir = false ∧ node'.isDir = false ∧ made l node')

namespace Grows

variable {made made' : Route → Node → Prop} {d₁ d₂ d₃ : Disk}

theorem refl (d : Disk) : Grows made d d :=
  ⟨rfl, fun _ _ h => .inl h, fun _ node h => ⟨node, h, .inl rfl⟩⟩

theorem trans (h : Grows made d₁ d₂) (h' : Grows made d₂ d₃) : Grows made d₁ d₃ where
  current := h'.current.trans h.current
  new l node hnode := by
    rcases h'.new l node hnode with hnode | hmade
    · exact h.new l node hnode
    · exact .inr hmade
  kept l node hnode := by
    obtain ⟨node₂, hnode₂, hsame₂⟩ := h.kept l node hnode
    obtain ⟨node₃, hnode₃, hsame₃⟩ := h'.kept l node₂ hnode₂
    refine ⟨node₃, hnode₃, ?_⟩
    rcases hsame₃ with rfl | ⟨hfile₂, hfile₃, hmade⟩
    · exact hsame₂
    · rcases hsame₂ with rfl | ⟨hfile, -, -⟩
      · exact .inr ⟨hfile₂, hfile₃, hmade⟩
      · exact .inr ⟨hfile, hfile₃, hmade⟩

theorem mono (h : Grows made d₁ d₂) (hmade : ∀ l node, made l node → made' l node) :
    Grows made' d₁ d₂ where
  current := h.current
  new l node hnode := (h.new l node hnode).imp_right (hmade l node)
  kept l node hnode := by
    obtain ⟨node', hnode', hsame⟩ := h.kept l node hnode
    exact ⟨node', hnode', hsame.imp_right fun ⟨hfile, hfile', hl⟩ => ⟨hfile, hfile', hmade _ _ hl⟩⟩

/-- A node is put where nothing is, or a file where a file is. -/
theorem insert {l : Route} {node : Node} (hl : l ≠ [])
    (hfile : ∀ old, d₁.get? l = some old → old.isDir = false ∧ node.isDir = false)
    (hmade : made l node) : Grows made d₁ (d₁.insert l node) where
  current := rfl
  new other node' hnode := by
    rw [get?_insert hl] at hnode
    split at hnode
    · rename_i hother
      cases hnode
      exact .inr (hother ▸ hmade)
    · exact .inl hnode
  kept other old hold := by
    rw [get?_insert hl]
    split
    · rename_i hother
      subst hother
      obtain ⟨hold', hnode⟩ := hfile old hold
      exact ⟨node, rfl, .inr ⟨hold', hnode, hmade⟩⟩
    · exact ⟨old, hold, .inl rfl⟩

theorem dir {l : Route} (h : Grows made d₁ d₂) (hdir : d₁.get? l = some .dir) :
    d₂.get? l = some .dir := by
  obtain ⟨node, hnode, rfl | ⟨hfile, -, -⟩⟩ := h.kept l .dir hdir
  · exact hnode
  · cases hfile

/-- A path that leads down through directories still does. -/
theorem descend {here r : Route} {pieces : List String} (h : Grows made d₁ d₂)
    (hr : d₁.descend here pieces = .ok r) : d₂.descend here pieces = .ok r := by
  induction pieces generalizing here with
  | nil =>
    unfold Disk.descend at hr ⊢
    split at hr
    · rename_i hhere
      obtain ⟨node, hnode⟩ := Option.isSome_iff_exists.1 hhere
      obtain ⟨node', hnode', -⟩ := h.kept here node hnode
      rw [if_pos (by simp [hnode'])]
      exact hr
    · cases hr
  | cons piece rest ih =>
    unfold Disk.descend at hr ⊢
    split at hr
    · rename_i hdot
      rw [if_pos hdot]
      exact ih hr
    · rename_i hdot
      rw [if_neg hdot]
      split at hr
      · rename_i hup
        rw [if_pos hup]
        exact ih hr
      · rename_i hup
        rw [if_neg hup]
        split at hr
        · cases hr
        · rename_i hlong
          rw [if_neg hlong]
          split at hr
          · cases hr
          · cases hr
          · rename_i hdir
            rw [h.dir hdir]
            exact ih hr

/-- The spot that a path has stays its spot. -/
theorem spot {path : String} {s : Spot} (h : Grows made d₁ d₂) (hs : d₁.spot path = .ok s) :
    d₂.spot path = .ok s := by
  unfold Disk.spot at hs ⊢
  simp only [bind, Except.bind, pure, Except.pure, throw, throwThe, MonadExceptOf.throw,
    h.current] at hs ⊢
  -- The disk is looked at only by `descend`.
  revert hs
  split
  · exact id
  split
  · exact id
  split
  · exact id
  cases ((Path.pieces path).filter (!·.isEmpty)).getLast? with
  | none => exact id
  | some last =>
    dsimp only
    intro hs
    split at hs
    · cases hs
    · rename_i dir hdir
      rw [h.descend hdir]
      exact hs

end Grows

-- ---------------------------------------------------------------------------
-- Changes that make disks grow
-- ---------------------------------------------------------------------------

variable {ε ε' α β : Type}

/-- A disk grows by what is made, also if the change fails. What is made depends on where relative
paths start. -/
def Adds (made : Route → Route → Node → Prop) (c : ExceptT ε (StateM Disk) α) : Prop :=
  ∀ d : Disk, Grows (made d.current) d (c.run d).2

namespace Adds

variable {made made' : Route → Route → Node → Prop}

theorem pure (a : α) : Adds made (Pure.pure a : ExceptT ε (StateM Disk) α) :=
  fun d => .refl d

theorem throw (e : ε) : Adds made (MonadExcept.throw e : ExceptT ε (StateM Disk) α) :=
  fun d => .refl d

theorem get : Adds made (MonadState.get : ExceptT ε (StateM Disk) Disk) :=
  fun d => .refl d

/-- After some growth relative paths start where they started. -/
theorem after {c : ExceptT ε (StateM Disk) α} {d d' : Disk} (h : Adds made c)
    (hd : Grows (made d.current) d d') : Grows (made d.current) d (c.run d').2 := by
  have hc := h d'
  rw [hd.current] at hc
  exact hd.trans hc

theorem bind {c : ExceptT ε (StateM Disk) α} {f : α → ExceptT ε (StateM Disk) β}
    (hc : Adds made c) (hf : ∀ a, Adds made (f a)) : Adds made (c >>= f) := by
  intro d
  have hd := hc d
  rw [run_bind]
  cases hrun : c.run d with
  | mk r d' =>
    rw [hrun] at hd
    cases r with
    | error e => exact hd
    | ok a => exact (hf a).after hd

theorem tryCatch {c : ExceptT ε (StateM Disk) α} {f : ε → ExceptT ε (StateM Disk) α}
    (hc : Adds made c) (hf : ∀ e, Adds made (f e)) :
    Adds made (MonadExcept.tryCatch c f) := by
  intro d
  have hd := hc d
  rw [run_tryCatch]
  cases hrun : c.run d with
  | mk r d' =>
    rw [hrun] at hd
    cases r with
    | error e => exact (hf e).after hd
    | ok a => exact hd

theorem adapt (g : ε → ε') {c : ExceptT ε (StateM Disk) α} (h : Adds made c) :
    Adds made (c.adapt g) :=
  fun d => h d

theorem mono {c : ExceptT ε (StateM Disk) α} (h : Adds made c)
    (hmade : ∀ current l node, made current l node → made' current l node) : Adds made' c :=
  fun d => (h d).mono (hmade d.current)

/-- Looking for a directory makes nothing. -/
theorem throwUnlessDir (path : String) (e : ε) :
    Adds made (do
      let d ← MonadState.get
      if !d.isDir path then MonadExcept.throw e
      else Pure.pure () : ExceptT ε (StateM Disk) Unit) := by
  refine get.bind ?_
  intro d
  split
  · exact throw e
  · exact pure ()

end Adds

/-- A directory at the end of one of these paths. -/
def DirAt (paths : List String) (current l : Route) (node : Node) : Prop :=
  node = .dir ∧ ∃ path ∈ paths, l = .ofPath current path

theorem DirAt.mono {paths paths' : List String} (h : ∀ path ∈ paths, path ∈ paths')
    (current l : Route) (node : Node) (hdir : DirAt paths current l node) :
    DirAt paths' current l node := by
  obtain ⟨rfl, path, hpath, rfl⟩ := hdir
  exact ⟨rfl, path, h path hpath, rfl⟩

theorem adds_makeDir (path : String) : Adds (DirAt [path]) (makeDir path) := by
  intro d
  rw [run_makeDir]
  cases hs : d.spot path with
  | error fault => exact .refl d
  | ok s =>
    dsimp only
    split
    · exact .refl d
    · rename_i hfree
      simp only [Bool.or_eq_true, Bool.not_eq_true', not_or, Bool.not_eq_false,
        Option.not_isSome_iff_eq_none] at hfree
      refine .insert (Spot.route_ne_nil hfree.1) ?_ ⟨rfl, path, by simp, route_spot hs⟩
      simp [hfree.2]

theorem adds_ensureDir (path : String) : Adds (DirAt [path]) (ensureDir path) :=
  (adds_makeDir path).tryCatch fun fault => .throwUnlessDir path fault

theorem adds_makeDirs (paths : List String) : Adds (DirAt paths) (makeDirs paths) := by
  induction paths with
  | nil => exact .pure ()
  | cons path above ih =>
    have hhere := DirAt.mono (show ∀ p ∈ [path], p ∈ path :: above by simp)
    refine ((adds_makeDir path).mono hhere).tryCatch ?_
    intro fault
    split
    · refine (ih.mono (DirAt.mono fun _ => List.mem_cons_of_mem _)).bind ?_
      exact fun _ => (adds_ensureDir path).mono hhere
    · exact .throwUnlessDir path _

/-- A file at the end of this path. -/
def FileAt (path : String) (content : ByteArray) (current l : Route) (node : Node) : Prop :=
  (∃ executable, node = .file content executable) ∧ l = .ofPath current path

/-- Writing fails and changes nothing, or the file is there. -/
theorem write_cases (path : String) (content : ByteArray) (d : Disk) :
    (∃ fault, (write path content).run d = (.error fault, d)) ∨
      ∃ s executable, d.spot path = .ok s ∧ s.isNamed = true ∧ s.slash = false ∧
        d.get? s.route ≠ some .dir ∧
        (write path content).run d = (.ok (), d.insert s.route (.file content executable)) := by
  rw [run_write]
  cases hs : d.spot path with
  | error fault => exact .inl ⟨fault, rfl⟩
  | ok s =>
    dsimp only
    split
    · exact .inl ⟨_, rfl⟩
    · rename_i hnamed
      simp only [Bool.or_eq_true, Bool.not_eq_true', not_or, Bool.not_eq_false,
        Bool.not_eq_true] at hnamed
      cases hnode : d.get? s.route with
      | none => exact .inr ⟨s, false, rfl, hnamed.1, hnamed.2, by simp [hnode], rfl⟩
      | some node =>
        cases node with
        | dir => exact .inl ⟨_, rfl⟩
        | file old executable =>
          exact .inr ⟨s, executable, rfl, hnamed.1, hnamed.2, by simp [hnode], rfl⟩

theorem adds_write (path : String) (content : ByteArray) :
    Adds (FileAt path content) (write path content) := by
  intro d
  obtain ⟨fault, hrun⟩ | ⟨s, executable, hs, hnamed, -, hnode, hrun⟩ :=
    write_cases path content d
  · rw [hrun]
    exact .refl d
  · rw [hrun]
    refine .insert (Spot.route_ne_nil hnamed) ?_ ⟨⟨executable, rfl⟩, route_spot hs⟩
    intro old hold
    cases old with
    | dir => exact absurd hold hnode
    | file => exact ⟨rfl, rfl⟩

-- ---------------------------------------------------------------------------
-- Reading
-- ---------------------------------------------------------------------------

/-- A text is what its bytes spell. -/
theorem fromUTF8?_toByteArray (text : String) :
    String.fromUTF8? text.toByteArray = some text := by
  rw [String.fromUTF8?, dif_pos text.isValidUTF8]
  rfl

/-- A path leads to a file with this text. -/
def Holds (d : Disk) (path text : String) : Prop :=
  ∃ s executable, d.spot path = .ok s ∧ s.slash = false ∧
    d.get? s.route = some (.file text.toUTF8 executable)

theorem Holds.read {d : Disk} {path text : String} (h : d.Holds path text) :
    d.read path = .ok text := by
  obtain ⟨s, executable, hs, hslash, hnode⟩ := h
  have hstat : d.stat path = .ok (.file text.toUTF8 executable) := by
    simp [stat, hs, hnode, hslash, bind, Except.bind, pure, Except.pure]
  simp [Disk.read, hstat, fromUTF8?_toByteArray, bind, Except.bind, pure, Except.pure]

/-- A file that is written holds what is written. -/
theorem holds_write {path text : String} {d : Disk}
    (h : ((write path text.toUTF8).run d).1 = .ok ()) :
    ((write path text.toUTF8).run d).2.Holds path text := by
  have hgrows := adds_write path text.toUTF8 d
  obtain ⟨fault, hrun⟩ | ⟨s, executable, hs, hnamed, hslash, hnode, hrun⟩ :=
    write_cases path text.toUTF8 d
  · rw [hrun] at h
    cases h
  · rw [hrun] at hgrows ⊢
    exact ⟨s, executable, hgrows.spot hs, hslash,
      by rw [get?_insert (Spot.route_ne_nil hnamed), if_pos rfl]⟩

/-- A file stays what it is until one is made in its place. -/
theorem Holds.grow {made : Route → Node → Prop} {d d' : Disk} {path text : String}
    (h : d.Holds path text) (hgrows : Grows made d d')
    (hother : ∀ node, node.isDir = false → ¬ made (.ofPath d.current path) node) :
    d'.Holds path text := by
  obtain ⟨s, executable, hs, hslash, hnode⟩ := h
  obtain ⟨node', hnode', rfl | ⟨-, hfile, hmade⟩⟩ := hgrows.kept _ _ hnode
  · exact ⟨s, executable, hgrows.spot hs, hslash, hnode'⟩
  · rw [route_spot hs] at hmade
    exact absurd hmade (hother node' hfile)

/-- Another path to the same place leads to the same file. -/
theorem Holds.of_route {d : Disk} {path other text : String} {s : Spot} (h : d.Holds path text)
    (hs : d.spot other = .ok s) (hslash : s.slash = false)
    (hroute : Route.ofPath d.current path = .ofPath d.current other) : d.Holds other text := by
  obtain ⟨t, executable, ht, -, hnode⟩ := h
  refine ⟨s, executable, hs, hslash, ?_⟩
  rw [route_spot hs, ← hroute, ← route_spot ht, hnode]

end Disk
end Unbundle

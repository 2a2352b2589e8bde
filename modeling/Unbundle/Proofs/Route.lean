-- SUMMARY: Where paths lead, read off their pieces alone, and how joined paths lead there.
import Unbundle.Disk

/-!
# Routes of paths

On a disk a path is followed piece by piece, and every directory on the way has to be there. Where
the path ends can be told without the disk: `Disk.Route.ofPath` resolves `.` and `..` in the text of
the path. Whenever the disk finds a spot for a path, it is this one (`route_spot`), and a path that
is joined to a folder goes on from where the folder's path ends (`ofPath_join`).
-/

namespace Unbundle

-- ---------------------------------------------------------------------------
-- Pieces
-- ---------------------------------------------------------------------------

namespace Path

theorem split_ne_nil (text : List Char) : split text ≠ [] := by
  cases text with
  | nil => simp [split]
  | cons c rest =>
    unfold split
    split
    · simp
    · split <;> simp

/-- A slash ends the pieces before it. -/
theorem split_append_slash (text rest : List Char) :
    split (text ++ '/' :: rest) = split text ++ split rest := by
  induction text with
  | nil => rfl
  | cons c text ih =>
    rw [List.cons_append, split, split, ih]
    split
    · rfl
    · cases hs : split text with
      | nil => exact absurd hs (split_ne_nil text)
      | cons piece more => rfl

theorem split_of_not_mem {text : List Char} (h : '/' ∉ text) : split text = [text] := by
  induction text with
  | nil => rfl
  | cons c text ih =>
    rw [List.mem_cons, not_or] at h
    simp [split, ih h.2, Ne.symm h.1]

/-- The first piece of a text that does not start with a slash is not empty. -/
theorem split_head_ne_nil {c : Char} (text : List Char) (h : c ≠ '/') :
    ∃ piece more, split (c :: text) = (c :: piece) :: more := by
  unfold split
  simp only [beq_iff_eq, h, if_false]
  split
  · exact ⟨[], [], rfl⟩
  · exact ⟨_, _, rfl⟩

theorem isAbsolute_relative (name : String) : isAbsolute (relative name) = false := by
  have h := List.head?_dropWhile_not (· == '/') name.toList
  unfold isAbsolute relative
  rw [String.toList_ofList]
  cases hd : (name.toList.dropWhile (· == '/')).head? with
  | none => rfl
  | some c =>
    rw [hd] at h
    simpa using h

end Path

namespace Disk.Route

open Unbundle.Path

-- ---------------------------------------------------------------------------
-- Following pieces
-- ---------------------------------------------------------------------------

/-- Where one piece of a path leads. -/
def step (here : Route) (piece : String) : Route :=
  if piece.isEmpty || piece == "." then here
  else if piece == ".." then here.dropLast
  else here ++ [piece]

/-- Where the pieces of a path lead. -/
def follow (here : Route) (pieces : List String) : Route :=
  pieces.foldl step here

/-- Where a path leads; relative paths start at `current`. -/
def ofPath (current : Route) (path : String) : Route :=
  follow (if isAbsolute path then [] else current) (pieces path)

@[simp] theorem follow_nil (here : Route) : follow here [] = here := rfl

@[simp] theorem follow_cons (here : Route) (piece : String) (rest : List String) :
    follow here (piece :: rest) = follow (step here piece) rest := rfl

@[simp] theorem follow_append (here : Route) (pieces rest : List String) :
    follow here (pieces ++ rest) = follow (follow here pieces) rest :=
  List.foldl_append ..

@[simp] theorem step_empty (here : Route) : step here "" = here := rfl

/-- A name leads to what is called so. -/
theorem step_of_name (here : Route) {piece : String} (hempty : piece ≠ "") (hdot : piece ≠ ".")
    (hup : piece ≠ "..") : step here piece = here ++ [piece] := by
  simp [step, hempty, hdot, hup]

/-- Empty pieces lead nowhere. -/
theorem follow_filter (here : Route) (pieces : List String) :
    follow here (pieces.filter (!·.isEmpty)) = follow here pieces := by
  induction pieces generalizing here with
  | nil => rfl
  | cons piece rest ih =>
    rw [List.filter_cons]
    split
    · rw [follow_cons, follow_cons, ih]
    · rename_i hempty
      have hstep : step here piece = here := by
        rw [step, if_pos (by simp [show piece.isEmpty = true by simpa using hempty])]
      rw [follow_cons, hstep, ih]

-- ---------------------------------------------------------------------------
-- Joined paths
-- ---------------------------------------------------------------------------

/-- Slashes at the start of a name lead nowhere. -/
theorem follow_pieces_relative (here : Route) (name : String) :
    follow here (pieces (relative name)) = follow here (pieces name) := by
  unfold pieces relative
  rw [String.toList_ofList]
  induction name.toList with
  | nil => rfl
  | cons c text ih =>
    rw [List.dropWhile_cons]
    split
    · rename_i hc
      rw [ih, beq_iff_eq.1 hc, split]
      rfl
    · rfl

/-- A relative path that is joined to another one goes on from where that one leads. -/
theorem ofPath_join (current : Route) (base : String) {name : String}
    (h : isAbsolute name = false) :
    ofPath current (join base name) = follow (ofPath current base) (pieces name) := by
  have hslash : pieces (base ++ "/" ++ name) = pieces base ++ pieces name := by
    simp [pieces, split_append_slash]
  have habsolute : ∀ rest : String, base ≠ "" → isAbsolute (base ++ rest) = isAbsolute base := by
    intro rest hbase
    have hne : base.toList ≠ [] := by simpa using hbase
    obtain ⟨c, text, hc⟩ := List.exists_cons_of_ne_nil hne
    simp [isAbsolute, hc]
  unfold join
  rw [if_neg (by simp [h])]
  split
  · rename_i hbase
    by_cases hempty : base = ""
    · subst hempty
      rw [String.empty_append, ofPath, if_neg (by simp [h])]
      rfl
    · -- The slash at the end of the base separates it from the name.
      have hends : endsWithSlash base = true := by simpa [hempty] using hbase
      obtain ⟨text, htext⟩ : ∃ text, base.toList = text ++ ['/'] :=
        List.getLast?_eq_some_iff.1 (by simpa [endsWithSlash] using hends)
      have hpieces : pieces (base ++ name) =
          (split text).map String.ofList ++ pieces name := by
        simp [pieces, htext, split_append_slash]
      have hbase : pieces base = (split text).map String.ofList ++ [""] := by
        simp [pieces, htext, split_append_slash, split]
      rw [ofPath, ofPath, habsolute name hempty, hpieces, hbase]
      simp
  · rename_i hbase
    have hempty : base ≠ "" := by
      rintro rfl
      simp at hbase
    rw [ofPath, ofPath, String.append_assoc, habsolute _ hempty, ← String.append_assoc, hslash,
      follow_append]

end Disk.Route

-- ---------------------------------------------------------------------------
-- Following paths on a disk
-- ---------------------------------------------------------------------------

namespace Disk

variable {d : Disk}

theorem descend_eq_ok {here r : Route} {pieces : List String}
    (hpieces : ∀ piece ∈ pieces, piece.isEmpty = false) (h : d.descend here pieces = .ok r) :
    r = Route.follow here pieces := by
  induction pieces generalizing here with
  | nil =>
    unfold descend at h
    split at h
    · exact (Except.ok.inj h).symm
    · cases h
  | cons piece rest ih =>
    have hrest : ∀ p ∈ rest, p.isEmpty = false := fun p hp => hpieces p (List.mem_cons_of_mem _ hp)
    have hpiece := hpieces piece List.mem_cons_self
    rw [Route.follow_cons, Route.step, hpiece]
    unfold descend at h
    split at h
    · rename_i hdot
      simpa [hdot] using ih hrest h
    · rename_i hdot
      split at h
      · rename_i hup
        simpa [hdot, hup] using ih hrest h
      · rename_i hup
        split at h
        · cases h
        · split at h
          · cases h
          · cases h
          · simpa [hdot, hup] using ih hrest h

/-- How a spot is found: the pieces before the last one lead to directories that are there. The path
of the root has no last piece. -/
theorem spot_eq_ok {path : String} {s : Spot} (h : d.spot path = .ok s) :
    let names := (Path.pieces path).filter (!·.isEmpty)
    path ≠ "" ∧
      (names = [] ∧ s = ⟨[], "", true⟩ ∨
        ∃ before last dir, names = before ++ [last] ∧ last.isEmpty = false ∧
          d.descend (if Path.isAbsolute path then [] else d.current) before = .ok dir ∧
          s = ⟨dir, last, Path.endsWithSlash path⟩) := by
  unfold spot at h
  simp only [bind, Except.bind, pure, Except.pure, throw, throwThe, MonadExceptOf.throw] at h
  split at h
  · cases h
  split at h
  · cases h
  rename_i hempty
  refine ⟨by simpa using hempty, ?_⟩
  split at h
  · cases h
  split at h
  · rename_i hnone
    exact .inl ⟨List.getLast?_eq_none_iff.1 hnone, (Except.ok.inj h).symm⟩
  · rename_i last hlast
    obtain ⟨before, hnames⟩ := List.getLast?_eq_some_iff.1 hlast
    have hmem : last ∈ (Path.pieces path).filter (!·.isEmpty) := by simp [hnames]
    rw [hnames, List.dropLast_concat] at h
    split at h
    · cases h
    · rename_i dir hdir
      split at h
      · cases h
      · exact .inr ⟨before, last, dir, hnames, by simpa using (List.mem_filter.1 hmem).2, hdir,
          (Except.ok.inj h).symm⟩

/-- The spot that is found for a path is where the path leads. -/
theorem route_spot {path : String} {s : Spot} (h : d.spot path = .ok s) :
    s.route = Route.ofPath d.current path := by
  obtain ⟨hpath, ⟨hnames, rfl⟩ | ⟨before, last, dir, hnames, hlast, hdir, rfl⟩⟩ := spot_eq_ok h
  · -- Nothing but slashes: the path is absolute.
    have habsolute : Path.isAbsolute path = true := by
      cases htext : path.toList with
      | nil => exact absurd (by simpa using htext) hpath
      | cons c text =>
        by_cases hc : c = '/'
        · simp [Path.isAbsolute, htext, hc]
        · obtain ⟨piece, more, hsplit⟩ := Path.split_head_ne_nil text hc
          simp [Path.pieces, htext, hsplit] at hnames
    rw [Route.ofPath, habsolute, ← Route.follow_filter, hnames]
    rfl
  · have hbefore : ∀ piece ∈ before, piece.isEmpty = false := by
      intro piece hpiece
      have hmem : piece ∈ (Path.pieces path).filter (!·.isEmpty) := by simp [hnames, hpiece]
      simpa using (List.mem_filter.1 hmem).2
    rw [Route.ofPath, ← Route.follow_filter, hnames, Route.follow_append,
      ← descend_eq_ok hbefore hdir]
    rfl

end Disk
end Unbundle

-- SUMMARY: Which runs leave a disk alone, and what is in an output folder that was removed first.
import Unbundle.Proofs.Saving

/-!
# Removing the output folder

A run that lacks something it needs, and every dry run, leaves the disk as it is. A run that removes
its output folder first has written everything that is in the folder afterwards, if the folder is
removed or nothing is where its path leads (`run_changes_only_its_output`). These are the only cases
for a path that leads down. A path can also go through `..` behind a directory that is not there
yet: such a folder is not found when it is to be removed, and it is there when modules are written.
-/

namespace Unbundle

open Disk (Route)

namespace Disk

-- ---------------------------------------------------------------------------
-- Trees
-- ---------------------------------------------------------------------------

/-- Everything on a disk is in a directory. -/
def IsTree (d : Disk) : Prop :=
  ∀ (l : Route) (name : String) (node : Node), d.get? (l ++ [name]) = some node →
    d.get? l = some .dir

/-- Nothing is where a path leads, nor below. -/
def IsMissing (d : Disk) (path : String) : Prop :=
  ∀ l : Route, Route.ofPath d.current path <+: l → d.get? l = none

variable {d : Disk}

/-- A disk is a tree if there is a directory above each of its nodes. -/
theorem isTree_of_forall (h : ∀ e ∈ d.nodes, d.get? e.1.dropLast = some .dir) : d.IsTree := by
  intro l name node hnode
  rw [get?_of_ne_nil (by simp)] at hnode
  obtain ⟨before, after, hnodes, -⟩ := List.lookup_eq_some_iff.1 hnode
  have hdir := h (l ++ [name], node) (by simp [hnodes])
  simpa using hdir

/-- Nothing is below a place where nothing is. -/
theorem IsTree.none_of_prefix (h : d.IsTree) {l l' : Route} (hl : l <+: l')
    (hnone : d.get? l = none) : d.get? l' = none := by
  obtain ⟨rest, rfl⟩ := hl
  induction rest using List.reverseRecOn with
  | nil => simpa using hnone
  | append_singleton rest name ih =>
    rw [← List.append_assoc]
    cases hnode : d.get? (l ++ rest ++ [name]) with
    | none => rfl
    | some node =>
      rw [h (l ++ rest) name node hnode] at ih
      cases ih

-- ---------------------------------------------------------------------------
-- Paths that are not found
-- ---------------------------------------------------------------------------

/-- Without `..` a path only leads down. -/
theorem Route.prefix_follow {here : Route} {pieces : List String} (h : ".." ∉ pieces) :
    here <+: Route.follow here pieces := by
  induction pieces generalizing here with
  | nil => exact List.prefix_refl _
  | cons piece rest ih =>
    rw [List.mem_cons, not_or] at h
    have hstep : here <+: Route.step here piece := by
      unfold Route.step
      split
      · exact List.prefix_refl _
      · rw [if_neg (by simpa using Ne.symm h.1)]
        exact List.prefix_append ..
    exact hstep.trans (ih h.2)

/-- On the way down there is a place where nothing is. -/
theorem none_of_descend {here : Route} {pieces : List String} (hup : ".." ∉ pieces)
    (hpieces : ∀ piece ∈ pieces, piece.isEmpty = false)
    (h : d.descend here pieces = .error .notFound) :
    ∃ l, l <+: Route.follow here pieces ∧ d.get? l = none := by
  induction pieces generalizing here with
  | nil =>
    unfold descend at h
    split at h
    · cases h
    · rename_i hnone
      exact ⟨here, List.prefix_refl _, by simpa using hnone⟩
  | cons piece rest ih =>
    rw [List.mem_cons, not_or] at hup
    have hrest : ∀ p ∈ rest, p.isEmpty = false := fun p hp => hpieces p (List.mem_cons_of_mem _ hp)
    have hpiece := hpieces piece List.mem_cons_self
    unfold descend at h
    rw [Route.follow_cons, Route.step, hpiece]
    split at h
    · rename_i hdot
      simpa [hdot] using ih hup.2 hrest h
    · rename_i hdot
      have hne : (piece == "..") = false := beq_false_of_ne (Ne.symm hup.1)
      simp only [hne, Bool.false_eq_true, if_false] at h
      simp only [hdot, hne, Bool.or_false, Bool.false_eq_true, if_false]
      split at h
      · cases h
      · split at h
        · rename_i hnone
          exact ⟨here ++ [piece], Route.prefix_follow hup.2, hnone⟩
        · cases h
        · exact ih hup.2 hrest h

/-- Why a path has no spot: a directory on its way is not there. -/
theorem descend_of_spot {path : String} (hpath : path ≠ "") (h : d.spot path = .error .notFound) :
    ∃ before last, (Path.pieces path).filter (!·.isEmpty) = before ++ [last] ∧
      d.descend (if Path.isAbsolute path then [] else d.current) before = .error .notFound := by
  unfold spot at h
  simp only [bind, Except.bind, pure, Except.pure, throw, throwThe, MonadExceptOf.throw] at h
  split at h
  · cases h
  rw [if_neg (by simpa using hpath)] at h
  split at h
  · cases h
  split at h
  · cases h
  · rename_i last hlast
    obtain ⟨before, hnames⟩ := List.getLast?_eq_some_iff.1 hlast
    rw [hnames, List.dropLast_concat] at h
    split at h
    · rename_i fault hdescend
      cases h
      exact ⟨before, last, hnames, hdescend⟩
    · split at h <;> cases h

/-- Nothing is where a path without `..` leads if it is not found. -/
theorem IsTree.isMissing (htree : d.IsTree) {path : String} (hpath : path ≠ "")
    (hup : ".." ∉ Path.pieces path) (h : d.stat path = .error .notFound) : d.IsMissing path := by
  intro l hl
  refine htree.none_of_prefix hl ?_
  cases hs : d.spot path with
  | ok s =>
    simp only [stat, hs, bind, Except.bind] at h
    rw [← route_spot hs]
    cases hnode : d.get? s.route with
    | none => rfl
    | some node =>
      rw [hnode] at h
      cases node with
      | dir => cases h
      | file =>
        dsimp only at h
        split at h <;> cases h
  | error fault =>
    have hfault : fault = .notFound := by
      simpa [stat, hs, bind, Except.bind] using h
    subst hfault
    obtain ⟨before, last, hnames, hdescend⟩ := descend_of_spot hpath hs
    have hmem : ∀ piece ∈ before ++ [last], piece ∈ Path.pieces path ∧ piece.isEmpty = false := by
      intro piece hpiece
      rw [← hnames] at hpiece
      simpa using List.mem_filter.1 hpiece
    obtain ⟨here, habove, hnone⟩ := none_of_descend
      (fun hmem' => hup (hmem _ (List.mem_append_left _ hmem')).1)
      (fun piece hpiece => (hmem piece (List.mem_append_left _ hpiece)).2) hdescend
    refine htree.none_of_prefix (habove.trans ?_) hnone
    have hroute : Route.ofPath d.current path =
        Route.follow (if Path.isAbsolute path then [] else d.current) (before ++ [last]) := by
      rw [Route.ofPath, ← Route.follow_filter, hnames]
    rw [hroute, Route.follow_append]
    exact Route.prefix_follow fun hlast => hup (hmem _ (List.mem_append_right _ hlast)).1

end Disk

-- ---------------------------------------------------------------------------
-- Cleaning
-- ---------------------------------------------------------------------------

namespace Run

variable {folder : String} {d : Disk}

/-- Once the folder is removed nothing is left in it. -/
theorem none_of_clean (hok : ((clean folder).run d).1 = .ok ())
    (hfound : ((Disk.removeAll folder).run d).1 = .ok () ∨ d.IsMissing folder)
    {l : Route} (hl : Route.ofPath d.current folder <+: l) :
    ((clean folder).run d).2.get? l = none := by
  obtain ⟨s, hs, hnamed, -, hrun⟩ | ⟨-, hremove, hrun⟩ | ⟨fault, _, -, hrun⟩ :=
    clean_cases folder d
  · rw [hrun, Disk.get?_erase_eraseBelow (Disk.Spot.route_ne_nil hnamed),
      if_pos (by rwa [Disk.route_spot hs])]
  · rw [hrun]
    rcases hfound with hremoved | hmissing
    · rw [hremove] at hremoved
      cases hremoved
    · exact hmissing l hl
  · rw [hrun] at hok
    cases hok

/-- On a tree, a folder whose path leads down is removed unless it is missing. -/
theorem removed_or_missing (htree : d.IsTree) (hfolder : folder ≠ "")
    (hup : ".." ∉ Path.pieces folder) (hok : ((clean folder).run d).1 = .ok ()) :
    ((Disk.removeAll folder).run d).1 = .ok () ∨ d.IsMissing folder := by
  obtain ⟨s, -, -, hremoved, -⟩ | ⟨hstat, -, -⟩ | ⟨fault, _, -, hrun⟩ := clean_cases folder d
  · exact .inl hremoved
  · exact .inr (htree.isMissing hfolder hup hstat)
  · rw [hrun] at hok
    cases hok

end Run

/-- A run that lacks something it needs changes nothing, and no dry run does. A run that removes its
output folder first has written everything that is in the folder afterwards, if the folder was
removed or missing. On a tree it is one of these as long as its path leads down only. -/
theorem run_changes_only_its_output (launch : Program.Launcher) (input : String) (c : Config)
    (d : Disk) :
    let report := Run.file launch input c d
    (Run.Unready input c d ↔ ∃ error, report.result = .error error ∧ error.isEarly = true) ∧
      (Run.Unready input c d → report.disk = d) ∧
      (c.dry = true → report.disk = d) ∧
      ∀ folder script, Run.Ready input c d folder script → c.clean = true → c.dry = false →
        ((Run.clean folder).run d).1 = .ok () →
        (((Disk.removeAll folder).run d).1 = .ok () ∨ d.IsMissing folder →
          ∀ l node, Route.ofPath d.current folder <+: l → report.disk.get? l = some node →
            ∃ m ∈ Engine.handed (Writer.sink launch (Run.writer c folder)) c.settings
                (Run.prepared folder c d) script,
              (Run.writer c folder).Makes launch m d.current l node) ∧
          (d.IsTree → folder ≠ "" → ".." ∉ Path.pieces folder →
            ((Disk.removeAll folder).run d).1 = .ok () ∨ d.IsMissing folder) := by
  obtain ⟨hunready, hdisk, hearly⟩ | ⟨folder, script, hready, hdisk, hresult⟩ :=
    Run.file_cases launch input c d
  · exact ⟨⟨fun _ => hearly, fun _ => hunready⟩, fun _ => hdisk, fun _ => hdisk,
      fun folder script hready => absurd hunready hready.not_unready⟩
  have hunready := hready.not_unready
  refine ⟨⟨fun h => absurd h hunready, ?_⟩, fun h => absurd h hunready, ?_, ?_⟩
  · rintro ⟨error, herror, hearly⟩
    rw [hresult] at herror
    rw [Run.isEarly_splitInto herror] at hearly
    cases hearly
  · intro hdry
    obtain ⟨-, -, hnot, -⟩ | ⟨-, -, hsink⟩ := Run.splitInto_cases launch input folder c script d
    · cases hdry.symm.trans hnot
    · rw [hdisk, hsink, Engine.sink_run, Writer.feed_of_dry hdry]
      simp [Run.prepared, hdry]
  · intro folder' script' hready' hclean hdry hok
    refine ⟨?_, fun htree hfolder hup => Run.removed_or_missing htree hfolder hup hok⟩
    intro hfound l node hl hnode
    obtain ⟨rfl, rfl⟩ := hready.unique hready'
    have hprepared : Run.prepared folder' c d = ((Run.clean folder').run d).2 := by
      simp [Run.prepared, hclean, hdry]
    obtain ⟨-, -, -, fault, hfault, -⟩ | ⟨-, -, hsink⟩ :=
      Run.splitInto_cases launch input folder' c script' d
    · cases hfault.symm.trans hok
    · rw [hdisk, hsink, Engine.sink_run] at hnode
      rcases (Writer.grows_feed _ _).new l node hnode with hold | hmade
      · -- Nothing was in the folder before the modules were written.
        rw [hprepared, Run.none_of_clean hok hfound hl] at hold
        cases hold
      · rwa [Run.current_prepared] at hmade

/-- A disk with a bundle, and a file of an earlier run in the folder `out`. -/
def staleDisk : Disk :=
  ⟨[(["b.js"], .file "define('m', ['a'], function (a) { a(); });".toUTF8 false), (["out"], .dir),
    (["out", "stale.js"], .file "old".toUTF8 false)], []⟩

theorem run_changes_only_its_output_sample :
    (Run.file Program.nowhere "b.js" { clean := true } staleDisk).disk = staleDisk ∧
      (Run.file Program.nowhere "b.js" { outputFolder := some "out", clean := true, dry := true }
        staleDisk).disk = staleDisk ∧
      let c : Config := { outputFolder := some "out", clean := true }
      ∃ script, Run.Ready "b.js" c staleDisk "out" script ∧
        ∀ l node, ["out"] <+: l →
          (Run.file Program.nowhere "b.js" c staleDisk).disk.get? l = some node →
          ∃ m ∈ Engine.handed (Writer.sink Program.nowhere (Run.writer c "out")) c.settings
              (Run.prepared "out" c staleDisk) script,
            (Run.writer c "out").Makes Program.nowhere m [] l node := by
  refine ⟨(run_changes_only_its_output Program.nowhere "b.js" _ staleDisk).2.1 (.inl rfl),
    (run_changes_only_its_output Program.nowhere "b.js" _ staleDisk).2.2.1 rfl, ?_⟩
  obtain ⟨source, hsource, hparses⟩ : ∃ source, staleDisk.read "b.js" = .ok source ∧
      (Script.parse "b.js" source).toOption.isSome = true :=
    ⟨_, eq_ok_of_toOption (show _ = some "define('m', ['a'], function (a) { a(); });" by
      decide +kernel), by decide +kernel⟩
  obtain ⟨script, hscript⟩ := Option.isSome_iff_exists.1 hparses
  have hready : Run.Ready "b.js" { outputFolder := some "out", clean := true } staleDisk "out"
      script := ⟨rfl, source, hsource, eq_ok_of_toOption hscript⟩
  have htree : staleDisk.IsTree := Disk.isTree_of_forall (by decide +kernel)
  have hcleaned : ((Run.clean "out").run staleDisk).1 = .ok () :=
    eq_ok_of_toOption (by decide +kernel)
  have hplace : Route.ofPath staleDisk.current "out" = ["out"] := by decide +kernel
  obtain ⟨hwritten, hfound⟩ := (run_changes_only_its_output Program.nowhere "b.js" _
    staleDisk).2.2.2 "out" script hready rfl rfl hcleaned
  rw [hplace] at hwritten
  exact ⟨script, hready, hwritten (hfound htree (by decide) (by decide +kernel))⟩

/-- The folder `missing/../out` is not found as long as there is no `missing`. It is there once the
directories of the module have been made, with the file of the earlier run. -/
theorem detour_keeps_stale_file :
    let c : Config := { outputFolder := some "missing/../out", clean := true }
    let report := Run.file Program.nowhere "b.js" c staleDisk
    report.result.toOption = some 1 ∧
      Route.ofPath [] "missing/../out" <+: ["out", "stale.js"] ∧
      report.disk.get? ["out", "stale.js"] = some (.file "old".toUTF8 false) ∧
      ((staleDisk.read "b.js").toOption.bind fun source =>
        (Script.parse "b.js" source).toOption.map fun script =>
          (Engine.modules script).map ((Run.writer c "missing/../out").place [])) =
        some [["out", "m.js"]] := by
  decide +kernel

end Unbundle

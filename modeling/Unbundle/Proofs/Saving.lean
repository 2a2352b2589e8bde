-- SUMMARY: What a run writes to a disk, and which modules can be read back from their files.
import Unbundle.Proofs.Containment
import Unbundle.Proofs.Emission
import Unbundle.Proofs.Growth
import Unbundle.Proofs.Runs

/-!
# Saving modules

Saving a module adds its file and the directories above it; a file that is there is written over.
So after a run every file holds the last module that goes to its place
(`files_hold_last_modules`), and a module is lost if a later one goes to the same place.
-/

namespace Unbundle

open Disk (Route)

-- ---------------------------------------------------------------------------
-- One file
-- ---------------------------------------------------------------------------

/-- The directories above a path, the nearest first. -/
def Path.above (path : String) : List String :=
  match parent? path with
  | some above => ancestors above.length above
  | none => []

namespace Writer

/-- Saving makes a file, and the directories above it. -/
def Saved (path content : String) (current l : Route) (node : Node) : Prop :=
  Disk.FileAt path content.toUTF8 current l node ∨ Disk.DirAt (Path.above path) current l node

theorem adds_save (path content : String) :
    Disk.Adds (Saved path content) (save path content) := by
  have hfile : Disk.Adds (Saved path content)
      ((Disk.write path content.toUTF8).adapt (EmitError.write path)) :=
    ((Disk.adds_write path content.toUTF8).mono fun _ _ _ => .inl).adapt _
  unfold save
  cases hparent : Path.parent? path with
  | none => exact hfile
  | some above =>
    refine Disk.Adds.bind (Disk.Adds.adapt _ ?_) fun _ => hfile
    refine (Disk.adds_makeDirs _).mono ?_
    intro current l node hdir
    exact .inr (by simpa [Path.above, hparent] using hdir)

/-- What is saved can be read back. -/
theorem holds_save {path content : String} {d : Disk}
    (h : ((save path content).run d).1 = .ok ()) :
    ((save path content).run d).2.Holds path content := by
  have hfile : ∀ d : Disk,
      (((Disk.write path content.toUTF8).adapt (EmitError.write path)).run d).1 = .ok () →
      (((Disk.write path content.toUTF8).adapt (EmitError.write path)).run d).2.Holds path
        content := by
    intro d h
    rw [Disk.run_adapt] at h ⊢
    exact Disk.holds_write (Disk.eq_ok_of_mapError h)
  unfold save at h ⊢
  cases hparent : Path.parent? path with
  | none =>
    simp only [hparent] at h
    exact hfile d h
  | some above =>
    simp only [hparent, Disk.run_bind] at h ⊢
    cases hrun : ((Disk.makeDirs (Path.ancestors above.length above)).adapt
        (EmitError.makeDirs above)).run d with
    | mk r d' =>
      rw [hrun] at h
      cases r with
      | error e => cases h
      | ok _ => exact hfile d' h

end Writer

-- ---------------------------------------------------------------------------
-- Modules
-- ---------------------------------------------------------------------------

/-- What the file of a module holds if it is not formatted. -/
def Module.plainText (m : Module) : String :=
  match m.body with
  | .code imports body => printCode imports body
  | .text content => content

namespace Writer

variable {launch : Program.Launcher} {w : Writer}

theorem contents_of_plain (hplain : w.formatter = none) (m : Module) :
    w.contents launch m = .ok m.plainText := by
  obtain ⟨name, body⟩ := m
  cases body <;> simp [contents, Module.plainText, hplain]

/-- What writing a module makes. -/
def Makes (launch : Program.Launcher) (w : Writer) (m : Module) (current l : Route)
    (node : Node) : Prop :=
  ∃ content, w.contents launch m = .ok content ∧
    Saved (w.target m.fileName) content current l node

/-- The only file that is made is that of the module. -/
theorem Makes.place_eq {m : Module} {current l : Route} {node : Node}
    (h : w.Makes launch m current l node) (hfile : node.isDir = false) : l = w.place current m := by
  obtain ⟨content, -, ⟨-, hl⟩ | ⟨rfl, -⟩⟩ := h
  · exact hl
  · cases hfile

theorem grows_sink (d : Disk) (m : Module) :
    Disk.Grows (w.Makes launch m d.current) d (sink launch w d m).state := by
  unfold sink
  cases hcontent : w.contents launch m with
  | error error => exact .refl d
  | ok content =>
    have hgrows : Disk.Grows (w.Makes launch m d.current) d
        ((save (w.target m.fileName) content).run d).2 :=
      (adds_save (w.target m.fileName) content d).mono fun _ _ h => ⟨content, hcontent, h⟩
    dsimp only
    split
    · exact .refl d
    · split
      · rename_i hrun
        rwa [hrun] at hgrows
      · rename_i hrun
        rwa [hrun] at hgrows

/-- Writing modules makes what writing each of them makes. -/
theorem grows_feed (d : Disk) (modules : List Module) :
    Disk.Grows (fun l node => ∃ m ∈ modules, w.Makes launch m d.current l node) d
      ((sink launch w).feed d modules) := by
  induction modules generalizing d with
  | nil => exact .refl d
  | cons m rest ih =>
    have hm : Disk.Grows _ d (sink launch w d m).state := grows_sink d m
    have hrest := ih (sink launch w d m).state
    rw [hm.current] at hrest
    refine (hm.mono ?_).trans (hrest.mono ?_)
    · exact fun l node h => ⟨m, List.mem_cons_self, h⟩
    · rintro l node ⟨m', hm', h⟩
      exact ⟨m', List.mem_cons_of_mem _ hm', h⟩

/-- A dry writer leaves disks alone. -/
theorem feed_of_dry (hdry : w.dry = true) (d : Disk) (modules : List Module) :
    (sink launch w).feed d modules = d := by
  induction modules generalizing d with
  | nil => rfl
  | cons m rest ih =>
    rw [Engine.Sink.feed_cons, sink]
    cases w.contents launch m with
    | error error => exact ih d
    | ok content => simpa [hdry] using ih d

/-- A module that is accepted can be read back. -/
theorem holds_sink (hdry : w.dry = false) (hplain : w.formatter = none) {d : Disk} {m : Module}
    (h : (sink launch w d m).refusal = none) :
    (sink launch w d m).state.Holds (w.target m.fileName) m.plainText := by
  have hholds := @holds_save (w.target m.fileName) m.plainText d
  unfold sink at h ⊢
  simp only [contents_of_plain hplain, hdry, Bool.false_eq_true, if_false] at h ⊢
  cases hrun : (save (w.target m.fileName) m.plainText).run d with
  | mk r d' =>
    rw [hrun] at hholds
    simp only [hrun] at h ⊢
    cases r with
    | ok => exact hholds rfl
    | error error => cases h

-- ---------------------------------------------------------------------------
-- Many modules
-- ---------------------------------------------------------------------------

/-- Of the modules that go to one place there is a last one. -/
theorem exists_last (place : Module → Route) {modules : List Module} {m : Module}
    (hm : m ∈ modules) :
    ∃ before last after, modules = before ++ last :: after ∧ place last = place m ∧
      ∀ other ∈ after, place other ≠ place m := by
  induction modules generalizing m with
  | nil => cases hm
  | cons first rest ih =>
    by_cases hrest : ∃ other ∈ rest, place other = place m
    · obtain ⟨other, hother, hplace⟩ := hrest
      obtain ⟨before, last, after, rfl, hlast, hafter⟩ := ih hother
      rw [hplace] at hlast hafter
      exact ⟨first :: before, last, after, rfl, hlast, hafter⟩
    · obtain rfl : m = first := by
        refine (List.mem_cons.1 hm).resolve_right ?_
        exact fun hmem => hrest ⟨m, hmem, rfl⟩
      exact ⟨[], m, rest, rfl, rfl, fun other hother hplace => hrest ⟨other, hother, hplace⟩⟩

/-- A module that is accepted can be read back, until modules that come after it go to its place. -/
theorem exists_holds (hdry : w.dry = false) (hplain : w.formatter = none) {d : Disk}
    {before after : List Module} {m : Module}
    (haccepts : (sink launch w).Accepts d (before ++ m :: after)) :
    ∃ d', d'.current = d.current ∧ d'.Holds (w.target m.fileName) m.plainText ∧
      Disk.Grows (fun l node => ∃ other ∈ after, w.Makes launch other d.current l node) d'
        ((sink launch w).feed d (before ++ m :: after)) := by
  rw [Engine.Sink.accepts_append, Engine.Sink.accepts_cons] at haccepts
  have hcurrent : (sink launch w ((sink launch w).feed d before) m).state.current = d.current :=
    (grows_sink _ m).current.trans (grows_feed d before).current
  refine ⟨_, hcurrent, holds_sink hdry hplain haccepts.2.1, ?_⟩
  rw [Engine.Sink.feed_append, Engine.Sink.feed_cons, ← hcurrent]
  exact grows_feed _ after

/-- After modules have been written, the file of each of them holds the last module that goes to its
place. -/
theorem holds_feed (hdry : w.dry = false) (hplain : w.formatter = none) {d : Disk}
    {modules : List Module} (haccepts : (sink launch w).Accepts d modules) {m : Module}
    (hm : m ∈ modules) :
    ∃ before last after, modules = before ++ last :: after ∧
      w.place d.current last = w.place d.current m ∧
      (∀ other ∈ after, w.place d.current other ≠ w.place d.current m) ∧
      ((sink launch w).feed d modules).Holds (w.target m.fileName) last.plainText := by
  obtain ⟨before, last, after, hmodules, hlast, hafter⟩ := exists_last (w.place d.current) hm
  refine ⟨before, last, after, hmodules, hlast, hafter, ?_⟩
  -- The last module stays where it is written.
  have hholds : ((sink launch w).feed d modules).Holds (w.target last.fileName) last.plainText := by
    subst hmodules
    obtain ⟨d', hcurrent, hholds, hgrows⟩ := exists_holds hdry hplain haccepts
    refine hholds.grow hgrows ?_
    rintro node hfile ⟨other, hother, hmakes⟩
    rw [hcurrent] at hmakes
    exact hafter other hother ((hmakes.place_eq hfile).symm.trans hlast)
  -- The path of the other module still leads there.
  obtain ⟨before', after', hm⟩ := List.append_of_mem hm
  rw [hm] at haccepts
  obtain ⟨d', -, ⟨s, _, hs, hslash, -⟩, hgrows⟩ := exists_holds hdry hplain haccepts
  rw [← hm] at hgrows
  refine hholds.of_route (hgrows.spot hs) hslash ?_
  rw [(grows_feed d modules).current]
  exact hlast

end Writer

-- ---------------------------------------------------------------------------
-- Runs
-- ---------------------------------------------------------------------------

/-- A run that succeeds has counted the modules that it has handed over, which are the first ones of
the script. The file of each of them holds the last of these modules that goes to its place. So no
module is lost if no two of them go to the same place. -/
theorem files_hold_last_modules {launch : Program.Launcher} {input : String} {c : Config} {d : Disk}
    {n : Nat} (hdry : c.dry = false) (hplain : c.prettier = false)
    (hok : (Run.file launch input c d).result = .ok n) :
    ∃ folder script, Run.Ready input c d folder script ∧
      let w := Run.writer c folder
      let modules := (Engine.modules script).take n
      let disk := (Run.file launch input c d).disk
      modules.length = n ∧
        Engine.handed (Writer.sink launch w) c.settings (Run.prepared folder c d) script = modules ∧
        (∀ m ∈ modules, ∃ before last after, modules = before ++ last :: after ∧
          w.place d.current last = w.place d.current m ∧
          (∀ other ∈ after, w.place d.current other ≠ w.place d.current m) ∧
          disk.read (w.target m.fileName) = .ok last.plainText) ∧
        ((modules.map (w.place d.current)).Nodup →
          ∀ m ∈ modules, disk.read (w.target m.fileName) = .ok m.plainText) := by
  obtain ⟨-, -, error, hresult, -⟩ | ⟨folder, script, hready, hdisk, hresult⟩ :=
    Run.file_cases launch input c d
  · rw [hok] at hresult
    cases hresult
  obtain ⟨-, -, -, fault, -, hsplit⟩ | ⟨-, hsplit, hsink⟩ :=
    Run.splitInto_cases launch input folder c script d
  · rw [← hresult, hok] at hsplit
    cases hsplit
  refine ⟨folder, script, hready, ?_⟩
  have hrun : (Engine.run (Writer.sink launch (Run.writer c folder)) c.settings
      (Run.prepared folder c d) script).result = .ok n := by
    rw [← hresult, hok] at hsplit
    exact Disk.eq_ok_of_mapError hsplit.symm
  obtain ⟨htake, hlength, haccepts⟩ := Engine.handed_of_result_ok hrun
  rw [hdisk, hsink, Engine.sink_run]
  rw [htake] at hlength haccepts ⊢
  have hlast := fun m hm => Writer.holds_feed (w := Run.writer c folder) (m := m) hdry
    (by simp [Run.writer, hplain]) haccepts hm
  rw [Run.current_prepared] at hlast
  refine ⟨hlength, htake, ?_, ?_⟩
  · intro m hm
    obtain ⟨before, last, after, hmodules, hplace, hafter, hholds⟩ := hlast m hm
    exact ⟨before, last, after, hmodules, hplace, hafter, hholds.read⟩
  · intro hnodup m hm
    obtain ⟨before, last, after, hmodules, hplace, -, hholds⟩ := hlast m hm
    have hlast : last ∈ (Engine.modules script).take n := by simp [hmodules]
    rw [List.inj_on_of_nodup_map hnodup hlast hm hplace] at hholds
    exact hholds.read

/-- A disk with a bundle that defines `a` and a text asset. -/
def assetDisk (asset : String) : Disk :=
  ⟨[(["b.js"], .file ("define('a', ['x'], function (x) { x(); });" ++
    "define('text!" ++ asset ++ "', [], function () \x7b return 'y'; \x7d);").toUTF8 false)], []⟩

theorem eq_ok_of_toOption {ε α : Type} {r : Except ε α} {a : α} (h : r.toOption = some a) :
    r = .ok a := by
  cases r with
  | error => cases h
  | ok =>
    cases h
    rfl

theorem files_hold_last_modules_sample :
    let report := Run.file Program.nowhere "b.js" { outputFolder := some "out" }
      (assetDisk "a.html")
    report.result = .ok 2 ∧
      ∃ script,
        Run.Ready "b.js" { outputFolder := some "out" } (assetDisk "a.html") "out" script ∧
        let w : Writer := ⟨"out", false, none⟩
        let modules := (Engine.modules script).take 2
        modules.map (w.place []) = [["out", "a.js"], ["out", "a.html"]] ∧
          ∀ m ∈ modules, report.disk.read (w.target m.fileName) = .ok m.plainText := by
  obtain ⟨hresult, hplaces⟩ :
      (Run.file Program.nowhere "b.js" { outputFolder := some "out" }
        (assetDisk "a.html")).result.toOption = some 2 ∧
      (((assetDisk "a.html").read "b.js").toOption.bind fun source =>
        (Script.parse "b.js" source).toOption.map fun script =>
          ((Engine.modules script).take 2).map ((⟨"out", false, none⟩ : Writer).place [])) =
        some [["out", "a.js"], ["out", "a.html"]] := by decide +kernel
  have hok := eq_ok_of_toOption hresult
  obtain ⟨_, script, ⟨hfolder, source, hsource, hscript⟩, -, -, -, hread⟩ :=
    files_hold_last_modules rfl rfl hok
  cases hfolder
  rw [hsource] at hplaces
  simp only [Except.toOption, Option.bind_some, hscript, Option.map_some, Option.some.injEq]
    at hplaces
  refine ⟨hok, script, ⟨rfl, source, hsource, hscript⟩, hplaces, hread ?_⟩
  rw [show (assetDisk "a.html").current = [] from rfl]
  exact hplaces ▸ (by decide)

/-- A text asset that goes to the place of a module replaces its code. -/
theorem colliding_module_is_lost :
    let report := Run.file Program.nowhere "b.js" { outputFolder := some "out" } (assetDisk "a.js")
    report.result.toOption = some 2 ∧
      (((assetDisk "a.js").read "b.js").toOption.bind fun source =>
        (Script.parse "b.js" source).toOption.map fun script =>
          (Engine.modules script).map fun m =>
            ((⟨"out", false, none⟩ : Writer).target m.fileName, m.plainText)) =
        some [("out/a.js", "import * as X from 'x';\nX();\n"), ("out/a.js", "y")] ∧
      (report.disk.read "out/a.js").toOption = some "y" := by
  decide +kernel

end Unbundle

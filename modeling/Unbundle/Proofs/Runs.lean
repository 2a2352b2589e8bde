-- SUMMARY: The stages of a run: what it needs, which disk it writes to, and how it ends.
import Unbundle.Proofs.Changes
import Unbundle.Run

/-!
# Stages of runs

A run needs an output folder and a script that it can read. Only then it may remove the folder, and
only after that it writes modules. `Run.file_cases` tells these stages apart; what is proved about
whole runs starts from it.
-/

namespace Unbundle

/-- What fails before anything is changed. -/
def RunError.isEarly : RunError → Bool
  | .noOutputFolder | .read .. | .parse _ => true
  | .clean .. | .emit _ => false

namespace Run

/-- A run has what it needs: a folder for its output, and a file with a script. -/
structure Ready (input : String) (c : Config) (d : Disk) (folder : String) (script : Script) :
    Prop where
  folder : c.outputFolder = some folder
  script : ∃ source, d.read input = .ok source ∧ Script.parse input source = .ok script

/-- The disk that modules are written to. -/
def prepared (folder : String) (c : Config) (d : Disk) : Disk :=
  if c.clean && !c.dry then ((clean folder).run d).2 else d

/-- What a run needs is missing: a folder for its output, a file that is text, or a script in it. -/
def Unready (input : String) (c : Config) (d : Disk) : Prop :=
  c.outputFolder = none ∨ (∃ fault, d.read input = .error fault) ∨
    ∃ source error, d.read input = .ok source ∧ Script.parse input source = .error error

variable {input folder : String} {c : Config} {d : Disk} {script : Script}

theorem Ready.not_unready (h : Ready input c d folder script) : ¬ Unready input c d := by
  obtain ⟨hfolder, source, hread, hparse⟩ := h
  rintro (hnone | ⟨fault, hfault⟩ | ⟨source', error, hread', herror⟩)
  · cases hfolder.symm.trans hnone
  · cases hread.symm.trans hfault
  · cases hread.symm.trans hread'
    cases hparse.symm.trans herror

/-- The folder and the script of a run are the only ones. -/
theorem Ready.unique {folder' : String} {script' : Script} (h : Ready input c d folder script)
    (h' : Ready input c d folder' script') : folder' = folder ∧ script' = script := by
  obtain ⟨hfolder, source, hread, hparse⟩ := h
  obtain ⟨hfolder', source', hread', hparse'⟩ := h'
  cases hfolder.symm.trans hfolder'
  cases hread.symm.trans hread'
  cases hparse.symm.trans hparse'
  exact ⟨rfl, rfl⟩

-- ---------------------------------------------------------------------------
-- Cleaning
-- ---------------------------------------------------------------------------

/-- Cleaning removes the folder, or does not find it and changes nothing, or fails. -/
theorem clean_cases (folder : String) (d : Disk) :
    (∃ s, d.spot folder = .ok s ∧ s.isNamed = true ∧
        ((Disk.removeAll folder).run d).1 = .ok () ∧
        (clean folder).run d = (.ok (), (d.eraseBelow s.route).erase s.route)) ∨
      (d.stat folder = .error .notFound ∧
        ((Disk.removeAll folder).run d).1 = .error .notFound ∧
        (clean folder).run d = (.ok (), d)) ∨
      ∃ fault d', d'.current = d.current ∧
        (clean folder).run d = (.error (.clean folder fault), d') := by
  unfold clean
  rw [Disk.run_tryCatch, Disk.run_adapt]
  obtain ⟨s, hs, hnamed, hrun⟩ | ⟨hstat, hrun⟩ | ⟨fault, d', hfault, hcurrent, hrun⟩ :=
    Disk.removeAll_cases folder d
  · rw [hrun]
    exact .inl ⟨s, hs, hnamed, rfl, rfl⟩
  · rw [hrun]
    exact .inr (.inl ⟨hstat, rfl, rfl⟩)
  · rw [hrun]
    refine .inr (.inr ⟨fault, d', hcurrent, ?_⟩)
    cases fault <;> first | rfl | exact absurd rfl hfault

/-- Relative paths start where they started. -/
theorem current_clean (folder : String) (d : Disk) :
    ((clean folder).run d).2.current = d.current := by
  obtain ⟨s, -, -, -, hrun⟩ | ⟨-, -, hrun⟩ | ⟨fault, d', hcurrent, hrun⟩ :=
    clean_cases folder d
  · rw [hrun]
    rfl
  · rw [hrun]
  · rw [hrun]
    exact hcurrent

theorem current_prepared (folder : String) (c : Config) (d : Disk) :
    (prepared folder c d).current = d.current := by
  unfold prepared
  split
  · exact current_clean folder d
  · rfl

-- ---------------------------------------------------------------------------
-- Stages
-- ---------------------------------------------------------------------------

/-- Splitting a script leaves what the writer leaves. -/
theorem split_eq (launch : Program.Launcher) (input folder : String) (c : Config)
    (script : Script) (d : Disk) :
    let outcome := Engine.run (Writer.sink launch (writer c folder)) c.settings d script
    (split launch input folder c script d).result = outcome.result.mapError .emit ∧
      (split launch input folder c script d).disk = outcome.sink := by
  unfold split
  dsimp only
  split
  · rename_i n hresult
    simp [hresult, Except.mapError]
  · rename_i error hresult
    simp [hresult, Except.mapError]

theorem splitInto_cases (launch : Program.Launcher) (input folder : String) (c : Config)
    (script : Script) (d : Disk) :
    let report := splitInto launch input folder c script d
    report.disk = prepared folder c d ∧ c.clean = true ∧ c.dry = false ∧
        (∃ fault, ((clean folder).run d).1 = .error (.clean folder fault) ∧
          report.result = .error (.clean folder fault)) ∨
      (c.clean = true → c.dry = false → ((clean folder).run d).1 = .ok ()) ∧
        let outcome := Engine.run (Writer.sink launch (writer c folder)) c.settings
          (prepared folder c d) script
        report.result = outcome.result.mapError .emit ∧ report.disk = outcome.sink := by
  have hsplit := split_eq launch input folder c script
  unfold splitInto prepared
  split
  · rename_i hclean
    simp only [Bool.and_eq_true, Bool.not_eq_true'] at hclean
    cases hrun : (clean folder).run d with
    | mk r d' =>
      cases r with
      | error error =>
        obtain ⟨_, _, _, _, hrun'⟩ | ⟨_, _, hrun'⟩ | ⟨fault, _, _, hrun'⟩ :=
          clean_cases folder d
        · cases hrun.symm.trans hrun'
        · cases hrun.symm.trans hrun'
        · cases hrun.symm.trans hrun'
          exact .inl ⟨rfl, hclean.1, hclean.2, fault, rfl, rfl⟩
      | ok => exact .inr ⟨fun _ _ => rfl, hsplit d'⟩
  · rename_i hclean
    refine .inr ⟨?_, hsplit d⟩
    intro h h'
    simp [h, h'] at hclean

/-- What fails once a run has what it needs fails late. -/
theorem isEarly_splitInto {launch : Program.Launcher} {error : RunError}
    (h : (splitInto launch input folder c script d).result = .error error) :
    error.isEarly = false := by
  obtain ⟨-, -, -, fault, -, hresult⟩ | ⟨-, hresult, -⟩ :=
    splitInto_cases launch input folder c script d
  · cases h.symm.trans hresult
    rfl
  · rw [h] at hresult
    cases houtcome : (Engine.run (Writer.sink launch (writer c folder)) c.settings
        (prepared folder c d) script).result with
    | ok n =>
      rw [houtcome] at hresult
      cases hresult
    | error reason =>
      rw [houtcome] at hresult
      cases hresult
      rfl

/-- A run that does not have what it needs fails at once. A run that has it may fail to remove the
folder; otherwise it ends as splitting the script ends. -/
theorem file_cases (launch : Program.Launcher) (input : String) (c : Config) (d : Disk) :
    let report := file launch input c d
    (Unready input c d ∧ report.disk = d ∧
        ∃ error, report.result = .error error ∧ error.isEarly = true) ∨
      ∃ folder script, Ready input c d folder script ∧
        report.disk = (splitInto launch input folder c script d).disk ∧
        report.result = (splitInto launch input folder c script d).result := by
  unfold file
  cases hfolder : c.outputFolder with
  | none => exact .inl ⟨.inl hfolder, rfl, _, rfl, rfl⟩
  | some folder =>
    cases hread : d.read input with
    | error fault => exact .inl ⟨.inr (.inl ⟨fault, hread⟩), rfl, _, rfl, rfl⟩
    | ok source =>
      simp only
      cases hparse : Script.parse input source with
      | error error =>
        exact .inl ⟨.inr (.inr ⟨source, error, hread, hparse⟩), rfl, _, rfl, rfl⟩
      | ok script => exact .inr ⟨folder, script, ⟨hfolder, source, hread, hparse⟩, rfl, rfl⟩

end Run
end Unbundle

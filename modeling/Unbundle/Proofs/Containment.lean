-- SUMMARY: Which modules are written below the output folder, and how a name leads out of it.
import Mathlib.Data.List.Infix
import Mathlib.Data.Set.Finite.Basic
import Unbundle.Proofs.Route
import Unbundle.Run

/-!
# Containment

A module goes to the path that its file name makes when it is joined to the output folder. Slashes
at the start of the name are dropped, but `..` is followed like any other piece. So a module stays
strictly below every output folder exactly if its file name never climbs above where it starts, and
names something (`target_strictly_below_iff`).
-/

namespace Unbundle

open Disk (Route)

namespace Disk.Route

/-- A place is below a folder, and not the folder itself. -/
def StrictlyBelow (folder place : Route) : Prop :=
  folder <+: place ∧ place ≠ folder

instance (folder place : Route) : Decidable (StrictlyBelow folder place) :=
  inferInstanceAs (Decidable (_ ∧ _))

/-- Where pieces lead from a place below some folder; nowhere if they climb above the folder. -/
def below? (inside : Route) : List String → Option Route
  | [] => some inside
  | piece :: rest =>
    if piece == ".." && inside.isEmpty then none else below? (step inside piece) rest

/-- A piece that does not climb above the folder leads to the same place below every folder. -/
theorem step_append {folder inside : Route} {piece : String}
    (h : (piece == ".." && inside.isEmpty) = false) :
    step (folder ++ inside) piece = folder ++ step inside piece := by
  unfold step
  split
  · rfl
  · split
    · rename_i hup
      have hinside : inside ≠ [] := by
        rintro rfl
        simp [hup] at h
      exact List.dropLast_append_of_ne_nil hinside
    · exact List.append_assoc ..

theorem follow_of_below? {folder inside r : Route} {pieces : List String}
    (h : below? inside pieces = some r) : follow (folder ++ inside) pieces = folder ++ r := by
  induction pieces generalizing inside with
  | nil =>
    cases h
    rfl
  | cons piece rest ih =>
    unfold below? at h
    split at h
    · cases h
    · rename_i hpiece
      rw [follow_cons, step_append (by simpa using hpiece), ih h]

theorem below?_append (inside : Route) (pieces rest : List String) :
    below? inside (pieces ++ rest) = (below? inside pieces).bind fun r => below? r rest := by
  induction pieces generalizing inside with
  | nil => rfl
  | cons piece pieces ih =>
    rw [List.cons_append, below?, below?, ih]
    split <;> rfl

/-- Without `..` nothing climbs. -/
theorem below?_ne_none {inside : Route} {pieces : List String} (h : ".." ∉ pieces) :
    below? inside pieces ≠ none := by
  induction pieces generalizing inside with
  | nil => simp [below?]
  | cons piece rest ih =>
    rw [List.mem_cons, not_or] at h
    rw [below?, if_neg (by simp [Ne.symm h.1])]
    exact ih h.2

-- ---------------------------------------------------------------------------
-- Climbing
-- ---------------------------------------------------------------------------

theorem not_mem_step {name : String} {here : Route} {piece : String} (h : name ∉ here)
    (hpiece : name ≠ piece) : name ∉ step here piece := by
  unfold step
  split
  · exact h
  · split
    · exact fun hmem => h (List.mem_of_mem_dropLast hmem)
    · simp [h, hpiece]

theorem not_mem_follow {name : String} {here : Route} {pieces : List String} (h : name ∉ here)
    (hpieces : name ∉ pieces) : name ∉ follow here pieces := by
  induction pieces generalizing here with
  | nil => exact h
  | cons piece rest ih =>
    rw [List.mem_cons, not_or] at hpieces
    exact ih (not_mem_step h hpieces.1) hpieces.2

/-- Pieces that climb above a folder do not come back to it, unless they name it. -/
theorem not_mem_follow_of_climbing {name : String} {inside : Route} {pieces : List String}
    (h : below? inside pieces = none) (hinside : name ∉ inside) (hpieces : name ∉ pieces) :
    name ∉ follow (name :: inside) pieces := by
  induction pieces generalizing inside with
  | nil => cases h
  | cons piece rest ih =>
    rw [List.mem_cons, not_or] at hpieces
    unfold below? at h
    split at h
    · rename_i hup
      simp only [Bool.and_eq_true, beq_iff_eq, List.isEmpty_iff] at hup
      obtain ⟨rfl, rfl⟩ := hup
      rw [follow_cons]
      exact not_mem_follow List.not_mem_nil hpieces.2
    · rename_i hpiece
      rw [follow_cons, ← List.singleton_append, step_append (by simpa using hpiece)]
      exact ih h (not_mem_step hinside hpieces.1) hpieces.2

/-- There is a folder with a name that is none of these. -/
theorem exists_folder (names : List String) :
    ∃ folder ∉ names, ∀ current, ofPath current folder = current ++ [folder] := by
  let letters (n : Nat) : String := String.ofList (List.replicate (n + 1) 'a')
  have hinjective : Function.Injective letters := by
    intro n k h
    have hlength := congrArg (fun name => name.toList.length) h
    simpa [letters] using hlength
  obtain ⟨_, ⟨n, rfl⟩, hn⟩ := (Set.infinite_range_of_injective hinjective).exists_notMem_finset
    ("" :: "." :: ".." :: names).toFinset
  simp only [List.mem_toFinset, List.mem_cons, not_or] at hn
  obtain ⟨hempty, hdot, hup, hnames⟩ := hn
  refine ⟨letters n, hnames, ?_⟩
  intro current
  have hrelative : Path.isAbsolute (letters n) = false := by
    simp [Path.isAbsolute, letters, List.replicate_succ]
  have hpieces : Path.pieces (letters n) = [letters n] := by
    rw [Path.pieces, Path.split_of_not_mem (by simp [letters])]
    simp
  rw [ofPath, hrelative, hpieces]
  exact step_of_name current hempty hdot hup

end Disk.Route

-- ---------------------------------------------------------------------------
-- Targets of modules
-- ---------------------------------------------------------------------------

/-- Where the file of a module goes. -/
def Writer.place (w : Writer) (current : Route) (m : Module) : Route :=
  .ofPath current (w.target m.fileName)

/-- The place of a module is its file name, followed from where the output folder is. -/
theorem Writer.place_eq (w : Writer) (current : Route) (m : Module) :
    w.place current m = (Route.ofPath current w.folder).follow (Path.pieces m.fileName) := by
  rw [place, target, Route.ofPath_join current w.folder (Path.isAbsolute_relative m.fileName),
    Route.follow_pieces_relative]

namespace Module

/-- The file name climbs above where it starts. -/
def Climbs (m : Module) : Prop :=
  Route.below? [] (Path.pieces m.fileName) = none

/-- The file name leads back to where it starts. -/
def NamesNothing (m : Module) : Prop :=
  Route.below? [] (Path.pieces m.fileName) = some []

end Module

/-- An ending without slashes belongs to the last piece. -/
theorem Path.pieces_append (name : String) {ending : String} (h : '/' ∉ ending.toList) :
    ∃ before last, pieces name = before ++ [last] ∧
      pieces (name ++ ending) = before ++ [last ++ ending] := by
  have hsplit : ∀ text : List Char, ∃ before last, split text = before ++ [last] ∧
      split (text ++ ending.toList) = before ++ [last ++ ending.toList] := by
    intro text
    induction text with
    | nil => exact ⟨[], [], rfl, split_of_not_mem h⟩
    | cons c text ih =>
      obtain ⟨before, last, hbefore, hending⟩ := ih
      rw [List.cons_append, split, split, hbefore, hending]
      split
      · exact ⟨[] :: before, last, rfl, rfl⟩
      · cases before with
        | nil => exact ⟨[], c :: last, rfl, rfl⟩
        | cons piece before => exact ⟨(c :: piece) :: before, last, rfl, rfl⟩
  obtain ⟨before, last, hbefore, hending⟩ := hsplit name.toList
  refine ⟨before.map String.ofList, String.ofList last, ?_, ?_⟩
  · simp [pieces, hbefore]
  · simp [pieces, hending]

/-- The file of code has a name of its own, whatever the module is called. -/
theorem Module.not_namesNothing_code (name : String) (imports : List Import)
    (body : List Script.Stmt) : ¬ (⟨name, .code imports body⟩ : Module).NamesNothing := by
  obtain ⟨before, last, -, hpieces⟩ := Path.pieces_append name (show '/' ∉ ".js".toList by decide)
  have hname : ∀ other : String, other.toList.length < 3 → last ++ ".js" ≠ other := by
    rintro other hother rfl
    have hending : ".js".toList.length = 3 := by decide
    rw [String.toList_append, List.length_append, hending] at hother
    omega
  intro h
  rw [NamesNothing, fileName, hpieces, Route.below?_append, Option.bind_eq_some_iff] at h
  obtain ⟨here, -, h⟩ := h
  rw [Route.below?, if_neg (by simp [hname ".." (by decide)]),
    Route.step_of_name here (hname "" (by decide)) (hname "." (by decide))
      (hname ".." (by decide))] at h
  simp [Route.below?] at h

/-- A module stays strictly below every output folder exactly if its file name does not climb above
where it starts, and names something. The first is so for all names without `..`, the second for
all modules of code. -/
theorem target_strictly_below_iff (m : Module) :
    ((∀ (w : Writer) (current : Route),
        (Route.ofPath current w.folder).StrictlyBelow (w.place current m)) ↔
      ¬ m.Climbs ∧ ¬ m.NamesNothing) ∧
      (".." ∉ Path.pieces m.fileName → ¬ m.Climbs) ∧
      ((∃ imports body, m.body = .code imports body) → ¬ m.NamesNothing) := by
  refine ⟨⟨?_, ?_⟩, fun h => Route.below?_ne_none h, ?_⟩
  · intro h
    constructor
    · -- A folder that the name does not mention is left for good.
      intro hclimbs
      obtain ⟨folder, hfolder, hplace⟩ := Route.exists_folder (Path.pieces m.fileName)
      obtain ⟨⟨rest, hrest⟩, -⟩ := h ⟨folder, false, none⟩ []
      rw [Writer.place_eq, hplace] at hrest
      refine Route.not_mem_follow_of_climbing hclimbs List.not_mem_nil hfolder ?_
      rw [← List.nil_append [folder], ← hrest]
      simp
    · intro hnothing
      obtain ⟨-, hne⟩ := h ⟨"", false, none⟩ []
      rw [Writer.place_eq] at hne
      exact hne (by simpa using Route.follow_of_below? hnothing)
  · rintro ⟨hclimbs, hnothing⟩ w current
    obtain ⟨inside, hinside⟩ := Option.ne_none_iff_exists'.1 hclimbs
    rw [Writer.place_eq, ← List.append_nil (Route.ofPath current w.folder),
      Route.follow_of_below? hinside, List.append_nil]
    refine ⟨List.prefix_append .., ?_⟩
    intro heq
    obtain rfl : inside = [] := by simpa using heq
    exact hnothing hinside
  · rintro ⟨imports, body, hbody⟩
    obtain ⟨name, _⟩ := m
    cases hbody
    exact Module.not_namesNothing_code name imports body

/-- No program is there to be started. -/
def Program.nowhere : Program.Launcher :=
  fun _ _ _ => .error (.file .notFound)

/-- A disk with a bundle that defines `../evil`. -/
def climbingDisk : Disk :=
  ⟨[(["b.js"], .file "define('../evil', ['a'], function (a) { a(); });".toUTF8 false)], []⟩

/-- The module `../evil` is written beside the output folder. -/
theorem climbing_name_leaves_folder :
    (climbingDisk.get? ["evil.js"]).isNone ∧
      ((Run.file Program.nowhere "b.js" { outputFolder := some "out" } climbingDisk).disk.get?
        ["evil.js"]).isSome ∧
      ((⟨"out", false, none⟩ : Writer).place [] ⟨"../evil", .code [] []⟩) = ["evil.js"] ∧
      ¬ (Route.ofPath [] "out").StrictlyBelow ["evil.js"] := by
  decide +kernel

end Unbundle

-- SUMMARY: Every setting comes from the last layer that gives it, and a refused document changes nothing.
import Mathlib.Data.List.Induction
import Mathlib.Logic.Function.Basic
import Unbundle.Cli
import Unbundle.Proofs.DocumentKeys

/-!
# Layers of the configuration

A configuration has six settings (`Setting`), each with a key in documents. What a document gives for
a setting is read off the table that it denotes: a document is accepted if every key belongs to a
setting and has a value that the setting can take (`IsAccepted`), and then each key gives its value
(`Setting.GivenBy`).

Layers are put on top of each other one at a time. One step puts the values that a document gives in
front of those that were there (`FirstGiven.applied`), so after any number of steps each setting
has the value that the last accepted document with its key gives. Files and the command line are
layers like these.
-/

namespace Unbundle.Config

/-- What a configuration holds a value for. -/
inductive Setting where
  | outputFolder | dry | clean | limit | prettier | logging
deriving DecidableEq, Repr

namespace Setting

open Toml

def key : Setting → String
  | outputFolder => "output-folder"
  | dry => "dry"
  | clean => "clean"
  | limit => "limit"
  | prettier => "prettier"
  | logging => "logging"

/-- The values that a setting can have. -/
abbrev Kind : Setting → Type
  | outputFolder => Option String
  | dry | clean | prettier => Bool
  | limit => Option Nat
  | logging => Logging

/-- The value of a setting in a configuration. -/
def of : (s : Setting) → Config → s.Kind
  | outputFolder, c => c.outputFolder
  | dry, c => c.dry
  | clean, c => c.clean
  | limit, c => c.limit
  | prettier, c => c.prettier
  | logging, c => c.logging

/-- The value that a layer sets. -/
def set? : (s : Setting) → Layer → Option s.Kind
  | outputFolder, layer => layer.outputFolder.map some
  | dry, layer => layer.dry
  | clean, layer => layer.clean
  | limit, layer => layer.limit.map limitOfInt
  | prettier, layer => layer.prettier
  | logging, layer => layer.logging

/-- The value that the command line sets. -/
def flag? : (s : Setting) → Cli.Options → Option s.Kind
  | outputFolder, o => o.output.map some
  | dry, o => if o.dry then some true else none
  | clean, o => if o.clean then some true else none
  | limit, o => o.limit.map limitOfInt
  | prettier, o => if o.prettier then some true else none
  | logging, o => if o.quiet then some .none else none

/-- What a value in a document means for a setting. A limit is a number of 64 bits, and there is none
if the number is negative; how much is logged is said by a word, or by a table with nothing but that
word in it. -/
inductive Reads : (s : Setting) → Value → s.Kind → Prop where
  | folder (path : String) : Reads outputFolder (.scalar (.string path)) (some path)
  | dry (b : Bool) : Reads dry (.scalar (.boolean b)) b
  | clean (b : Bool) : Reads clean (.scalar (.boolean b)) b
  | prettier (b : Bool) : Reads prettier (.scalar (.boolean b)) b
  | unlimited {n : Int} (hlow : Int64.minValue.toInt ≤ n) (hneg : n < 0) :
    Reads limit (.scalar (.integer (some n))) none
  | limited {n : Nat} (hhigh : n ≤ Int64.maxValue.toInt) :
    Reads limit (.scalar (.integer (some n))) (some n)
  | word (l : Logging) : Reads logging (.scalar (.string l.text)) l
  | wordBelow (l : Logging) (origin : Origin) {key : Toml.Key} (span : Span) {value : Value}
    (hkey : key.name = l.text) (hollow : (∃ b, value = .array b []) ∨ ∃ o, value = .table o []) :
    Reads logging (.table origin [(key, span, value)]) l

/-- An entry gives a setting a value. -/
def GivenIn (s : Setting) (entries : List Entry) (v : s.Kind) : Prop :=
  ∃ key span value, (key, span, value) ∈ entries ∧ key.name = s.key ∧ s.Reads value v

end Setting

/-- Every entry has the key of a setting, and a value that the setting can have. -/
def AreTyped (entries : List Toml.Entry) : Prop :=
  ∀ e ∈ entries, ∃ (s : Setting) (v : s.Kind), e.1.name = s.key ∧ s.Reads e.2.2 v

/-- The document denotes a table, and the entries of the table are typed. -/
def Denotes (document : String) (table : Toml.Table) : Prop :=
  Toml.Table.ofDocument document = .ok table ∧ AreTyped table.entries

def IsAccepted (document : String) : Prop :=
  ∃ table, Denotes document table

/-- An accepted document has the key of a setting, with a value. -/
def Setting.GivenBy (s : Setting) (document : String) (v : s.Kind) : Prop :=
  ∃ table, Denotes document table ∧ s.GivenIn table.entries v

/-- A file holds a document that gives a setting a value. -/
def Setting.GivenInFile (s : Setting) (d : Disk) (path : String) (v : s.Kind) : Prop :=
  ∃ document, d.read path = .ok document ∧ s.GivenBy document v

/-- The file of the user, who may have none, gives a setting a value. -/
def Setting.GivenByUser (s : Setting) (d : Disk) (user : Surroundings) (v : s.Kind) : Prop :=
  ∃ file, user.userFile? = some file ∧ s.GivenInFile d file v

/-- A file can be read and its document is accepted. -/
def IsUsable (d : Disk) (path : String) : Prop :=
  ∃ document, d.read path = .ok document ∧ IsAccepted document

/-- The value that the first of several sources gives, or else the default. -/
inductive FirstGiven {α : Type} (default : α) : List (α → Prop) → α → Prop where
  | default : FirstGiven default [] default
  | given {source : α → Prop} {rest : List (α → Prop)} {v : α} (h : source v) :
    FirstGiven default (source :: rest) v
  | next {source : α → Prop} {rest : List (α → Prop)} {v : α} (hnone : ∀ w, ¬ source w)
    (h : FirstGiven default rest v) : FirstGiven default (source :: rest) v

/-- Puts documents on top of the settings, one after the other; those that are refused are passed
over. -/
def applyAll (c : Config) (documents : List String) : Config :=
  documents.foldl (fun c document => (c.applyDocument document).toOption.getD c) c

-- ---------------------------------------------------------------------------
-- Reading values
-- ---------------------------------------------------------------------------

namespace Layer

open Toml

variable {layer layer' : Layer} {key : Toml.Key} {span : Span} {value : Value}

theorem readFolder_eq_ok {path : String} :
    readFolder span value = .ok path ↔ value = .scalar (.string path) := by
  unfold readFolder
  split
  · simp
  · rename_i hother
    constructor
    · intro h
      cases h
    · intro h
      exact absurd h (hother path)

theorem readFlag_eq_ok {b : Bool} : readFlag span value = .ok b ↔ value = .scalar (.boolean b) := by
  unfold readFlag
  split
  · simp
  · rename_i hother
    constructor
    · intro h
      cases h
    · intro h
      exact absurd h (hother b)

theorem readLimit_eq_ok {n : Int} :
    readLimit span value = .ok n ↔
      value = .scalar (.integer (some n)) ∧
        Int64.minValue.toInt ≤ n ∧ n ≤ Int64.maxValue.toInt := by
  have hlow : leastInteger = Int64.minValue.toInt := by decide
  have hhigh : wide 63 = Int64.maxValue.toInt + 1 := by decide
  unfold readLimit
  split
  · rename_i m
    rw [hlow, hhigh]
    split
    · rename_i hm
      simp only [Bool.and_eq_true, decide_eq_true_eq, Int.lt_add_one_iff] at hm
      constructor
      · intro h
        cases h
        exact ⟨rfl, hm⟩
      · rintro ⟨h, -⟩
        cases h
        rfl
    · rename_i hm
      simp only [Bool.and_eq_true, decide_eq_true_eq, Int.lt_add_one_iff] at hm
      constructor
      · intro h
        split at h <;> cases h
      · rintro ⟨h, hn⟩
        cases h
        exact absurd hn hm
  · rename_i hother
    constructor
    · intro h
      cases h
    · rintro ⟨h, -⟩
      exact absurd h (hother n)

theorem loggingOf_eq_ok {word : String} {l : Logging} :
    loggingOf word span = .ok l ↔ word = l.text := by
  unfold loggingOf
  by_cases hnone : word = "none"
  · cases l <;> simp [hnone, Logging.text]
  · by_cases hverbose : word = "verbose"
    · cases l <;> simp [hverbose, Logging.text]
    · cases l <;> simp [hnone, hverbose, Logging.text]

theorem checkHollow_eq_ok :
    checkHollow span value = .ok () ↔ (∃ b, value = .array b []) ∨ ∃ o, value = .table o [] := by
  unfold checkHollow
  split <;> simp_all

theorem readLogging_eq_ok {l : Logging} :
    readLogging span value = .ok l ↔ Setting.logging.Reads value l := by
  constructor
  · intro h
    unfold readLogging at h
    split at h
    · rw [loggingOf_eq_ok.1 h]
      exact .word l
    · cases h
    · obtain ⟨l', hword, h⟩ := exists_of_bind_eq_ok h
      obtain ⟨_, hhollow, h⟩ := exists_of_bind_eq_ok h
      cases h
      exact .wordBelow l _ _ (loggingOf_eq_ok.1 hword) (checkHollow_eq_ok.1 hhollow)
    · cases h
    · cases h
  · intro h
    cases h with
    | word => exact loggingOf_eq_ok.2 rfl
    | wordBelow _ origin below hkey hhollow =>
      simp only [readLogging, loggingOf_eq_ok.2 hkey, checkHollow_eq_ok.2 hhollow]
      rfl

theorem reads_limitOfInt {n : Int} (hlow : Int64.minValue.toInt ≤ n)
    (hhigh : n ≤ Int64.maxValue.toInt) :
    Setting.limit.Reads (.scalar (.integer (some n))) (limitOfInt n) := by
  unfold limitOfInt
  split
  · rename_i hneg
    exact .unlimited hlow hneg
  · obtain ⟨m, rfl⟩ := Int.eq_ofNat_of_zero_le (show 0 ≤ n by omega)
    exact .limited (by omega)

/-- An entry sets the setting that its key belongs to, and no other. -/
theorem exists_of_addEntry (h : layer.addEntry (key, span, value) = .ok layer') :
    ∃ (s : Setting) (v : s.Kind), key.name = s.key ∧ s.Reads value v ∧
      ∀ s' : Setting, s'.set? layer' = Function.update (·.set? layer) s (some v) s' := by
  simp only [addEntry] at h
  split at h
  · rename_i hkey
    obtain ⟨path, hread, h⟩ := exists_of_bind_eq_ok h
    cases h
    refine ⟨.outputFolder, some path, hkey, readFolder_eq_ok.1 hread ▸ .folder path, ?_⟩
    intro s'
    cases s' <;> rfl
  · rename_i hkey
    obtain ⟨b, hread, h⟩ := exists_of_bind_eq_ok h
    cases h
    refine ⟨.dry, b, hkey, readFlag_eq_ok.1 hread ▸ .dry b, ?_⟩
    intro s'
    cases s' <;> rfl
  · rename_i hkey
    obtain ⟨b, hread, h⟩ := exists_of_bind_eq_ok h
    cases h
    refine ⟨.clean, b, hkey, readFlag_eq_ok.1 hread ▸ .clean b, ?_⟩
    intro s'
    cases s' <;> rfl
  · rename_i hkey
    obtain ⟨n, hread, h⟩ := exists_of_bind_eq_ok h
    cases h
    obtain ⟨rfl, hlow, hhigh⟩ := readLimit_eq_ok.1 hread
    refine ⟨.limit, limitOfInt n, hkey, reads_limitOfInt hlow hhigh, ?_⟩
    intro s'
    cases s' <;> rfl
  · rename_i hkey
    obtain ⟨b, hread, h⟩ := exists_of_bind_eq_ok h
    cases h
    refine ⟨.prettier, b, hkey, readFlag_eq_ok.1 hread ▸ .prettier b, ?_⟩
    intro s'
    cases s' <;> rfl
  · rename_i hkey
    obtain ⟨l, hread, h⟩ := exists_of_bind_eq_ok h
    cases h
    refine ⟨.logging, l, hkey, readLogging_eq_ok.1 hread, ?_⟩
    intro s'
    cases s' <;> rfl
  · cases h

theorem isOk_addEntry {s : Setting} {v : s.Kind} (hkey : key.name = s.key) (hv : s.Reads value v)
    (layer : Layer) : ∃ layer', layer.addEntry (key, span, value) = .ok layer' := by
  simp only [addEntry, hkey]
  cases s with
  | outputFolder =>
    cases hv with
    | folder path => exact ⟨_, rfl⟩
  | dry =>
    cases hv with
    | dry b => exact ⟨_, rfl⟩
  | clean =>
    cases hv with
    | clean b => exact ⟨_, rfl⟩
  | limit =>
    have hread : ∃ n, readLimit span value = .ok n := by
      cases hv with
      | unlimited hlow hneg =>
        have hmax : 0 ≤ Int64.maxValue.toInt := by decide
        exact ⟨_, readLimit_eq_ok.2 ⟨rfl, hlow, by omega⟩⟩
      | limited hhigh =>
        have hmin : Int64.minValue.toInt ≤ 0 := by decide
        exact ⟨_, readLimit_eq_ok.2 ⟨rfl, by omega, hhigh⟩⟩
    obtain ⟨n, hread⟩ := hread
    simp only [Setting.key, hread]
    exact ⟨_, rfl⟩
  | prettier =>
    cases hv with
    | prettier b => exact ⟨_, rfl⟩
  | logging =>
    simp only [Setting.key, readLogging_eq_ok.2 hv]
    exact ⟨_, rfl⟩

end Layer

namespace Setting

open Toml

variable {s : Setting} {entries : List Entry}

theorem key_inj {s s' : Setting} (h : s.key = s'.key) : s = s' := by
  cases s <;> cases s' <;> simp [key] at h ⊢

theorem Reads.unique {value : Value} {v w : s.Kind} (hv : s.Reads value v) (hw : s.Reads value w) :
    v = w := by
  cases s with
  | limit =>
    cases hv with
    | unlimited _ hneg =>
      cases hw with
      | unlimited => rfl
      | limited => omega
    | limited =>
      cases hw with
      | unlimited _ hneg => omega
      | limited => rfl
  | logging =>
    have hread {l : Logging} (hl : Setting.logging.Reads value l) :
        Layer.readLogging ⟨0, 0⟩ value = .ok l := Layer.readLogging_eq_ok.2 hl
    exact Except.ok.inj ((hread hv).symm.trans (hread hw))
  | _ =>
    cases hv
    cases hw
    rfl

theorem givenIn_congr {entries' : List Entry} (h : entries.Perm entries') (v : s.Kind) :
    s.GivenIn entries v ↔ s.GivenIn entries' v := by
  simp only [GivenIn, h.mem_iff]

theorem givenIn_cons {key : Toml.Key} {span : Span} {value : Value} {v : s.Kind} :
    s.GivenIn ((key, span, value) :: entries) v ↔
      key.name = s.key ∧ s.Reads value v ∨ s.GivenIn entries v := by
  simp only [GivenIn, List.mem_cons]
  constructor
  · rintro ⟨_, _, _, h | hmem, hkey, hv⟩
    · cases h
      exact .inl ⟨hkey, hv⟩
    · exact .inr ⟨_, _, _, hmem, hkey, hv⟩
  · rintro (⟨hkey, hv⟩ | ⟨_, _, _, hmem, hkey, hv⟩)
    · exact ⟨key, span, value, .inl rfl, hkey, hv⟩
    · exact ⟨_, _, _, .inr hmem, hkey, hv⟩

theorem mem_keys_of_givenIn {v : s.Kind} (h : s.GivenIn entries v) :
    s.key ∈ entries.map (·.1.name) := by
  obtain ⟨key, span, value, hmem, hkey, -⟩ := h
  exact List.mem_map.2 ⟨_, hmem, hkey⟩

end Setting

-- ---------------------------------------------------------------------------
-- Layers of documents
-- ---------------------------------------------------------------------------

namespace Layer

open Toml

variable {layer layer' : Layer} {entries : List Entry}

theorem areTyped_of_addEntries (h : entries.foldlM addEntry layer = .ok layer') : AreTyped entries := by
  induction entries generalizing layer with
  | nil =>
    intro e he
    cases he
  | cons entry rest ih =>
    rw [List.foldlM_cons] at h
    obtain ⟨mid, hentry, h⟩ := exists_of_bind_eq_ok h
    obtain ⟨s, v, hkey, hv, -⟩ := exists_of_addEntry hentry
    intro e he
    rcases List.mem_cons.1 he with rfl | he
    · exact ⟨s, v, hkey, hv⟩
    · exact ih h e he

theorem exists_addEntries (h : AreTyped entries) (layer : Layer) :
    ∃ layer', entries.foldlM addEntry layer = .ok layer' := by
  induction entries generalizing layer with
  | nil => exact ⟨layer, rfl⟩
  | cons entry rest ih =>
    obtain ⟨key, span, value⟩ := entry
    obtain ⟨s, v, hkey, hv⟩ := h _ List.mem_cons_self
    obtain ⟨mid, hmid⟩ : ∃ mid, layer.addEntry (key, span, value) = .ok mid :=
      isOk_addEntry hkey hv layer
    obtain ⟨layer', hlayer'⟩ := ih (fun e he => h e (List.mem_cons_of_mem _ he)) mid
    refine ⟨layer', ?_⟩
    rw [List.foldlM_cons, hmid]
    exact hlayer'

/-- Entries with different keys set what they give, and keep what was set before. -/
theorem set?_addEntries (hnodup : (entries.map (·.1.name)).Nodup)
    (h : entries.foldlM addEntry layer = .ok layer') (s : Setting) (v : s.Kind) :
    s.set? layer' = some v ↔
      s.GivenIn entries v ∨ s.key ∉ entries.map (·.1.name) ∧ s.set? layer = some v := by
  induction entries generalizing layer with
  | nil =>
    cases h
    simp [Setting.GivenIn]
  | cons entry rest ih =>
    obtain ⟨key, span, value⟩ := entry
    rw [List.map_cons, List.nodup_cons] at hnodup
    rw [List.foldlM_cons] at h
    obtain ⟨mid, hentry, h⟩ := exists_of_bind_eq_ok h
    obtain ⟨s₀, v₀, hkey, hv₀, hset⟩ := exists_of_addEntry hentry
    rw [ih hnodup.2 h, hset, Setting.givenIn_cons, List.map_cons, List.mem_cons, not_or]
    by_cases hs : s = s₀
    · subst hs
      -- The key of `s` is that of this entry, and of no other.
      have hrest : s.key ∉ rest.map (·.1.name) := hkey ▸ hnodup.1
      have hgiven : ¬ s.GivenIn rest v := fun hgiven => hrest (Setting.mem_keys_of_givenIn hgiven)
      have hvalue : s.Reads value v ↔ v₀ = v := ⟨hv₀.unique, fun heq => heq ▸ hv₀⟩
      simp [hrest, hgiven, hkey, hvalue]
    · have hne : key.name ≠ s.key := fun heq => hs (Setting.key_inj (heq.symm.trans hkey))
      simp [hs, hne, hne.symm]

theorem perm_sorted (entries : List Entry) : (sorted entries).Perm entries :=
  List.mergeSort_perm ..

theorem areTyped_congr {entries' : List Entry} (h : entries.Perm entries') :
    AreTyped entries ↔ AreTyped entries' := by
  simp only [AreTyped, h.mem_iff]

theorem set?_empty (s : Setting) : s.set? {} = none := by
  cases s <;> rfl

/-- The layer of a document sets what the entries of its table give. -/
theorem set?_ofDocument {document : String} {table : Table} (hdenotes : Denotes document table)
    (h : ofDocument document = .ok layer) (s : Setting) (v : s.Kind) :
    s.set? layer = some v ↔ s.GivenIn table.entries v := by
  have hadd : (sorted table.entries).foldlM addEntry {} = .ok layer := by
    rw [ofDocument, hdenotes.1] at h
    exact h
  have hperm := perm_sorted table.entries
  have hnodup : ((sorted table.entries).map (·.1.name)).Nodup :=
    (hperm.map _).nodup_iff.2 (Table.nodup_keys_ofDocument hdenotes.1)
  rw [set?_addEntries hnodup hadd, s.givenIn_congr hperm]
  simp [set?_empty]

/-- A document gives a layer just if it is accepted. -/
theorem exists_ofDocument_iff {document : String} :
    (∃ layer, ofDocument document = .ok layer) ↔ IsAccepted document := by
  constructor
  · rintro ⟨layer, h⟩
    obtain ⟨table, htable, hadd⟩ := exists_of_bind_eq_ok h
    exact ⟨table, htable, (areTyped_congr (perm_sorted _)).1 (areTyped_of_addEntries hadd)⟩
  · rintro ⟨table, htable, htyped⟩
    obtain ⟨layer, hlayer⟩ := exists_addEntries ((areTyped_congr (perm_sorted _)).2 htyped) {}
    refine ⟨layer, ?_⟩
    rw [ofDocument, htable]
    exact hlayer

theorem set?_eq_some_iff {document : String} (h : ofDocument document = .ok layer) (s : Setting)
    (v : s.Kind) : s.set? layer = some v ↔ s.GivenBy document v := by
  constructor
  · intro hv
    obtain ⟨table, hdenotes⟩ := exists_ofDocument_iff.1 ⟨layer, h⟩
    exact ⟨table, hdenotes, (set?_ofDocument hdenotes h s v).1 hv⟩
  · rintro ⟨table, hdenotes, hv⟩
    exact (set?_ofDocument hdenotes h s v).2 hv

end Layer

-- ---------------------------------------------------------------------------
-- Layers on top of each other
-- ---------------------------------------------------------------------------

variable {c c' : Config} {document : String} {s : Setting}

/-- A layer replaces what it sets. -/
theorem of_apply (s : Setting) (c : Config) (layer : Layer) :
    s.of (c.apply layer) = (s.set? layer).getD (s.of c) := by
  cases s with
  | outputFolder =>
    change layer.outputFolder.or c.outputFolder = (layer.outputFolder.map some).getD c.outputFolder
    cases layer.outputFolder <;> rfl
  | _ => rfl

theorem exists_applyDocument_iff :
    (∃ c', c.applyDocument document = .ok c') ↔ IsAccepted document := by
  rw [← Layer.exists_ofDocument_iff, applyDocument]
  cases Layer.ofDocument document <;> simp

/-- What is given is put in front of what was there. -/
theorem FirstGiven.getD {α : Type} {source : α → Prop} {sources : List (α → Prop)} {default v : α}
    {new? : Option α} (hnew : ∀ w, new? = some w ↔ source w) (h : FirstGiven default sources v) :
    FirstGiven default (source :: sources) (new?.getD v) := by
  cases new? with
  | none => exact .next (fun w hw => nomatch (hnew w).2 hw) h
  | some w => exact .given ((hnew w).1 rfl)

/-- If no source gives two values, then only one value comes first. -/
theorem FirstGiven.unique {α : Type} {default v w : α} {sources : List (α → Prop)}
    (hone : ∀ source ∈ sources, ∀ a b, source a → source b → a = b)
    (hv : FirstGiven default sources v) (hw : FirstGiven default sources w) : v = w := by
  induction hv with
  | default =>
    cases hw
    rfl
  | given hv =>
    cases hw with
    | given hw => exact hone _ List.mem_cons_self _ _ hv hw
    | next hnone => exact absurd hv (hnone _)
  | next hnone hv ih =>
    cases hw with
    | given hw => exact absurd hw (hnone _)
    | next _ hw => exact ih (fun source hsource => hone source (.tail _ hsource)) hw

/-- A source that gives nothing can stand anywhere. -/
theorem FirstGiven.insert {α : Type} {source : α → Prop} {front back : List (α → Prop)}
    {default v : α} (hnone : ∀ w, ¬ source w) (h : FirstGiven default (front ++ back) v) :
    FirstGiven default (front ++ source :: back) v := by
  induction front with
  | nil => exact .next hnone h
  | cons first front ih =>
    cases h with
    | given hv => exact .given hv
    | next hfirst h => exact .next hfirst (ih h)

/-- A document puts what it gives in front of what was there. -/
theorem FirstGiven.applyDocument {default : s.Kind} {sources : List (s.Kind → Prop)}
    (h : FirstGiven default sources (s.of c)) (hok : c.applyDocument document = .ok c') :
    FirstGiven default (s.GivenBy document :: sources) (s.of c') := by
  unfold Config.applyDocument at hok
  split at hok
  · rename_i layer hlayer
    cases hok
    rw [of_apply]
    exact h.getD (Layer.set?_eq_some_iff hlayer s)
  · cases hok

theorem not_givenBy (h : ¬ IsAccepted document) (v : s.Kind) : ¬ s.GivenBy document v := by
  rintro ⟨table, hdenotes, -⟩
  exact h ⟨table, hdenotes⟩

theorem applyAll_append (c : Config) (documents more : List String) :
    c.applyAll (documents ++ more) = (c.applyAll documents).applyAll more :=
  List.foldl_append

theorem firstGiven_applyAll (s : Setting) (documents : List String) :
    FirstGiven (s.of {}) (documents.reverse.map s.GivenBy) (s.of (applyAll {} documents)) := by
  induction documents using List.reverseRecOn with
  | nil => exact .default
  | append_singleton documents document ih =>
    rw [applyAll_append, List.reverse_append]
    change FirstGiven _ (s.GivenBy document :: _)
      (s.of (((applyAll {} documents).applyDocument document).toOption.getD _))
    cases hdocument : (applyAll {} documents).applyDocument document with
    | ok c' => exact ih.applyDocument hdocument
    | error message =>
      refine .next (not_givenBy fun haccepted => ?_) ih
      obtain ⟨c', hc'⟩ := exists_applyDocument_iff.2 haccepted
      rw [hdocument] at hc'
      cases hc'

/-- A refused document makes no difference, wherever it stands. -/
theorem applyAll_of_not_isAccepted (h : ¬ IsAccepted document) (c : Config)
    (front back : List String) :
    c.applyAll (front ++ document :: back) = c.applyAll (front ++ back) := by
  rw [applyAll_append, applyAll_append]
  change applyAll (((c.applyAll front).applyDocument document).toOption.getD _) back = _
  cases hdocument : (c.applyAll front).applyDocument document with
  | ok c' => exact absurd (exists_applyDocument_iff.1 ⟨c', hdocument⟩) h
  | error message => rfl

theorem Setting.GivenBy.single {origin : Toml.Origin} {key : Toml.Key} {span : Span}
    {value : Toml.Value} {v : s.Kind}
    (hdocument : Toml.Table.ofDocument document = .ok ⟨origin, [(key, span, value)]⟩)
    (hkey : key.name = s.key) (hreads : s.Reads value v) : s.GivenBy document v := by
  refine ⟨_, ⟨hdocument, ?_⟩, key, span, value, List.mem_singleton_self _, hkey, hreads⟩
  intro e he
  cases List.mem_singleton.1 he
  exact ⟨s, v, hkey, hreads⟩

theorem Setting.GivenBy.unique {v w : s.Kind} (hv : s.GivenBy document v)
    (hw : s.GivenBy document w) : v = w := by
  have haccepted : IsAccepted document := hv.imp fun _ h => h.1
  obtain ⟨layer, hlayer⟩ := Layer.exists_ofDocument_iff.2 haccepted
  rw [← Layer.set?_eq_some_iff hlayer] at hv hw
  exact Option.some.inj (hv.symm.trans hw)

-- ---------------------------------------------------------------------------
-- Files and the command line
-- ---------------------------------------------------------------------------

variable {d : Disk} {path : String}

theorem exists_applyFile_iff : (∃ c', applyFile d path c = .ok c') ↔ IsUsable d path := by
  unfold applyFile IsUsable
  cases d.read path with
  | error fault => simp
  | ok document =>
    have hdocument := @exists_applyDocument_iff c document
    simp only [Except.ok.injEq, exists_eq_left', ← hdocument]
    cases c.applyDocument document <;> simp

theorem FirstGiven.applyFile {default : s.Kind} {sources : List (s.Kind → Prop)}
    (h : FirstGiven default sources (s.of c)) (hok : Config.applyFile d path c = .ok c') :
    FirstGiven default (s.GivenInFile d path :: sources) (s.of c') := by
  unfold Config.applyFile at hok
  split at hok
  · cases hok
  · rename_i document hread
    split at hok
    · rename_i hdocument
      cases hok
      have hsame : s.GivenInFile d path = s.GivenBy document := by
        funext v
        simp [Setting.GivenInFile, hread]
      rw [hsame]
      exact h.applyDocument hdocument
    · cases hok

theorem exists_loadFrom_iff {files : List (String × List Event)} :
    (∃ c', (loadFrom d files c).2 = .ok c') ↔ ∀ path ∈ files.map Prod.fst, IsUsable d path := by
  induction files generalizing c with
  | nil => simp [loadFrom]
  | cons file files ih =>
    obtain ⟨path, events⟩ := file
    rw [loadFrom, List.map_cons, List.forall_mem_cons, ← @exists_applyFile_iff c]
    cases applyFile d path c with
    | error e => simp
    | ok c' => simpa using ih

theorem FirstGiven.loadFrom {default : s.Kind} {sources : List (s.Kind → Prop)}
    {files : List (String × List Event)} (h : FirstGiven default sources (s.of c))
    (hok : (Config.loadFrom d files c).2 = .ok c') :
    FirstGiven default (((files.map Prod.fst).map (s.GivenInFile d)).reverse ++ sources)
      (s.of c') := by
  induction files generalizing c sources with
  | nil =>
    cases hok
    exact h
  | cons file files ih =>
    obtain ⟨path, events⟩ := file
    rw [Config.loadFrom] at hok
    cases hfile : Config.applyFile d path c with
    | error e =>
      rw [hfile] at hok
      cases hok
    | ok mid =>
      rw [hfile] at hok
      rw [List.map_cons, List.map_cons, List.reverse_cons, List.append_assoc]
      exact ih (h.applyFile hfile) hok

theorem isFile_of_read {document : String} (h : d.read path = .ok document) :
    d.isFile path = true := by
  obtain ⟨node, hstat, h⟩ := Toml.exists_of_bind_eq_ok h
  cases node with
  | dir => cases h
  | file content executable => rw [Disk.isFile, hstat]

theorem not_givenInFile (h : d.isFile path = false) (v : s.Kind) : ¬ s.GivenInFile d path v := by
  rintro ⟨document, hread, -⟩
  rw [isFile_of_read hread] at h
  cases h

theorem not_givenByUser {user : Surroundings} (h : user.userFile? = none) (v : s.Kind) :
    ¬ s.GivenByUser d user v := by
  rintro ⟨file, hfile, -⟩
  rw [h] at hfile
  cases hfile

/-- The file of the user counts if it is there, and so does that of the project unless another one is
asked for. -/
theorem map_fst_sources (user : Surroundings) (explicit : Option String) (d : Disk) :
    (sources user explicit d).map Prod.fst =
      (user.userFile?.filter d.isFile).toList ++
        if explicit.isSome || d.isFile fileName then [explicit.getD fileName] else [] := by
  unfold sources
  rw [List.map_append]
  congr 1
  · cases user.userFile?.filter d.isFile <;> rfl
  · cases explicit with
    | some path => rfl
    | none =>
      simp only [Option.isSome_none, Bool.false_or, Option.getD_none]
      split <;> rfl

theorem exists_load_iff {user : Surroundings} {explicit : Option String} :
    (∃ c, (load user explicit d).2 = .ok c) ↔
      (∀ file, user.userFile? = some file → d.isFile file = true → IsUsable d file) ∧
        (explicit.isSome = true ∨ d.isFile fileName = true →
          IsUsable d (explicit.getD fileName)) := by
  simp only [load]
  rw [exists_loadFrom_iff, map_fst_sources, List.forall_mem_append, ← Bool.or_eq_true]
  congr! 1
  · simp [Option.filter_eq_some_iff, and_imp]
  · split <;> simp_all

/-- The file of the project comes before that of the user. -/
theorem firstGiven_load {user : Surroundings} {explicit : Option String} (s : Setting)
    (hok : (load user explicit d).2 = .ok c) :
    FirstGiven (s.of {})
      [s.GivenInFile d (explicit.getD fileName), s.GivenByUser d user] (s.of c) := by
  have h : FirstGiven (s.of {})
      ((((sources user explicit d).map Prod.fst).map (s.GivenInFile d)).reverse ++ []) (s.of c) :=
    FirstGiven.default.loadFrom hok
  rw [List.append_nil, map_fst_sources, List.map_append, List.reverse_append] at h
  -- A file that is not there is not loaded, and would give nothing.
  have huser : FirstGiven (s.of {})
      (((if explicit.isSome || d.isFile fileName then [explicit.getD fileName] else []).map
        (s.GivenInFile d)).reverse ++ [s.GivenByUser d user]) (s.of c) := by
    cases huser : user.userFile? with
    | none =>
      exact .insert (not_givenByUser (by simp [huser])) (by simpa [huser] using h)
    | some file =>
      have hsame : s.GivenByUser d user = s.GivenInFile d file := by
        funext v
        simp [Setting.GivenByUser, huser]
      rw [hsame]
      cases hfile : d.isFile file with
      | true => simpa [huser, Option.filter, hfile] using h
      | false => exact .insert (not_givenInFile hfile) (by simpa [huser, Option.filter, hfile] using h)
  cases explicit with
  | some path => simpa using huser
  | none =>
    cases hfile : d.isFile fileName with
    | true => simpa [hfile] using huser
    | false => exact .next (not_givenInFile hfile) (by simpa [hfile] using huser)

theorem flag?_eq_set? (s : Setting) (o : Cli.Options) : s.flag? o = s.set? o.layer := by
  cases s <;> rfl

/-- A document is put on top of the settings exactly if it is accepted, and then it gives a setting at
most one value. After any documents a setting has the value that the last accepted document with its
key gives, or its default; a document that is refused makes no difference, wherever it stands. The
files are loaded exactly if those that count are usable. On top of them comes the command line: a
setting has the value that its flag gives, else the file that is asked for or that of the project, else
that of the user, else its default. -/
theorem settings_layered :
    (∀ (c : Config) (document : String),
      (∃ c', c.applyDocument document = .ok c') ↔ IsAccepted document) ∧
    (∀ (s : Setting) (document : String) (v w : s.Kind),
      s.GivenBy document v → s.GivenBy document w → v = w) ∧
    (∀ (documents : List String) (s : Setting),
      FirstGiven (s.of {}) (documents.reverse.map s.GivenBy) (s.of (applyAll {} documents))) ∧
    (∀ (c : Config) (front back : List String) (document : String), ¬ IsAccepted document →
      c.applyAll (front ++ document :: back) = c.applyAll (front ++ back)) ∧
    ∀ (user : Surroundings) (explicit : Option String) (d : Disk),
      ((∃ c, (load user explicit d).2 = .ok c) ↔
        (∀ file, user.userFile? = some file → d.isFile file = true → IsUsable d file) ∧
          (explicit.isSome = true ∨ d.isFile fileName = true →
            IsUsable d (explicit.getD fileName))) ∧
      ∀ c, (load user explicit d).2 = .ok c → ∀ (o : Cli.Options) (s : Setting),
        FirstGiven (s.of {})
          [fun v => s.flag? o = some v, s.GivenInFile d (explicit.getD fileName),
            s.GivenByUser d user]
          (s.of (c.apply o.layer)) := by
  refine ⟨fun c document => exists_applyDocument_iff, fun s document v w => Setting.GivenBy.unique,
    fun documents s => firstGiven_applyAll s documents, ?_, ?_⟩
  · intro c front back document h
    exact applyAll_of_not_isAccepted h c front back
  · intro user explicit d
    refine ⟨exists_load_iff, ?_⟩
    intro c hok o s
    rw [of_apply]
    exact (firstGiven_load s hok).getD fun v => by rw [flag?_eq_set?]

theorem settings_layered_sample :
    let user : Surroundings := ⟨.ok "/home", some "/me"⟩
    let d : Disk := ⟨[(["p"], .dir), (["p", "demin.toml"], .file "limit = -1".toUTF8 false),
      (["me"], .dir), (["me", "demin"], .dir),
      (["me", "demin", "demin.toml"], .file "limit = 3".toUTF8 false)], ["p"]⟩
    let o : Cli.Options := { dry := true }
    (applyAll {} ["limit = 3", "limit = -1", "limit"]).limit = none ∧
      applyAll {} ["limit = 3", "limit", "limit = -1"] = applyAll {} ["limit = 3", "limit = -1"] ∧
      ∃ c, (load user none d).2 = .ok c ∧ (c.apply o.layer).limit = none ∧
        (c.apply o.layer).dry = true := by
  intro user d o
  obtain ⟨-, hone, hlayers, hrefused, hload⟩ := settings_layered
  obtain ⟨husable, hflags⟩ := hload user none d
  have hthree : Setting.limit.GivenBy "limit = 3" (some 3) :=
    .single rfl rfl (.limited (by decide))
  have hall : Setting.limit.GivenBy "limit = -1" none :=
    .single rfl rfl (.unlimited (by decide) (by decide))
  have hbroken : ¬ IsAccepted "limit" := by
    rintro ⟨table, hdenotes, -⟩
    cases hdenotes
  refine ⟨?_, hrefused {} ["limit = 3"] ["limit = -1"] "limit" hbroken, ?_⟩
  · refine (hlayers ["limit = 3", "limit = -1", "limit"] .limit).unique ?_
      (.next (not_givenBy hbroken) (.given hall))
    intro source hsource
    obtain ⟨document, -, rfl⟩ := List.mem_map.1 hsource
    exact hone .limit document
  · have hproject : d.read fileName = .ok "limit = -1" := rfl
    have hname : user.userFile? = some "/me/demin/demin.toml" := by decide
    have huser : d.read "/me/demin/demin.toml" = .ok "limit = 3" := rfl
    have hfile : ∀ file, user.userFile? = some file → d.isFile file = true → IsUsable d file := by
      rintro file hname' -
      obtain rfl := Option.some.inj (hname.symm.trans hname')
      exact ⟨_, huser, hthree.imp fun _ h => h.1⟩
    obtain ⟨c, hc⟩ := husable.2 ⟨hfile,
      fun _ => ⟨_, hproject, hall.imp fun _ h => h.1⟩⟩
    refine ⟨c, hc, ?_, ?_⟩
    · cases hflags c hc o .limit with
      | given hflag => cases hflag
      | next _ hrest =>
        cases hrest with
        | given hgiven =>
          obtain ⟨document, hread, hgiven⟩ := hgiven
          cases hproject.symm.trans hread
          exact hone .limit _ _ _ hgiven hall
        | next hnone => exact absurd ⟨_, hproject, hall⟩ (hnone none)
    · cases hflags c hc o .dry with
      | given hflag => exact (Option.some.inj hflag).symm
      | next hnone => exact absurd rfl (hnone true)

end Unbundle.Config

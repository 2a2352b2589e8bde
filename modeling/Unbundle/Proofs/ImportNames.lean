-- SUMMARY: The names of imports start with a capital letter, and for paths in ASCII they are identifiers.
import Unbundle.Proofs.Allocation
import Unbundle.Proofs.CaseConversion
import Unbundle.Script.Token
import Unbundle.Text.Identifier

/-!
# Names of imports

A name for an import is made in steps: segments of a path are joined, split into words, put in
PascalCase and numbered. Any of them can undo what the one before has seen to: splitting into words
may uncover a digit, or leave nothing.

* Whatever the path and the case conversion, the name starts with a capital letter of ASCII, and is
  none of the words that the language or the loader reserves (`IsCapitalized`).
* If the path consists of ASCII, so does the name, and it is an identifier (`IsIdentifier`).
-/

namespace Unbundle

namespace Naming

-- ---------------------------------------------------------------------------
-- The base of a name
-- ---------------------------------------------------------------------------

theorem mem_of_lastSegments? {all found : List (List Char)} (h : lastSegments? all = some found) :
    ∀ s ∈ found, s ∈ all := by
  induction all with
  | nil => cases h
  | cons s rest ih =>
    unfold lastSegments? at h
    split at h
    · rename_i found' hrest
      obtain rfl := Option.some.inj h
      exact fun s hs => List.mem_cons_of_mem _ (ih hrest s hs)
    · split at h
      · obtain rfl := Option.some.inj h
        exact fun s hs => hs
      · cases h

/-- What is joined by hyphens consists of hyphens and of what the parts consist of. -/
theorem mem_intercalate {parts : List (List Char)} {c : Char} (h : c ∈ ['-'].intercalate parts) :
    c = '-' ∨ ∃ s ∈ parts, c ∈ s := by
  induction parts with
  | nil => cases h
  | cons s rest ih =>
    cases rest with
    | nil =>
      rw [List.intercalate_singleton] at h
      exact .inr ⟨s, List.mem_cons_self, h⟩
    | cons next rest =>
      rw [List.intercalate_cons_cons, List.append_assoc] at h
      rcases List.mem_append.1 h with hs | h
      · exact .inr ⟨s, List.mem_cons_self, hs⟩
      · rcases List.mem_cons.1 h with hyphen | h
        · exact .inl hyphen
        · rcases ih h with hyphen | ⟨s', hs', hc⟩
          · exact .inl hyphen
          · exact .inr ⟨s', List.mem_cons_of_mem _ hs', hc⟩

theorem isAscii_intercalate {basis : List Char} {parts : List (List Char)}
    (h : Text.isAscii basis = true) (hparts : ∀ s ∈ parts, s ∈ segments basis) :
    Text.isAscii (['-'].intercalate parts) = true := by
  refine Text.isAscii_iff.2 fun c hc => ?_
  rcases mem_intercalate hc with rfl | ⟨s, hs, hc⟩
  · decide
  · exact Text.isAscii_iff.1 h c (Text.mem_of_mem_splitOnP (hparts s hs) hc).1

theorem isAscii_base {basis : List Char} (h : Text.isAscii basis = true) :
    Text.isAscii (base basis) = true := by
  unfold base
  split
  · rename_i found hfound
    exact isAscii_intercalate h (mem_of_lastSegments? hfound)
  · have hsegments : Text.isAscii (['-'].intercalate (segments basis)) = true :=
      isAscii_intercalate h fun s hs => hs
    rw [Text.isAscii, List.all_cons, List.all_cons]
    exact hsegments

-- ---------------------------------------------------------------------------
-- Names
-- ---------------------------------------------------------------------------

/-- A capital letter of ASCII, followed by such characters. -/
def IsCapital (tail : Char → Prop) (text : List Char) : Prop :=
  ∃ c rest, text = c :: rest ∧ c.isUpper = true ∧ ∀ x ∈ rest, tail x

theorem isUpper_of_isHead {c : Char} {rest : List Char} (hc : Text.IsHead c)
    (hstart : startsIdentifier (c :: rest) = true) : c.isUpper = true := by
  have halpha : c.isAlpha = true := by
    simpa [startsIdentifier, hc.ne_underscore, hc.ne_dollar] using hstart
  exact ((Bool.or_eq_true c.isUpper c.isLower).mp halpha).resolve_right (by simp [hc.not_small])

variable {k : Text.CaseConversion}

theorem isCapital_candidateBy {tail : Char → Prop} {basis : String}
    (h : ∀ x ∈ k.convert (base basis.toList), tail x) :
    IsCapital tail (candidateBy k.convert basis).toList := by
  unfold candidateBy
  simp only [String.toList_ofList]
  split
  · rename_i hstart
    cases hname : k.convert (base basis.toList) with
    | nil =>
      rw [hname] at hstart
      cases hstart
    | cons c rest =>
      rw [hname] at hstart h
      have hhead : Text.IsHead c := Text.CaseConversion.isHead_convert (congrArg List.head? hname)
      exact ⟨c, rest, rfl, isUpper_of_isHead hhead hstart, (List.forall_mem_cons.1 h).2⟩
  · exact ⟨'M', _, rfl, by decide, h⟩

theorem isDigit_toString {n : Nat} {x : Char} (hx : x ∈ (toString n).toList) :
    x.isDigit = true := by
  rw [Nat.toString_eq_repr, Nat.toList_repr] at hx
  exact Nat.isDigit_of_mem_toDigits (show 0 < 10 by omega) (Nat.le_refl 10) hx

/-- A number behind a name keeps its capital. -/
theorem isCapital_chooseName {tail : Char → Prop} (hdigit : ∀ x : Char, x.isDigit = true → tail x)
    {name : String} (h : IsCapital tail name.toList) (taken : List String) :
    IsCapital tail (chooseName taken name).name.toList := by
  rcases List.mem_cons.1 (name_chooseName_mem taken name) with hname | hname
  · rw [hname]
    exact h
  · obtain ⟨i, -, hname⟩ := List.mem_map.1 hname
    obtain ⟨c, rest, heq, hc, hrest⟩ := h
    rw [← hname, String.toList_append, heq]
    refine ⟨c, _, rfl, hc, fun x hx => ?_⟩
    rcases List.mem_append.1 hx with hx | hx
    · exact hrest x hx
    · exact hdigit x (isDigit_toString hx)

-- ---------------------------------------------------------------------------
-- Identifiers
-- ---------------------------------------------------------------------------

/-- The words that the language reserves in code of any kind. -/
def languageWords : List String :=
  Script.reservedWords ++ Script.strictWords ++ ["static", "await", "yield"]

/-- Words that mean something to the loader, and the one that is written for `void 0`. -/
def ambientWords : List String :=
  ["require", "exports", "define", "undefined"]

/-- The name starts with a capital letter of ASCII, and no one else uses it as a word. -/
structure IsCapitalized (name : String) : Prop where
  capital : IsCapital (fun _ => True) name.toList
  ne_empty : name ≠ ""
  not_language : name ∉ languageWords
  not_ambient : name ∉ ambientWords

/-- The name is read as an identifier, whatever code it stands in. -/
structure IsIdentifier (name : String) : Prop where
  spelled : ∃ c rest, name.toList = c :: rest ∧ Text.isIdentStart c = true ∧
    ∀ x ∈ rest, Text.isIdentPart x = true
  not_reserved : ∀ ctx : Script.WordContext, ctx.isReserved name = false

/-- A capital letter, then letters and digits, all of ASCII. -/
def IsPlain (name : String) : Prop :=
  IsCapital (fun x => x.isAlphanum = true) name.toList

/-- All words start with a small letter, and so none is capitalized. -/
theorem words_startSmall :
    ∀ word ∈ languageWords ++ ambientWords, Text.startsSmall word.toList = true := by
  decide +kernel

theorem isLower_of_isUpper {c : Char} (hc : c.isUpper = true) : c.isLower = false := by
  change decide (65 ≤ c.val ∧ c.val ≤ 90) = true at hc
  have h : c.toNat ≤ 90 := UInt32.le_iff_toNat_le.1 (of_decide_eq_true hc).2
  rw [Text.isLower_eq_false_iff]
  omega

theorem isCapitalized_of_capital {tail : Char → Prop} {name : String}
    (h : IsCapital tail name.toList) : IsCapitalized name := by
  obtain ⟨c, rest, heq, hc, -⟩ := h
  have hword : name ∉ languageWords ++ ambientWords := by
    intro hmem
    have hsmall := words_startSmall name hmem
    rw [heq, Text.startsSmall, isLower_of_isUpper hc] at hsmall
    cases hsmall
  rw [List.mem_append, not_or] at hword
  refine ⟨⟨c, rest, heq, hc, fun _ _ => trivial⟩, ?_, hword.1, hword.2⟩
  rintro rfl
  cases heq

theorem IsCapitalized.not_reserved {name : String} (h : IsCapitalized name)
    (ctx : Script.WordContext) : ctx.isReserved name = false := by
  have hword := h.not_language
  simp only [languageWords, List.mem_append, not_or] at hword
  obtain ⟨⟨hreserved, hstrict⟩, hothers⟩ := hword
  have hawait : name ≠ "await" := by
    rintro rfl
    exact hothers (by simp)
  have hyield : name ≠ "yield" := by
    rintro rfl
    exact hothers (by simp)
  simp [Script.WordContext.isReserved, hreserved, hstrict, hawait, hyield]

theorem IsPlain.isIdentifier {name : String} (h : IsPlain name) : IsIdentifier name := by
  have hcapitalized := isCapitalized_of_capital h
  obtain ⟨c, rest, heq, hc, hrest⟩ := h
  have halpha : c.isAlpha = true := (Bool.or_eq_true c.isUpper c.isLower).mpr (.inl hc)
  refine ⟨⟨c, rest, heq, by simp [Text.isIdentStart, halpha], fun x hx => ?_⟩,
    hcapitalized.not_reserved⟩
  have halnum : x.isAlphanum = true := hrest x hx
  rw [Char.isAlphanum, Bool.or_eq_true] at halnum
  rcases halnum with halpha | hdigit
  · simp [Text.isIdentPart, Text.isIdentStart, halpha]
  · simp [Text.isIdentPart, hdigit]

variable (k)

/-- The name that is chosen for a path, where `k` puts its words together. -/
theorem isCapitalized_chooseName (taken : List String) (basis : String) :
    IsCapitalized (chooseName taken (candidateBy k.convert basis)).name := by
  have hcapital : IsCapital (fun _ => True) (candidateBy k.convert basis).toList :=
    isCapital_candidateBy fun _ _ => trivial
  exact isCapitalized_of_capital (isCapital_chooseName (fun _ _ => trivial) hcapital taken)

theorem isPlain_chooseName {basis : String} (h : Text.isAscii basis.toList = true)
    (taken : List String) : IsPlain (chooseName taken (candidateBy k.convert basis)).name := by
  have hcapital : IsCapital (fun x => x.isAlphanum = true) (candidateBy k.convert basis).toList :=
    isCapital_candidateBy (Text.CaseConversion.isAlphanum_convert (isAscii_base h))
  exact isCapital_chooseName (fun x hx => by simp [Char.isAlphanum, hx]) hcapital taken

variable {k}

theorem choose_eq_chooseName (taken : List String) (basis : String) :
    choose taken basis = chooseName taken (candidateBy Text.pascal.convert basis) := by
  rw [Text.convert_pascal]
  rfl

theorem isCapitalized_choose (taken : List String) (basis : String) :
    IsCapitalized (choose taken basis).name := by
  rw [choose_eq_chooseName]
  exact isCapitalized_chooseName Text.pascal taken basis

theorem isPlain_choose {basis : String} (h : Text.isAscii basis.toList = true)
    (taken : List String) : IsPlain (choose taken basis).name := by
  rw [choose_eq_chooseName]
  exact isPlain_chooseName Text.pascal h taken

end Naming

namespace Imports.Names

-- ---------------------------------------------------------------------------
-- Names of paths
-- ---------------------------------------------------------------------------

variable {binding : Amd.Binding} {logging : Logging}

/-- A name that was chosen for a path, marked as the name of a default or not. -/
def IsFor (path name : String) : Prop :=
  ∃ taken basis, (basis = path ∨ basis = path ++ defaultMark) ∧
    name = (Naming.choose taken basis).name

/-- Every local name was chosen for its path. -/
def Named (n : Names) : Prop :=
  ∀ isDefault path name, (path, name) ∈ n.locals.entries isDefault → IsFor path name

theorem Named.addNamespace {n : Names} (h : n.Named) (use : Use) :
    (n.addNamespace binding logging use).Named := by
  unfold Names.addNamespace
  split
  · exact h
  · rename_i path _
    split
    · exact h
    · rintro (_ | _) other name hmem
      · rcases List.mem_append.1 hmem with hmem | hmem
        · exact h false other name hmem
        · cases List.mem_singleton.1 hmem
          exact ⟨n.taken, path, .inl rfl, rfl⟩
      · exact h true other name hmem

theorem Named.addDefault {n : Names} (h : n.Named) (use : Use) :
    (n.addDefault binding logging use).Named := by
  unfold Names.addDefault
  split
  · exact h
  · rename_i path _
    split
    · exact h
    · rintro (_ | _) other name hmem
      · exact h false other name hmem
      · rcases List.mem_append.1 hmem with hmem | hmem
        · exact h true other name hmem
        · cases List.mem_singleton.1 hmem
          refine ⟨n.taken, _, ?_, rfl⟩
          split
          · exact .inr rfl
          · exact .inl rfl

theorem Named.foldl {step : Names → Use → Names}
    (hstep : ∀ {n : Names}, n.Named → ∀ use, (step n use).Named) {n : Names} (h : n.Named)
    (uses : List Use) : (uses.foldl step n).Named := by
  induction uses generalizing n with
  | nil => exact h
  | cons use rest ih => exact ih (hstep h use)

/-- The local names of imports are chosen for their paths. -/
theorem named_ofFindings (findings : Findings) : (ofFindings binding logging findings).Named := by
  have hstart : (⟨⟨[], []⟩, findings.taken, []⟩ : Names).Named := by
    rintro (_ | _) path name hmem <;> cases hmem
  exact (hstart.foldl .addNamespace _).foldl .addDefault _

end Imports.Names

namespace Engine

/-- Every name that is given to an import starts with a capital letter of ASCII, whatever the path
and the names in use are; it is not empty, and no word of the language or the loader. If the path
consists of ASCII, the name is a capital letter that letters and digits of ASCII follow, and so it is
an identifier. This goes for any case conversion with the properties that are asked of one, for the
allocator, and for the imports of all modules of a run. -/
theorem import_names_are_identifiers :
    (∀ (k : Text.CaseConversion) (taken : List String) (basis : String),
      let name := (Naming.chooseName taken (Naming.candidateBy k.convert basis)).name
      Naming.IsCapitalized name ∧
        (Text.isAscii basis.toList = true → Naming.IsPlain name ∧ Naming.IsIdentifier name)) ∧
    (∀ (logging : Logging) (n : Imports.Names) (basis : String),
      let name := (n.allocate logging basis).1
      Naming.IsCapitalized name ∧
        (Text.isAscii basis.toList = true → Naming.IsPlain name ∧ Naming.IsIdentifier name)) ∧
      ∀ {σ ε : Type} (sink : Sink σ ε) (settings : Settings) (start : σ) (script : Script),
        ∀ m ∈ handed sink settings start script, ∀ imports body, m.body = .code imports body →
          ∀ i ∈ imports, ∀ name ∈ i.localNames,
            Naming.IsCapitalized name ∧
              (Text.isAscii i.source.toList = true →
                Naming.IsPlain name ∧ Naming.IsIdentifier name) := by
  refine ⟨?conversion, ?allocator, ?runs⟩
  case conversion =>
    intro k taken basis
    refine ⟨Naming.isCapitalized_chooseName k taken basis, fun hascii => ?_⟩
    have hplain := Naming.isPlain_chooseName k hascii taken
    exact ⟨hplain, hplain.isIdentifier⟩
  case allocator =>
    intro logging n basis
    refine ⟨Naming.isCapitalized_choose n.taken basis, fun hascii => ?_⟩
    have hplain := Naming.isPlain_choose hascii n.taken
    exact ⟨hplain, hplain.isIdentifier⟩
  case runs =>
    intro σ ε sink settings start script m hm imports body hbody i hi name hname
    obtain ⟨binding, findings, rfl, -⟩ := isReported_of_mem_handed hm imports body hbody
    obtain ⟨isDefault, hname⟩ := Import.mem_localNames.1 hname
    obtain ⟨taken, basis, hbasis, rfl⟩ := Imports.Names.named_ofFindings findings isDefault _ _
      (Locals.mem_entries_of_import hi hname)
    refine ⟨Naming.isCapitalized_choose taken basis, fun hascii => ?_⟩
    have hplain : Naming.IsPlain (Naming.choose taken basis).name := by
      refine Naming.isPlain_choose ?_ taken
      rcases hbasis with rfl | rfl
      · exact hascii
      · rw [String.toList_append, Text.isAscii, List.all_append, Bool.and_eq_true]
        exact ⟨hascii, by decide +kernel⟩
    exact ⟨hplain, hplain.isIdentifier⟩

/-- The first path has no segment that can start an identifier, and a digit is what is left of the
second one without its separators. The imports of the sample are for `lib/x`. -/
theorem import_names_are_identifiers_samples :
    (∀ path ∈ ["3d", "!/_0"], Text.isAscii path.toList = true ∧
      Naming.IsIdentifier
        (Naming.chooseName ["M0"] (Naming.candidateBy Text.pascal.convert path)).name ∧
      Naming.IsIdentifier ((⟨⟨[], []⟩, ["M0"], []⟩ : Imports.Names).allocate .verbose path).1) ∧
      ∀ i ∈ sample.locals.imports, Text.isAscii i.source.toList = true ∧
        ∀ name ∈ i.localNames, Naming.IsIdentifier name := by
  obtain ⟨hconversions, hnames, hruns⟩ := import_names_are_identifiers
  have hpaths : ∀ path ∈ ["3d", "!/_0"], Text.isAscii path.toList = true := by
    decide +kernel
  have hsources : ∀ i ∈ sample.locals.imports, Text.isAscii i.source.toList = true := by
    decide +kernel
  constructor
  · intro path hpath
    have hascii := hpaths path hpath
    exact ⟨hascii, ((hconversions _ _ path).2 hascii).2, ((hnames _ _ path).2 hascii).2⟩
  · refine fun i hi => ⟨hsources i hi, fun name hname => ?_⟩
    exact ((hruns keepAll ⟨none, .none⟩ [] sample.script sample.module
      (List.mem_of_getElem? (handed_of_definitions rfl)) _ _ rfl i hi name hname).2
        (hsources i hi)).2

example : Naming.candidate "3d" = "M3d" ∧ Naming.candidate "!/_0" = "M0" := by
  decide +kernel

end Engine
end Unbundle

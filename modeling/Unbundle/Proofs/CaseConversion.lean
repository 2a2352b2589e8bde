-- SUMMARY: What the names of imports ask of a case conversion, and that PascalCase has it.
import Unbundle.Proofs.Naming

/-!
# Case conversions

A case conversion splits a text into words and changes the case of their letters. The names of
imports rest on a few of its properties only (`CaseConversion`), and not on where words end or on
the letters beyond ASCII. PascalCase is one such conversion (`pascal`).
-/

namespace Unbundle.Text

-- ---------------------------------------------------------------------------
-- Characters
-- ---------------------------------------------------------------------------

/-- All characters belong to ASCII. -/
def isAscii (text : List Char) : Bool :=
  text.all fun c => c.toNat < 128

theorem isAscii_iff {text : List Char} : isAscii text = true ↔ ∀ c ∈ text, c.toNat < 128 := by
  simp [isAscii]

/-- What holds of the characters of ASCII one by one holds of all of them. -/
theorem forall_ascii {p : Char → Prop} (h : ∀ n < 128, p (Char.ofNat n)) {c : Char}
    (hc : c.toNat < 128) : p c := by
  have hn := h c.toNat hc
  rwa [Char.ofNat_toNat] at hn

/-- A character that is neither a small letter of ASCII nor `_` or `$`. -/
structure IsHead (c : Char) : Prop where
  not_small : c.isLower = false
  ne_underscore : c ≠ '_'
  ne_dollar : c ≠ '$'

/-- The small letters and `_` lie between the capitals and `{`. -/
theorem isHead_of_toNat {c : Char} (h : c.toNat ≤ 90 ∨ 122 < c.toNat) (hdollar : c.toNat ≠ 36) :
    IsHead c := by
  refine ⟨(isLower_eq_false_iff c).2 (by omega), ?_, ?_⟩
  · rintro rfl
    revert h
    decide
  · rintro rfl
    exact hdollar rfl

/-- The word consists of letters and digits of ASCII. -/
def IsAsciiWord (word : List Char) : Prop :=
  ∀ c ∈ word, c.toNat < 128 ∧ c.isAlphanum = true

-- ---------------------------------------------------------------------------
-- Conversions
-- ---------------------------------------------------------------------------

/-- Splits a text into words, and puts the first character of each in upper case and the others in
lower case. Separators are dropped; the upper-case form of a letter or digit is never empty, and
never a small letter of ASCII or a character that is no letter or digit, `_` or `$`. -/
structure CaseConversion where
  isWordChar : Char → Bool
  words : List Char → List (List Char)
  upper : Char → List Char
  lower : List Char → List Char
  mem_words : ∀ {text word c}, word ∈ words text → c ∈ word → c ∈ text ∧ isWordChar c = true
  isAlphanum_of_isWordChar : ∀ {c}, isWordChar c = true → c.toNat < 128 → c.isAlphanum = true
  upper_ne_nil : ∀ c, upper c ≠ []
  isHead_upper : ∀ {c x}, isWordChar c = true → (upper c).head? = some x → IsHead x
  isAlphanum_upper : ∀ {c}, c.toNat < 128 → c.isAlphanum = true →
    ∀ x ∈ upper c, x.isAlphanum = true
  isAlphanum_lower : ∀ {word}, IsAsciiWord word → ∀ x ∈ lower word, x.isAlphanum = true

namespace CaseConversion

variable (k : CaseConversion)

def capitalize : List Char → List Char
  | [] => []
  | c :: rest => k.upper c ++ k.lower rest

def convert (text : List Char) : List Char :=
  (k.words text).flatMap k.capitalize

variable {k}

/-- A converted text starts like the upper-case form of one of its letters or digits. -/
theorem head?_convert {text : List Char} {x : Char} (hx : (k.convert text).head? = some x) :
    ∃ c, k.isWordChar c = true ∧ (k.upper c).head? = some x := by
  have hall : ∀ w ∈ k.words text, ∀ c ∈ w, k.isWordChar c = true :=
    fun w hw c hc => (k.mem_words hw hc).2
  unfold convert at hx
  generalize k.words text = ws at hx hall
  induction ws with
  | nil => cases hx
  | cons w rest ih =>
    rw [List.forall_mem_cons] at hall
    cases w with
    | nil => exact ih hx hall.2
    | cons c w =>
      obtain ⟨y, ys, hupper⟩ := List.exists_cons_of_ne_nil (k.upper_ne_nil c)
      refine ⟨c, hall.1 c List.mem_cons_self, ?_⟩
      rw [List.flatMap_cons, capitalize, hupper] at hx
      rw [hupper]
      exact hx

theorem isHead_convert {text : List Char} {x : Char} (hx : (k.convert text).head? = some x) :
    IsHead x := by
  obtain ⟨c, hc, hupper⟩ := head?_convert hx
  exact k.isHead_upper hc hupper

theorem isAsciiWord_of_mem_words {text w : List Char} (h : isAscii text = true)
    (hw : w ∈ k.words text) : IsAsciiWord w := by
  intro c hc
  obtain ⟨hmem, hword⟩ := k.mem_words hw hc
  have hascii : c.toNat < 128 := isAscii_iff.1 h c hmem
  exact ⟨hascii, k.isAlphanum_of_isWordChar hword hascii⟩

theorem isAlphanum_capitalize {word : List Char} (h : IsAsciiWord word) :
    ∀ x ∈ k.capitalize word, x.isAlphanum = true := by
  cases word with
  | nil =>
    intro x hx
    cases hx
  | cons c rest =>
    obtain ⟨⟨hascii, hc⟩, hrest⟩ := List.forall_mem_cons.1 h
    intro x hx
    rcases List.mem_append.1 hx with hx | hx
    · exact k.isAlphanum_upper hascii hc x hx
    · exact k.isAlphanum_lower hrest x hx

theorem isAlphanum_convert {text : List Char} (h : isAscii text = true) :
    ∀ x ∈ k.convert text, x.isAlphanum = true := by
  intro x hx
  obtain ⟨w, hw, hx⟩ := List.mem_flatMap.1 hx
  exact isAlphanum_capitalize (isAsciiWord_of_mem_words h hw) x hx

end CaseConversion

-- ---------------------------------------------------------------------------
-- Words
-- ---------------------------------------------------------------------------

/-- The pieces of a text contain its characters, but no separator. -/
theorem mem_of_mem_splitOnP {isSeparator : Char → Bool} {text piece : List Char} {c : Char}
    (hpiece : piece ∈ text.splitOnP isSeparator) (hc : c ∈ piece) :
    c ∈ text ∧ isSeparator c = false := by
  induction text generalizing piece with
  | nil =>
    obtain rfl := List.mem_singleton.1 hpiece
    cases hc
  | cons d rest ih =>
    rw [List.splitOnP_cons_eq_if_modifyHead] at hpiece
    split at hpiece
    · rcases List.mem_cons.1 hpiece with rfl | hpiece
      · cases hc
      · obtain ⟨hmem, hsep⟩ := ih hpiece hc
        exact ⟨List.mem_cons_of_mem _ hmem, hsep⟩
    · rename_i hd
      obtain ⟨first, others, hsplit⟩ :=
        List.exists_cons_of_ne_nil (List.splitOnP_ne_nil isSeparator rest)
      rw [hsplit] at hpiece ih
      rcases List.mem_cons.1 hpiece with rfl | hpiece
      · rcases List.mem_cons.1 hc with rfl | hc
        · exact ⟨List.mem_cons_self, by simpa using hd⟩
        · obtain ⟨hmem, hsep⟩ := ih List.mem_cons_self hc
          exact ⟨List.mem_cons_of_mem _ hmem, hsep⟩
      · obtain ⟨hmem, hsep⟩ := ih (List.mem_cons_of_mem _ hpiece) hc
        exact ⟨List.mem_cons_of_mem _ hmem, hsep⟩

theorem mem_of_mem_caseWords {mode : WordCase} {word text w : List Char} {c : Char}
    (hw : w ∈ caseWords mode word text) (hc : c ∈ w) : c ∈ word ∨ c ∈ text := by
  induction text generalizing mode word with
  | nil =>
    unfold caseWords at hw
    split at hw
    · cases hw
    · obtain rfl := List.mem_singleton.1 hw
      exact .inl (List.mem_reverse.1 hc)
  | cons d rest ih =>
    cases rest with
    | nil =>
      obtain rfl := List.mem_singleton.1 hw
      simpa [or_comm] using hc
    | cons next rest =>
      unfold caseWords at hw
      split at hw
      · rcases List.mem_cons.1 hw with rfl | hw
        · rcases List.mem_cons.1 (List.mem_reverse.1 hc) with rfl | hc
          · exact .inr List.mem_cons_self
          · exact .inl hc
        · exact .inr (List.mem_cons_of_mem _ ((ih hw).resolve_left List.not_mem_nil))
      · split at hw
        · rcases List.mem_cons.1 hw with rfl | hw
          · exact .inl (List.mem_reverse.1 hc)
          · rcases ih hw with hd | hrest
            · exact .inr (List.mem_singleton.1 hd ▸ List.mem_cons_self)
            · exact .inr (List.mem_cons_of_mem _ hrest)
        · rcases ih hw with hd | hrest
          · rcases List.mem_cons.1 hd with rfl | hd
            · exact .inr List.mem_cons_self
            · exact .inl hd
          · exact .inr (List.mem_cons_of_mem _ hrest)

/-- The words of a text consist of its letters and digits. -/
theorem mem_of_mem_words {text w : List Char} {c : Char} (hw : w ∈ words text) (hc : c ∈ w) :
    c ∈ text ∧ isAlphanumeric c = true := by
  obtain ⟨piece, hpiece, hw⟩ := List.mem_flatMap.1 hw
  obtain ⟨hmem, hsep⟩ := mem_of_mem_splitOnP hpiece
    ((mem_of_mem_caseWords hw hc).resolve_left List.not_mem_nil)
  exact ⟨hmem, by simpa using hsep⟩

theorem isAlphanum_of_isAlphanumeric {c : Char} (hc : isAlphanumeric c = true)
    (hascii : c.toNat < 128) : c.isAlphanum = true := by
  rwa [isAlphanumeric, if_pos hascii] at hc

-- ---------------------------------------------------------------------------
-- Upper case
-- ---------------------------------------------------------------------------

theorem isHead_ofNat {n : Nat} (h : 122 < n ∨ 65 ≤ n ∧ n ≤ 90) : IsHead (Char.ofNat n) := by
  rcases toNat_ofNat_cases n with hn | hn <;> exact isHead_of_toNat (by omega) (by omega)

theorem isHead_toUpper {c : Char} (hascii : c.toNat < 128) (hc : c.isAlphanum = true) :
    IsHead c.toUpper := by
  have h : c.isAlphanum = true →
      (c.toUpper.toNat ≤ 90 ∨ 122 < c.toUpper.toNat) ∧ c.toUpper.toNat ≠ 36 :=
    forall_ascii (p := fun c => c.isAlphanum = true →
      (c.toUpper.toNat ≤ 90 ∨ 122 < c.toUpper.toNat) ∧ c.toUpper.toNat ≠ 36)
      (by decide +kernel) hascii
  exact isHead_of_toNat (h hc).1 (h hc).2

theorem upperExpansions_head :
    ∀ entry ∈ upperExpansions, ∀ n ∈ entry.2.head?, 122 < n ∨ 65 ≤ n ∧ n ≤ 90 := by
  decide +kernel

/-- What the upper-case form of a letter or digit starts with. -/
theorem isHead_upcase {c x : Char} (hc : isAlphanumeric c = true)
    (hx : (upcase c).head? = some x) : IsHead x := by
  unfold upcase at hx
  split at hx
  · rename_i hascii
    obtain rfl := Option.some.inj hx
    exact isHead_toUpper hascii (isAlphanum_of_isAlphanumeric hc hascii)
  · rename_i hascii
    unfold mapCase at hx
    split at hx
    · rename_i code form hfind
      rw [List.head?_map, Option.map_eq_some_iff] at hx
      obtain ⟨n, hn, rfl⟩ := hx
      exact isHead_ofNat (upperExpansions_head (code, form) (List.mem_of_find?_eq_some hfind) n hn)
    · split at hx
      · rename_i lo hi step shift hfind
        obtain rfl := Option.some.inj hx
        have hrun := upperShifts_apart _ (List.mem_of_find?_eq_some hfind)
        have hc := List.find?_some hfind
        simp only [Bool.and_eq_true, decide_eq_true_eq] at hc hrun
        exact isHead_ofNat (by omega)
      · obtain rfl := Option.some.inj hx
        exact isHead_of_toNat (by omega) (by omega)

theorem isAlphanum_toUpper {c : Char} (hascii : c.toNat < 128) (hc : c.isAlphanum = true) :
    c.toUpper.isAlphanum = true :=
  forall_ascii (p := fun c => c.isAlphanum = true → c.toUpper.isAlphanum = true)
    (by decide +kernel) hascii hc

theorem isAlphanum_upcase {c : Char} (hascii : c.toNat < 128) (hc : c.isAlphanum = true) :
    ∀ x ∈ upcase c, x.isAlphanum = true := by
  intro x hx
  rw [upcase, if_pos hascii] at hx
  obtain rfl := List.mem_singleton.1 hx
  exact isAlphanum_toUpper hascii hc

-- ---------------------------------------------------------------------------
-- Lower case
-- ---------------------------------------------------------------------------

theorem isAlphanum_toLower {c : Char} (hascii : c.toNat < 128) (hc : c.isAlphanum = true) :
    c.toLower.isAlphanum = true :=
  forall_ascii (p := fun c => c.isAlphanum = true → c.toLower.isAlphanum = true)
    (by decide +kernel) hascii hc

theorem isAlphanum_lowerRest {word : List Char} (h : IsAsciiWord word) :
    ∀ x ∈ lowerRest word, x.isAlphanum = true := by
  induction word using lowerRest.induct with
  | case1 => simp [lowerRest]
  | case2 =>
    -- A sigma is not in ASCII.
    have hsigma := (h 'Σ' List.mem_cons_self).1
    revert hsigma
    decide
  | case3 c rest hsigma ih =>
    obtain ⟨⟨hascii, hc⟩, hrest⟩ := List.forall_mem_cons.1 h
    intro x hx
    rw [lowerRest.eq_3 c rest hsigma, downcase, if_pos hascii] at hx
    rcases List.mem_cons.1 hx with rfl | hx
    · exact isAlphanum_toLower hascii hc
    · exact ih hrest x hx

/-- The conversion to PascalCase. -/
def pascal : CaseConversion where
  isWordChar := isAlphanumeric
  words := words
  upper := upcase
  lower := lowerRest
  mem_words := mem_of_mem_words
  isAlphanum_of_isWordChar := isAlphanum_of_isAlphanumeric
  upper_ne_nil c := (upcase_apart c).2
  isHead_upper := isHead_upcase
  isAlphanum_upper := isAlphanum_upcase
  isAlphanum_lower := isAlphanum_lowerRest

theorem convert_pascal : pascal.convert = pascalCase := by
  have hcapitalize : pascal.capitalize = capitalize := by
    funext word
    cases word <;> rfl
  funext text
  exact congrArg (fun f => (words text).flatMap f) hcapitalize

end Unbundle.Text

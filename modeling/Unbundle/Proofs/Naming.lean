-- SUMMARY: The names chosen for imports are new if possible and never start with a small letter.
import Unbundle.Naming

/-!
# Chosen names

A name in PascalCase starts with the capital of a letter, with a digit, or with something that is no
letter of ASCII. So a name that is chosen for an import is never one of the words that the walk
itself writes into a body.
-/

namespace Unbundle

namespace Text

/-- The text starts with a small letter of ASCII. -/
def startsSmall : List Char → Bool
  | [] => false
  | c :: _ => c.isLower

theorem startsSmall_append {text rest : List Char} (h : startsSmall text = false)
    (hrest : text = [] → startsSmall rest = false) : startsSmall (text ++ rest) = false := by
  cases text with
  | nil => exact hrest rfl
  | cons c text => exact h

-- ---------------------------------------------------------------------------
-- Capitals
-- ---------------------------------------------------------------------------

theorem isLower_eq_false_iff (c : Char) : c.isLower = false ↔ c.toNat < 97 ∨ 122 < c.toNat := by
  change (decide (97 ≤ c.val) && decide (c.val ≤ 122)) = false ↔ _
  rw [Bool.and_eq_false_iff, decide_eq_false_iff_not, decide_eq_false_iff_not, UInt32.not_le,
    UInt32.not_le]
  rfl

/-- A number that is no code point stands for the character zero. -/
theorem toNat_ofNat_cases (n : Nat) : (Char.ofNat n).toNat = n ∨ (Char.ofNat n).toNat = 0 := by
  by_cases hn : n.isValidChar
  · exact .inl (congrArg Char.toNat (dif_pos hn))
  · exact .inr (congrArg Char.toNat (dif_neg hn))

theorem isLower_ofNat {n : Nat} (h : n < 97 ∨ 122 < n) : (Char.ofNat n).isLower = false := by
  rw [isLower_eq_false_iff]
  rcases toNat_ofNat_cases n with hn | hn <;> omega

theorem isLower_toUpper (c : Char) : c.toUpper.isLower = false := by
  rw [isLower_eq_false_iff]
  unfold Char.toUpper
  split
  · rename_i h
    -- A small letter moves down by 32; the distance is added in 32 bits.
    have hlo : 97 ≤ c.val.toNat := h.1
    have hhi : c.val.toNat ≤ 122 := h.2
    have hsum : (c.val + ('A'.val - 'a'.val)).toNat = (c.val.toNat + 4294967264) % 4294967296 :=
      UInt32.toNat_add ..
    rw [Char.toNat, hsum]
    omega
  · rename_i h
    have hnot : ¬ (97 ≤ c.toNat ∧ c.toNat ≤ 122) := h
    omega

/-- A run of letters is shifted within the capitals of ASCII, or beyond its letters. -/
theorem upperShifts_apart :
    ∀ run ∈ upperShifts,
      122 < run.1 + run.2.2.2 ∨ 65 ≤ run.1 + run.2.2.2 ∧ run.2.1 + run.2.2.2 ≤ 90 := by
  decide +kernel

/-- No expansion starts with a small letter of ASCII. -/
theorem upperExpansions_apart :
    ∀ entry ∈ upperExpansions,
      startsSmall (entry.2.map Char.ofNat) = false ∧ entry.2.map Char.ofNat ≠ [] := by
  decide +kernel

/-- The upper-case form of a character is not empty and starts with no small letter of ASCII. -/
theorem upcase_apart (c : Char) : startsSmall (upcase c) = false ∧ upcase c ≠ [] := by
  unfold upcase
  split
  · exact ⟨isLower_toUpper c, by simp⟩
  · rename_i hascii
    unfold mapCase
    split
    · rename_i code form hfind
      exact upperExpansions_apart (code, form) (List.mem_of_find?_eq_some hfind)
    · split
      · rename_i lo hi step shift hfind
        have hrun := upperShifts_apart _ (List.mem_of_find?_eq_some hfind)
        have hc := List.find?_some hfind
        simp only [Bool.and_eq_true, decide_eq_true_eq] at hc hrun
        exact ⟨isLower_ofNat (by omega), by simp⟩
      · exact ⟨(isLower_eq_false_iff c).2 (by omega), by simp⟩

theorem startsSmall_capitalize (word : List Char) : startsSmall (capitalize word) = false := by
  cases word with
  | nil => rfl
  | cons c rest =>
    obtain ⟨hsmall, hne⟩ := upcase_apart c
    exact startsSmall_append hsmall fun h => absurd h hne

theorem startsSmall_pascalCase (text : List Char) : startsSmall (pascalCase text) = false := by
  unfold pascalCase
  induction words text with
  | nil => rfl
  | cons word rest ih =>
    rw [List.flatMap_cons]
    exact startsSmall_append (startsSmall_capitalize word) fun _ => ih

end Text

namespace Naming

-- ---------------------------------------------------------------------------
-- Choices
-- ---------------------------------------------------------------------------

/-- A choice that did not fall back on a taken name is new. -/
theorem name_choose_not_mem {taken : List String} {basis : String}
    (h : ¬ (choose taken basis).isFree = false) : (choose taken basis).name ∉ taken := by
  simp only [choose, chooseName] at h ⊢
  cases hfind : (candidate basis :: alternatives (candidate basis)).find? (!taken.contains ·) with
  | some free => simpa using List.find?_some hfind
  | none =>
    rw [hfind] at h
    exact absurd rfl h

/-- The name for a path has a first character, and this is no small letter of ASCII. -/
theorem toList_candidate (basis : String) :
    Text.startsSmall (candidate basis).toList = false ∧ (candidate basis).toList ≠ [] := by
  unfold candidate candidateBy
  simp only [String.toList_ofList]
  split
  · rename_i hstart
    refine ⟨Text.startsSmall_pascalCase _, ?_⟩
    intro h
    rw [h] at hstart
    cases hstart
  · exact ⟨rfl, by simp⟩

/-- The name that is chosen is one of those to try. -/
theorem name_chooseName_mem (taken : List String) (name : String) :
    (chooseName taken name).name ∈ name :: alternatives name := by
  unfold chooseName
  split
  · rename_i free hfind
    exact List.mem_of_find?_eq_some hfind
  · exact List.mem_cons_self

theorem toList_choose (taken : List String) (basis : String) :
    Text.startsSmall (choose taken basis).name.toList = false := by
  obtain ⟨hsmall, hne⟩ := toList_candidate basis
  unfold choose
  rcases List.mem_cons.1 (name_chooseName_mem taken (candidate basis)) with h | h
  · rw [h]
    exact hsmall
  · obtain ⟨i, -, h⟩ := List.mem_map.1 h
    rw [← h, String.toList_append]
    exact Text.startsSmall_append hsmall fun hnil => absurd hnil hne

end Naming
end Unbundle

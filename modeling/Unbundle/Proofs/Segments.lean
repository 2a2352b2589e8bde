-- SUMMARY: A name is made from the fewest last segments of a path that can start an identifier.
import Mathlib.Order.Bounds.Defs
import Unbundle.Naming

/-!
# Segments for a name

`base` looks for the last segment that starts like an identifier. The same text is found by a search
that goes back from the last segment, takes in one segment after the other and tests what it has
joined so far (`search?`). A joined text starts like its first segment, also if that is empty
(`startsIdentifier_intercalate`), so no empty segment ends the search or hides one behind it.
-/

namespace Unbundle.Naming

/-- The segment at a place starts like an identifier. -/
def startsAt (parts : List (List Char)) (i : Nat) : Bool :=
  parts[i]?.any startsIdentifier

/-- Takes in the segments before `start`, one at a time, until the joined text starts like an
identifier or there are no more. Gives `none` if a segment is wanted that is not there. -/
def extendBack (parts : List (List Char)) : (start : Nat) → (joined : List Char) →
    Option (List Char)
  | 0, joined => some joined
  | start + 1, joined =>
    if startsIdentifier joined then some joined
    else if start ≤ parts.length then extendBack parts start (['-'].intercalate (parts.drop start))
    else none

/-- The text that a name is made from, searched for from the last segment on. -/
def search? (basis : List Char) : Option (List Char) :=
  let parts := segments basis
  match parts.length with
  | 0 => none
  | start + 1 => do
    let last ← parts[start]?
    let joined ← extendBack parts start last
    return if startsIdentifier joined then joined else 'M' :: '-' :: joined

variable {parts : List (List Char)}

-- ---------------------------------------------------------------------------
-- Splitting and joining
-- ---------------------------------------------------------------------------

theorem segments_ne_nil (basis : List Char) : segments basis ≠ [] :=
  List.splitOnP_ne_nil isDelimiter basis

/-- Joined segments start like the first of them: after an empty one comes a hyphen. -/
theorem startsIdentifier_intercalate (s : List Char) (rest : List (List Char)) :
    startsIdentifier (['-'].intercalate (s :: rest)) = startsIdentifier s := by
  cases rest with
  | nil => simp
  | cons next rest =>
    rw [List.intercalate_cons_cons]
    cases s <;> rfl

theorem startsIdentifier_intercalate_drop (parts : List (List Char)) (i : Nat) :
    startsIdentifier (['-'].intercalate (parts.drop i)) = startsAt parts i := by
  rw [startsAt, ← List.head?_drop]
  cases parts.drop i with
  | nil => rfl
  | cons s rest => exact startsIdentifier_intercalate s rest

theorem lt_length_of_startsAt {i : Nat} (h : startsAt parts i = true) : i < parts.length := by
  apply Nat.lt_of_not_le
  intro hle
  rw [startsAt, List.getElem?_eq_none hle] at h
  cases h

-- ---------------------------------------------------------------------------
-- The last segment that can start an identifier
-- ---------------------------------------------------------------------------

theorem lastSegments?_cases (parts : List (List Char)) :
    (∃ i, IsGreatest {j | startsAt parts j = true} i ∧ lastSegments? parts = some (parts.drop i)) ∨
      (∀ j, startsAt parts j = false) ∧ lastSegments? parts = none := by
  induction parts with
  | nil => exact .inr ⟨fun _ => rfl, rfl⟩
  | cons s rest ih =>
    rw [lastSegments?]
    rcases ih with ⟨i, hi, hfound⟩ | ⟨hnone, hfound⟩
    · refine .inl ⟨i + 1, ⟨hi.1, ?_⟩, ?_⟩
      · intro j hj
        cases j with
        | zero => exact Nat.zero_le _
        | succ j => exact Nat.succ_le_succ (hi.2 hj)
      · rw [hfound]
        rfl
    · rw [hfound]
      cases hs : startsIdentifier s with
      | true =>
        refine .inl ⟨0, ⟨hs, ?_⟩, rfl⟩
        intro j hj
        cases j with
        | zero => exact Nat.le_refl 0
        | succ j => exact absurd hj (ne_true_of_eq_false (hnone j))
      | false =>
        refine .inr ⟨?_, rfl⟩
        intro j
        cases j with
        | zero => exact hs
        | succ j => exact hnone j

theorem lastSegments?_of_isGreatest {i : Nat}
    (hi : IsGreatest {j | startsAt parts j = true} i) : lastSegments? parts = some (parts.drop i) := by
  rcases lastSegments?_cases parts with ⟨k, hk, hfound⟩ | ⟨hnone, -⟩
  · rw [hfound, Nat.le_antisymm (hi.2 hk.1) (hk.2 hi.1)]
  · exact absurd hi.1 (ne_true_of_eq_false (hnone i))

theorem lastSegments?_of_forall (h : ∀ j, startsAt parts j = false) : lastSegments? parts = none := by
  rcases lastSegments?_cases parts with ⟨i, hi, -⟩ | ⟨-, hfound⟩
  · exact absurd hi.1 (ne_true_of_eq_false (h i))
  · exact hfound

-- ---------------------------------------------------------------------------
-- The search
-- ---------------------------------------------------------------------------

/-- The search stops at the last segment that starts like an identifier, if it starts behind none of
them. -/
theorem extendBack_of_isGreatest {start i : Nat} (hstart : start < parts.length)
    (hi : IsGreatest {j | startsAt parts j = true} i) (hle : i ≤ start) :
    extendBack parts start (['-'].intercalate (parts.drop start)) =
      some (['-'].intercalate (parts.drop i)) := by
  induction start with
  | zero =>
    obtain rfl := Nat.le_zero.1 hle
    rfl
  | succ start ih =>
    rw [extendBack, startsIdentifier_intercalate_drop]
    split
    · rename_i hstarts
      rw [Nat.le_antisymm hle (hi.2 hstarts)]
    · rename_i hstarts
      have hne : i ≠ start + 1 := fun h => hstarts (h ▸ hi.1)
      rw [if_pos (by omega)]
      exact ih (by omega) (by omega)

theorem extendBack_of_forall {start : Nat} (hstart : start < parts.length)
    (h : ∀ j, startsAt parts j = false) :
    extendBack parts start (['-'].intercalate (parts.drop start)) = some (['-'].intercalate parts) := by
  induction start with
  | zero => rfl
  | succ start ih =>
    rw [extendBack, startsIdentifier_intercalate_drop, h, if_neg Bool.false_ne_true,
      if_pos (by omega)]
    exact ih (by omega)

theorem base_of_isGreatest {basis : List Char} {i : Nat}
    (hi : IsGreatest {j | startsAt (segments basis) j = true} i) :
    base basis = ['-'].intercalate ((segments basis).drop i) := by
  rw [base, lastSegments?_of_isGreatest hi]

theorem base_of_forall {basis : List Char} (h : ∀ j, startsAt (segments basis) j = false) :
    base basis = 'M' :: '-' :: ['-'].intercalate (segments basis) := by
  rw [base, lastSegments?_of_forall h]

/-- The search gets through, and finds what `base` gives. -/
theorem search?_eq_base (basis : List Char) : search? basis = some (base basis) := by
  have hpos : 0 < (segments basis).length := List.length_pos_iff.2 (segments_ne_nil basis)
  obtain ⟨start, hlength⟩ := Nat.exists_eq_add_one.2 hpos
  have hstart : start < (segments basis).length := by omega
  have hlast : ['-'].intercalate ((segments basis).drop start) = (segments basis)[start] := by
    rw [List.drop_eq_getElem_cons hstart, List.drop_eq_nil_of_le (by omega),
      List.intercalate_singleton]
  unfold search?
  simp only [hlength, List.getElem?_eq_getElem hstart, Option.bind_eq_bind, Option.bind_some,
    ← hlast]
  rcases lastSegments?_cases (segments basis) with ⟨i, hi, -⟩ | ⟨hnone, -⟩
  · have hle : i ≤ start := by
      have hlt := lt_length_of_startsAt hi.1
      omega
    have hstarts : startsIdentifier (['-'].intercalate ((segments basis).drop i)) = true := by
      rw [startsIdentifier_intercalate_drop]
      exact hi.1
    rw [extendBack_of_isGreatest hstart hi hle, base_of_isGreatest hi, Option.bind_some,
      if_pos hstarts]
    rfl
  · have hstarts : startsIdentifier (['-'].intercalate (segments basis)) = false := by
      rw [← List.drop_zero (l := segments basis), startsIdentifier_intercalate_drop]
      exact hnone 0
    rw [extendBack_of_forall hstart hnone, base_of_forall hnone, Option.bind_some,
      if_neg (ne_true_of_eq_false hstarts)]
    rfl

/-- Of the segments of a path, the text for a name takes the last one that starts like an identifier,
with all that follow it; no fewer can start one. If there is none, it takes them all, behind a mark.
The search from the last segment on finds this text without leaving the segments. -/
theorem base_takes_fewest_segments (basis : List Char) :
    let parts := basis.splitOnP isDelimiter
    parts ≠ [] ∧ search? basis = some (base basis) ∧
      (∀ i, IsGreatest {j | startsAt parts j = true} i →
        base basis = ['-'].intercalate (parts.drop i) ∧
          ∀ j, startsIdentifier (['-'].intercalate (parts.drop j)) = true → j ≤ i) ∧
      ((∀ j, startsAt parts j = false) →
        base basis = 'M' :: '-' :: ['-'].intercalate parts ∧
          ∀ j, startsIdentifier (['-'].intercalate (parts.drop j)) = false) ∧
      startsIdentifier (base basis) = true := by
  simp only [startsIdentifier_intercalate_drop]
  refine ⟨segments_ne_nil basis, search?_eq_base basis, ?_, ?_, ?_⟩
  · intro i hi
    exact ⟨base_of_isGreatest hi, fun j hj => hi.2 hj⟩
  · intro h
    exact ⟨base_of_forall h, h⟩
  · rcases lastSegments?_cases (segments basis) with ⟨i, hi, -⟩ | ⟨hnone, -⟩
    · rw [base_of_isGreatest hi, startsIdentifier_intercalate_drop]
      exact hi.1
    · rw [base_of_forall hnone]
      rfl

/-- The last segment starts with a digit and the one before is empty, so all three are taken. -/
theorem base_takes_fewest_segments_sample :
    let parts := ["lib".toList, [], "3d".toList]
    IsGreatest {j | startsAt parts j = true} 0 ∧ base "lib//3d".toList = "lib--3d".toList := by
  intro parts
  have hparts : "lib//3d".toList.splitOnP isDelimiter = parts := by decide
  have hgreatest : IsGreatest {j | startsAt parts j = true} 0 := by
    refine ⟨rfl, ?_⟩
    intro j hj
    match j with
    | 0 => exact Nat.le_refl 0
    | 1 => cases hj
    | 2 => cases hj
    | j + 3 => cases hj
  obtain ⟨-, -, hbase, -⟩ := base_takes_fewest_segments "lib//3d".toList
  rw [hparts] at hbase
  exact ⟨hgreatest, (hbase 0 hgreatest).1⟩

end Unbundle.Naming

-- SUMMARY: Which dependency a parameter is bound to, by the places of its name among the parameters.
import Unbundle.Proofs.Emission

/-!
# Bindings by position

The body of a factory sees the last of several parameters of one name. A parameter is bound to the
dependency at the last place of its name, provided that the list of dependencies reaches that far.
Where it does not, an earlier parameter of the name takes over: `bound_by_position` says when, and
`doubledSample_binds_hidden_parameter` that the module then imports what no code can refer to.
-/

namespace Unbundle.Amd

-- ---------------------------------------------------------------------------
-- Last places
-- ---------------------------------------------------------------------------

/-- A name stands at this place of a list, and at no later one. -/
structure IsLast (names : List String) (name : String) (i : Nat) : Prop where
  here : names[i]? = some name
  last : ∀ j, i < j → names[j]? ≠ some name

namespace IsLast

variable {names : List String} {n name : String} {i : Nat}

theorem mem (h : IsLast names name i) : name ∈ names :=
  List.mem_of_getElem? h.here

theorem lt_of_take {m : Nat} (h : IsLast (names.take m) name i) : i < m := by
  have := (List.getElem?_eq_some_iff.1 h.here).1
  rw [List.length_take] at this
  omega

/-- It stays the last one in the part of the list that reaches beyond it. -/
theorem take {m : Nat} (h : IsLast names name i) (hi : i < m) : IsLast (names.take m) name i where
  here := by rw [List.getElem?_take_of_lt hi]; exact h.here
  last j hj := by
    rw [List.getElem?_take]
    split
    · exact h.last j hj
    · simp

theorem cons_zero : IsLast (n :: names) name 0 ↔ n = name ∧ name ∉ names := by
  constructor
  · intro h
    refine ⟨Option.some.inj h.here, fun hmem => ?_⟩
    obtain ⟨j, hj⟩ := List.mem_iff_getElem?.1 hmem
    exact h.last (j + 1) (Nat.succ_pos j) hj
  · rintro ⟨rfl, hmem⟩
    refine ⟨rfl, fun j hj => ?_⟩
    obtain ⟨j, rfl⟩ := Nat.exists_eq_add_one.2 hj
    exact fun h => hmem (List.mem_of_getElem? h)

theorem cons_succ : IsLast (n :: names) name (i + 1) ↔ IsLast names name i := by
  constructor
  · intro h
    exact ⟨h.here, fun j hj => h.last (j + 1) (by omega)⟩
  · intro h
    refine ⟨h.here, fun j hj => ?_⟩
    obtain ⟨j, rfl⟩ := Nat.exists_eq_add_one.2 (show 0 < j by omega)
    exact h.last j (by omega)

/-- Each name of a list has a last place. -/
theorem exists_of_mem (h : name ∈ names) : ∃ i, IsLast names name i := by
  induction names with
  | nil => cases h
  | cons n names ih =>
    by_cases hmem : name ∈ names
    · obtain ⟨i, hi⟩ := ih hmem
      exact ⟨i + 1, cons_succ.2 hi⟩
    · have hn : n = name := by
        rcases List.mem_cons.1 h with heq | htail
        · exact heq.symm
        · exact absurd htail hmem
      exact ⟨0, cons_zero.2 ⟨hn, hmem⟩⟩

end IsLast

-- ---------------------------------------------------------------------------
-- Entries by position
-- ---------------------------------------------------------------------------

/-- The last entry of a key is at its last place among the keys that have a value. -/
theorem lookup_reverse_zip {β : Type} {names : List String} {values : List β} {name : String}
    {value : β} :
    (names.zip values).reverse.lookup name = some value ↔
      ∃ i, IsLast (names.take values.length) name i ∧ values[i]? = some value := by
  induction names generalizing values value with
  | nil => simpa using fun i (h : IsLast [] name i) => nomatch h.mem
  | cons n names ih =>
    cases values with
    | nil => simp
    | cons v values =>
      rw [List.zip_cons_cons, List.reverse_cons, List.lookup_append, List.length_cons,
        List.take_succ_cons, Option.or_eq_some_iff]
      constructor
      · rintro (hlater | ⟨hnone, hfirst⟩)
        · obtain ⟨i, hi, hvalue⟩ := ih.1 hlater
          exact ⟨i + 1, IsLast.cons_succ.2 hi, hvalue⟩
        · obtain ⟨rfl, rfl⟩ : n = name ∧ v = value := by
            rw [List.lookup_cons] at hfirst
            split at hfirst <;> simp_all
          refine ⟨0, IsLast.cons_zero.2 ⟨rfl, fun hmem => ?_⟩, rfl⟩
          obtain ⟨i, hi⟩ := IsLast.exists_of_mem hmem
          have hlt : i < values.length := hi.lt_of_take
          rw [ih.2 ⟨i, hi, List.getElem?_eq_getElem hlt⟩] at hnone
          cases hnone
      · rintro ⟨i, hi, hvalue⟩
        cases i with
        | zero =>
          obtain ⟨rfl, hmem⟩ := IsLast.cons_zero.1 hi
          refine .inr ⟨Option.eq_none_iff_forall_ne_some.2 fun w hw => ?_, ?_⟩
          · obtain ⟨i, hi, -⟩ := ih.1 hw
            exact hmem hi.mem
          · simpa [List.lookup_cons] using hvalue
        | succ i => exact .inl (ih.2 ⟨i, IsLast.cons_succ.1 hi, hvalue⟩)

namespace Binding

variable {d : Definition} {name : String}

/-- A name is bound to the dependency at its last place among the parameters that have one. -/
theorem get?_ofDefinition {target : Target} :
    (ofDefinition d).get? name = some target ↔
      ∃ i path, IsLast (d.params.take d.dependencies.length) name i ∧
        d.dependencies[i]? = some path ∧ .ofPath path = target := by
  simp only [ofDefinition, get?, lookup_reverse_zip, List.length_map, List.getElem?_map,
    Option.map_eq_some_iff]
  constructor
  · rintro ⟨i, hi, path, hpath, htarget⟩
    exact ⟨i, path, hi, hpath, htarget⟩
  · rintro ⟨i, path, hi, hpath, htarget⟩
    exact ⟨i, hi, path, hpath, htarget⟩

/-- A name is bound if a parameter of that name has a dependency. -/
theorem isSome_get?_ofDefinition :
    ((ofDefinition d).get? name).isSome ↔ name ∈ d.params.take d.dependencies.length := by
  rw [Option.isSome_iff_exists]
  constructor
  · rintro ⟨target, htarget⟩
    obtain ⟨i, -, hi, -, -⟩ := get?_ofDefinition.1 htarget
    exact hi.mem
  · intro hmem
    obtain ⟨i, hi⟩ := IsLast.exists_of_mem hmem
    have hlt : i < d.dependencies.length := hi.lt_of_take
    exact ⟨_, get?_ofDefinition.2 ⟨i, _, hi, List.getElem?_eq_getElem hlt, rfl⟩⟩

end Binding
end Unbundle.Amd

namespace Unbundle.Engine

open Script

/-- A name that is no parameter is not bound. A parameter is bound to the dependency at the last place
of its name, if there is one. If the dependencies end before that place, the parameter is unbound
just if no earlier place of its name has a dependency; otherwise the last of those that have one
counts. -/
theorem bound_by_position (d : Amd.Definition) (name : String) :
    (name ∉ d.params → (Amd.Binding.ofDefinition d).get? name = none) ∧
      ∀ i, Amd.IsLast d.params name i →
        (∀ path, d.dependencies[i]? = some path →
          (Amd.Binding.ofDefinition d).get? name = some (.ofPath path)) ∧
        (d.dependencies.length ≤ i →
          ((Amd.Binding.ofDefinition d).get? name = none ↔
            name ∉ d.params.take d.dependencies.length) ∧
          ∀ j path, Amd.IsLast (d.params.take d.dependencies.length) name j →
            d.dependencies[j]? = some path →
              (Amd.Binding.ofDefinition d).get? name = some (.ofPath path)) := by
  have hnone : (Amd.Binding.ofDefinition d).get? name = none ↔
      name ∉ d.params.take d.dependencies.length := by
    rw [← Amd.Binding.isSome_get?_ofDefinition, Bool.not_eq_true, Option.isSome_eq_false_iff,
      Option.isNone_iff_eq_none]
  refine ⟨fun hmem => hnone.2 fun htake => hmem (List.mem_of_mem_take htake), fun i hi => ⟨?_, ?_⟩⟩
  · intro path hpath
    have hlt : i < d.dependencies.length := (List.getElem?_eq_some_iff.1 hpath).1
    exact Amd.Binding.get?_ofDefinition.2 ⟨i, path, hi.take hlt, hpath, rfl⟩
  · intro _
    exact ⟨hnone, fun j path hj hpath => Amd.Binding.get?_ofDefinition.2 ⟨j, path, hj, hpath, rfl⟩⟩

/-- `function (x, x) { x(); }` with one dependency -/
def doubledSample : Factory where
  name := "m"
  dependencies := ["a"]
  own := none
  span := ⟨20, 44⟩
  params := [.ident ⟨"x", ⟨30, 31⟩⟩, .ident ⟨"x", ⟨33, 34⟩⟩]
  body := [.expr (.call ⟨38, 41⟩ (.ident ⟨"x", ⟨38, 39⟩⟩) [])]

theorem doubledSample_last : Amd.IsLast doubledSample.definition.params "x" 1 where
  here := rfl
  last j hj := by
    rw [List.getElem?_eq_none (show doubledSample.definition.params.length ≤ j from hj)]
    simp

theorem bound_by_position_doubledSample :
    Amd.IsLast doubledSample.definition.params "x" 1 ∧
      doubledSample.definition.dependencies.length ≤ 1 ∧
      Amd.IsLast (doubledSample.definition.params.take 1) "x" 0 ∧
      doubledSample.binding.get? "x" = some (.module "a") := by
  have hfirst : Amd.IsLast (doubledSample.definition.params.take 1) "x" 0 :=
    Amd.IsLast.cons_zero.2 ⟨rfl, List.not_mem_nil⟩
  exact ⟨doubledSample_last, by decide, hfirst,
    (((bound_by_position doubledSample.definition "x").2 1 doubledSample_last).2 (by decide)).2 0 "a"
      hfirst rfl⟩

/-- Nothing is passed for the second `x`, and it hides the first: its uses refer to nothing. The name
is bound all the same, and the module calls what it imports for the hidden parameter. -/
theorem doubledSample_binds_hidden_parameter :
    Amd.IsLast doubledSample.definition.params "x" 1 ∧
      doubledSample.definition.dependencies.length ≤ 1 ∧
      doubledSample.binding.get? "x" ≠ none ∧
      (handed keepAll ⟨none, .none⟩ [] doubledSample.script)[0]? =
        some ⟨"m", .code [⟨"a", none, some "A"⟩]
          [.expr (.call ⟨38, 41⟩ (.ident ⟨"A", ⟨38, 39⟩⟩) [])]⟩ := by
  refine ⟨doubledSample_last, by decide, by decide, ?_⟩
  rw [handed_of_definitions (f := doubledSample) rfl]
  rfl

end Unbundle.Engine

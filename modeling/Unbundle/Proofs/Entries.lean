-- SUMMARY: What is entered for the second traversal: the local names of the uses, by span.
import Unbundle.Engine.Substitution
import Unbundle.Proofs.ImportList

/-!
# Entries

`Imports.synthesize` chooses names and enters them on the way, use by use. A name that has been
chosen stays, so the names are those of `Imports.ofFindings`, and what is entered can be said in
terms of these (`synthesize_eq`): the local name of each use, for its span (`mem_entries_foldl`).
-/

namespace Unbundle

namespace Substitutions

variable {s : Substitutions} {kind kind' : UseKind} {span : Span} {name : String}

theorem entries_insert_self :
    (s.insert kind span name).entries kind = (span, name) :: s.entries kind := by
  cases kind <;> rfl

theorem entries_insert_of_ne (h : kind ≠ kind') :
    (s.insert kind span name).entries kind' = s.entries kind' := by
  cases kind <;> cases kind' <;> first | rfl | exact absurd rfl h

/-- The number of distinct elements of a list, counted from its first one. -/
theorem length_eraseDups_cons {spans : List Span} (h : span ∉ spans) :
    (span :: spans).eraseDups.length = spans.eraseDups.length + 1 := by
  have hfilter : spans.filter (fun span' => !span' == span) = spans := by
    refine List.filter_eq_self.2 fun span' hmem => ?_
    rw [Bool.not_eq_true', beq_eq_false_iff_ne]
    rintro rfl
    exact h hmem
  rw [List.eraseDups_cons, hfilter, List.length_cons]

theorem length_eraseDups_of_nodup {spans : List Span} (h : spans.Nodup) :
    spans.eraseDups.length = spans.length := by
  induction spans with
  | nil => rfl
  | cons span rest ih =>
    rw [length_eraseDups_cons (List.nodup_cons.1 h).1, ih (List.nodup_cons.1 h).2, List.length_cons]

/-- An entry for a new span makes one more. -/
theorem size_insert (h : span ∉ (s.entries kind).map Prod.fst) :
    (s.insert kind span name).size = s.size + 1 := by
  have hself : (s.insert kind span name).count kind = s.count kind + 1 := by
    rw [count, entries_insert_self, List.map_cons, length_eraseDups_cons h, count]
  have hother : ∀ kind', kind ≠ kind' →
      (s.insert kind span name).count kind' = s.count kind' := by
    intro kind' hne
    rw [count, entries_insert_of_ne hne, count]
  cases kind <;> simp [size, hself, hother] <;> omega

theorem size_ofSpelledOut {spelledOut : List (Span × String)}
    (h : (spelledOut.map Prod.fst).Nodup) : (ofSpelledOut spelledOut).size = spelledOut.length := by
  have hcount : (ofSpelledOut spelledOut).count .shorthand = spelledOut.length := by
    rw [count, show (ofSpelledOut spelledOut).entries .shorthand = spelledOut.reverse from rfl,
      List.map_reverse, length_eraseDups_of_nodup (List.nodup_reverse.2 h), List.length_reverse,
      List.length_map]
  rw [size, hcount]
  simp [count, ofSpelledOut, entries]

/-- There are no entries if there are none to be counted. -/
theorem entries_of_size_eq_zero (h : s.size = 0) (kind : UseKind) : s.entries kind = [] := by
  have hcount : s.count kind = 0 := by
    cases kind <;> simp only [size] at h <;> omega
  rw [List.eq_nil_iff_forall_not_mem]
  intro entry hentry
  have hspan : entry.1 ∈ ((s.entries kind).map Prod.fst).eraseDups :=
    List.mem_eraseDups.2 (List.mem_map_of_mem hentry)
  rw [List.eq_nil_of_length_eq_zero hcount] at hspan
  cases hspan

/-- An entry is found if there is no other one for its span. -/
theorem lookup_of_mem {entries : List (Span × String)} (h : (span, name) ∈ entries)
    (hunique : ∀ name', (span, name') ∈ entries → name' = name) :
    entries.lookup span = some name := by
  induction entries with
  | nil => cases h
  | cons entry rest ih =>
    obtain ⟨span', name'⟩ := entry
    rw [List.lookup_cons]
    by_cases heq : span = span'
    · subst heq
      rw [beq_self_eq_true, hunique name' List.mem_cons_self]
    · rw [beq_false_of_ne heq]
      refine ih ((List.mem_cons.1 h).resolve_left fun h => heq (Prod.ext_iff.1 h).1) ?_
      exact fun name' hmem => hunique name' (List.mem_cons_of_mem _ hmem)

theorem lookup_of_not_mem {entries : List (Span × String)} (h : span ∉ entries.map Prod.fst) :
    entries.lookup span = none := by
  rw [List.lookup_eq_none_iff]
  intro entry hentry
  rw [bne_iff_ne]
  rintro rfl
  exact h (List.mem_map_of_mem hentry)

end Substitutions

namespace Imports

variable {binding : Amd.Binding} {logging : Logging}

-- ---------------------------------------------------------------------------
-- Names that stay
-- ---------------------------------------------------------------------------

namespace Names

theorem get?_addNamespace {n : Names} {kind : UseKind} {path name : String}
    (h : n.locals.get? kind path = some name) (use : Use) :
    (n.addNamespace binding logging use).locals.get? kind path = some name := by
  unfold addNamespace
  split
  · exact h
  · split
    · exact h
    · unfold Locals.get? at h ⊢
      split at h
      · rename_i hdefault
        rw [if_pos hdefault]
        exact h
      · rename_i hname
        rw [if_neg hname]
        simp [allocate, List.lookup_append, h]

theorem get?_addDefault {n : Names} {kind : UseKind} {path name : String}
    (h : n.locals.get? kind path = some name) (use : Use) :
    (n.addDefault binding logging use).locals.get? kind path = some name := by
  unfold addDefault
  split
  · exact h
  · split
    · exact h
    · unfold Locals.get? at h ⊢
      split at h
      · rename_i hdefault
        rw [if_pos hdefault]
        simp [allocate, List.lookup_append, h]
      · rename_i hname
        rw [if_neg hname]
        exact h

end Names

-- ---------------------------------------------------------------------------
-- Entering uses
-- ---------------------------------------------------------------------------

/-- The local name that a use is for. -/
def localName? (binding : Amd.Binding) (locals : Locals) (use : Use) : Option String :=
  (binding.path? use.param).bind (locals.get? use.kind)

/-- Enters the local name that a use is for. -/
def enter (binding : Amd.Binding) (locals : Locals) (s : Substitutions) (use : Use) :
    Substitutions :=
  match localName? binding locals use with
  | none => s
  | some name => s.insert use.kind use.span name

theorem substitute_eq (step : Names → Use → Names) (n : Names) (s : Substitutions) (use : Use) :
    substitute binding step (n, s) use =
      (step n use, enter binding (step n use).locals s use) := by
  simp only [substitute, enter, localName?]
  cases (binding.path? use.param).bind ((step n use).locals.get? use.kind) <;> rfl

/-- Steps keep the names that there are, and give one to the path of the use they see to. -/
structure Gives (binding : Amd.Binding) (step : Names → Use → Names) (uses : List Use) : Prop where
  keeps : ∀ (n : Names) (use : Use) (kind : UseKind) (path name : String),
    n.locals.get? kind path = some name → (step n use).locals.get? kind path = some name
  gives : ∀ use ∈ uses, ∀ (n : Names) (path : String), binding.path? use.param = some path →
    ((step n use).locals.get? use.kind path).isSome

namespace Gives

variable {step : Names → Use → Names} {uses : List Use}

theorem keeps_foldl (h : Gives binding step uses) (n : Names) {kind : UseKind} {path name : String}
    (hname : n.locals.get? kind path = some name) :
    (uses.foldl step n).locals.get? kind path = some name := by
  have hkeeps := h.keeps
  clear h
  induction uses generalizing n with
  | nil => exact hname
  | cons use rest ih => exact ih _ (hkeeps n use kind path name hname)

/-- What is entered on the way is what the names in the end say. -/
theorem foldl_substitute (h : Gives binding step uses) (n : Names) (s : Substitutions)
    {locals : Locals}
    (hlocals : ∀ kind path name, (uses.foldl step n).locals.get? kind path = some name →
      locals.get? kind path = some name) :
    uses.foldl (substitute binding step) (n, s) =
      (uses.foldl step n, uses.foldl (enter binding locals) s) := by
  induction uses generalizing n s with
  | nil => rfl
  | cons use rest ih =>
    have hrest : Gives binding step rest :=
      ⟨h.keeps, fun use huse => h.gives use (List.mem_cons_of_mem _ huse)⟩
    have hname : localName? binding (step n use).locals use = localName? binding locals use := by
      unfold localName?
      cases hpath : binding.path? use.param with
      | none => rfl
      | some path =>
        obtain ⟨name, hname⟩ :=
          Option.isSome_iff_exists.1 (h.gives use List.mem_cons_self n path hpath)
        rw [Option.bind_some, Option.bind_some, hname,
          hlocals _ _ _ (hrest.keeps_foldl (step n use) hname)]
    rw [List.foldl_cons, List.foldl_cons, List.foldl_cons, substitute_eq, ih hrest _ _ hlocals]
    simp only [enter, hname]

/-- So it is if another kind of step follows. -/
theorem foldl_foldl (h : Gives binding step uses) {step' : Names → Use → Names} {uses' : List Use}
    (h' : Gives binding step' uses') (n : Names) (s : Substitutions) :
    uses'.foldl (substitute binding step') (uses.foldl (substitute binding step) (n, s)) =
      (uses'.foldl step' (uses.foldl step n),
        (uses ++ uses').foldl
          (enter binding (uses'.foldl step' (uses.foldl step n)).locals) s) := by
  rw [h.foldl_substitute n s fun _ _ _ hname => h'.keeps_foldl (uses.foldl step n) hname,
    h'.foldl_substitute _ _ fun _ _ _ hname => hname, List.foldl_append]

end Gives

theorem gives_addNamespace {uses : List Use} (h : ∀ use ∈ uses, use.kind.isDefault = false) :
    Gives binding (Names.addNamespace binding logging) uses where
  keeps n use _ _ _ hname := Names.get?_addNamespace hname use
  gives use huse n path hpath := by
    rw [Locals.get?, h use huse]
    exact Names.isSome_lookup_addNamespace (.inr hpath)

theorem gives_addDefault {uses : List Use} (h : ∀ use ∈ uses, use.kind.isDefault = true) :
    Gives binding (Names.addDefault binding logging) uses where
  keeps n use _ _ _ hname := Names.get?_addDefault hname use
  gives use huse n path hpath := by
    rw [Locals.get?, h use huse]
    exact Names.isSome_lookup_addDefault (.inr hpath)

/-- The uses in the order in which they are seen to: those of `default` come last. -/
def inOrder (uses : List Use) : List Use :=
  uses.filter (!·.kind.isDefault) ++ uses.filter (·.kind.isDefault)

theorem mem_inOrder {uses : List Use} {use : Use} : use ∈ inOrder uses ↔ use ∈ uses := by
  simp only [inOrder, List.mem_append, List.mem_filter]
  cases use.kind.isDefault <;> simp

/-- The names are chosen as without entries, and the entries are the local names of all uses. -/
theorem synthesize_eq (findings : Findings) :
    synthesize binding logging findings =
      (ofFindings binding logging findings,
        (inOrder findings.uses.toList).foldl
          (enter binding (ofFindings binding logging findings).locals)
          (.ofSpelledOut findings.spelledOut)) := by
  have hnames : Gives binding (Names.addNamespace binding logging)
      (findings.uses.toList.filter (!·.kind.isDefault)) :=
    gives_addNamespace fun use huse => by simpa using (List.mem_filter.1 huse).2
  have hdefaults : Gives binding (Names.addDefault binding logging)
      (findings.uses.toList.filter (·.kind.isDefault)) :=
    gives_addDefault fun use huse => (List.mem_filter.1 huse).2
  unfold synthesize ofFindings inOrder
  simp only [List.partition_eq_filter_filter]
  exact hnames.foldl_foldl hdefaults _ _

-- ---------------------------------------------------------------------------
-- What is entered
-- ---------------------------------------------------------------------------

theorem mem_entries_enter {locals : Locals} {s : Substitutions} {use : Use} {kind : UseKind}
    {entry : Span × String} :
    entry ∈ (enter binding locals s use).entries kind ↔
      entry ∈ s.entries kind ∨ use.kind = kind ∧ use.span = entry.1 ∧
        localName? binding locals use = some entry.2 := by
  obtain ⟨span, name⟩ := entry
  unfold enter
  cases hname : localName? binding locals use with
  | none => simp
  | some name' =>
    by_cases hkind : use.kind = kind
    · subst hkind
      rw [Substitutions.entries_insert_self, List.mem_cons]
      grind
    · rw [Substitutions.entries_insert_of_ne hkind]
      simp [hkind]

theorem mem_entries_foldl {locals : Locals} {s : Substitutions} {uses : List Use} {kind : UseKind}
    {entry : Span × String} :
    entry ∈ (uses.foldl (enter binding locals) s).entries kind ↔
      entry ∈ s.entries kind ∨ ∃ use ∈ uses, use.kind = kind ∧ use.span = entry.1 ∧
        localName? binding locals use = some entry.2 := by
  induction uses generalizing s with
  | nil => simp
  | cons use rest ih =>
    rw [List.foldl_cons, ih, mem_entries_enter]
    simp only [List.mem_cons, exists_eq_or_imp, or_assoc]

-- ---------------------------------------------------------------------------
-- The number of entries
-- ---------------------------------------------------------------------------

/-- The uses are for new spans: there are no entries for these yet, and no two of one kind. -/
structure AreNew (s : Substitutions) (uses : List Use) : Prop where
  new : ∀ use ∈ uses, use.span ∉ (s.entries use.kind).map Prod.fst
  distinct : uses.Pairwise fun use use' => use.kind = use'.kind → use.span ≠ use'.span

theorem AreNew.enter {locals : Locals} {s : Substitutions} {use : Use} {rest : List Use}
    (h : AreNew s (use :: rest)) : AreNew (enter binding locals s use) rest where
  new use' huse' hmem := by
    obtain ⟨entry, hentry, hspan⟩ := List.mem_map.1 hmem
    rcases mem_entries_enter.1 hentry with hold | ⟨hkind, hsame, -⟩
    · exact h.new use' (List.mem_cons_of_mem _ huse') (hspan ▸ List.mem_map_of_mem hold)
    · exact List.rel_of_pairwise_cons h.distinct huse' hkind (hsame.trans hspan)
  distinct := h.distinct.of_cons

/-- Each use that has a local name is entered for a span of its own. -/
theorem AreNew.size_foldl {locals : Locals} {s : Substitutions} {uses : List Use}
    (h : AreNew s uses) :
    (uses.foldl (Imports.enter binding locals) s).size =
      s.size + (uses.filter fun use => (localName? binding locals use).isSome).length := by
  induction uses generalizing s with
  | nil => rfl
  | cons use rest ih =>
    rw [List.foldl_cons, ih h.enter, List.filter_cons]
    cases hname : localName? binding locals use with
    | none => simp [Imports.enter, hname]
    | some name =>
      have hsize : (s.insert use.kind use.span name).size = s.size + 1 :=
        Substitutions.size_insert (h.new use List.mem_cons_self)
      simp only [Imports.enter, hname, hsize, Option.isSome_some, if_true, List.length_cons]
      omega

/-- With spans of their own, the entries are as many as the places that change. -/
theorem size_synthesize {findings : Findings}
    (hspelled : (findings.spelledOut.map Prod.fst).Nodup)
    (hnew : AreNew (.ofSpelledOut findings.spelledOut) (inOrder findings.uses.toList)) :
    (synthesize binding logging findings).2.size = replacements binding findings := by
  have hnames : ∀ use ∈ inOrder findings.uses.toList,
      (localName? binding (ofFindings binding logging findings).locals use).isSome =
        (binding.path? use.param).isSome := by
    intro use huse
    unfold localName?
    cases hpath : binding.path? use.param with
    | none => rfl
    | some path => exact get?_ofFindings (by simpa using mem_inOrder.1 huse) hpath
  have hperm : (inOrder findings.uses.toList).Perm findings.uses.toList := by
    have h := List.filter_append_perm (fun use : Use => !use.kind.isDefault) findings.uses.toList
    simpa [inOrder] using h
  rw [synthesize_eq, hnew.size_foldl, List.filter_congr hnames, (hperm.filter _).length_eq,
    Substitutions.size_ofSpelledOut hspelled, replacements, Nat.add_comm]

end Imports
end Unbundle

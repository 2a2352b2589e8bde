-- SUMMARY: Two passes over a factory make the module that its direct rewrite is.
import Mathlib.Data.List.Pairwise
import Unbundle.Proofs.Entries
import Unbundle.Proofs.SecondPass

/-!
# Two passes

The second traversal goes by spans, so it relies on spans to tell identifiers apart, and accesses to
properties (`Factory.DistinctSpans`). Then the entries for a span are those of one place
(`mem_entries_substitutions`), and the second traversal makes of each place what should be there
(`settles`). So the module that two passes make is the one that is drafted (`moduleInPasses_eq`).
-/

namespace Unbundle.Engine

open Script

variable {σ ε : Type}

namespace Step

/-- The place of a reference to `undefined` that is written here. -/
def undefined? : Step → Option Place
  | .undefined place => some place
  | .enter _ | .leave _ | .ident _ => none

end Step

/-- The access that an identifier at this site is the object of. -/
def Site.member? : Site → Option Span
  | .defaultObject member => some member
  | .reference | .shorthand | .declaration => none

theorem Site.eq_shorthand {site : Site} (h : site.kind = .shorthand) : site = .shorthand := by
  cases site <;> first | rfl | cases h

/-- Only the uses of `default` take up more than their identifier. -/
theorem Site.span_eq {site : Site} (h : site.kind ≠ .defaultMember) (id : Ident) :
    site.span id = id.span := by
  cases site <;> first | rfl | exact absurd rfl h

theorem Site.member?_eq {site : Site} (h : site.kind = .defaultMember) (id : Ident) :
    site.member? = some (site.span id) := by
  cases site <;> first | rfl | cases h

namespace Factory

variable {f : Factory} {p q : Place}

-- ---------------------------------------------------------------------------
-- Spans
-- ---------------------------------------------------------------------------

/-- The spans of what becomes an identifier, though the walk meets none there. -/
def otherIdents (f : Factory) : List Span :=
  ((stepsStmts f.around f.body).filterMap Step.undefined?).map (·.id.span) ++
    (asidesStmts f.body).filterMap Aside.identSpan?

/-- The spans of accesses to other properties than `default`. -/
def otherMembers (f : Factory) : List Span :=
  (asidesStmts f.body).filterMap Aside.memberSpan?

/-- Places with spans of their own. -/
structure Apart (p q : Place) : Prop where
  ident : p.id.span ≠ q.id.span
  member : ∀ span, p.site.member? = some span → q.site.member? ≠ some span

theorem Apart.symm (h : Apart p q) : Apart q p :=
  ⟨h.ident.symm, fun span hq hp => h.member span hp hq⟩

/-- No two identifiers of the factory's statements have the same span, and no two accesses to
properties. -/
structure DistinctSpans (f : Factory) : Prop where
  idents : (f.places.map (·.id.span) ++ f.otherIdents).Nodup
  members : (f.places.filterMap (·.site.member?) ++ f.otherMembers).Nodup

namespace DistinctSpans

theorem pairwise (h : f.DistinctSpans) : f.places.Pairwise Apart := by
  have hidents := List.pairwise_map.1 h.idents.of_append_left
  have hmembers := List.pairwise_filterMap.1 h.members.of_append_left
  refine (hidents.and hmembers).imp fun hpq => ⟨hpq.1, fun span hp hq => ?_⟩
  exact hpq.2 span hp span hq rfl

theorem apart (h : f.DistinctSpans) (hp : p ∈ f.places) (hq : q ∈ f.places) (hne : p ≠ q) :
    Apart p q := by
  have hsymm : Std.Symm Apart := ⟨fun _ _ hpq => hpq.symm⟩
  exact h.pairwise.forall hp hq hne

/-- A place is known by the span of its identifier. -/
theorem eq_of_ident (h : f.DistinctSpans) (hp : p ∈ f.places) (hq : q ∈ f.places)
    (hspan : p.id.span = q.id.span) : p = q := by
  by_contra hne
  exact (h.apart hp hq hne).ident hspan

/-- It is known by the span of the access, too. -/
theorem eq_of_member (h : f.DistinctSpans) (hp : p ∈ f.places) (hq : q ∈ f.places) {span : Span}
    (hpspan : p.site.member? = some span) (hqspan : q.site.member? = some span) : p = q := by
  by_contra hne
  exact (h.apart hp hq hne).member span hpspan hqspan

/-- No identifier stands where another one is written. -/
theorem not_mem_otherIdents (h : f.DistinctSpans) (hp : p ∈ f.places) :
    p.id.span ∉ f.otherIdents :=
  fun hmem => List.disjoint_of_nodup_append h.idents (List.mem_map_of_mem hp) hmem

theorem not_mem_otherMembers (h : f.DistinctSpans) (hp : p ∈ f.places) {span : Span}
    (hspan : p.site.member? = some span) : span ∉ f.otherMembers :=
  fun hmem => List.disjoint_of_nodup_append h.members (List.mem_filterMap.2 ⟨p, hp, hspan⟩) hmem

end DistinctSpans

-- ---------------------------------------------------------------------------
-- What is entered
-- ---------------------------------------------------------------------------

/-- The property that is to be spelled out at a place, and the word for its value. -/
def spelledOut? (f : Factory) (p : Place) : Option (Span × String) :=
  match f.meaning p, p.site with
  | .bound .require, .shorthand => some (p.id.span, "require")
  | .bound .exports, .shorthand => some (p.id.span, "exports")
  | _, _ => none

theorem spelledOut?_of_declaration (h : p.isUse = false) : f.spelledOut? p = none := by
  unfold spelledOut?
  split
  · rename_i hsite
    simp [Place.isUse, hsite] at h
  · rename_i hsite
    simp [Place.isUse, hsite] at h
  · rfl

theorem spelledOut_note (steps : List Step) (findings : Findings) :
    (steps.foldl f.note findings).spelledOut =
      findings.spelledOut ++ (steps.filterMap Step.place?).filterMap f.spelledOut? := by
  induction steps generalizing findings with
  | nil => simp
  | cons step rest ih =>
    rw [List.foldl_cons, ih]
    cases step with
    | ident p =>
      have hplace : Step.place? (.ident p) = some p := rfl
      have hrecord : (record findings (f.meaning p) p.id p.site).spelledOut =
          findings.spelledOut ++ (f.spelledOut? p).toList := by
        unfold spelledOut?
        cases f.meaning p with
        | foreign => simp [record, Findings.addName]
        | unbound isParam =>
          cases isParam <;> cases p.site <;> simp [record, Findings.addName, Findings.addUse]
        | bound target =>
          cases target <;> cases p.site <;> simp [record, Findings.addUse, Findings.spellOut]
      rw [note, hrecord, List.filterMap_cons_some hplace, List.filterMap_cons]
      cases f.spelledOut? p <;> simp
    | _ => rfl

theorem spelledOut_findings (hplain : ∀ p ∈ f.params, (Amd.paramName? p).isSome) :
    f.findings.spelledOut = f.places.filterMap f.spelledOut? := by
  obtain ⟨declared, hplaces, hdeclared⟩ := exists_declared hplain
  have hnone : declared.filterMap f.spelledOut? = [] :=
    List.filterMap_eq_nil_iff.2 fun p hp => spelledOut?_of_declaration (hdeclared p hp)
  rw [findings, spelledOut_note, hplaces, List.filterMap_append, hnone]
  rfl

/-- This is entered for a place: the word or name that its identifier gives way to later on. -/
structure Enters (f : Factory) (locals : Locals) (p : Place) (kind : UseKind) (span : Span)
    (name : String) : Prop where
  isUse : p.isUse = true
  kind_eq : p.site.kind = kind
  span_eq : p.site.span p.id = span
  replacing : f.replacing locals p = .imported name ∨
    kind = .shorthand ∧ f.replacing locals p = .reserved name

variable {locals : Locals} {kind : UseKind} {span : Span} {name : String}

theorem replacing_eq_imported :
    f.replacing locals p = .imported name ↔
      ∃ path, f.path? p = some path ∧ locals.get? p.site.kind path = some name := by
  have hpath : ∀ path, f.path? p = some path ↔
      p.isUse = true ∧ f.meaning p = .bound (.module path) := by
    intro path
    rw [path?_eq_some, meaning_eq_bound]
  simp only [hpath]
  unfold replacing filled Filling.at
  cases hm : f.meaning p with
  | foreign | unbound isParam => simp [replacement]
  | bound target =>
    cases target with
    | require | exports => cases p.site <;> simp [replacement]
    | module path =>
      cases hsite : p.site with
      | declaration => simp [replacement, Place.isUse, hsite]
      | reference | defaultObject member | shorthand =>
        simp only [replacement, Place.isUse, hsite]
        cases hget : locals.get? _ path <;> simp [hget]

theorem replacing_eq_reserved :
    f.replacing locals p = .reserved name ↔
      p.isUse = true ∧ (f.meaning p = .bound .require ∧ "require" = name ∨
        f.meaning p = .bound .exports ∧ "exports" = name) := by
  unfold replacing filled Filling.at
  cases hm : f.meaning p with
  | foreign | unbound isParam => simp [replacement]
  | bound target =>
    cases target with
    | require | exports =>
      cases hsite : p.site <;> simp [replacement, Place.isUse, hsite]
    | module path =>
      cases hsite : p.site with
      | declaration => simp [replacement]
      | reference | defaultObject member | shorthand =>
        simp only [replacement]
        cases locals.get? _ path <;> simp

theorem spelledOut?_eq_some :
    f.spelledOut? p = some (span, name) ↔
      f.Enters locals p .shorthand span name ∧ f.replacing locals p = .reserved name := by
  constructor
  · intro h
    unfold spelledOut? at h
    split at h
    · rename_i hm hsite
      cases h
      have huse : p.isUse = true := by simp [Place.isUse, hsite]
      have hr : f.replacing locals p = _ := replacing_eq_reserved.2 ⟨huse, .inl ⟨hm, rfl⟩⟩
      exact ⟨⟨huse, by rw [hsite]; rfl, by rw [hsite]; rfl, .inr ⟨rfl, hr⟩⟩, hr⟩
    · rename_i hm hsite
      cases h
      have huse : p.isUse = true := by simp [Place.isUse, hsite]
      have hr : f.replacing locals p = _ := replacing_eq_reserved.2 ⟨huse, .inr ⟨hm, rfl⟩⟩
      exact ⟨⟨huse, by rw [hsite]; rfl, by rw [hsite]; rfl, .inr ⟨rfl, hr⟩⟩, hr⟩
    · cases h
  · rintro ⟨⟨-, hkind, rfl, -⟩, hr⟩
    rcases (replacing_eq_reserved.1 hr).2 with ⟨hm, rfl⟩ | ⟨hm, rfl⟩
    · simp [spelledOut?, hm, Site.eq_shorthand hkind, Site.span]
    · simp [spelledOut?, hm, Site.eq_shorthand hkind, Site.span]

theorem exists_use?_iff :
    (∃ use, f.use? p = some use ∧ use.kind = kind ∧ use.span = span ∧
        Imports.localName? f.binding locals use = some name) ↔
      f.Enters locals p kind span name ∧ f.replacing locals p = .imported name := by
  constructor
  · rintro ⟨use, huse, rfl, rfl, hlocal⟩
    obtain ⟨path, hpath, hget⟩ := Option.bind_eq_some_iff.1 hlocal
    have hused : f.path? p = some path := by
      rw [← usedPath?_use?, huse]
      exact hpath
    obtain rfl : use = ⟨p.id.name, p.site.kind, p.site.span p.id⟩ := by
      unfold use? at huse
      split at huse
      · exact (Option.some.inj huse).symm
      · cases huse
    have hr := replacing_eq_imported.2 ⟨path, hused, hget⟩
    exact ⟨⟨(path?_eq_some.1 hused).1, rfl, rfl, .inl hr⟩, hr⟩
  · rintro ⟨⟨huse, rfl, rfl, -⟩, hr⟩
    obtain ⟨path, hused, hget⟩ := replacing_eq_imported.1 hr
    rw [← usedPath?_use?] at hused
    obtain ⟨use, hrecorded, hpath⟩ := Option.bind_eq_some_iff.1 hused
    have heq := hrecorded
    unfold use? at heq
    split at heq
    · cases heq
      exact ⟨_, hrecorded, rfl, rfl, Option.bind_eq_some_iff.2 ⟨path, hpath, hget⟩⟩
    · cases heq

theorem mem_entries_ofSpelledOut (hplain : ∀ p ∈ f.params, (Amd.paramName? p).isSome)
    {entry : Span × String} :
    entry ∈ (Substitutions.ofSpelledOut f.findings.spelledOut).entries kind ↔
      kind = .shorthand ∧ ∃ p ∈ f.places, f.spelledOut? p = some entry := by
  rw [spelledOut_findings hplain]
  cases kind <;> simp [Substitutions.ofSpelledOut, Substitutions.entries]

/-- What is entered for the second traversal. -/
def substitutions (f : Factory) (logging : Logging) : Substitutions :=
  (Imports.synthesize f.binding logging f.findings).2

/-- It is entered for places of the factory. -/
theorem mem_entries_substitutions (hplain : ∀ p ∈ f.params, (Amd.paramName? p).isSome)
    (logging : Logging) :
    (span, name) ∈ (f.substitutions logging).entries kind ↔
      ∃ p ∈ f.places, f.Enters f.locals p kind span name := by
  have hlocals : (Imports.ofFindings f.binding logging f.findings).locals = f.locals :=
    Imports.locals_ofFindings f.findings
  rw [substitutions, Imports.synthesize_eq, Imports.mem_entries_foldl,
    mem_entries_ofSpelledOut hplain, hlocals]
  simp only [Imports.mem_inOrder, uses_findings hplain, List.mem_filterMap]
  constructor
  · rintro (⟨rfl, p, hp, h⟩ | ⟨use, ⟨p, hp, huse⟩, hkind, hspan, hname⟩)
    · exact ⟨p, hp, (spelledOut?_eq_some.1 h).1⟩
    · exact ⟨p, hp, (exists_use?_iff.1 ⟨use, huse, hkind, hspan, hname⟩).1⟩
  · rintro ⟨p, hp, h⟩
    rcases h.replacing with hr | ⟨rfl, hr⟩
    · obtain ⟨use, huse, hkind, hspan, hname⟩ := exists_use?_iff.2 ⟨h, hr⟩
      exact .inr ⟨use, ⟨p, hp, huse⟩, hkind, hspan, hname⟩
    · exact .inl ⟨rfl, p, hp, spelledOut?_eq_some.2 ⟨h, hr⟩⟩

/-- At one place, one thing is entered. -/
theorem Enters.unique {kind' : UseKind} {span' : Span} {name' : String}
    (h : f.Enters locals p kind span name) (h' : f.Enters locals p kind' span' name') :
    name' = name := by
  have hr := h.replacing
  have hr' := h'.replacing
  rcases hr with hr | ⟨-, hr⟩ <;> rcases hr' with hr' | ⟨-, hr'⟩ <;> simp_all

theorem Enters.ident_span (h : f.Enters locals p kind span name) (hkind : kind ≠ .defaultMember) :
    p.id.span = span := by
  obtain ⟨-, rfl, rfl, -⟩ := h
  exact (Site.span_eq hkind p.id).symm

theorem Enters.member_span (h : f.Enters locals p .defaultMember span name) :
    p.site.member? = some span := by
  obtain ⟨-, hkind, rfl, -⟩ := h
  exact Site.member?_eq hkind p.id

-- ---------------------------------------------------------------------------
-- What is found
-- ---------------------------------------------------------------------------

section

variable (hplain : ∀ p ∈ f.params, (Amd.paramName? p).isSome) (hspans : f.DistinctSpans)
  (logging : Logging)

include hplain

theorem lookup_eq_none (h : ∀ q ∈ f.places, ∀ name, ¬ f.Enters f.locals q kind span name) :
    ((f.substitutions logging).entries kind).lookup span = none := by
  refine Substitutions.lookup_of_not_mem fun hmem => ?_
  obtain ⟨⟨_, name⟩, hentry, rfl⟩ := List.mem_map.1 hmem
  obtain ⟨q, hq, henters⟩ := (mem_entries_substitutions hplain logging).1 hentry
  exact h q hq name henters

/-- If nothing is entered for a span but for one place, this is what is found. -/
theorem lookup_eq_some_iff (hp : p ∈ f.places)
    (hunique : ∀ q ∈ f.places, ∀ name', f.Enters f.locals q kind span name' → p = q) :
    ((f.substitutions logging).entries kind).lookup span = some name ↔
      f.Enters f.locals p kind span name := by
  have hsome : ∀ name, f.Enters f.locals p kind span name →
      ((f.substitutions logging).entries kind).lookup span = some name := by
    intro name h
    refine Substitutions.lookup_of_mem
      ((mem_entries_substitutions hplain logging).2 ⟨p, hp, h⟩) fun name' hentry => ?_
    obtain ⟨q, hq, henters⟩ := (mem_entries_substitutions hplain logging).1 hentry
    obtain rfl := hunique q hq name' henters
    exact h.unique henters
  refine ⟨fun hlookup => ?_, hsome name⟩
  by_contra hno
  rw [lookup_eq_none hplain logging] at hlookup
  · cases hlookup
  · intro q hq name' h
    obtain rfl := hunique q hq name' h
    rw [hsome name' h] at hlookup
    exact hno (Option.some.inj hlookup ▸ h)

include hspans

/-- At the span of an identifier, what is entered for its place is found. -/
theorem lookup_idents (hp : p ∈ f.places) :
    (f.substitutions logging).idents.lookup p.id.span = some name ↔
      f.Enters f.locals p .name p.id.span name := by
  have hunique : ∀ q ∈ f.places, ∀ name', f.Enters f.locals q .name p.id.span name' → p = q :=
    fun _ hq _ h => hspans.eq_of_ident hp hq (h.ident_span UseKind.noConfusion).symm
  exact lookup_eq_some_iff hplain logging hp hunique

/-- So it is where a property is to be spelled out. -/
theorem lookup_shorthands (hp : p ∈ f.places) :
    (f.substitutions logging).shorthands.lookup p.id.span = some name ↔
      f.Enters f.locals p .shorthand p.id.span name := by
  have hunique : ∀ q ∈ f.places, ∀ name',
      f.Enters f.locals q .shorthand p.id.span name' → p = q :=
    fun _ hq _ h => hspans.eq_of_ident hp hq (h.ident_span UseKind.noConfusion).symm
  exact lookup_eq_some_iff hplain logging hp hunique

/-- So it is at the span of an access to `default`. -/
theorem lookup_member (hp : p ∈ f.places) (hsite : p.site = .defaultObject span) :
    (f.substitutions logging).members.lookup span = some name ↔
      f.Enters f.locals p .defaultMember span name :=
  lookup_eq_some_iff hplain logging hp
    fun _ hq _ h => hspans.eq_of_member hp hq (by rw [hsite]; rfl) h.member_span

end

-- ---------------------------------------------------------------------------
-- Completion
-- ---------------------------------------------------------------------------

/-- What is written on the way: words, except where a property is to be spelled out. -/
theorem filled_inPlace (locals : Locals) :
    f.filled .inPlace p =
      match f.replacing locals p with
      | .reserved word => if p.site = .shorthand then .keep else .reserved word
      | .keep | .imported _ => .keep := by
  unfold replacing filled Filling.at
  cases f.meaning p with
  | foreign | unbound isParam => rfl
  | bound target =>
    cases target with
    | require | exports => cases p.site <;> simp [replacementInPlace, replacement]
    | module path =>
      cases p.site <;> simp only [replacementInPlace, replacement] <;>
        cases locals.get? _ path <;> rfl

section

variable (hplain : ∀ p ∈ f.params, (Amd.paramName? p).isSome) (hspans : f.DistinctSpans)
  (logging : Logging)

include hplain hspans

/-- An identifier that nothing is entered for stays. -/
theorem applyIdent_eq_self (hp : p ∈ f.places)
    (h : ∀ name, ¬ f.Enters f.locals p .name p.id.span name) {id : Ident}
    (hid : id.span = p.id.span) : (f.substitutions logging).applyIdent id = id := by
  have hnone : (f.substitutions logging).idents.lookup id.span = none := by
    rw [hid, Option.eq_none_iff_forall_ne_some]
    exact fun name hname => h name ((lookup_idents hplain hspans logging hp).1 hname)
  rw [Substitutions.applyIdent, hnone]

theorem settles_ident (hp : p ∈ f.places) (hkind : p.site.kind = .name) :
    (f.substitutions logging).applyIdent ((f.filled .inPlace p).rename p.id) =
      (f.replacing f.locals p).rename p.id := by
  have henters : ∀ name, f.Enters f.locals p .name p.id.span name →
      f.replacing f.locals p = .imported name :=
    fun name h => h.replacing.resolve_right fun h => UseKind.noConfusion h.1
  rw [filled_inPlace f.locals]
  cases hr : f.replacing f.locals p with
  | keep =>
    refine applyIdent_eq_self hplain hspans logging hp (fun name h => ?_) rfl
    cases hr.symm.trans (henters name h)
  | reserved word =>
    have hsite : p.site ≠ .shorthand := by
      rintro hsite
      cases hkind.symm.trans (congrArg Site.kind hsite)
    simp only [hsite, if_false]
    refine applyIdent_eq_self hplain hspans logging hp (fun name h => ?_) rfl
    cases hr.symm.trans (henters name h)
  | imported name =>
    obtain ⟨path, hpath, -⟩ := replacing_eq_imported.1 hr
    have hspan : p.site.span p.id = p.id.span := Site.span_eq (by rw [hkind]; nofun) p.id
    have hlookup := (lookup_idents hplain hspans logging hp).2
      ⟨(path?_eq_some.1 hpath).1, hkind, hspan, .inl hr⟩
    simp only [Replacement.rename, Substitutions.applyIdent, hlookup]

theorem settles_shorthand (hp : p ∈ f.places) (hsite : p.site = .shorthand) :
    (f.substitutions logging).applyProperty (rewriteShorthand p.id (f.filled .inPlace p)) =
      rewriteShorthand p.id (f.replacing f.locals p) := by
  have hkind : p.site.kind = .shorthand := congrArg Site.kind hsite
  have hspan : p.site.span p.id = p.id.span := congrArg (Site.span p.id) hsite
  have hinPlace : f.filled .inPlace p = .keep := by
    rw [filled_inPlace f.locals, hsite]
    cases f.replacing f.locals p <;> rfl
  rw [hinPlace, rewriteShorthand, Substitutions.applyProperty]
  cases hr : f.replacing f.locals p with
  | keep =>
    have hnone : (f.substitutions logging).shorthands.lookup p.id.span = none := by
      rw [Option.eq_none_iff_forall_ne_some]
      intro name hname
      rcases ((lookup_shorthands hplain hspans logging hp).1 hname).replacing with h | ⟨-, h⟩
      · cases hr.symm.trans h
      · cases hr.symm.trans h
    rw [hnone, applyIdent_eq_self hplain hspans logging hp _ rfl]
    · rfl
    · exact fun name h => UseKind.noConfusion (hkind.symm.trans h.kind_eq)
  | reserved word =>
    have huse := (replacing_eq_reserved.1 hr).1
    rw [(lookup_shorthands hplain hspans logging hp).2 ⟨huse, hkind, hspan, .inr ⟨rfl, hr⟩⟩]
    rfl
  | imported name =>
    obtain ⟨path, hpath, -⟩ := replacing_eq_imported.1 hr
    rw [(lookup_shorthands hplain hspans logging hp).2
      ⟨(path?_eq_some.1 hpath).1, hkind, hspan, .inl hr⟩]
    rfl

theorem settles_defaultAccess (hp : p ∈ f.places) (hsite : p.site = .defaultObject span) :
    (f.substitutions logging).applyExpr (rewriteDefault span p.id (f.filled .inPlace p)) =
      rewriteDefault span p.id (f.replacing f.locals p) := by
  have hkind : p.site.kind = .defaultMember := congrArg Site.kind hsite
  have hspan : p.site.span p.id = span := congrArg (Site.span p.id) hsite
  have hident : ∀ id : Ident, id.span = p.id.span → (f.substitutions logging).applyIdent id = id :=
    fun id hid => applyIdent_eq_self hplain hspans logging hp
      (fun name h => UseKind.noConfusion (hkind.symm.trans h.kind_eq)) hid
  have hnone : (∀ name, f.replacing f.locals p ≠ .imported name) →
      (f.substitutions logging).members.lookup span = none := by
    intro h
    rw [Option.eq_none_iff_forall_ne_some]
    intro name hname
    rcases ((lookup_member hplain hspans logging hp hsite).1 hname).replacing with hr | ⟨hk, -⟩
    · exact h name hr
    · exact UseKind.noConfusion hk
  rw [filled_inPlace f.locals]
  cases hr : f.replacing f.locals p with
  | keep =>
    simp only [rewriteDefault, Substitutions.applyExpr, Substitutions.applyKey,
      hnone (by simp [hr]), hident p.id rfl]
  | reserved word =>
    have hne : p.site ≠ .shorthand := by simp [hsite]
    simp only [hne, if_false, rewriteDefault, Substitutions.applyExpr, Substitutions.applyKey,
      hnone (by simp [hr]), hident { p.id with name := word } rfl]
  | imported name =>
    obtain ⟨path, hpath, -⟩ := replacing_eq_imported.1 hr
    have hlookup := (lookup_member hplain hspans logging hp hsite).2
      ⟨(path?_eq_some.1 hpath).1, hkind, hspan, .inl hr⟩
    simp only [rewriteDefault, Substitutions.applyExpr, hlookup]

/-- Nothing is entered for an identifier that is written where there was none. -/
theorem lookup_ident_eq_none (hspan : span ∈ f.otherIdents) :
    (f.substitutions logging).idents.lookup span = none := by
  have hno : ∀ q ∈ f.places, ∀ name, ¬ f.Enters f.locals q .name span name := by
    intro q hq name h
    exact hspans.not_mem_otherIdents hq (h.ident_span UseKind.noConfusion ▸ hspan)
  exact lookup_eq_none hplain logging hno

/-- The second traversal makes of each place what should be there. -/
theorem settles {step : Step} (hstep : step ∈ stepsStmts f.around f.body) :
    step.Settles (f.substitutions logging) (f.filled .inPlace) (f.replacing f.locals) := by
  cases step with
  | enter scope | leave scope => trivial
  | undefined p =>
    have hmem : p.id.span ∈ f.otherIdents :=
      List.mem_append_left _ (List.mem_map_of_mem (List.mem_filterMap.2 ⟨_, hstep, rfl⟩))
    have hnone : (f.substitutions logging).idents.lookup p.id.span = none :=
      lookup_ident_eq_none hplain hspans logging hmem
    simp only [Step.Settles, Substitutions.applyIdent, hnone]
  | ident p =>
    have hp : p ∈ f.places := mem_places.2 hstep
    cases hsite : p.site with
    | reference | declaration =>
      simp only [Step.Settles, hsite]
      exact settles_ident hplain hspans logging hp (congrArg Site.kind hsite)
    | shorthand =>
      simp only [Step.Settles, hsite]
      exact settles_shorthand hplain hspans logging hp hsite
    | defaultObject member =>
      simp only [Step.Settles, hsite]
      exact settles_defaultAccess hplain hspans logging hp hsite

/-- There is nothing entered for the other parts that it looks up. -/
theorem passes {aside : Aside} (haside : aside ∈ asidesStmts f.body) :
    aside.Passes (f.substitutions logging) := by
  cases aside with
  | key id =>
    have hmem : id.span ∈ f.otherIdents :=
      List.mem_append_right _ (List.mem_filterMap.2 ⟨_, haside, rfl⟩)
    exact lookup_ident_eq_none hplain hspans logging hmem
  | member span =>
    have hmem : span ∈ f.otherMembers := List.mem_filterMap.2 ⟨_, haside, rfl⟩
    have hno : ∀ q ∈ f.places, ∀ name, ¬ f.Enters f.locals q .defaultMember span name :=
      fun q hq name h => hspans.not_mem_otherMembers hq h.member_span hmem
    exact lookup_eq_none hplain logging hno

/-- The second traversal completes what the walk has written. -/
theorem applyStmts_eq :
    (f.substitutions logging).applyStmts (rewriteStmts (f.filled .inPlace) f.around f.body) =
      rewriteStmts (f.replacing f.locals) f.around f.body :=
  completes_stmts _ _ _ f.around f.body (fun _ => settles hplain hspans logging)
    fun _ => passes hplain hspans logging

end

-- ---------------------------------------------------------------------------
-- The number of places that change
-- ---------------------------------------------------------------------------

/-- A property that is spelled out with a word is not recorded as a use. -/
theorem use?_of_spelledOut? {entry : Span × String} (h : f.spelledOut? p = some entry) :
    f.use? p = none := by
  unfold spelledOut? at h
  split at h
  · rename_i hm _
    simp [use?, hm, Meaning.isRecorded]
  · rename_i hm _
    simp [use?, hm, Meaning.isRecorded]
  · cases h

theorem spelledOut?_span {entry : Span × String} (h : f.spelledOut? p = some entry) :
    p.site = .shorthand ∧ entry.1 = p.id.span := by
  obtain ⟨span, name⟩ := entry
  have hentered : f.Enters f.locals p .shorthand span name ∧ _ := spelledOut?_eq_some.1 h
  obtain ⟨⟨-, hkind, hspan, -⟩, -⟩ := hentered
  have hsite := Site.eq_shorthand hkind
  rw [hsite] at hspan
  exact ⟨hsite, hspan.symm⟩

theorem use?_eq_some {use : Use} (h : f.use? p = some use) :
    use.kind = p.site.kind ∧ use.span = p.site.span p.id := by
  unfold use? at h
  split at h
  · cases h
    exact ⟨rfl, rfl⟩
  · cases h

/-- Uses of one kind are recorded with spans of their own, too. -/
theorem Apart.use?_span (h : Apart p q) {use use' : Use} (huse : f.use? p = some use)
    (huse' : f.use? q = some use') (hkind : use.kind = use'.kind) : use.span ≠ use'.span := by
  obtain ⟨hk, hs⟩ := use?_eq_some huse
  obtain ⟨hk', hs'⟩ := use?_eq_some huse'
  rw [hk, hk'] at hkind
  rw [hs, hs']
  by_cases hdefault : p.site.kind = .defaultMember
  · intro hspan
    have hq := Site.member?_eq (hkind ▸ hdefault) q.id
    exact h.member _ (Site.member?_eq hdefault p.id) (hspan ▸ hq)
  · rw [Site.span_eq hdefault, Site.span_eq (hkind ▸ hdefault)]
    exact h.ident

namespace DistinctSpans

/-- The properties that are spelled out have spans of their own. -/
theorem nodup_spelledOut (hplain : ∀ p ∈ f.params, (Amd.paramName? p).isSome)
    (h : f.DistinctSpans) : (f.findings.spelledOut.map Prod.fst).Nodup := by
  rw [spelledOut_findings hplain, List.Nodup, List.pairwise_map, List.pairwise_filterMap]
  refine h.pairwise.imp fun hpq entry hentry entry' hentry' => ?_
  rw [(spelledOut?_span hentry).2, (spelledOut?_span hentry').2]
  exact hpq.ident

/-- So have the uses of each kind. -/
theorem areNew (hplain : ∀ p ∈ f.params, (Amd.paramName? p).isSome) (h : f.DistinctSpans) :
    Imports.AreNew (.ofSpelledOut f.findings.spelledOut)
      (Imports.inOrder f.findings.uses.toList) where
  new use huse hmem := by
    rw [Imports.mem_inOrder, uses_findings hplain, List.mem_filterMap] at huse
    obtain ⟨p, hp, huse⟩ := huse
    obtain ⟨entry, hentry, hspan⟩ := List.mem_map.1 hmem
    obtain ⟨hkind, q, hq, hentry⟩ := (mem_entries_ofSpelledOut hplain).1 hentry
    obtain ⟨hk, hs⟩ := use?_eq_some huse
    have hident : p.site.span p.id = p.id.span :=
      Site.span_eq (by rw [← hk, hkind]; nofun) p.id
    obtain rfl := h.eq_of_ident hp hq
      (by rw [← hident, ← hs, ← hspan, (spelledOut?_span hentry).2])
    rw [use?_of_spelledOut? hentry] at huse
    cases huse
  distinct := by
    have huses : f.findings.uses.toList.Pairwise
        fun use use' => use.kind = use'.kind → use.span ≠ use'.span := by
      rw [uses_findings hplain, List.pairwise_filterMap]
      refine h.pairwise.imp fun hpq use huse use' huse' hkind => ?_
      exact hpq.use?_span huse huse' hkind
    refine List.pairwise_append.2 ⟨huses.filter _, huses.filter _, ?_⟩
    intro use huse use' huse' hkind
    have hname := (List.mem_filter.1 huse).2
    rw [hkind, (List.mem_filter.1 huse').2] at hname
    cases hname

end DistinctSpans

/-- The entries are as many as the places that change. -/
theorem size_substitutions (hplain : ∀ p ∈ f.params, (Amd.paramName? p).isSome)
    (hspans : f.DistinctSpans) (logging : Logging) :
    (f.substitutions logging).size = Imports.replacements f.binding f.findings :=
  Imports.size_synthesize (hspans.nodup_spelledOut hplain) (hspans.areNew hplain)

-- ---------------------------------------------------------------------------
-- Modules
-- ---------------------------------------------------------------------------

/-- Where nothing is entered, nothing is left to be done. -/
theorem replacing_eq_inPlace_of_size_eq_zero (hplain : ∀ p ∈ f.params, (Amd.paramName? p).isSome)
    {logging : Logging} (hsize : (f.substitutions logging).size = 0) (hp : p ∈ f.places) :
    f.filled .inPlace p = f.replacing f.locals p := by
  have hnone : ∀ kind span name, ¬ f.Enters f.locals p kind span name := by
    intro kind span name h
    have hentry := (mem_entries_substitutions hplain logging).2 ⟨p, hp, h⟩
    rw [Substitutions.entries_of_size_eq_zero hsize] at hentry
    cases hentry
  rw [filled_inPlace f.locals]
  cases hr : f.replacing f.locals p with
  | keep => rfl
  | reserved word =>
    have hsite : p.site ≠ .shorthand := by
      intro hsite
      have huse := (replacing_eq_reserved.1 hr).1
      exact hnone _ _ _ ⟨huse, congrArg Site.kind hsite, rfl, .inr ⟨rfl, hr⟩⟩
    simp only [hsite, if_false]
  | imported name =>
    obtain ⟨path, hpath, -⟩ := replacing_eq_imported.1 hr
    exact absurd ⟨(path?_eq_some.1 hpath).1, rfl, rfl, .inl hr⟩ (hnone _ _ name)

/-- What two passes make of the statements is their direct rewrite. -/
theorem apply_eq (hplain : ∀ p ∈ f.params, (Amd.paramName? p).isSome) (hspans : f.DistinctSpans)
    (logging : Logging) :
    (f.substitutions logging).apply (rewriteStmts (f.filled .inPlace) f.around f.body) =
      rewriteStmts (f.replacing f.locals) f.around f.body := by
  unfold Substitutions.apply
  split
  · rename_i hsize
    refine rewriteStmts_congr f.around f.body rfl rfl fun p hp => ?_
    exact replacing_eq_inPlace_of_size_eq_zero hplain hsize (mem_places.2 hp)
  · exact applyStmts_eq hplain hspans logging

/-- The module that two passes make is the one that is drafted, and the walk reports the same. -/
theorem moduleInPasses_eq (hplain : ∀ p ∈ f.params, (Amd.paramName? p).isSome)
    (hspans : f.DistinctSpans) (env : Env σ ε) {s : State σ ε} (hs : s.stopped = false) :
    Walk.moduleInPasses f.definition f.scope f.piece.walk env s =
      Walk.module f.definition f.scope f.piece.walk env s := by
  have hrun : Walk.function f.scope f.piece.walk
      { env with
        active := some ⟨f.definition, Amd.Binding.ofDefinition f.definition, env.scopes.length⟩ }
      ({ s with findings := .empty }.report
        [.enteringModule f.definition.name (Amd.Binding.ofDefinition f.definition).size,
          .factoryScope f.definition.name env.scopes.length]) = _ := function_factory f hs
  have hmade : Imports.synthesize f.binding env.settings.logging f.findings =
      (Imports.ofFindings f.binding env.settings.logging f.findings,
        f.substitutions env.settings.logging) := by
    rw [substitutions, Imports.synthesize_eq]
  have hlocals : (Imports.ofFindings f.binding env.settings.logging f.findings).locals = f.locals :=
    Imports.locals_ofFindings f.findings
  have hfindings : f.steps.foldl f.note .empty = f.findings := rfl
  have hbinding : Amd.Binding.ofDefinition f.definition = f.binding := rfl
  unfold Walk.moduleInPasses Walk.module
  simp only [hrun]
  simp only [hbinding, State.report, State.after, hfindings, hmade, hlocals,
    apply_eq hplain hspans, size_substitutions hplain hspans]
  rfl

end Factory
end Unbundle.Engine

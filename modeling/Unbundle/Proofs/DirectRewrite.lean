-- SUMMARY: The body of an emitted module is a direct rewrite of its factory's statements.
import Unbundle.Proofs.Emission
import Unbundle.Proofs.Trace
import Unbundle.Proofs.TwoPasses

/-!
# The body of a module

The body that a run hands over is one rewrite of the factory's statements
(`emitted_body_eq_rewrite`), and two passes over them make the same. The rewrite should put
something in only where a parameter is referred to (`Factory.proper`). It does, but for one slip: in
a static block of a class that belongs to the target of an assignment, what is declared is taken to
be assigned to. A parameter's name that is declared there is renamed (`Factory.Renames`).
-/

namespace Unbundle.Engine

open Script

variable {σ ε : Type}

namespace Factory

variable {f : Factory} {p : Place}

/-- What should be put at a place: where a name is introduced nothing is, and elsewhere a parameter
that no scope in between declares again gives way to what it is bound to. -/
def proper (f : Factory) (imports : List Import) : Replacing :=
  fun p => if p.binds then .keep else f.reference imports p

/-- The identifier declares the name of a bound parameter, and it is taken for the parameter. -/
structure Renames (f : Factory) (p : Place) : Prop where
  isMisread : p.isMisread = true
  notShadowed : p.isShadowed = false
  bound : (f.binding.get? p.id.name).isSome

/-- What is put in is what should be, except at these declarations. -/
theorem reference_ne_proper_iff (hp : p ∈ f.places) :
    f.reference f.locals.imports p ≠ f.proper f.locals.imports p ↔ f.Renames p := by
  unfold proper
  cases hbinds : p.binds with
  | false =>
    simp only [Bool.false_eq_true, if_false, ne_eq, not_true_eq_false, false_iff]
    intro h
    simpa [Place.isMisread, hbinds] using h.isMisread
  | true =>
    rw [if_pos rfl, reference_ne_keep_iff hp]
    constructor
    · rintro ⟨huse, hs, hbound⟩
      exact ⟨by rw [Place.isMisread, hbinds, huse]; rfl, hs, hbound⟩
    · intro h
      exact ⟨(Bool.and_eq_true_iff.1 h.isMisread).2, h.notShadowed, h.bound⟩

/-- If there are none of them, the body is as it should be. -/
theorem rewriteStmts_proper (h : ∀ p ∈ f.places, ¬ f.Renames p) :
    rewriteStmts (f.reference f.locals.imports) f.around f.body =
      rewriteStmts (f.proper f.locals.imports) f.around f.body := by
  refine rewriteStmts_congr f.around f.body rfl rfl fun p hp => ?_
  have hplace : p ∈ f.places := mem_places.2 hp
  by_contra hne
  exact h p hplace ((reference_ne_proper_iff hplace).1 hne)

end Factory

/-- The body that is handed over is one rewrite of the factory's statements. Wherever a parameter for
a module is referred to, the module has an import to put in. Two passes, the second of which goes by
the spans of what the first one has recorded, make the same module if spans tell identifiers apart.
The rewrite puts in what it should, but for declarations in static blocks that have the name of a
bound parameter and are taken for it. -/
theorem emitted_body_eq_rewrite {sink : Sink σ ε} {settings : Settings} {start : σ}
    {script : Script} {k : Nat} {f : Factory} {m : Module}
    (hf : script.definitions[k]? = some (.module f))
    (hm : (handed sink settings start script)[k]? = some m) :
    ∃ imports body,
      m = ⟨f.name, .code imports body⟩ ∧
        body = rewriteStmts (f.reference imports) f.around f.body ∧
        (∀ p ∈ f.places, p.binds = false → p.isShadowed = false →
          ∀ path, f.binding.get? p.id.name = some (.module path) →
            (Import.local? imports p.site.kind path).isSome) ∧
        (f.DistinctSpans → ∀ (env : Env σ ε) (s : State σ ε), s.stopped = false →
          Walk.moduleInPasses f.definition f.scope f.piece.walk env s =
            Walk.module f.definition f.scope f.piece.walk env s) ∧
        (∀ p ∈ f.places,
          (f.reference imports p ≠ f.proper imports p ↔ f.Renames p) ∧
            (f.Renames p → p.inStaticBlock = true)) ∧
        ((∀ p ∈ f.places, ¬ f.Renames p) →
          body = rewriteStmts (f.proper imports) f.around f.body) := by
  refine ⟨f.locals.imports, _, (toModule_of_handed hf hm).trans f.module_eq_rewrite, rfl, ?_, ?_, ?_,
    Factory.rewriteStmts_proper⟩
  · intro p hp hbinds hs path hpath
    exact Factory.isSome_local? hp (Factory.isUse_of_place hp hbinds) hs hpath
  · intro hspans env s hs
    exact Factory.moduleInPasses_eq (Factory.paramName?_of_definition hf) hspans env hs
  · intro p hp
    refine ⟨Factory.reference_ne_proper_iff hp, fun h => ?_⟩
    exact Factory.inStaticBlock_of_misread hp h.isMisread h.notShadowed

theorem emitted_body_eq_rewrite_sample :
    (∃ imports, sample.module =
      ⟨"m", .code imports (rewriteStmts (sample.proper imports) sample.around sample.body)⟩) ∧
      ∀ env s, s.stopped = false →
        Walk.moduleInPasses sample.definition sample.scope sample.piece.walk env s =
          (Walk.module sample.definition sample.scope sample.piece.walk env s :
            Draft Unit × State (List Module) Empty) := by
  obtain ⟨imports, body, hmodule, -, -, hpasses, -, hproper⟩ :=
    emitted_body_eq_rewrite (show sample.script.definitions[0]? = some (.module sample) from rfl)
      (handed_of_definitions rfl)
  have hbody : body = rewriteStmts (sample.proper imports) sample.around sample.body :=
    hproper fun p hp h => by
      have hnone : ∀ q ∈ sample.places, q.isMisread = false := by decide
      cases (hnone p hp).symm.trans h.isMisread
  exact ⟨⟨imports, hbody ▸ hmodule⟩, hpasses ⟨by decide, by decide⟩⟩

/-- `(class { static { var x = 1; } }).p = 1;`, with this name for the variable -/
def assignedClass (name : String) : List Stmt :=
  [.expr (.assign ⟨39, 78⟩ .plain
    (.expr (.member ⟨39, 74⟩
      (.paren ⟨39, 72⟩ (.cls none (.mk ⟨40, 71⟩ none
        [.staticBlock [.varDecl .var
          [.mk (.ident ⟨name, ⟨61, 62⟩⟩) (some (.lit ⟨65, 66⟩ (.num "1")))]]])))
      (.named "p")))
    (.lit ⟨77, 78⟩ (.num "1")))]

/-- `function (x) { (class { static { var x = 1; } }).p = 1; }` -/
def assignedClassSample : Factory where
  name := "m"
  dependencies := ["lib/x"]
  own := none
  span := ⟨24, 81⟩
  params := [.ident ⟨"x", ⟨34, 35⟩⟩]
  body := assignedClass "x"

/-- The variable is renamed, although the factory does not refer to its parameter. -/
theorem assignedClassSample_renames_declaration :
    (handed keepAll ⟨none, .none⟩ [] assignedClassSample.script)[0]? =
        some ⟨"m", .code [⟨"lib/x", none, some "X"⟩] (assignedClass "X")⟩ ∧
      ∀ imports, rewriteStmts (assignedClassSample.proper imports) assignedClassSample.around
        assignedClassSample.body = assignedClassSample.body := by
  refine ⟨?_, fun _ => rfl⟩
  rw [handed_of_definitions rfl]
  rfl

end Unbundle.Engine

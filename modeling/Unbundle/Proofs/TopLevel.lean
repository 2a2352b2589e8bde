-- SUMMARY: The names that a module declares at its top level, and when an import has one of them.
import Unbundle.Proofs.Hygiene

/-!
# Names at the top level of a module

The statements of a factory become the top level of a module, next to its imports. A rewrite changes
no identifier that declares a name, so the module declares what the factory's statements declare
(`stmtsDeclared_rewriteStmts`).

The walk meets every declared name, and a name that it meets is taken, unless it is the name of a
parameter that is bound to a dependency. So a statement may declare the name of an import once more,
but only if it declares such a parameter again (`import_names_apart_from_declared`).
-/

namespace Unbundle.Engine

open Script

-- ---------------------------------------------------------------------------
-- A rewrite keeps declarations
-- ---------------------------------------------------------------------------

/-- Identifiers that declare a name are left alone. -/
def Replacing.KeepsDeclared (replace : Replacing) : Prop :=
  ∀ place, place.isUse = false → replace place = .keep

/-- Identifiers that declare one of these names are left alone here and further in. The walk takes
what is declared inside of an assignment target for a use, so there all uses must be left alone. -/
def Replacing.Keeps (replace : Replacing) (around : Around) (names : List String) : Prop :=
  ∀ inner id site binds, id.name ∈ names → site = .declaration ∨ around.inTarget = true →
    replace ⟨inner ++ around.layers, id, site, binds⟩ = .keep

namespace Replacing.Keeps

variable {replace : Replacing} {around : Around} {names names' : List String}

theorem of_declared {layers : List Layer} (h : replace.KeepsDeclared) :
    replace.Keeps ⟨layers, false, true⟩ names := by
  intro inner id site binds _ hsite
  rcases hsite with rfl | hsite
  · exact h _ rfl
  · cases hsite

theorem subset (h : replace.Keeps around names) (hnames : names' ⊆ names) :
    replace.Keeps around names' :=
  fun inner id site binds hid => h inner id site binds (hnames hid)

theorem left (h : replace.Keeps around (names ++ names')) : replace.Keeps around names :=
  h.subset (List.subset_append_left _ _)

theorem right (h : replace.Keeps around (names ++ names')) : replace.Keeps around names' :=
  h.subset (List.subset_append_right _ _)

theorem enterLoop (h : replace.Keeps around names) (layers : List Layer) :
    replace.Keeps (around.enterLoop layers) names := by
  intro inner id site binds hid hsite
  have hkeep := h (inner ++ layers) id site binds hid hsite
  rwa [List.append_assoc] at hkeep

theorem enter (h : replace.Keeps around names) (layer : Layer) :
    replace.Keeps (around.enter layer) names :=
  h.enterLoop [layer]

theorem untargeted (h : replace.Keeps around names) :
    replace.Keeps (around.targeting false) names := by
  intro inner id site binds hid hsite
  rcases hsite with hsite | hsite
  · exact h inner id site binds hid (.inl hsite)
  · cases hsite

theorem declaration {id : Ident} (h : replace.Keeps around [id.name]) :
    rewriteIdent replace (around.place id .declaration) = id := by
  have hkeep : replace (around.place id .declaration) = .keep :=
    h [] id .declaration true (List.mem_singleton.2 rfl) (.inl rfl)
  rw [rewriteIdent, hkeep]
  rfl

theorem pattern {id : Ident} (h : replace.Keeps around [id.name]) :
    rewriteIdent replace (around.patternPlace id) = id := by
  have hkeep : replace (around.patternPlace id) = .keep := by
    refine h [] id _ _ (List.mem_singleton.2 rfl) ?_
    cases hin : around.inTarget with
    | false => exact .inl rfl
    | true => exact .inr rfl
  rw [rewriteIdent, hkeep]
  rfl

end Replacing.Keeps

section

variable {replace : Replacing}

mutual

theorem names_rewritePat {around : Around} (p : Pat) (h : replace.Keeps around p.names) :
    (rewritePat replace around p).names = p.names := by
  cases p with
  | ident id => exact congrArg (fun id : Ident => [id.name]) h.pattern
  | array span elems => exact patNames_rewritePats elems h
  | hole => rfl
  | object span props => exact patPropertyNames_rewritePatProperties props h
  | rest span arg => exact names_rewritePat arg h
  | default span left right => exact names_rewritePat left h
  | expr e => rfl

theorem patNames_rewritePats {around : Around} (ps : List Pat)
    (h : replace.Keeps around (patNames ps)) :
    patNames (rewritePats replace around ps) = patNames ps := by
  cases ps with
  | nil => rfl
  | cons p rest =>
    exact congrArg₂ (· ++ ·) (names_rewritePat p h.left) (patNames_rewritePats rest h.right)

theorem names_rewritePatProperty {around : Around} (p : PatProperty)
    (h : replace.Keeps around p.names) :
    (rewritePatProperty replace around p).names = p.names := by
  cases p with
  | keyValue key value => exact names_rewritePat value h
  | shorthand id default => exact congrArg (fun id : Ident => [id.name]) h.pattern
  | rest span arg => exact names_rewritePat arg h

theorem patPropertyNames_rewritePatProperties {around : Around} (ps : List PatProperty)
    (h : replace.Keeps around (patPropertyNames ps)) :
    patPropertyNames (rewritePatProperties replace around ps) = patPropertyNames ps := by
  cases ps with
  | nil => rfl
  | cons p rest =>
    exact congrArg₂ (· ++ ·) (names_rewritePatProperty p h.left)
      (patPropertyNames_rewritePatProperties rest h.right)

end

theorem names_rewriteDeclarators {around : Around} (decls : List Declarator)
    (h : replace.Keeps around (decls.flatMap Declarator.names)) :
    (rewriteDeclarators replace around decls).flatMap Declarator.names =
      decls.flatMap Declarator.names := by
  induction decls with
  | nil => rfl
  | cons decl rest ih =>
    obtain ⟨name, init⟩ := decl
    rw [List.flatMap_cons] at h
    rw [rewriteDeclarators, List.flatMap_cons, List.flatMap_cons, ih h.right]
    exact congrArg (· ++ _) (names_rewritePat name h.left)

theorem names_rewriteForInit {around : Around} (init : ForInit)
    (h : replace.Keeps around init.names) :
    (rewriteForInit replace around init).names = init.names := by
  cases init with
  | empty | expr e => rfl
  | var kind decls => exact names_rewriteDeclarators decls h

theorem names_rewriteForHead {around : Around} (head : ForHead)
    (h : replace.Keeps around head.names) :
    (rewriteForHead replace around head).names = head.names := by
  cases head with
  | var kind decls => exact names_rewriteDeclarators decls h.untargeted
  | pat p => rfl

mutual

theorem declared_rewriteStmt (h : replace.KeepsDeclared) {layers : List Layer} (s : Stmt) :
    (rewriteStmt replace ⟨layers, false, true⟩ s).declared = s.declared := by
  cases s with
  | expr e => rfl
  | block body => exact stmtsDeclared_rewriteStmts h body
  | empty => rfl
  | debugger => rfl
  | withStmt object body => exact declared_rewriteStmt h body
  | returnStmt arg => rfl
  | labeled label body => exact declared_rewriteStmt h body
  | breakStmt label => rfl
  | continueStmt label => rfl
  | ifStmt test cons alt =>
    cases alt with
    | none => exact declared_rewriteStmt h cons
    | some alt =>
      exact congrArg₂ (· ++ ·) (declared_rewriteStmt h cons) (declared_rewriteStmt h alt)
  | switch discriminant cases => exact casesDeclared_rewriteCases h cases
  | throwStmt arg => rfl
  | tryStmt block handler finalizer =>
    exact congrArg₂ (· ++ ·)
      (congrArg₂ (· ++ ·) (stmtsDeclared_rewriteStmts h block)
        (handlerDeclared_rewriteHandler h handler))
      (finalizerDeclared_rewriteFinalizer h finalizer)
  | whileLoop test body => exact declared_rewriteStmt h body
  | doWhile test body => exact declared_rewriteStmt h body
  | forLoop init test update body =>
    exact congrArg₂ (· ++ ·) (names_rewriteForInit init (.of_declared h))
      (declared_rewriteStmt h body)
  | forIn left right body =>
    exact congrArg₂ (· ++ ·) (names_rewriteForHead left (.of_declared h))
      (declared_rewriteStmt h body)
  | forOf isAwait left right body =>
    exact congrArg₂ (· ++ ·) (names_rewriteForHead left (.of_declared h))
      (declared_rewriteStmt h body)
  | varDecl kind decls => exact names_rewriteDeclarators decls (.of_declared h)
  | fnDecl name f | classDecl name cls =>
    have hkeeps : replace.Keeps ⟨layers, false, true⟩ [name.name] := .of_declared h
    exact congrArg (fun id : Ident => [id.name]) hkeeps.declaration

theorem stmtsDeclared_rewriteStmts (h : replace.KeepsDeclared) {layers : List Layer}
    (body : List Stmt) :
    stmtsDeclared (rewriteStmts replace ⟨layers, false, true⟩ body) = stmtsDeclared body := by
  cases body with
  | nil => rfl
  | cons s rest =>
    exact congrArg₂ (· ++ ·) (declared_rewriteStmt h s) (stmtsDeclared_rewriteStmts h rest)

theorem casesDeclared_rewriteCases (h : replace.KeepsDeclared) {layers : List Layer}
    (cases : List Case) :
    casesDeclared (rewriteCases replace ⟨layers, false, true⟩ cases) = casesDeclared cases := by
  match cases with
  | [] => rfl
  | .mk test body :: rest =>
    exact congrArg₂ (· ++ ·) (stmtsDeclared_rewriteStmts h body)
      (casesDeclared_rewriteCases h rest)

theorem handlerDeclared_rewriteHandler (h : replace.KeepsDeclared) {layers : List Layer}
    (handler : Option Catch) :
    handlerDeclared (rewriteHandler replace ⟨layers, false, true⟩ handler) =
      handlerDeclared handler := by
  match handler with
  | none => rfl
  | some (.mk span param body) => exact stmtsDeclared_rewriteStmts h body

theorem finalizerDeclared_rewriteFinalizer (h : replace.KeepsDeclared) {layers : List Layer}
    (finalizer : Option (List Stmt)) :
    finalizerDeclared (rewriteFinalizer replace ⟨layers, false, true⟩ finalizer) =
      finalizerDeclared finalizer := by
  match finalizer with
  | none => rfl
  | some body => exact stmtsDeclared_rewriteStmts h body

end

end

-- ---------------------------------------------------------------------------
-- Declared names and imports
-- ---------------------------------------------------------------------------

namespace Factory

variable {f : Factory}

theorem keepsDeclared_reference (f : Factory) (imports : List Import) :
    (f.reference imports).KeepsDeclared := by
  intro place hplace
  simp [reference, hplace]

/-- What the factory's statements declare is taken, unless it is a parameter that is bound. -/
theorem mem_taken_of_declared {name : String} (hname : name ∈ stmtsDeclared f.body)
    (hunbound : f.binding.get? name = none) : name ∈ f.findings.taken := by
  obtain ⟨place, hmem, hid, -⟩ := (@traced_stmts f.around rfl rfl f.body).delivers name hname
  refine mem_taken.2 ⟨place, List.mem_append_right _ hmem, hid, ?_⟩
  cases hm : f.meaning place with
  | foreign => rfl
  | unbound isParam => rfl
  | bound target =>
    have hbound := (meaning_eq_bound.1 hm).2
    rw [hid, hunbound] at hbound
    cases hbound

end Factory

/-- If a statement at the top level of a module declares the name of one of its imports, this is
also the name of a parameter that is bound to a dependency. -/
theorem import_names_apart_from_declared {σ ε : Type} {sink : Sink σ ε} {settings : Settings}
    {start : σ} {script : Script} {k : Nat} {f : Factory} {m : Module}
    (hf : script.definitions[k]? = some (.module f))
    (hm : (handed sink settings start script)[k]? = some m) (hfree : ¬ f.Exhausted) :
    ∃ imports body,
      m = ⟨f.name, .code imports body⟩ ∧
        ∀ i ∈ imports, ∀ isDefault name, i.name? isDefault = some name →
          name ∈ stmtsDeclared body → (f.binding.get? name).isSome := by
  refine ⟨f.locals.imports, _, (toModule_of_handed hf hm).trans f.module_eq_rewrite, ?_⟩
  intro i hi isDefault name hname hdeclared
  rw [Factory.around, stmtsDeclared_rewriteStmts (f.keepsDeclared_reference _)] at hdeclared
  have hnew := (Factory.import_name hfree (Locals.mem_entries_of_import hi hname)).1
  cases hbound : f.binding.get? name with
  | some target => rfl
  | none => exact absurd (Factory.mem_taken_of_declared hdeclared hbound) hnew

/-- `function (Util, u) { var Util = 1; u(); }` -/
def redeclaringSample : Factory where
  name := "m"
  dependencies := ["a", "lib/util"]
  own := none
  span := ⟨32, 73⟩
  params := [.ident ⟨"Util", ⟨42, 46⟩⟩, .ident ⟨"u", ⟨48, 49⟩⟩]
  body :=
    [.varDecl .var [.mk (.ident ⟨"Util", ⟨57, 61⟩⟩) (some (.lit ⟨64, 65⟩ (.num "1")))],
      .expr (.call ⟨67, 70⟩ (.ident ⟨"u", ⟨67, 68⟩⟩) [])]

/-- No name for an import of `redeclaringSample` is exhausted. -/
theorem not_exhausted_redeclaringSample : ¬ redeclaringSample.Exhausted := by
  have hevents : (Imports.ofFindings redeclaringSample.binding .verbose
      redeclaringSample.findings).events = [.allocated "Util" "lib/util"] := rfl
  rintro ⟨name, hname⟩
  simp [hevents] at hname

theorem import_names_apart_from_declared_sample :
    ∃ imports body,
      redeclaringSample.module = ⟨"m", .code imports body⟩ ∧
        ∀ i ∈ imports, ∀ isDefault name, i.name? isDefault = some name →
          name ∈ stmtsDeclared body → (redeclaringSample.binding.get? name).isSome :=
  import_names_apart_from_declared
    (show redeclaringSample.script.definitions[0]? = some (.module redeclaringSample) from rfl)
    (handed_of_definitions rfl) not_exhausted_redeclaringSample

/-- The module of `redeclaringSample` has an import and a variable of the same name, although no
name was exhausted. -/
theorem redeclaringSample_import_clashes :
    ¬ redeclaringSample.Exhausted ∧
      ∃ imports body,
        (handed keepAll ⟨none, .none⟩ [] redeclaringSample.script)[0]? =
            some ⟨"m", .code imports body⟩ ∧
          ¬ ∀ i ∈ imports, ∀ isDefault name, i.name? isDefault = some name →
            name ∉ stmtsDeclared body := by
  refine ⟨not_exhausted_redeclaringSample, [⟨"lib/util", none, some "Util"⟩],
    [.varDecl .var [.mk (.ident ⟨"Util", ⟨57, 61⟩⟩) (some (.lit ⟨64, 65⟩ (.num "1")))],
      .expr (.call ⟨67, 70⟩ (.ident ⟨"Util", ⟨67, 68⟩⟩) [])], ?_, ?_⟩
  · rw [handed_of_definitions rfl]
    rfl
  · intro h
    exact h _ (List.mem_singleton.2 rfl) false "Util" rfl (by decide)

end Unbundle.Engine

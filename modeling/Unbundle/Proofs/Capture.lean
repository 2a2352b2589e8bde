-- SUMMARY: The words that the walk writes into a module, and when a declaration captures them.
import Unbundle.Proofs.Shadowing
import Unbundle.Proofs.TopLevel

/-!
# Capture

Besides the names of imports the walk writes three words into a module: `require` and `exports` for
the parameters that are bound to them, and `undefined` for `void 0`. These are put in place without
regard to the code around them. So a factory that declares such a word itself captures what the walk
writes there, as `capturingSample` shows.

But the walk adds nothing to that. What a layer of code declares, the rewrite leaves alone
(`Mirrored.map_visible`), because the scope of the function that it belongs to shadows it, or
because it is met as a declaration. Hence a written word is captured in the module just where the
factory declares it already, and no import ever has such a name (`written_words_captured_iff`).

The exception are static blocks, which are no scopes to the walk: inside of an assignment target,
what a static block declares is taken for a use.
-/

namespace Unbundle.Engine

open Script

-- ---------------------------------------------------------------------------
-- A rewrite keeps the names that blocks and functions declare
-- ---------------------------------------------------------------------------

section

variable {replace : Replacing}

theorem varNames_rewriteForInit {around : Around} (init : ForInit)
    (h : replace.Keeps around init.varNames) :
    (rewriteForInit replace around init).varNames = init.varNames := by
  cases init with
  | empty | expr e => rfl
  | var kind decls =>
    cases kind with
    | var => exact names_rewriteDeclarators decls h
    | letKind | const => rfl

theorem varNames_rewriteForHead {around : Around} (head : ForHead)
    (h : replace.Keeps around head.varNames) :
    (rewriteForHead replace around head).varNames = head.varNames := by
  cases head with
  | pat p => rfl
  | var kind decls =>
    cases kind with
    | var => exact names_rewriteDeclarators decls h.untargeted
    | letKind | const => rfl

mutual

theorem varNames_rewriteStmt {around : Around} (s : Stmt) (h : replace.Keeps around s.varNames) :
    (rewriteStmt replace around s).varNames = s.varNames := by
  cases s with
  | block body => exact stmtsVarNames_rewriteStmts body (h.enter _)
  | withStmt object body => exact varNames_rewriteStmt body h
  | labeled label body => exact varNames_rewriteStmt body h
  | whileLoop test body => exact varNames_rewriteStmt body h
  | doWhile test body => exact varNames_rewriteStmt body h
  | ifStmt test cons alt =>
    cases alt with
    | none => exact varNames_rewriteStmt cons (h.enter _)
    | some alt =>
      exact congrArg₂ (· ++ ·) (varNames_rewriteStmt cons (h.left.enter _))
        (varNames_rewriteStmt alt (h.right.enter _))
  | switch discriminant cases => exact casesVarNames_rewriteCases cases (h.enter _)
  | tryStmt block handler finalizer =>
    exact congrArg₂ (· ++ ·)
      (congrArg₂ (· ++ ·) (stmtsVarNames_rewriteStmts block (h.left.left.enter _))
        (handlerVarNames_rewriteHandler handler h.left.right))
      (finalizerVarNames_rewriteFinalizer finalizer h.right)
  | forLoop init test update body =>
    exact congrArg₂ (· ++ ·) (varNames_rewriteForInit init (h.left.enterLoop _))
      (varNames_rewriteStmt body (h.right.enterLoop _))
  | forIn left right body =>
    exact congrArg₂ (· ++ ·) (varNames_rewriteForHead left (h.left.enterLoop _))
      (varNames_rewriteStmt body (h.right.enterLoop _))
  | forOf isAwait left right body =>
    exact congrArg₂ (· ++ ·) (varNames_rewriteForHead left (h.left.enterLoop _))
      (varNames_rewriteStmt body (h.right.enterLoop _))
  | varDecl kind decls =>
    cases kind with
    | var => exact names_rewriteDeclarators decls h
    | letKind | const => rfl
  | _ => rfl

theorem stmtsVarNames_rewriteStmts {around : Around} (body : List Stmt)
    (h : replace.Keeps around (stmtsVarNames body)) :
    stmtsVarNames (rewriteStmts replace around body) = stmtsVarNames body := by
  cases body with
  | nil => rfl
  | cons s rest =>
    exact congrArg₂ (· ++ ·) (varNames_rewriteStmt s h.left)
      (stmtsVarNames_rewriteStmts rest h.right)

theorem casesVarNames_rewriteCases {around : Around} (cases : List Case)
    (h : replace.Keeps around (casesVarNames cases)) :
    casesVarNames (rewriteCases replace around cases) = casesVarNames cases := by
  match cases with
  | [] => rfl
  | .mk test body :: rest =>
    exact congrArg₂ (· ++ ·) (stmtsVarNames_rewriteStmts body h.left)
      (casesVarNames_rewriteCases rest h.right)

theorem handlerVarNames_rewriteHandler {around : Around} (handler : Option Catch)
    (h : replace.Keeps around (handlerVarNames handler)) :
    handlerVarNames (rewriteHandler replace around handler) = handlerVarNames handler := by
  match handler with
  | none => rfl
  | some (.mk span param body) => exact stmtsVarNames_rewriteStmts body ((h.enter _).enter _)

theorem finalizerVarNames_rewriteFinalizer {around : Around} (finalizer : Option (List Stmt))
    (h : replace.Keeps around (finalizerVarNames finalizer)) :
    finalizerVarNames (rewriteFinalizer replace around finalizer) =
      finalizerVarNames finalizer := by
  match finalizer with
  | none => rfl
  | some body => exact stmtsVarNames_rewriteStmts body (h.enter _)

end

theorem letNames_rewriteStmt {around : Around} (s : Stmt) (h : replace.Keeps around s.letNames) :
    (rewriteStmt replace around s).letNames = s.letNames := by
  cases s with
  | varDecl kind decls =>
    cases kind with
    | var => rfl
    | letKind | const => exact names_rewriteDeclarators decls h
  | classDecl name cls => exact congrArg (fun id : Ident => [id.name]) h.declaration
  | _ => rfl

theorem functionNames_rewriteStmt {around : Around} :
    (s : Stmt) → replace.Keeps around s.functionNames →
      (rewriteStmt replace around s).functionNames = s.functionNames
  | .fnDecl _ _, h => congrArg (fun id : Ident => [id.name]) h.declaration
  | .labeled _ body, h => functionNames_rewriteStmt body h
  | .block _, _ | .withStmt .., _ | .whileLoop .., _ | .doWhile .., _ | .ifStmt .., _
  | .switch .., _ | .tryStmt .., _ | .forLoop .., _ | .forIn .., _ | .forOf .., _
  | .varDecl .., _ | .classDecl .., _ | .expr _, _ | .empty, _ | .debugger, _ | .returnStmt _, _
  | .breakStmt _, _ | .continueStmt _, _ | .throwStmt _, _ => rfl

theorem lexicalNames_rewriteStmts {around : Around} (body : List Stmt)
    (h : replace.Keeps around (lexicalNames body)) :
    lexicalNames (rewriteStmts replace around body) = lexicalNames body := by
  induction body with
  | nil => rfl
  | cons s rest ih =>
    have hs : replace.Keeps around (s.letNames ++ s.functionNames) := h.left
    exact congrArg₂ (· ++ ·)
      (congrArg₂ (· ++ ·) (letNames_rewriteStmt s hs.left) (functionNames_rewriteStmt s hs.right))
      (ih h.right)

theorem caseNames_rewriteCases {around : Around} (cases : List Case)
    (h : replace.Keeps around (caseNames cases)) :
    caseNames (rewriteCases replace around cases) = caseNames cases := by
  induction cases with
  | nil => rfl
  | cons c rest ih =>
    cases c with
    | mk test body =>
      exact congrArg₂ (· ++ ·) (lexicalNames_rewriteStmts body h.left) (ih h.right)

/-- What a list of statements declares as the body of a function. -/
theorem bodyNames_rewriteStmts {around : Around} (body : List Stmt)
    (h : replace.Keeps around (stmtsVarNames body ++ lexicalNames body)) :
    stmtsVarNames (rewriteStmts replace around body) ++
        lexicalNames (rewriteStmts replace around body) =
      stmtsVarNames body ++ lexicalNames body :=
  congrArg₂ (· ++ ·) (stmtsVarNames_rewriteStmts body h.left)
    (lexicalNames_rewriteStmts body h.right)

theorem name_rewriteName {around : Around} (name : Option Ident)
    (h : replace.Keeps around (name.map (·.name)).toList) :
    (rewriteName replace around name).map (·.name) = name.map (·.name) := by
  cases name with
  | none => rfl
  | some id => exact congrArg (fun id : Ident => some id.name) h.declaration

end

-- ---------------------------------------------------------------------------
-- What is left alone in a factory
-- ---------------------------------------------------------------------------

namespace Factory

variable {f : Factory} {imports : List Import} {names : List String}

/-- What a scope around some code declares is not replaced in it. -/
theorem keeps_of_scope {around : Around} {scope : Scope} (hscope : scope ∈ around.scopes)
    (hnames : names ⊆ scope.declared) : (f.reference imports).Keeps around names := by
  intro inner id site binds hid _
  have hmem : scope ∈ (inner ++ around.layers).filterMap Layer.scope? := by
    rw [List.filterMap_append]
    exact List.mem_append_right _ hscope
  have hshadowed : Place.isShadowed ⟨inner ++ around.layers, id, site, binds⟩ = true :=
    List.any_eq_true.2 ⟨scope, hmem, List.contains_iff_mem.2 (hnames hid)⟩
  simp [reference, hshadowed]

theorem keeps_of_layer (f : Factory) (imports : List Import) (layer : Layer) (outer : List Layer)
    (inTarget : Bool) {scope : Scope} (hlayer : layer.scope? = some scope)
    (hnames : names ⊆ scope.declared) :
    (f.reference imports).Keeps ⟨layer :: outer, inTarget, true⟩ names :=
  keeps_of_scope (List.mem_filterMap.2 ⟨layer, List.mem_cons_self, hlayer⟩) hnames

/-- A name that is bound to no dependency is not replaced. -/
theorem keeps_of_unbound {around : Around} (h : ∀ name ∈ names, f.binding.get? name = none) :
    (f.reference imports).Keeps around names := by
  intro inner id site binds hid _
  simp [reference, h id.name hid]

/-- No static block around the place declares the name of a parameter that is bound to a
dependency. -/
def IsApart (f : Factory) (layers : List Layer) : Prop :=
  ∀ name, (f.binding.get? name).isSome → Owner.staticBlock.blockDeclares name layers = false

theorem IsApart.outer {layer : Layer} {outer : List Layer} (h : f.IsApart (layer :: outer)) :
    f.IsApart outer := by
  intro name hname
  have hlayers := h name hname
  rw [Owner.blockDeclares, Bool.or_eq_false_iff] at hlayers
  exact hlayers.2

/-- What a block declares is not replaced in it: it belongs to a function, whose scope declares it
too, or to the factory, where it is met as a declaration. -/
theorem keeps_of_block {layer : Layer} {outer : List Layer} {inTarget : Bool}
    (hlayer : layer.scope? = none) (h : Attributed (layer :: outer))
    (hapart : f.IsApart (layer :: outer))
    (howner : Owner.of (layer :: outer) = .factory → inTarget = false) :
    (f.reference imports).Keeps ⟨layer :: outer, inTarget, true⟩ layer.names := by
  cases ho : Owner.of (layer :: outer) with
  | factory =>
    obtain rfl := howner ho
    exact .of_declared (f.keepsDeclared_reference imports)
  | function scope =>
    refine keeps_of_scope (Owner.mem_scopes ho) fun name hname => ?_
    exact List.contains_iff_mem.1 (h.1 hlayer scope ho name hname)
  | staticBlock =>
    refine keeps_of_unbound fun name hname => ?_
    cases hbound : f.binding.get? name with
    | none => rfl
    | some target =>
      have hstatic := hapart name (by rw [hbound]; rfl)
      simp [Owner.blockDeclares, hlayer, hname, ho] at hstatic

end Factory

-- ---------------------------------------------------------------------------
-- Names in sight
-- ---------------------------------------------------------------------------

/-- The names that a layer of code declares for a place inside of it, variables and functions at the
top level included. -/
def Layer.visible : Layer → List String
  | .factory body => stmtsVarNames body ++ lexicalNames body
  | layer => layer.names

/-- A declaration of the word is in scope inside of these layers. -/
def declaredAround (word : String) (layers : List Layer) : Bool :=
  layers.any (·.visible.contains word)

theorem declaredAround_congr {layers layers' : List Layer} (word : String)
    (h : layers'.map Layer.visible = layers.map Layer.visible) :
    declaredAround word layers' = declaredAround word layers := by
  have hmap : ∀ layers : List Layer,
      declaredAround word layers = (layers.map Layer.visible).any (·.contains word) := by
    intro layers
    rw [declaredAround, List.any_map]
    rfl
  rw [hmap, hmap, h]

section

variable {f : Factory} {imports : List Import}

/-- The layers around rewritten code declare what the layers around the code declare. -/
theorem Mirrored.map_visible {layers' layers : List Layer}
    (h : Mirrored (f.reference imports)
      [.factory (rewriteStmts (f.reference imports) f.around f.body)] [.factory f.body]
      layers' layers)
    (hattributed : Attributed layers) (hapart : f.IsApart layers) :
    layers'.map Layer.visible = layers.map Layer.visible := by
  induction h with
  | base =>
    exact congrArg ([·]) (bodyNames_rewriteStmts f.body
      (.of_declared (f.keepsDeclared_reference imports)))
  | @function _ outer h span own params body part inTarget ih =>
    refine congrArg₂ List.cons ?_ (ih hattributed.2 hapart.outer)
    have hown := name_rewriteName own (Factory.keeps_of_layer f imports
      (.function span own params body .params) outer inTarget rfl (by simp [Scope.ofFunction]))
    have hparams := patNames_rewritePats params (Factory.keeps_of_layer f imports
      (.function span own params body .params) outer inTarget rfl (by simp [Scope.ofFunction]))
    have hbody := bodyNames_rewriteStmts body (Factory.keeps_of_layer f imports
      (.function span own params body .body) outer inTarget rfl
      (List.Subset.trans (varNames_append_lexicalNames_subset body) (List.subset_append_right _ _)))
    cases part with
    | key => rfl
    | params => simp only [Layer.visible, Layer.names, hown, hparams]
    | body => simp only [Layer.visible, Layer.names, hown, hparams, hbody]
  | @arrow _ outer h span params body part ih =>
    refine congrArg₂ List.cons ?_ (ih hattributed.2 hapart.outer)
    have hparams := patNames_rewritePats params (Factory.keeps_of_layer f imports
      (.arrow span params body .params) outer false rfl (by simp [Scope.ofFunction]))
    have hbody := bodyNames_rewriteStmts body (Factory.keeps_of_layer f imports
      (.arrow span params body .body) outer false rfl
      (List.Subset.trans (varNames_append_lexicalNames_subset body) (List.subset_append_right _ _)))
    cases part with
    | key | params => exact hparams
    | body => simp only [Layer.visible, Layer.names, hparams, hbody]
  | arrowExpr h span params ih =>
    refine congrArg₂ List.cons ?_ (ih hattributed.2 hapart.outer)
    exact patNames_rewritePats params (Factory.keeps_of_layer f imports (.arrowExpr span params) _
      false rfl (List.Subset.refl _))
  | @namedClass _ outer h name cls inTarget ih =>
    refine congrArg₂ List.cons ?_ (ih hattributed.2 hapart.outer)
    have hname := Factory.keeps_of_layer f imports (.namedClass name cls) outer inTarget rfl
      (List.Subset.refl [name.name])
    exact congrArg (fun id : Ident => [id.name]) hname.declaration
  | handler h span param inTarget ih =>
    refine congrArg₂ List.cons ?_ (ih hattributed.2 hapart.outer)
    cases param with
    | none => rfl
    | some param =>
      exact names_rewritePat param (Factory.keeps_of_layer f imports (.handler span (some param)) _
        inTarget rfl (List.Subset.refl _))
  | block h howner body ih =>
    refine congrArg₂ List.cons ?_ (ih hattributed.2 hapart.outer)
    exact lexicalNames_rewriteStmts body (Factory.keeps_of_block rfl hattributed hapart howner)
  | loop h howner kind decls ih =>
    cases kind with
    | var => exact ih hattributed hapart
    | letKind | const =>
      refine congrArg₂ List.cons ?_ (ih hattributed.2 hapart.outer)
      exact names_rewriteDeclarators decls (Factory.keeps_of_block rfl hattributed hapart howner)
  | switch h howner cases ih =>
    refine congrArg₂ List.cons ?_ (ih hattributed.2 hapart.outer)
    exact caseNames_rewriteCases cases (Factory.keeps_of_block rfl hattributed hapart howner)
  | staticBlock h body inTarget ih =>
    refine congrArg₂ List.cons ?_ (ih hattributed.2 hapart.outer)
    refine bodyNames_rewriteStmts body (Factory.keeps_of_block rfl hattributed hapart ?_)
    intro howner
    cases howner

end

-- ---------------------------------------------------------------------------
-- Written words
-- ---------------------------------------------------------------------------

/-- The words that the walk writes into modules. In a module they mean what they mean outside of it,
unless it declares them. -/
def ambientWords : List String :=
  ["require", "exports", "undefined"]

/-- An identifier of a module: where it stems from, and which word the walk writes for it. The names
of imports do not count. -/
structure Writing where
  place : Place
  word? : Option String

/-- The word that stands for a parameter. -/
def Replacement.word? : Replacement → Option String
  | .reserved word => some word
  | .keep | .imported _ => none

def Step.writing? (replace : Replacing) : Step → Option Writing
  | .ident place => some ⟨place, (replace place).word?⟩
  | .undefined place => some ⟨place, some "undefined"⟩
  | .enter _ | .leave _ => none

/-- The identifiers of the module of a factory, in order, as they come about. -/
def Factory.writings (f : Factory) (imports : List Import) : List Writing :=
  (stepsStmts f.around f.body).filterMap (Step.writing? (f.reference imports))

/-- The identifiers of the statements of a module, in order, as they stand there. -/
def moduleSightings (body : List Stmt) : List Sighting :=
  sightings (fun _ => .keep) (stepsStmts ⟨[.factory body], false, true⟩ body)

theorem exists_getElem?_of_forall₂ {α β : Type} {R : α → β → Prop} {as : List α} {bs : List β}
    (h : List.Forall₂ R as bs) {n : Nat} {b : β} (hb : bs[n]? = some b) :
    ∃ a, as[n]? = some a ∧ R a b := by
  obtain ⟨hn, rfl⟩ := List.getElem?_eq_some_iff.1 hb
  have hn' : n < as.length := h.length_eq ▸ hn
  exact ⟨as[n], List.getElem?_eq_getElem hn', h.get hn' hn⟩

namespace Factory

variable {f : Factory} {imports : List Import}

/-- A word is written where a name is used, not where it is declared. -/
theorem isUse_of_reserved {place : Place} {word : String}
    (h : f.reference imports place = .reserved word) : place.isUse = true := by
  by_contra hdeclares
  rw [Bool.not_eq_true] at hdeclares
  rw [f.keepsDeclared_reference imports place hdeclares] at h
  cases h

/-- What a written word looks like at the place that it comes from. -/
def Witnesses (s : Sighting) (w : Writing) : Prop :=
  ∀ word, w.word? = some word →
    word ∈ ambientWords ∧ s = ⟨w.place.layers, word, true⟩ ∧ Attributed w.place.layers

theorem witnesses_step {step : Step} (hstep : step ∈ stepsStmts f.around f.body) :
    Option.Rel Witnesses (step.sighting? (f.reference imports))
      (step.writing? (f.reference imports)) := by
  cases step with
  | enter scope | leave scope => exact .none
  | undefined place =>
    refine .some fun word hword => ?_
    cases hword
    exact ⟨by simp [ambientWords], rfl, attributed_spot hstep rfl⟩
  | ident place =>
    refine .some fun word hword => ?_
    cases hr : f.reference imports place with
    | keep | imported name => simp [hr, Replacement.word?] at hword
    | reserved written =>
      obtain rfl : written = word := by simpa [hr, Replacement.word?] using hword
      refine ⟨?_, ?_, attributed_spot hstep rfl⟩
      · rcases reference_reserved hr with rfl | rfl <;> simp [ambientWords]
      · simp [rewriteIdent, hr, Replacement.rename, isUse_of_reserved hr]

theorem witnesses_writings (f : Factory) (imports : List Import) :
    List.Forall₂ Witnesses
      (sightings (f.reference imports) (stepsStmts f.around f.body)) (f.writings imports) := by
  have hsteps : List.Forall₂ (fun step step' => step = step' ∧ step ∈ stepsStmts f.around f.body)
      (stepsStmts f.around f.body) (stepsStmts f.around f.body) :=
    List.forall₂_same.2 fun step hstep => ⟨rfl, hstep⟩
  refine List.rel_filterMap ?_ hsteps
  rintro step _ ⟨rfl, hstep⟩
  exact witnesses_step hstep

/-- The identifiers of the module are those that the rewrite writes, with the layers around them
rewritten. -/
theorem mirrors_moduleSightings (f : Factory) (replace : Replacing) :
    List.Forall₂
      (Sighting.Mirrors replace [.factory (rewriteStmts replace f.around f.body)]
        [.factory f.body])
      (moduleSightings (rewriteStmts replace f.around f.body))
      (sightings replace (stepsStmts f.around f.body)) :=
  mirrors_stepsStmts .base (fun _ => rfl) f.body

end Factory

/-- A word that the walk writes into a module is captured there by a declaration just where the
factory declares that word in scope already, and no import has such a name. Nothing is said of
places inside of a static block that declares a parameter again. -/
theorem written_words_captured_iff {σ ε : Type} {sink : Sink σ ε} {settings : Settings} {start : σ}
    {script : Script} {k : Nat} {f : Factory} {m : Module}
    (hf : script.definitions[k]? = some (.module f))
    (hm : (handed sink settings start script)[k]? = some m) :
    ∃ imports body,
      m = ⟨f.name, .code imports body⟩ ∧
        (∀ i ∈ imports, ∀ isDefault name, i.name? isDefault = some name →
          name ∉ ambientWords) ∧
        ∀ (n : Nat) (place : Place) (word : String),
          (f.writings imports)[n]? = some ⟨place, some word⟩ →
          word ∈ ambientWords ∧
            ∃ layers,
              (moduleSightings body)[n]? = some ⟨layers, word, true⟩ ∧
                (f.IsApart place.layers →
                  declaredAround word layers = declaredAround word place.layers) := by
  refine ⟨f.locals.imports, _, (toModule_of_handed hf hm).trans f.module_eq_rewrite, ?_, ?_⟩
  · intro i hi isDefault name hname hmem
    have hcapital := Factory.startsSmall_local (Locals.mem_entries_of_import hi hname)
    simp only [ambientWords, List.mem_cons, List.not_mem_nil, or_false] at hmem
    rcases hmem with rfl | rfl | rfl <;> cases hcapital
  · intro n place word hn
    obtain ⟨s, hs, hwitness⟩ :=
      exists_getElem?_of_forall₂ (f.witnesses_writings f.locals.imports) hn
    obtain ⟨hword, rfl, hattributed⟩ := hwitness word rfl
    obtain ⟨⟨layers, name, isUse⟩, hs', hmirrors⟩ :=
      exists_getElem?_of_forall₂ (f.mirrors_moduleSightings _) hs
    obtain rfl : name = word := hmirrors.name
    obtain rfl : isUse = true := hmirrors.isUse
    refine ⟨hword, layers, hs', fun hapart => ?_⟩
    exact declaredAround_congr name (hmirrors.layers.map_visible hattributed hapart)

/-- `function (r) { function f(require) { return r('x'); } }` -/
def capturingSample : Factory where
  name := "m"
  dependencies := ["require"]
  own := none
  span := ⟨26, 81⟩
  params := [.ident ⟨"r", ⟨36, 37⟩⟩]
  body :=
    [.fnDecl ⟨"f", ⟨50, 51⟩⟩ (.mk ⟨41, 79⟩ false false [.ident ⟨"require", ⟨52, 59⟩⟩]
      [.returnStmt (some (.call ⟨70, 76⟩ (.ident ⟨"r", ⟨70, 71⟩⟩)
        [.lit ⟨72, 75⟩ (.str "'x'" "x")]))])]

theorem written_words_captured_iff_capturingSample :
    ∃ imports body,
      capturingSample.module = ⟨"m", .code imports body⟩ ∧
        (∀ i ∈ imports, ∀ isDefault name, i.name? isDefault = some name → name ∉ ambientWords) ∧
        ∀ (n : Nat) (place : Place) (word : String),
          (capturingSample.writings imports)[n]? = some ⟨place, some word⟩ →
            word ∈ ambientWords ∧
              ∃ layers,
                (moduleSightings body)[n]? = some ⟨layers, word, true⟩ ∧
                  (capturingSample.IsApart place.layers →
                    declaredAround word layers = declaredAround word place.layers) :=
  written_words_captured_iff
    (show capturingSample.script.definitions[0]? = some (.module capturingSample) from rfl)
    (handed_of_definitions rfl)

/-- In the module of `capturingSample`, the parameter of `f` captures the word `require` that is put
in place of `r`. -/
theorem capturingSample_captures_require :
    (handed keepAll ⟨none, .none⟩ [] capturingSample.script)[0]? =
        some ⟨"m", .code []
          [.fnDecl ⟨"f", ⟨50, 51⟩⟩ (.mk ⟨41, 79⟩ false false [.ident ⟨"require", ⟨52, 59⟩⟩]
            [.returnStmt (some (.call ⟨70, 76⟩ (.ident ⟨"require", ⟨70, 71⟩⟩)
              [.lit ⟨72, 75⟩ (.str "'x'" "x")]))])]⟩ ∧
      ¬ ∀ (n : Nat) (place : Place) (word : String) (layers : List Layer),
        (capturingSample.writings [])[n]? = some ⟨place, some word⟩ →
          (moduleSightings
            [.fnDecl ⟨"f", ⟨50, 51⟩⟩ (.mk ⟨41, 79⟩ false false [.ident ⟨"require", ⟨52, 59⟩⟩]
              [.returnStmt (some (.call ⟨70, 76⟩ (.ident ⟨"require", ⟨70, 71⟩⟩)
                [.lit ⟨72, 75⟩ (.str "'x'" "x")]))])])[n]? = some ⟨layers, word, true⟩ →
            declaredAround word layers = false := by
  constructor
  · rw [handed_of_definitions rfl]
    rfl
  · intro h
    have hfree := h 2 _ "require" _ rfl rfl
    exact absurd hfree (by decide)

end Unbundle.Engine

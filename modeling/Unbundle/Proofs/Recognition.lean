-- SUMMARY: A call defines a module exactly if its arguments are described with the shape of a definition.
import Unbundle.Log
import Unbundle.Proofs.Defining

/-!
# Recognition and description

Whether arguments define a module (`moduleDefinition?`) and how arguments are described in a diagnostic
(`describeArgument`) are decided apart from each other. They agree: an argument is described as an
array, or as a function, without more, exactly if it is what a definition wants in this place
(`describeArgument_cases`). No description holds a comma, so those of the last two arguments can be
read back from a diagnostic, whatever the name in front of them is.
-/

namespace Unbundle.Amd

open Script

/-- How the arguments of a definition are described. -/
def acceptedShape (name : String) : String :=
  s!"'{name}', ArrayExpression, FunctionExpression"

/-- What a call of `callee` with these arguments defines, with modules tried before text assets. -/
def recognizeModuleFirst (callee : Expr) (args : List Expr) : Recognized :=
  if !isDefine callee then .other
  else match moduleDefinition? args with
    | some definition => .module definition
    | none =>
      match textAsset? args with
      | some (path, text) => .textAsset path text
      | none => .unhandled (describeArguments args)

/-- The argument is an array of strings. -/
inductive IsDependencies : Expr → Prop where
  | mk (span : Span) {elems : List Expr} (helems : ∀ e ∈ elems, (stringValue? e).isSome) :
    IsDependencies (.array span elems)

/-- The argument is a function with parameters, all of them plain names. -/
inductive IsFactory : Expr → Prop where
  | mk (own : Option Ident) (span : Span) (isAsync isGenerator : Bool) {params : List Pat}
    (body : List Stmt) (hne : params ≠ []) (hparams : ∀ p ∈ params, (paramName? p).isSome) :
    IsFactory (.fn own (.mk span isAsync isGenerator params body))

-- ---------------------------------------------------------------------------
-- Values of all items
-- ---------------------------------------------------------------------------

section

variable {α β : Type} {f : α → Option β} {items : List α}

theorem exists_mapM (h : ∀ a ∈ items, (f a).isSome) : ∃ values, items.mapM f = some values := by
  induction items with
  | nil => exact ⟨[], rfl⟩
  | cons item rest ih =>
    obtain ⟨value, hvalue⟩ := Option.isSome_iff_exists.1 (h item List.mem_cons_self)
    obtain ⟨values, hvalues⟩ := ih fun a ha => h a (List.mem_cons_of_mem _ ha)
    exact ⟨value :: values, by simp [hvalue, hvalues]⟩

end

-- ---------------------------------------------------------------------------
-- Descriptions
-- ---------------------------------------------------------------------------

/-- The descriptions of arguments that no definition has after its name. -/
def otherDescriptions : List String :=
  ["SpreadElement", "ArrayExpression(non-string elements)", "FunctionExpression(no parameters)",
    "FunctionExpression(non-identifier parameters)", "Literal", "ObjectExpression",
    "ArrowFunctionExpression", "Identifier", "CallExpression", "MemberExpression",
    "ParenthesizedExpression", "ClassExpression", "Expression"]

theorem describeArgument_of_isDependencies {e : Expr} (h : IsDependencies e) :
    describeArgument e = "ArrayExpression" := by
  obtain ⟨span, helems⟩ := h
  rw [describeArgument, if_pos (List.all_eq_true.2 helems)]
  rfl

theorem describeArgument_of_isFactory {e : Expr} (h : IsFactory e) :
    describeArgument e = "FunctionExpression" := by
  obtain ⟨own, span, isAsync, isGenerator, body, hne, hparams⟩ := h
  rw [describeArgument, if_neg (by simpa using hne), if_pos (List.all_eq_true.2 hparams)]
  rfl

theorem describeArgument_array (span : Span) (elems : List Expr) :
    IsDependencies (.array span elems) ∨
      describeArgument (.array span elems) ∈ otherDescriptions := by
  by_cases helems : elems.all fun e => (stringValue? e).isSome
  · exact .inl (.mk span (List.all_eq_true.1 helems))
  · rw [describeArgument, if_neg helems]
    exact .inr (by decide)

theorem describeArgument_fn (own : Option Ident) (f : Function) :
    IsFactory (.fn own f) ∨ describeArgument (.fn own f) ∈ otherDescriptions := by
  obtain ⟨span, isAsync, isGenerator, params, body⟩ := f
  by_cases hempty : params.isEmpty
  · rw [describeArgument, if_pos hempty]
    exact .inr (by decide)
  · by_cases hparams : params.all fun p => (paramName? p).isSome
    · exact .inl (.mk own span isAsync isGenerator body (by simpa using hempty)
        (List.all_eq_true.1 hparams))
    · rw [describeArgument, if_neg hempty, if_neg hparams]
      exact .inr (by decide)

theorem stringValue?_eq_some {e : Expr} {value : String} :
    stringValue? e = some value ↔ ∃ span raw, e = .lit span (.str raw value) := by
  constructor
  · intro h
    unfold stringValue? at h
    split at h
    · cases h
      exact ⟨_, _, rfl⟩
    · cases h
  · rintro ⟨span, raw, rfl⟩
    rfl

theorem exprKind_member (span : Span) (object : Expr) (key : Key) :
    exprKind (.member span object key) ∈ otherDescriptions := by
  simp only [exprKind]
  split <;> decide

/-- An argument is what a definition wants in its second or third place, or is described otherwise. -/
theorem describeArgument_cases (e : Expr) :
    IsDependencies e ∨ IsFactory e ∨ describeArgument e ∈ otherDescriptions := by
  cases e with
  | array span elems => exact (describeArgument_array span elems).imp_right .inr
  | fn own f => exact .inr (describeArgument_fn own f)
  | member span object key => exact .inr (.inr (exprKind_member span object key))
  | _ => exact .inr (.inr (by simp [describeArgument, exprKind, otherDescriptions]))

theorem isDependencies_iff {e : Expr} :
    IsDependencies e ↔ describeArgument e = "ArrayExpression" := by
  refine ⟨describeArgument_of_isDependencies, ?_⟩
  intro h
  rcases describeArgument_cases e with hdeps | hfactory | hother
  · exact hdeps
  · rw [describeArgument_of_isFactory hfactory] at h
    exact absurd h (by decide)
  · rw [h] at hother
    exact absurd hother (by decide)

theorem isFactory_iff {e : Expr} : IsFactory e ↔ describeArgument e = "FunctionExpression" := by
  refine ⟨describeArgument_of_isFactory, ?_⟩
  intro h
  rcases describeArgument_cases e with hdeps | hfactory | hother
  · rw [describeArgument_of_isDependencies hdeps] at h
    exact absurd h (by decide)
  · exact hfactory
  · rw [h] at hother
    exact absurd hother (by decide)

theorem comma_notMem_describeArgument (e : Expr) : ',' ∉ (describeArgument e).toList := by
  have hothers : ∀ s ∈ otherDescriptions, ',' ∉ s.toList := by decide
  rcases describeArgument_cases e with hdeps | hfactory | hother
  · rw [describeArgument_of_isDependencies hdeps]
    decide
  · rw [describeArgument_of_isFactory hfactory]
    decide
  · exact hothers _ hother

-- ---------------------------------------------------------------------------
-- Joined descriptions
-- ---------------------------------------------------------------------------

/-- What stands before the first comma of a text, and what stands behind it. -/
theorem append_comma_inj {xs ys xs' ys' : List Char} (hxs : ',' ∉ xs) (hxs' : ',' ∉ xs')
    (h : xs ++ ',' :: ys = xs' ++ ',' :: ys') : xs = xs' ∧ ys = ys' := by
  induction xs generalizing xs' with
  | nil =>
    cases xs' with
    | nil => exact ⟨rfl, (List.cons.inj h).2⟩
    | cons c xs' =>
      obtain ⟨rfl, -⟩ := List.cons.inj h
      exact absurd List.mem_cons_self hxs'
  | cons c xs ih =>
    cases xs' with
    | nil =>
      obtain ⟨rfl, -⟩ := List.cons.inj h
      exact absurd List.mem_cons_self hxs
    | cons c' xs' =>
      obtain ⟨rfl, htail⟩ := List.cons.inj h
      obtain ⟨rfl, rfl⟩ := ih (fun hmem => hxs (List.mem_cons_of_mem _ hmem))
        (fun hmem => hxs' (List.mem_cons_of_mem _ hmem)) htail
      exact ⟨rfl, rfl⟩

/-- The last description can be read back from joined descriptions. -/
theorem append_separator_inj {front front' last last' : String} (hlast : ',' ∉ last.toList)
    (hlast' : ',' ∉ last'.toList) (h : front ++ ", " ++ last = front' ++ ", " ++ last') :
    front = front' ∧ last = last' := by
  have hlist := congrArg (fun s => s.toList.reverse) h
  simp only [String.toList_append, List.reverse_append] at hlist
  have hsep : ", ".toList.reverse = [' ', ','] := by decide
  rw [hsep] at hlist
  have hcomma {s : String} (hs : ',' ∉ s.toList) : ',' ∉ s.toList.reverse ++ [' '] := by
    simpa using hs
  obtain ⟨hend, hfront⟩ := append_comma_inj (hcomma hlast) (hcomma hlast')
    (by simpa using hlist)
  exact ⟨by simpa [String.toList_inj] using hfront, by simpa [String.toList_inj] using hend⟩

theorem acceptedShape_eq (name : String) :
    acceptedShape name = s!"'{name}'" ++ ", " ++ "ArrayExpression" ++ ", " ++ "FunctionExpression" := by
  have hend : "', ArrayExpression, FunctionExpression" =
      "'" ++ ", " ++ "ArrayExpression" ++ ", " ++ "FunctionExpression" := by decide
  change "'" ++ name ++ "', ArrayExpression, FunctionExpression" =
    "'" ++ name ++ "'" ++ _ ++ _ ++ _ ++ _
  simp only [hend, String.append_assoc]

theorem describeArguments_three {name deps factory : Expr} {value : String}
    (hname : stringValue? name = some value) :
    describeArguments [name, deps, factory] =
      s!"'{value}'" ++ ", " ++ describeArgument deps ++ ", " ++ describeArgument factory := by
  simp only [describeArguments, hname]
  rfl

/-- Three arguments, of which the first is a string, are described with the shape of a definition only
if the other two are described as its array and its function. -/
theorem describeArguments_eq_acceptedShape {name deps factory : Expr} {value n : String}
    (hname : stringValue? name = some value)
    (h : describeArguments [name, deps, factory] = acceptedShape n) :
    describeArgument deps = "ArrayExpression" ∧ describeArgument factory = "FunctionExpression" := by
  rw [describeArguments_three hname, acceptedShape_eq] at h
  obtain ⟨hfront, hfactory⟩ := append_separator_inj (comma_notMem_describeArgument factory)
    (by decide) h
  obtain ⟨-, hdeps⟩ := append_separator_inj (comma_notMem_describeArgument deps) (by decide) hfront
  exact ⟨hdeps, hfactory⟩

-- ---------------------------------------------------------------------------
-- Definitions
-- ---------------------------------------------------------------------------

/-- The arguments are a string, an array of strings, and a function with plain parameters. -/
theorem exists_moduleDefinition?_iff {args : List Expr} :
    (∃ d, moduleDefinition? args = some d) ↔
      ∃ name deps factory, args = [name, deps, factory] ∧
        (∃ span raw value, name = .lit span (.str raw value)) ∧
        IsDependencies deps ∧ IsFactory factory := by
  constructor
  · rintro ⟨d, h⟩
    obtain ⟨name, span, elems, own, at_, isAsync, isGenerator, params, body, rfl, hname, hdeps,
      hparams, hne⟩ := Engine.moduleDefinition?_eq_some_iff.1 h
    obtain ⟨atName, raw, rfl⟩ := stringValue?_eq_some.1 hname
    refine ⟨_, _, _, rfl, ⟨atName, raw, d.name, rfl⟩, .mk span (Engine.isSome_of_mapM hdeps),
      .mk own at_ isAsync isGenerator body ?_ (Engine.isSome_of_mapM hparams)⟩
    rintro rfl
    exact hne (Option.some.inj hparams).symm
  · rintro ⟨_, _, _, rfl, ⟨atName, raw, value, rfl⟩, ⟨span, helems⟩,
      ⟨own, at_, isAsync, isGenerator, body, hne, hparams⟩⟩
    obtain ⟨dependencies, hdeps⟩ := exists_mapM helems
    obtain ⟨names, hnames⟩ := exists_mapM hparams
    refine ⟨⟨value, dependencies, names⟩, Engine.moduleDefinition?_eq_some_iff.2
      ⟨_, span, _, own, at_, isAsync, isGenerator, _, body, rfl, rfl, hdeps, hnames, ?_⟩⟩
    rintro rfl
    exact hne (by simpa using Engine.mapM_eq_some_iff.1 hnames)

/-- A text asset has a factory without parameters. -/
theorem textAsset?_of_moduleDefinition? {args : List Expr} {d : Definition}
    (h : moduleDefinition? args = some d) : textAsset? args = none := by
  obtain ⟨name, span, elems, own, at_, isAsync, isGenerator, params, body, rfl, -, -, hparams, hne⟩ :=
    Engine.moduleDefinition?_eq_some_iff.1 h
  unfold textAsset?
  split
  · rename_i heq
    cases heq
    exact absurd (Option.some.inj hparams).symm hne
  · rfl

theorem recognize_eq_recognizeModuleFirst (callee : Expr) (args : List Expr) :
    recognize callee args = recognizeModuleFirst callee args := by
  unfold recognize recognizeModuleFirst
  cases hmodule : moduleDefinition? args with
  | some d => rw [textAsset?_of_moduleDefinition? hmodule]
  | none => rfl

theorem recognize_eq_unhandled {callee : Expr} {args : List Expr} {text : String}
    (h : recognize callee args = .unhandled text) :
    moduleDefinition? args = none ∧ text = describeArguments args := by
  unfold recognize at h
  split at h
  · cases h
  · split at h
    · cases h
    · split at h
      · cases h
      · rename_i hmodule
        cases h
        exact ⟨hmodule, rfl⟩

/-- Diagnostics about different arguments are different. -/
theorem unhandledDefine_inj {text text' : String}
    (h : (Event.unhandledDefine text).message = (Event.unhandledDefine text').message) :
    text = text' := by
  change "Unhandled define() case: define(" ++ text ++ ")" =
    "Unhandled define() case: define(" ++ text' ++ ")" at h
  simpa using h

/-- A list of arguments defines a module just if there are three, the first is a string, and the other
two are described as an array and as a function without more; it is then described with this shape,
and the definition holds the values of the array and the names of the parameters, in order. A call
that is reported as unhandled, with a string and two more arguments, is never described with this
shape. No arguments define both a module and a text asset, so it does not matter which is tried
first. -/
theorem recognized_iff_described (args : List Expr) :
    ((∃ d, moduleDefinition? args = some d) ↔
        ∃ name deps factory, args = [name, deps, factory] ∧
          (∃ span raw value, name = .lit span (.str raw value)) ∧
          describeArgument deps = "ArrayExpression" ∧
          describeArgument factory = "FunctionExpression") ∧
      (∀ d, moduleDefinition? args = some d →
        describeArguments args = acceptedShape d.name ∧
          ∃ atName raw atArray elems own atFunction isAsync isGenerator params body,
            args = [.lit atName (.str raw d.name), .array atArray elems,
                .fn own (.mk atFunction isAsync isGenerator params body)] ∧
              d.dependencies.length = elems.length ∧ d.params.length = params.length ∧
              elems.map stringValue? = d.dependencies.map some ∧
              params.map paramName? = d.params.map some) ∧
      (∀ callee text span raw value deps factory,
        args = [.lit span (.str raw value), deps, factory] →
          recognize callee args = .unhandled text →
          ∀ name, (Event.unhandledDefine text).message ≠
            (Event.unhandledDefine (acceptedShape name)).message) ∧
      (moduleDefinition? args = none ∨ textAsset? args = none) ∧
      ∀ callee, recognize callee args = recognizeModuleFirst callee args := by
  have haccepted := @exists_moduleDefinition?_iff args
  simp only [isDependencies_iff, isFactory_iff] at haccepted
  refine ⟨haccepted, ?_, ?_, ?_, fun callee => recognize_eq_recognizeModuleFirst callee args⟩
  · intro d hd
    obtain ⟨name, atArray, elems, own, atFunction, isAsync, isGenerator, params, body, rfl, hname,
      hdeps, hparams, -⟩ := Engine.moduleDefinition?_eq_some_iff.1 hd
    have helems := Engine.mapM_eq_some_iff.1 hdeps
    have hnames := Engine.mapM_eq_some_iff.1 hparams
    refine ⟨?_, ?_⟩
    · obtain ⟨_, _, _, heq, -, hsecond, hthird⟩ := haccepted.1 ⟨d, hd⟩
      cases heq
      rw [describeArguments_three hname, hsecond, hthird, acceptedShape_eq]
    · obtain ⟨atName, raw, rfl⟩ := stringValue?_eq_some.1 hname
      exact ⟨atName, raw, atArray, elems, own, atFunction, isAsync, isGenerator, params, body, rfl,
        by simpa using (congrArg List.length helems).symm,
        by simpa using (congrArg List.length hnames).symm, helems, hnames⟩
  · rintro callee text span raw value deps factory rfl hunhandled name hmessage
    obtain ⟨hnone, rfl⟩ := recognize_eq_unhandled hunhandled
    obtain ⟨hsecond, hthird⟩ := describeArguments_eq_acceptedShape (n := name) rfl
      (unhandledDefine_inj hmessage)
    obtain ⟨d, hd⟩ := haccepted.2 ⟨_, deps, factory, rfl, ⟨span, raw, value, rfl⟩, hsecond, hthird⟩
    rw [hnone] at hd
    cases hd
  · cases hmodule : moduleDefinition? args with
    | none => exact .inl rfl
    | some d => exact .inr (textAsset?_of_moduleDefinition? hmodule)

/-- The arguments of `define('m', ['a'], function (x) {})`, and the same with one more dependency. -/
def argumentSample (more : List Expr) : List Expr :=
  [.lit ⟨8, 11⟩ (.str "'m'" "m"), .array ⟨13, 18⟩ (.lit ⟨14, 17⟩ (.str "'a'" "a") :: more),
    .fn none (.mk ⟨20, 35⟩ false false [.ident ⟨"x", ⟨30, 31⟩⟩] [])]

/-- The first sample is described as it is accepted; with a name among the dependencies it is unhandled
and described otherwise. -/
theorem recognized_iff_described_sample :
    let callee : Expr := .ident ⟨"define", ⟨1, 7⟩⟩
    let name : Expr := .ident ⟨"b", ⟨18, 19⟩⟩
    let text := "'m', ArrayExpression(non-string elements), FunctionExpression"
    moduleDefinition? (argumentSample []) = some ⟨"m", ["a"], ["x"]⟩ ∧
      describeArguments (argumentSample []) = acceptedShape "m" ∧
      recognize callee (argumentSample [name]) = .unhandled text ∧
      (Event.unhandledDefine text).message ≠
        (Event.unhandledDefine (acceptedShape "m")).message := by
  intro callee name text
  have hmodule : moduleDefinition? (argumentSample []) = some ⟨"m", ["a"], ["x"]⟩ := rfl
  have hunhandled : recognize callee (argumentSample [name]) = .unhandled text := by decide
  obtain ⟨-, hdescribed, -⟩ := recognized_iff_described (argumentSample [])
  obtain ⟨-, -, hreported, -⟩ := recognized_iff_described (argumentSample [name])
  exact ⟨hmodule, (hdescribed _ hmodule).1, hunhandled,
    hreported callee text _ _ _ _ _ rfl hunhandled "m"⟩

end Unbundle.Amd

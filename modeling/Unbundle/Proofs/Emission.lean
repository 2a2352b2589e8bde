-- SUMMARY: What a run hands to its sink: a prefix of the modules of its script.
import Unbundle.Engine
import Unbundle.Proofs.Findings
import Unbundle.Proofs.Outside

/-!
# Emission

A run hands the modules of a script to its sink. `handed` is the record of what the sink is called
with, in order; it is obtained by running the same script with a sink that takes notes. `run_emits`
says that this is a prefix of the modules of the script's definitions, and where it ends.
-/

namespace Unbundle.Engine

open Script

variable {σ ε : Type}

-- ---------------------------------------------------------------------------
-- Sinks
-- ---------------------------------------------------------------------------

namespace Sink

/-- The state of a sink that has received these modules. -/
def feed (sink : Sink σ ε) (start : σ) (modules : List Module) : σ :=
  modules.foldl (fun s m => (sink s m).state) start

/-- A sink refuses none of these modules. -/
def Accepts (sink : Sink σ ε) : σ → List Module → Prop
  | _, [] => True
  | s, m :: rest => (sink s m).refusal = none ∧ Accepts sink (sink s m).state rest

/-- A sink that does the same and takes notes of what it receives. -/
def recording (sink : Sink σ ε) : Sink (σ × List Module) ε :=
  fun s m => ⟨((sink s.1 m).state, s.2 ++ [m]), (sink s.1 m).events, (sink s.1 m).refusal⟩

variable (sink : Sink σ ε) (s : σ)

@[simp] theorem feed_nil : sink.feed s [] = s := rfl

@[simp] theorem feed_cons (m : Module) (rest : List Module) :
    sink.feed s (m :: rest) = sink.feed (sink s m).state rest := rfl

@[simp] theorem accepts_nil : sink.Accepts s [] ↔ True := Iff.rfl

@[simp] theorem accepts_cons (m : Module) (rest : List Module) :
    sink.Accepts s (m :: rest) ↔
      (sink s m).refusal = none ∧ sink.Accepts (sink s m).state rest := Iff.rfl

@[simp] theorem feed_append (modules rest : List Module) :
    sink.feed s (modules ++ rest) = sink.feed (sink.feed s modules) rest :=
  List.foldl_append ..

@[simp] theorem accepts_append (modules rest : List Module) :
    sink.Accepts s (modules ++ rest) ↔
      sink.Accepts s modules ∧ sink.Accepts (sink.feed s modules) rest := by
  induction modules generalizing s with
  | nil => simp
  | cons m modules ih => simp [ih, and_assoc]

end Sink

-- ---------------------------------------------------------------------------
-- Offers
-- ---------------------------------------------------------------------------

namespace Progress

/-- Progress without the notes of the sink. -/
def forget (p : Progress (σ × List Module) ε) : Progress σ ε :=
  ⟨p.sink.1, p.emitted, p.stopped, p.refusal⟩

variable (sink : Sink σ ε) (limit : Option Nat)

theorem forget_offer (p : Progress (σ × List Module) ε) (m : Module) :
    (p.offer sink.recording limit m).forget = p.forget.offer sink limit m := by
  unfold offer
  by_cases hp : p.stopped
  · rw [if_pos hp, if_pos (show p.forget.stopped from hp)]
  · rw [if_neg hp, if_neg (show ¬ p.forget.stopped from hp)]
    cases hr : (sink p.sink.1 m).refusal with
    | some refusal => simp only [forget, Sink.recording, hr]
    | none =>
      simp only [forget, Sink.recording, hr]
      rfl

/-- Taking notes changes nothing else. -/
theorem forget_offerAll (p : Progress (σ × List Module) ε) (modules : List Module) :
    (p.offerAll sink.recording limit modules).forget = p.forget.offerAll sink limit modules := by
  induction modules generalizing p with
  | nil => rfl
  | cons m rest ih => rw [offerAll_cons, offerAll_cons, ih, forget_offer]

/-- A sink that takes notes has received a prefix of what it is offered. The prefix ends where the
limit is reached, at the first module that is refused, or where there are no more modules. -/
theorem offerAll_recording {p : Progress (σ × List Module) ε} (modules : List Module)
    (hstopped : p.stopped = false) (hrefusal : p.refusal = none)
    (hroom : ∀ n, limit = some n → p.emitted < n) :
    let q := p.offerAll sink.recording limit modules
    ∃ handed,
      handed <+: modules ∧ q.sink = (sink.feed p.sink.1 handed, p.sink.2 ++ handed) ∧
        (sink.Accepts p.sink.1 handed ∧ q.refusal = none ∧ q.emitted = p.emitted + handed.length ∧
            handed.length =
              limit.elim modules.length (fun n => min (n - p.emitted) modules.length) ∨
          ∃ accepted m refusal,
            handed = accepted ++ [m] ∧ sink.Accepts p.sink.1 accepted ∧
              (sink (sink.feed p.sink.1 accepted) m).refusal = some refusal ∧
              q.refusal = some refusal ∧
              ∀ n, limit = some n → p.emitted + accepted.length < n) := by
  induction modules generalizing p with
  | nil =>
    refine ⟨[], List.prefix_refl _, by simp, .inl ⟨trivial, hrefusal, rfl, ?_⟩⟩
    cases limit <;> simp
  | cons m rest ih =>
    simp only [offerAll_cons]
    cases hm : (sink p.sink.1 m).refusal with
    | some refusal =>
      have hoffer : p.offer sink.recording limit m =
          ⟨((sink p.sink.1 m).state, p.sink.2 ++ [m]), p.emitted, true, some refusal⟩ := by
        simp [offer, hstopped, Sink.recording, hm]
      rw [hoffer, offerAll_of_stopped _ _ rfl]
      exact ⟨[m], by simp, rfl, .inr ⟨[], m, refusal, rfl, trivial, hm, rfl, hroom⟩⟩
    | none =>
      have hoffer : p.offer sink.recording limit m =
          ⟨((sink p.sink.1 m).state, p.sink.2 ++ [m]), p.emitted + 1,
            limit.any (· ≤ p.emitted + 1), none⟩ := by
        simp [offer, hstopped, Sink.recording, hm, hrefusal]
      rw [hoffer]
      cases hlast : limit.any (· ≤ p.emitted + 1) with
      | true =>
        rw [offerAll_of_stopped _ _ rfl]
        refine ⟨[m], by simp, rfl, .inl ⟨⟨hm, trivial⟩, rfl, rfl, ?_⟩⟩
        obtain ⟨n, hlimit, hn⟩ := (Option.any_eq_true ..).1 hlast
        have := hroom n hlimit
        simp only [decide_eq_true_eq] at hn
        simp only [hlimit, Option.elim_some, List.length_cons, List.length_nil]
        omega
      | false =>
        have hroom' : ∀ n, limit = some n → p.emitted + 1 < n := by
          intro n hn
          simpa [hn] using hlast
        obtain ⟨handed, hpre, hsink, hend⟩ := ih
          (p := ⟨((sink p.sink.1 m).state, p.sink.2 ++ [m]), p.emitted + 1, false, none⟩)
          rfl rfl hroom'
        refine ⟨m :: handed, by simpa using hpre, by simpa using hsink, ?_⟩
        rcases hend with ⟨haccepts, hnone, hemitted, hlength⟩ |
          ⟨accepted, last, refusal, rfl, haccepts, hlast, hsome, hlt⟩
        · refine .inl ⟨⟨hm, haccepts⟩, hnone, ?_, ?_⟩
          · simp only [hemitted, List.length_cons]
            omega
          · cases limit with
            | none => simpa using hlength
            | some n =>
              have := hroom n rfl
              simp only [Option.elim_some, List.length_cons] at hlength ⊢
              omega
        · refine .inr ⟨m :: accepted, last, refusal, rfl, ⟨hm, haccepts⟩, hlast, hsome, ?_⟩
          intro n hn
          have : p.emitted + 1 + accepted.length < n := hlt n hn
          simp only [List.length_cons]
          omega

end Progress

-- ---------------------------------------------------------------------------
-- Runs
-- ---------------------------------------------------------------------------

/-- What the sink is called with during a run, in order. -/
def handed (sink : Sink σ ε) (settings : Settings) (start : σ) (script : Script) : List Module :=
  (run sink.recording settings (start, []) script).sink.2

/-- The modules of a script. -/
def modules (script : Script) : List Module :=
  script.definitions.map Found.toModule

/-- A run offers the modules of the script to the sink. -/
theorem progress_visitStmts (sink : Sink σ ε) (settings : Settings) (start : σ) (script : Script) :
    (visitStmts script.body (Env.ofScript sink settings script) (.initial start)).2.progress =
      (⟨start, 0, false, none⟩ : Progress σ ε).offerAll sink settings.limit (modules script) :=
  finds_visitStmts script.body (Env.ofScript sink settings script) (.initial start) rfl

theorem run_of_limit_zero (sink : Sink σ ε) {settings : Settings} (start : σ) (script : Script)
    (h : settings.limit = some 0) :
    run sink settings start script = ⟨.ok 0, script, start, [.nothingToEmit]⟩ := by
  simp [run, h]

/-- How a run ends depends on its progress only. -/
theorem run_of_limit_ne_zero (sink : Sink σ ε) {settings : Settings} (start : σ) (script : Script)
    (h : settings.limit ≠ some 0) :
    let q := (⟨start, 0, false, none⟩ : Progress σ ε).offerAll sink settings.limit (modules script)
    (run sink settings start script).sink = q.sink ∧
      (run sink settings start script).result =
        match q.refusal with
        | some refusal => .error refusal
        | none => .ok q.emitted := by
  simp only [← progress_visitStmts sink settings start script, run, beq_iff_eq, h, if_false]
  exact ⟨rfl, rfl⟩

/-- A run with room for modules hands over a prefix of them. -/
theorem handed_of_limit_ne_zero (sink : Sink σ ε) {settings : Settings} (start : σ)
    (script : Script) (hlimit : settings.limit ≠ some 0) :
    handed sink settings start script <+: modules script ∧
      (run sink settings start script).sink =
        sink.feed start (handed sink settings start script) ∧
      (sink.Accepts start (handed sink settings start script) ∧
          (run sink settings start script).result =
            .ok (handed sink settings start script).length ∧
          (handed sink settings start script).length =
            settings.limit.elim (modules script).length (min · (modules script).length) ∨
        ∃ accepted m refusal,
          handed sink settings start script = accepted ++ [m] ∧
            sink.Accepts start accepted ∧
            (sink (sink.feed start accepted) m).refusal = some refusal ∧
            (run sink settings start script).result = .error refusal ∧
            ∀ n, settings.limit = some n → accepted.length < n) := by
  obtain ⟨hsink, hresult⟩ := run_of_limit_ne_zero sink start script hlimit
  obtain ⟨hnotes, -⟩ := run_of_limit_ne_zero sink.recording (start, []) script hlimit
  have hroom : ∀ n, settings.limit = some n → 0 < n := by
    rintro n hn
    refine Nat.pos_of_ne_zero ?_
    rintro rfl
    exact hlimit hn
  obtain ⟨received, hpre, hq, hend⟩ := Progress.offerAll_recording sink settings.limit
    (p := ⟨(start, []), 0, false, none⟩) (modules script) rfl rfl hroom
  rw [show (⟨start, 0, false, none⟩ : Progress σ ε) =
      Progress.forget ⟨(start, []), 0, false, none⟩ from rfl,
    ← Progress.forget_offerAll] at hsink hresult
  have hhanded : handed sink settings start script = received := by
    rw [handed, hnotes, hq, List.nil_append]
  rw [hhanded]
  refine ⟨hpre, ?_, ?_⟩
  · rw [hsink, Progress.forget, hq]
  · rcases hend with ⟨haccepts, hnone, hemitted, hlength⟩ |
      ⟨accepted, m, refusal, hreceived, haccepts, hm, hsome, hlt⟩
    · refine .inl ⟨haccepts, ?_, hlength⟩
      rw [hresult]
      simp only [Progress.forget, hnone, hemitted, Nat.zero_add]
    · refine .inr ⟨accepted, m, refusal, hreceived, haccepts, hm, ?_, ?_⟩
      · rw [hresult]
        simp only [Progress.forget, hsome]
      · simpa using hlt

theorem handed_of_limit_zero (sink : Sink σ ε) {settings : Settings} (start : σ) (script : Script)
    (hlimit : settings.limit = some 0) : handed sink settings start script = [] := by
  rw [handed, run_of_limit_zero _ _ _ hlimit]

theorem handed_prefix_modules (sink : Sink σ ε) (settings : Settings) (start : σ)
    (script : Script) :
    handed sink settings start script <+: modules script := by
  by_cases hlimit : settings.limit = some 0
  · rw [handed_of_limit_zero _ _ _ hlimit]
    exact List.nil_prefix
  · exact (handed_of_limit_ne_zero sink start script hlimit).1

/-- A run leaves the sink in the state that the modules it is handed bring it to. -/
theorem sink_run (sink : Sink σ ε) (settings : Settings) (start : σ) (script : Script) :
    (run sink settings start script).sink =
      sink.feed start (handed sink settings start script) := by
  by_cases hlimit : settings.limit = some 0
  · rw [handed_of_limit_zero _ _ _ hlimit, run_of_limit_zero _ _ _ hlimit]
    rfl
  · exact (handed_of_limit_ne_zero sink start script hlimit).2.1

/-- A run that succeeds counts the modules that were accepted, which are the first ones. -/
theorem handed_of_result_ok {sink : Sink σ ε} {settings : Settings} {start : σ} {script : Script}
    {n : Nat} (h : (run sink settings start script).result = .ok n) :
    handed sink settings start script = (modules script).take n ∧
      (handed sink settings start script).length = n ∧
      sink.Accepts start (handed sink settings start script) := by
  by_cases hlimit : settings.limit = some 0
  · rw [run_of_limit_zero _ _ _ hlimit] at h
    cases h
    rw [handed_of_limit_zero _ _ _ hlimit]
    exact ⟨rfl, rfl, trivial⟩
  · obtain ⟨hpre, -, ⟨haccepts, hresult, -⟩ | ⟨_, _, _, -, -, -, hresult, -⟩⟩ :=
      handed_of_limit_ne_zero sink start script hlimit
    · rw [h] at hresult
      cases hresult
      exact ⟨List.prefix_iff_eq_take.1 hpre, rfl, haccepts⟩
    · rw [h] at hresult
      cases hresult

/-- Without a limit, a sink that refuses nothing gets all modules. -/
theorem handed_eq_modules {sink : Sink σ ε} {settings : Settings} (start : σ) (script : Script)
    (hlimit : settings.limit = none) (hsink : ∀ s m, (sink s m).refusal = none) :
    handed sink settings start script = modules script := by
  obtain ⟨hpre, -, ⟨-, -, hlength⟩ | ⟨_, m, _, -, -, hm, -⟩⟩ :=
    handed_of_limit_ne_zero sink start script (show settings.limit ≠ some 0 by simp [hlimit])
  · rw [hlimit] at hlength
    exact hpre.eq_of_length hlength
  · rw [hsink] at hm
    cases hm

/-- A run hands a prefix of the script's modules to the sink, each of them once. The prefix ends
where the limit is reached, at the first module that is refused, or where no module is left. -/
theorem run_emits (sink : Sink σ ε) (settings : Settings) (start : σ) (script : Script) :
    handed sink settings start script <+: modules script ∧
      (run sink settings start script).sink =
        sink.feed start (handed sink settings start script) ∧
      (sink.Accepts start (handed sink settings start script) ∧
          (run sink settings start script).result =
            .ok (handed sink settings start script).length ∧
          (handed sink settings start script).length =
            settings.limit.elim (modules script).length (min · (modules script).length) ∨
        ∃ accepted m refusal,
          handed sink settings start script = accepted ++ [m] ∧
            sink.Accepts start accepted ∧
            (sink (sink.feed start accepted) m).refusal = some refusal ∧
            (run sink settings start script).result = .error refusal ∧
            ∀ n, settings.limit = some n → accepted.length < n) ∧
      (settings.limit = some 0 → handed sink settings start script = []) := by
  by_cases hlimit : settings.limit = some 0
  · rw [handed_of_limit_zero _ _ _ hlimit, run_of_limit_zero _ _ _ hlimit]
    exact ⟨List.nil_prefix, rfl, .inl ⟨trivial, rfl, by simp [hlimit]⟩, fun _ => rfl⟩
  · obtain ⟨hpre, hsink, hend⟩ := handed_of_limit_ne_zero sink start script hlimit
    exact ⟨hpre, hsink, hend, fun h => absurd h hlimit⟩

-- ---------------------------------------------------------------------------
-- Modules of code
-- ---------------------------------------------------------------------------

/-- What is handed over comes from the definition with the same number. -/
theorem toModule_of_handed {sink : Sink σ ε} {settings : Settings} {start : σ} {script : Script}
    {k : Nat} {found : Found} {m : Module} (hfound : script.definitions[k]? = some found)
    (hm : (handed sink settings start script)[k]? = some m) : m = found.toModule := by
  obtain ⟨hk, rfl⟩ := List.getElem?_eq_some_iff.1 hm
  have hmodule := List.prefix_iff_getElem?.1 (handed_prefix_modules sink settings start script) k hk
  rw [modules, List.getElem?_map, hfound] at hmodule
  exact (Option.some.inj hmodule).symm

/-- `function (x) { function f(x) { return x; } return f(x.default); }` -/
def sample : Factory where
  name := "m"
  dependencies := ["lib/x"]
  own := none
  span := ⟨24, 87⟩
  params := [.ident ⟨"x", ⟨34, 35⟩⟩]
  body :=
    [.fnDecl ⟨"f", ⟨48, 49⟩⟩ (.mk ⟨39, 65⟩ false false [.ident ⟨"x", ⟨50, 51⟩⟩]
        [.returnStmt (some (.ident ⟨"x", ⟨62, 63⟩⟩))]),
      .returnStmt (some (.call ⟨73, 85⟩ (.ident ⟨"f", ⟨73, 74⟩⟩)
        [.member ⟨75, 84⟩ (.ident ⟨"x", ⟨75, 76⟩⟩) (.named "default")]))]

/-- A script whose only definition has this factory. -/
def Factory.script (f : Factory) : Script :=
  ⟨f.span, [.expr (.call f.span (.ident ⟨"define", f.span⟩)
    [.lit f.span (.str (quote f.name) f.name),
      .array f.span (f.dependencies.map fun path => .lit f.span (.str (quote path) path)),
      .fn f.own (.mk f.span false false f.params f.body)])]⟩

/-- A sink that refuses nothing. -/
def keepAll : Sink (List Module) Empty :=
  collect fun _ _ => none

theorem handed_of_definitions {f : Factory} (h : f.script.definitions = [.module f]) :
    (handed keepAll ⟨none, .none⟩ [] f.script)[0]? = some f.module := by
  rw [handed_eq_modules [] f.script rfl fun _ _ => rfl, modules, h]
  rfl

end Unbundle.Engine

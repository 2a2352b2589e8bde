-- SUMMARY: What a run leaves of a script, also when it ends early.
import Unbundle.Proofs.Emission
import Unbundle.Proofs.Leaves

/-!
# What a run leaves

A run that nothing stops leaves `Script.remains`. A run that ends early does so in the middle of
some statement: what comes before it is as in a run that nothing stops, and what comes after it is
as it was. The statement is the one with the last definition that was handed over.

- `visitStmts_stops`: where a walk over statements stops, and what it leaves then.
- `Progress.notes_offerAll`: how many modules a sink has received, from when the run stopped.
-/

namespace Unbundle.Engine

open Script

variable {σ ε : Type}

-- ---------------------------------------------------------------------------
-- Walks that stop
-- ---------------------------------------------------------------------------

/-- A walk that has stopped leaves a statement as it is. -/
theorem visitStmt_of_stopped (stmt : Stmt) (env : Env σ ε) {s : State σ ε}
    (hs : s.stopped = true) : visitStmt stmt env s = (fun _ => stmt, s) := by
  cases stmt with
  | empty => rfl
  | debugger => rfl
  | breakStmt label => rfl
  | continueStmt label => rfl
  | _ => exact if_pos hs

theorem visitStmts_of_stopped (body : List Stmt) (env : Env σ ε) {s : State σ ε}
    (hs : s.stopped = true) : visitStmts body env s = (fun _ => body, s) := by
  induction body with
  | nil => rfl
  | cons stmt rest ih =>
    rw [visitStmts, Walk.seq_apply, Walk.map_apply, visitStmt_of_stopped stmt env hs, ih]

/-- The walk over statements that come one after the other. -/
theorem visitStmts_cons (stmt : Stmt) (rest : List Stmt) (env : Env σ ε) (s : State σ ε) :
    visitStmts (stmt :: rest) env s =
      (fun filling =>
          (visitStmt stmt env s).1 filling ::
            (visitStmts rest env (visitStmt stmt env s).2).1 filling,
        (visitStmts rest env (visitStmt stmt env s).2).2) := by
  rw [visitStmts, Walk.seq_apply, Walk.map_apply]

/-- A walk that stops does so in one of the statements. Those before it are visited as a whole,
those after it are not visited. -/
theorem visitStmts_stops {body : List Stmt} {env : Env σ ε} {s : State σ ε}
    (henv : env.active = none) (hs : s.stopped = false)
    (hend : (visitStmts body env s).2.stopped = true) (filling : Filling) :
    ∃ before stmt after left,
      body = before ++ stmt :: after ∧
        (visitStmts before env s).2.stopped = false ∧
        (visitStmts (before ++ [stmt]) env s).2.stopped = true ∧
        (visitStmts body env s).1 filling = remainsStmts before ++ left :: after := by
  induction body generalizing s with
  | nil =>
    rw [visitStmts] at hend
    exact absurd (hs.symm.trans hend) (by decide)
  | cons stmt rest ih =>
    rw [visitStmts_cons] at hend ⊢
    cases hstmt : (visitStmt stmt env s).2.stopped with
    | true =>
      refine ⟨[], stmt, rest, (visitStmt stmt env s).1 filling, rfl, hs, ?_, ?_⟩
      · rw [List.nil_append, visitStmts_cons]
        exact hstmt
      · rw [visitStmts_of_stopped rest env hstmt]
        rfl
    | false =>
      obtain ⟨before, last, after, left, rfl, hbefore, hlast, hleft⟩ := ih hstmt hend
      refine ⟨stmt :: before, last, after, left, rfl, ?_, ?_, ?_⟩
      · rw [visitStmts_cons]
        exact hbefore
      · rw [List.cons_append, visitStmts_cons]
        exact hlast
      · simp only [hleft, (leaves_visitStmt stmt).draft env s henv hstmt filling, remainsStmts,
          List.cons_append]

-- ---------------------------------------------------------------------------
-- Progress
-- ---------------------------------------------------------------------------

namespace Progress

variable (sink : Sink σ ε) (limit : Option Nat)

/-- A run goes on only while no module was refused and there is room for more. -/
def Sound (p : Progress σ ε) : Prop :=
  p.stopped = false → p.refusal = none ∧ ∀ n, limit = some n → p.emitted < n

theorem Sound.offer {p : Progress σ ε} (hp : p.Sound limit) (m : Module) :
    (p.offer sink limit m).Sound limit := by
  unfold Progress.offer
  split
  · exact hp
  · rename_i hs
    rw [Bool.not_eq_true] at hs
    split
    · intro h
      cases h
    · intro hlast
      refine ⟨(hp hs).1, ?_⟩
      intro n hn
      simpa [hn] using hlast

theorem Sound.offerAll {p : Progress σ ε} (hp : p.Sound limit) (modules : List Module) :
    (p.offerAll sink limit modules).Sound limit := by
  induction modules generalizing p with
  | nil => exact hp
  | cons m rest ih => exact ih (hp.offer sink limit m)

/-- Without a limit, only a refusal stops a run. -/
theorem offerAll_of_accepts {p : Progress σ ε} {modules : List Module}
    (hp : p.stopped = false) (hsink : sink.Accepts p.sink modules) :
    (p.offerAll sink none modules).stopped = false := by
  induction modules generalizing p with
  | nil => exact hp
  | cons m rest ih =>
    have hoffer : p.offer sink none m =
        ⟨(sink p.sink m).state, p.emitted + 1, false, p.refusal⟩ := by
      simp [offer, hp, hsink.1]
    rw [offerAll_cons, hoffer]
    exact ih rfl hsink.2

/-- The notes of a sink grow by a prefix of what it is offered: by everything if the run has not
stopped, and by something if it has stopped just now. -/
theorem notes_offerAll (p : Progress (σ × List Module) ε) (modules : List Module) :
    let q := p.offerAll sink.recording limit modules
    ∃ noted,
      noted <+: modules ∧ q.sink.2 = p.sink.2 ++ noted ∧
        (q.stopped = false → noted = modules) ∧
        (p.stopped = false → q.stopped = true → noted ≠ []) := by
  induction modules generalizing p with
  | nil =>
    refine ⟨[], List.prefix_refl _, (List.append_nil _).symm, fun _ => rfl, ?_⟩
    intro hp hq
    exact absurd (hp.symm.trans hq) (by decide)
  | cons m rest ih =>
    cases hp : p.stopped with
    | true =>
      rw [offerAll_of_stopped _ _ hp]
      refine ⟨[], List.nil_prefix, (List.append_nil _).symm, ?_, ?_⟩
      · intro hq
        exact absurd (hp.symm.trans hq) (by decide)
      · intro hp'
        cases hp'
    | false =>
      have hnotes : (p.offer sink.recording limit m).sink.2 = p.sink.2 ++ [m] := by
        unfold offer
        rw [if_neg (by simp [hp])]
        split <;> rfl
      obtain ⟨noted, hpre, hsink, hall, -⟩ := ih (p.offer sink.recording limit m)
      refine ⟨m :: noted, by simpa using hpre, ?_, ?_, fun _ _ => List.cons_ne_nil m noted⟩
      · rw [offerAll_cons, hsink, hnotes, List.append_assoc, List.singleton_append]
      · intro hq
        rw [hall hq]

end Progress

-- ---------------------------------------------------------------------------
-- Runs
-- ---------------------------------------------------------------------------

/-- The sink has refused a module, or the limit is reached. -/
def EndsEarly (sink : Sink σ ε) (settings : Settings) (start : σ) (script : Script) : Prop :=
  (∃ refusal, (run sink settings start script).result = .error refusal) ∨
    ∃ n, settings.limit = some (n + 1) ∧ (run sink settings start script).result = .ok (n + 1)

/-- What is left of a script is what the walk over its statements drafts. -/
theorem script_run (sink : Sink σ ε) {settings : Settings} (start : σ) (script : Script)
    (h : settings.limit ≠ some 0) :
    (run sink settings start script).script =
      ⟨script.span, (visitStmts script.body (Env.ofScript sink settings script)
        (.initial start)).1 (.complete ⟨[], []⟩)⟩ := by
  simp only [run, beq_iff_eq, h, if_false]

/-- Whether the walk has stopped after some statements depends on their definitions only. -/
theorem stopped_visitStmts (sink : Sink σ ε) (settings : Settings) (start : σ) (script : Script)
    (body : List Stmt) :
    (visitStmts body (Env.ofScript sink settings script) (.initial start)).2.stopped =
      (Progress.offerAll sink.recording settings.limit ⟨(start, []), 0, false, none⟩
        ((definitionsStmts body).map Found.toModule)).stopped := by
  have hprogress := finds_visitStmts body (Env.ofScript sink settings script) (.initial start) rfl
  have hforget := Progress.forget_offerAll sink settings.limit
    (⟨(start, []), 0, false, none⟩ : Progress (σ × List Module) ε)
    ((definitionsStmts body).map Found.toModule)
  calc (visitStmts body (Env.ofScript sink settings script) (.initial start)).2.stopped
    _ = _ := congrArg Progress.stopped hprogress
    _ = _ := (congrArg Progress.stopped hforget).symm

/-- A run that ends early stops. -/
theorem stopped_of_endsEarly {sink : Sink σ ε} {settings : Settings} {start : σ} {script : Script}
    (h : EndsEarly sink settings start script) (hlimit : settings.limit ≠ some 0) :
    (visitStmts script.body (Env.ofScript sink settings script) (.initial start)).2.stopped =
      true := by
  obtain ⟨-, hresult⟩ := run_of_limit_ne_zero sink start script hlimit
  have hstart : (⟨start, 0, false, none⟩ : Progress σ ε).Sound settings.limit := by
    intro _
    refine ⟨rfl, ?_⟩
    intro n hn
    refine Nat.pos_of_ne_zero ?_
    rintro rfl
    exact hlimit hn
  have hsound := hstart.offerAll sink settings.limit (modules script)
  rw [← Bool.not_eq_false]
  intro hopen
  obtain ⟨hrefusal, hroom⟩ := hsound
    ((congrArg Progress.stopped (progress_visitStmts sink settings start script)).symm.trans hopen)
  simp only [hrefusal] at hresult
  rcases h with ⟨refusal, herror⟩ | ⟨n, hn, hok⟩
  · rw [hresult] at herror
    cases herror
  · rw [hresult] at hok
    have := hroom _ hn
    have := Except.ok.inj hok
    omega

theorem limit_ne_zero_of_endsEarly {sink : Sink σ ε} {settings : Settings} {start : σ}
    {script : Script} (h : EndsEarly sink settings start script) : settings.limit ≠ some 0 := by
  intro hzero
  rcases h with ⟨refusal, herror⟩ | ⟨n, hn, -⟩
  · rw [run_of_limit_zero sink start script hzero] at herror
    cases herror
  · rw [hzero] at hn
    cases hn

/-- If the walk stops in a statement, then the last module handed over is defined there. -/
theorem length_handed_of_stopped {sink : Sink σ ε} {settings : Settings} {start : σ}
    {script : Script} {before after : List Stmt} {stmt : Stmt}
    (hlimit : settings.limit ≠ some 0) (hbody : script.body = before ++ stmt :: after)
    (hbefore : (visitStmts before (Env.ofScript sink settings script)
      (.initial start)).2.stopped = false)
    (hstmt : (visitStmts (before ++ [stmt]) (Env.ofScript sink settings script)
      (.initial start)).2.stopped = true) :
    (definitionsStmts before).length < (handed sink settings start script).length ∧
      (handed sink settings start script).length ≤
        (definitionsStmts (before ++ [stmt])).length := by
  rw [stopped_visitStmts] at hbefore hstmt
  -- After the statement nothing is handed over any more.
  have hhanded : handed sink settings start script =
      (Progress.offerAll sink.recording settings.limit ⟨(start, []), 0, false, none⟩
        ((definitionsStmts (before ++ [stmt])).map Found.toModule)).sink.2 := by
    rw [handed, (run_of_limit_ne_zero sink.recording (start, []) script hlimit).1, modules,
      Script.definitions, hbody, List.append_cons, definitionsStmts_append (before ++ [stmt]),
      List.map_append, Progress.offerAll_append, Progress.offerAll_of_stopped _ _ hstmt]
  rw [definitionsStmts_append, List.map_append, Progress.offerAll_append] at hstmt hhanded
  obtain ⟨noted, -, hnoted, hall, -⟩ := Progress.notes_offerAll sink settings.limit
    ⟨(start, []), 0, false, none⟩ ((definitionsStmts before).map Found.toModule)
  obtain ⟨more, hmore, hsink, -, hne⟩ := Progress.notes_offerAll sink settings.limit
    (Progress.offerAll sink.recording settings.limit ⟨(start, []), 0, false, none⟩
      ((definitionsStmts before).map Found.toModule))
    ((definitionsStmts [stmt]).map Found.toModule)
  rw [hsink, hnoted, hall hbefore, List.nil_append] at hhanded
  have hpos := List.length_pos_iff.2 (hne hbefore hstmt)
  have hle := hmore.length_le
  rw [hhanded, definitionsStmts_append]
  simp only [List.length_append, List.length_map] at hle ⊢
  omega

theorem Sink.accepts_of_forall {sink : Sink σ ε}
    (h : ∀ s m, (sink s m).refusal = none) (s : σ) (modules : List Module) :
    sink.Accepts s modules := by
  induction modules generalizing s with
  | nil => trivial
  | cons m rest ih => exact ⟨h s m, ih _⟩

/-- A run that nothing stops leaves what remains of the script. -/
theorem script_run_of_accepts {sink : Sink σ ε} {settings : Settings} {start : σ}
    {script : Script} (hlimit : settings.limit = none)
    (hsink : sink.Accepts start (modules script)) :
    (run sink settings start script).script = script.remains := by
  have hopen : (visitStmts script.body (Env.ofScript sink settings script)
      (.initial start)).2.stopped = false := by
    have hprogress := progress_visitStmts sink settings start script
    rw [hlimit] at hprogress
    exact (congrArg Progress.stopped hprogress).trans
      (Progress.offerAll_of_accepts sink rfl hsink)
  rw [script_run sink start script (by simp [hlimit]),
    (leaves_visitStmts script.body).draft _ _ rfl hopen]
  rfl

/-- A run without a limit, with a sink that refuses nothing, leaves what remains of the script. A
run with limit zero leaves the script as it is. A run that ends early ends in the statement with the
last definition that was handed over: the statements before it are as in a run that nothing stops,
and those after it are as they were. -/
theorem script_after_run (sink : Sink σ ε) (settings : Settings) (start : σ) (script : Script) :
    (settings.limit = none → sink.Accepts start (modules script) →
        (run sink settings start script).script = script.remains) ∧
      (settings.limit = some 0 → (run sink settings start script).script = script) ∧
      (EndsEarly sink settings start script →
        let left := (run sink settings start script).script
        ∃ k < script.body.length,
          (definitionsStmts (script.body.take k)).length <
              (handed sink settings start script).length ∧
            (handed sink settings start script).length ≤
              (definitionsStmts (script.body.take (k + 1))).length ∧
            left.span = script.span ∧ left.body.length = script.body.length ∧
            left.body.take k = script.remains.body.take k ∧
            left.body.drop (k + 1) = script.body.drop (k + 1)) := by
  refine ⟨?_, ?_, ?_⟩
  · exact script_run_of_accepts
  · intro hzero
    rw [run_of_limit_zero sink start script hzero]
  · intro hearly
    have hlimit := limit_ne_zero_of_endsEarly hearly
    obtain ⟨before, stmt, after, left, hbody, hbefore, hstmt, hleft⟩ :=
      visitStmts_stops rfl rfl (stopped_of_endsEarly hearly hlimit) (.complete ⟨[], []⟩)
    obtain ⟨hlt, hle⟩ := length_handed_of_stopped hlimit hbody hbefore hstmt
    have hlength : (remainsStmts before).length = before.length := by
      rw [remainsStmts_eq_map, List.length_map]
    rw [script_run sink start script hlimit, hleft]
    refine ⟨before.length, ?_, ?_, ?_, rfl, ?_, ?_, ?_⟩
    · simp [hbody]
    · simpa [hbody] using hlt
    · rw [hbody, List.append_cons, List.take_left' (by simp)]
      exact hle
    · simp [hbody, hlength]
    · simp [Script.remains, hbody, remainsStmts_eq_map]
    · rw [hbody, List.append_cons (remainsStmts before), List.append_cons before,
        List.drop_left' (by simp [hlength]), List.drop_left' (by simp)]

/-- `void 0;`, the definition of a module, and `!0;` -/
def framedSample : Script :=
  ⟨⟨0, 104⟩, .expr (.unary ⟨0, 6⟩ .void (.lit ⟨5, 6⟩ (.num "0"))) :: sample.script.body ++
    [.expr (.unary ⟨101, 103⟩ .not (.lit ⟨102, 103⟩ (.num "0")))]⟩

theorem modules_framedSample : modules framedSample = [sample.module] := rfl

theorem endsEarly_framedSample : EndsEarly keepAll ⟨some 1, .none⟩ [] framedSample := by
  obtain ⟨-, hresult⟩ :=
    @run_of_limit_ne_zero _ _ keepAll ⟨some 1, .none⟩ [] framedSample (by simp)
  rw [modules_framedSample] at hresult
  exact .inr ⟨0, rfl, hresult⟩

theorem script_after_run_sample :
    (run keepAll ⟨none, .none⟩ [] framedSample).script = framedSample.remains ∧
      (run keepAll ⟨some 0, .none⟩ [] framedSample).script = framedSample ∧
      let left := (run keepAll ⟨some 1, .none⟩ [] framedSample).script
      ∃ k < framedSample.body.length,
        (definitionsStmts (framedSample.body.take k)).length <
            (handed keepAll ⟨some 1, .none⟩ [] framedSample).length ∧
          (handed keepAll ⟨some 1, .none⟩ [] framedSample).length ≤
            (definitionsStmts (framedSample.body.take (k + 1))).length ∧
          left.span = framedSample.span ∧ left.body.length = framedSample.body.length ∧
          left.body.take k = framedSample.remains.body.take k ∧
          left.body.drop (k + 1) = framedSample.body.drop (k + 1) :=
  ⟨(script_after_run keepAll ⟨none, .none⟩ [] framedSample).1 rfl
      (by rw [modules_framedSample]; exact ⟨rfl, trivial⟩),
    (script_after_run keepAll ⟨some 0, .none⟩ [] framedSample).2.1 rfl,
    (script_after_run keepAll ⟨some 1, .none⟩ [] framedSample).2.2 endsEarly_framedSample⟩

end Unbundle.Engine

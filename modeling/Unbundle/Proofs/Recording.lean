-- SUMMARY: Taking notes of modules changes nothing, and what their imports gave rise to report is in the log.
import Unbundle.Proofs.Emission
import Unbundle.Proofs.Encounters

/-!
# Recording sinks

What a run hands over is known from a run whose sink takes notes. A walker with such a sink does the
same as the walker without the notes (`records_drive`), so both runs have the same log. In this log
stands all that choosing the local names of a handed module's imports gave rise to report
(`isReported_of_mem_handed`).
-/

namespace Unbundle

/-- The imports of a module have the names that were chosen for some findings, and the log holds what
was reported about this choice. -/
def Module.IsReported (logging : Logging) (log : List Event) (m : Module) : Prop :=
  ∀ imports body, m.body = .code imports body →
    ∃ binding findings,
      imports = (Imports.ofFindings binding logging findings).locals.imports ∧
        (Imports.ofFindings binding logging findings).events ⊆ log

theorem Module.IsReported.mono {logging : Logging} {log log' : List Event} {m : Module}
    (h : m.IsReported logging log) (hlog : log ⊆ log') : m.IsReported logging log' := by
  intro imports body hbody
  obtain ⟨binding, findings, himports, hevents⟩ := h imports body hbody
  exact ⟨binding, findings, himports, List.Subset.trans hevents hlog⟩

namespace Engine

open Script

variable {σ ε : Type}

/-- The state with a sink that has taken these notes. -/
def State.noting (s : State σ ε) (notes : List Module) : State (σ × List Module) ε :=
  ⟨(s.sink, notes), s.emitted, s.stopped, s.refusal, s.log, s.findings⟩

/-- A module that is handed over is noted. -/
theorem State.noting_deliver (sink : Sink σ ε) (settings : Settings) (s : State σ ε)
    (notes : List Module) (m : Module) :
    Walk.deliver ⟨sink.recording, settings, [], false, none⟩ m (s.noting notes) =
      (Walk.deliver ⟨sink, settings, [], false, none⟩ m s).noting (notes ++ [m]) := by
  simp only [Walk.deliver, State.noting, Sink.recording]
  cases (sink s.sink m).refusal with
  | some refusal => rfl
  | none =>
    by_cases hlimit : settings.limit.any (· ≤ s.emitted + 1) = true
    · refine (if_pos hlimit).trans ?_
      simp only [if_pos hlimit]
    · refine (if_neg hlimit).trans ?_
      simp only [if_neg hlimit]

namespace Walker

/-- The walker with a sink that has taken these notes. -/
def noting (w : Walker σ ε) (notes : List Module) : Walker (σ × List Module) ε :=
  ⟨w.tracker, w.inTarget, w.entered, w.state.noting notes, w.inOrder, w.leftOut, w.encounters⟩

variable (w : Walker σ ε) (notes : List Module)

theorem noting_openScope (scope : Scope) :
    (w.noting notes).openScope scope = (w.openScope scope).noting notes := by
  unfold openScope
  simp only [noting, State.noting]
  split
  · split <;> rfl
  · rfl

theorem noting_closeScope : (w.noting notes).closeScope = w.closeScope.noting notes := by
  unfold closeScope
  simp only [noting, State.noting]
  split <;> rfl

theorem noting_meet (id : Ident) (site : Site) :
    (w.noting notes).meet id site = (w.meet id site).noting notes := by
  unfold meet
  simp only [noting, State.noting]
  split <;> rfl

theorem noting_deliver (sink : Sink σ ε) (settings : Settings) (m : Module) :
    (w.noting notes).deliver sink.recording settings m =
      (w.deliver sink settings m).noting (notes ++ [m]) := by
  unfold deliver
  simp only [noting, State.noting_deliver]

/-- The log of the first walker is the beginning of that of the second one. -/
def Logs (w w' : Walker σ ε) : Prop :=
  w.state.log.toList <+: w'.state.log.toList

namespace Logs

theorem refl : w.Logs w :=
  List.prefix_refl _

theorem report (events : List Event) : w.Logs (w.report events) := by
  simp [Logs, Walker.report, State.report]

theorem openScope (scope : Scope) : w.Logs (w.openScope scope) := by
  unfold Walker.openScope
  split
  · split
    · exact report w _
    · exact refl w
  · exact refl w

theorem closeScope : w.Logs w.closeScope := by
  unfold Walker.closeScope
  split
  · exact refl w
  · exact report w _

theorem meet (id : Ident) (site : Site) : w.Logs (w.meet id site) := by
  simp only [Walker.meet]
  split
  · simp [Logs]
  · exact refl w

theorem deliver (sink : Sink σ ε) (settings : Settings) (m : Module) :
    w.Logs (w.deliver sink settings m) := by
  unfold Logs Walker.deliver Walk.deliver
  simp only
  split
  · simp
  · split <;> simp

end Logs

/-- After some code, this is what a walker with a recording sink has become, if it had these notes
before, and the walker without the notes is `after`. -/
structure Records (logging : Logging) (notes : List Module) (w after : Walker σ ε)
    (after' : Walker (σ × List Module) ε) : Prop where
  log : w.Logs after
  handed : ∃ handed, after' = after.noting (notes ++ handed) ∧
    ∀ m ∈ handed, m.IsReported logging after.state.log.toList

namespace Records

variable {logging : Logging} {notes : List Module} {w middle after : Walker σ ε}
  {middle' : Walker (σ × List Module) ε}

/-- Nothing is handed over. -/
theorem of_logs (h : w.Logs after) : Records logging notes w after (after.noting notes) :=
  ⟨h, [], by rw [List.append_nil], by simp⟩

theorem andThen (h : Records logging notes w middle middle')
    (step : Walker (σ × List Module) ε → Walker (σ × List Module) ε)
    (hstep : ∀ notes, Records logging notes middle after (step (middle.noting notes))) :
    Records logging notes w after (step middle') := by
  obtain ⟨hlog, handed, rfl, hhanded⟩ := h
  obtain ⟨hlog', handed', heq, hhanded'⟩ := hstep (notes ++ handed)
  refine ⟨hlog.trans hlog', handed ++ handed', ?_, ?_⟩
  · rw [heq, List.append_assoc]
  · intro m hm
    rcases List.mem_append.1 hm with hm | hm
    · exact (hhanded m hm).mono hlog'.subset
    · exact hhanded' m hm

theorem deliver {sink : Sink σ ε} {settings : Settings} {m : Module}
    (h : m.IsReported logging w.state.log.toList) :
    Records logging notes w (w.deliver sink settings m)
      ((w.noting notes).deliver sink.recording settings m) := by
  refine ⟨.deliver w sink settings m, [m], noting_deliver w notes sink settings m, ?_⟩
  intro m' hm'
  obtain rfl := List.mem_singleton.1 hm'
  exact h.mono (Logs.deliver w sink settings m').subset

/-- What was reported about the names of a module's imports is in the log before it is handed
over. -/
theorem closeModule (sink : Sink σ ε) (settings : Settings) (w : Walker σ ε)
    (notes : List Module) :
    Records settings.logging notes w (w.closeModule sink settings)
      ((w.noting notes).closeModule sink.recording settings) := by
  obtain ⟨tracker, inTarget, entered, state, inOrder, leftOut, encounters⟩ := w
  cases entered with
  | none => exact .of_logs (.refl _)
  | some entered =>
    let names := Imports.ofFindings entered.factory.binding settings.logging state.findings
    let events := names.events ++ [.synthesized entered.factory.name names.locals.imports.length
      (Imports.replacements entered.factory.binding state.findings),
      .leavingModule entered.factory.name]
    let reported : Walker σ ε :=
      ⟨tracker, inTarget, none, state.report events, inOrder, leftOut, encounters⟩
    have hreport : Records settings.logging notes
        ⟨tracker, inTarget, some entered, state, inOrder, leftOut, encounters⟩ reported
        (reported.noting notes) :=
      .of_logs (by simp [Logs, reported, State.report])
    refine hreport.andThen (fun w => w.deliver sink.recording settings _) fun notes => deliver ?_
    intro imports body hbody
    cases hbody
    refine ⟨_, _, rfl, ?_⟩
    intro e he
    simp [reported, State.report, events, names, he]

end Records
end Walker

/-- A walker with a recording sink does what it does without the notes. -/
theorem records_drive (sink : Sink σ ε) (settings : Settings) (part : Outline) (w : Walker σ ε)
    (notes : List Module) :
    Walker.Records settings.logging notes w (part.drive sink settings w)
      (part.drive sink.recording settings (w.noting notes)) := by
  induction part generalizing w notes with
  | nothing => exact .of_logs (.refl w)
  | both first second ih ih' => exact (ih w notes).andThen _ (ih' _)
  | ident id site =>
    unfold Outline.drive
    rw [Walker.noting_meet]
    exact .of_logs (.meet w id site)
  | patternIdent id =>
    unfold Outline.drive
    rw [Walker.noting_meet]
    exact .of_logs (.meet w id _)
  | unlessStopped part ih =>
    unfold Outline.drive
    split
    · rename_i hs
      rw [if_pos (show (w.noting notes).state.stopped = true from hs)]
      exact .of_logs (.refl _)
    · rename_i hs
      rw [if_neg (show ¬ (w.noting notes).state.stopped = true from hs)]
      exact ih w notes
  | within scope part ih =>
    have hopen : Walker.Records settings.logging notes w (w.openScope scope)
        ((w.noting notes).openScope scope) := by
      rw [Walker.noting_openScope]
      exact .of_logs (.openScope w scope)
    refine (hopen.andThen _ (ih _)).andThen Walker.closeScope fun notes => ?_
    rw [Walker.noting_closeScope]
    exact .of_logs (.closeScope _)
  | targeting inTarget part ih =>
    let inside := part.drive sink settings { w with inTarget := inTarget }
    have hback : ∀ notes, Walker.Records settings.logging notes inside
        { inside with inTarget := w.inTarget }
        { inside.noting notes with inTarget := w.inTarget } :=
      fun notes => .of_logs (List.prefix_refl _)
    have h := (ih { w with inTarget := inTarget } notes).andThen
      (fun after => { after with inTarget := w.inTarget }) hback
    exact ⟨h.log, h.handed⟩
  | call callee args parts ih =>
    unfold Outline.drive
    rw [show (w.noting notes).entered = w.entered from rfl]
    split
    · rename_i f _ _
      have hopen : Walker.Records settings.logging notes w (w.openModule f)
          ((w.openModule f).noting notes) :=
        .of_logs (.report _ _)
      exact (hopen.andThen _ (ih _)).andThen _ (Walker.Records.closeModule sink settings _)
    · rename_i path text _ _
      have hreport : Walker.Records settings.logging notes w (w.report [.textAsset path])
          ((w.report [.textAsset path]).noting notes) :=
        .of_logs (.report w _)
      refine hreport.andThen _ fun notes => .deliver ?_
      intro imports body hbody
      cases hbody
    · have hreport : Walker.Records settings.logging notes w
          (w.report (unhandledEvents settings.logging callee args))
          ((w.report (unhandledEvents settings.logging callee args)).noting notes) :=
        .of_logs (.report w _)
      exact hreport.andThen _ (ih _)
    · exact ih w notes

/-- What choosing the names of a handed module's imports gave rise to report is in the log. -/
theorem isReported_of_mem_handed {sink : Sink σ ε} {settings : Settings} {start : σ}
    {script : Script} {m : Module} (hm : m ∈ handed sink settings start script) :
    m.IsReported settings.logging (run sink settings start script).log := by
  by_cases hlimit : settings.limit = some 0
  · rw [handed_of_limit_zero sink start script hlimit] at hm
    cases hm
  · let opened : Walker σ ε := (Walker.initial start).openScope (.ofScript script)
    obtain ⟨-, noted, hdrive, hreported⟩ :=
      records_drive sink settings (outlineStmts script.body) opened []
    have hwalk := (drive_script (ε := ε) sink settings start script).1
    have hwalk' := (drive_script sink.recording settings (start, []) script).1
    -- Opened for the recording sink, the walker is `opened` without any notes.
    have hnoted : handed sink settings start script = noted := by
      simp only [handed, run, beq_iff_eq, hlimit, if_false, ← hwalk']
      exact congrArg (fun w => w.state.sink.2) hdrive
    have hlog : (run sink settings start script).log =
        ((outlineStmts script.body).drive sink settings opened).state.log.toList ++
          [.leftScope script.span] := by
      simp only [run, beq_iff_eq, hlimit, if_false, ← hwalk]
      rfl
    rw [hlog]
    exact (hreported m (hnoted ▸ hm)).mono (List.subset_append_left _ _)

end Engine
end Unbundle

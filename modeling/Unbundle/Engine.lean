-- SUMMARY: Splitting a bundle into modules.
import Unbundle.Engine.Visit

/-!
# Splitting a bundle

`Engine.run` walks a script once and hands every module it defines to a sink, until the limit is
reached or the sink refuses one. What is left of the script comes back with the result.
-/

namespace Unbundle.Engine

/-- How a run ended. -/
structure Outcome (σ ε : Type) where
  /-- The number of accepted modules, or why one was refused. -/
  result : Except ε Nat
  /-- What is left: the bodies of modules are gone, unvisited parts are as they were. -/
  script : Script
  sink : σ
  log : List Event

/-- The surroundings of a script's statements. -/
def Env.ofScript {σ ε : Type} (sink : Sink σ ε) (settings : Settings) (script : Script) : Env σ ε where
  sink := sink
  settings := settings
  scopes := Scope.Stack.enter [] (.ofScript script)
  inTarget := false
  active := none

/-- Splits a script into modules. -/
def run {σ ε : Type} (sink : Sink σ ε) (settings : Settings) (start : σ) (script : Script) :
    Outcome σ ε :=
  if settings.limit == some 0 then ⟨.ok 0, script, start, [.nothingToEmit]⟩
  else
    let (draft, s) :=
      visitStmts script.body (Env.ofScript sink settings script) (.initial start)
    { result := match s.refusal with
        | some refusal => .error refusal
        | none => .ok s.emitted
      script := { script with body := draft (.complete ⟨[], []⟩) }
      sink := s.sink
      log := s.log.toList ++ [.leftScope script.span] }

/-- Keeps every module, except those that are refused; `refusal n` decides on the `n`-th module. -/
def collect {ε : Type} (refusal : Nat → Module → Option ε) : Sink (List Module) ε :=
  fun kept m =>
    match refusal (kept.length + 1) m with
    | some reason => ⟨kept, [], some reason⟩
    | none => ⟨kept ++ [m], [], none⟩

end Unbundle.Engine

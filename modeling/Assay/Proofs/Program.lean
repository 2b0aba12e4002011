import Assay.Case.Basic

/-! # Programs as functions of their state

A case and a run are programs with a state and errors.  Here such a program is
read as a function: from the state it starts in to its result and the state it
leaves, which is there after an error too.  Each operation of a case then is one
equation, and a program is followed by rewriting with them.
-/

namespace Assay

section Run

variable {ε S α β : Type}

theorem run_pure (a : α) (s : S) :
    (pure a : ExceptT ε (StateM S) α).run s = (.ok a, s) := rfl

theorem run_get (s : S) : (get : ExceptT ε (StateM S) S).run s = (.ok s, s) := rfl

theorem run_set (s' s : S) : (set s' : ExceptT ε (StateM S) PUnit).run s = (.ok ⟨⟩, s') := rfl

/-- A program goes on after its first part only if that part gave a result. -/
theorem run_bind (x : ExceptT ε (StateM S) α) (f : α → ExceptT ε (StateM S) β) (s : S) :
    (x >>= f).run s = match x.run s with
      | (.ok a, s') => (f a).run s'
      | (.error e, s') => (.error e, s') := by
  simp only [bind, ExceptT.bind, ExceptT.mk, ExceptT.bindCont, StateT.bind, ExceptT.run]
  cases x s with
  | mk result s' => cases result <;> rfl

end Run

/-- A call that gave a result has started the words that the template renders
to, and its record says so. -/
theorem Tool.call_ok {σ : Type} {tool : Tool} {host : Host σ} {args : ToolArgs}
    {w after : World σ} {log : InvocationLog} (h : tool.call host args w = .ok (log, after)) :
    ∃ program rest done, tool.template.render args = program :: rest ∧
      host.start ⟨program, rest, tool.env, tool.workingDir⟩ w = .ok (done, after) ∧
      log = ⟨tool.name, program :: rest, .ofCompletion done,
        .between (host.clock w) (host.clock after)⟩ := by
  unfold Tool.call at h
  split at h
  · cases h
  · rename_i program rest hrender
    split at h
    · cases h
    · rename_i done called hstart
      cases h
      exact ⟨program, rest, done, hrender, hstart, rfl⟩

namespace CaseM

variable {σ : Type} {s : CaseState σ}

theorem run_onContext (f : CaseContext → CaseContext) :
    (onContext f : CaseM σ Unit).run s = (.ok (), { s with context := f s.context }) := rfl

theorem run_ask {α : Type} (question : Tree → α) :
    (ask question : CaseM σ α).run s = (.ok (question s.world.tree), s) := rfl

theorem run_callTool (host : Host σ) (tool : Tool) (args : ToolArgs)
    (keep : CaseContext → InvocationLog → CaseContext) :
    (callTool host tool args keep).run s = match tool.call host args s.world with
      | .error e => (.error e, s)
      | .ok (log, after) => (.ok log.output, ⟨keep s.context log, after⟩) := by
  simp only [callTool, run_bind, run_get]
  cases tool.call host args s.world with
  | error e => rfl
  | ok called => rfl

/-- The result is that of the first program, the state that of the second. -/
theorem run_thenAlways (body cleanup : CaseM σ Unit) :
    (body.thenAlways cleanup).run s = ((body.run s).1, (cleanup.run (body.run s).2).2) := rfl

end CaseM
end Assay

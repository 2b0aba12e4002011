import Assay.Case.Script
import Assay.Proofs.Program
import Mathlib.Data.List.Basic
import Mathlib.Data.List.Induction

/-! # What the report of a case tells

A case keeps its calls in one list and, in another, the positions of those that were
calls of the tool under test.  Operations change the two lists in different ways, and a
call may fail.  Here a case is any list of operations, each performed in whatever world
it finds and whatever became of those before it (`Act.context`).

`Act.after_eq` says once what an operation does to a context.  From it follows what the
report tells (`Act.Tells`): the calls that gave a result, which of them were calls of the
tool under test, and one outcome for each assertion.
-/

namespace Assay

variable {σ : Type}

/-! ## Operations and what they come to -/

/-- The operation is an assertion. -/
def Step.asserts : Step → Bool
  | .assertTrue .. | .assertFalse .. | .compare .. | .record .. | .assertOutput .. => true
  | .target _ | .invoke .. | .fail _ => false

/-- The outcome of an assertion, if `latest` is the latest output of the tool under
test. -/
def Step.outcome? (latest : Option Invocation) : Step → Option Outcome
  | .assertTrue condition message => some ⟨"assert_true", condition, message⟩
  | .assertFalse condition message => some ⟨"assert_false", !condition, message⟩
  | .compare comparison message => some ⟨comparison.description, comparison.holds, message⟩
  | .record description passed message => some ⟨description, passed, message⟩
  | .assertOutput predicate message =>
    match latest with
    | some output => some ⟨"assert_output", predicate output, message⟩
    | none => some ⟨"assert_output", false, "no invocation recorded"⟩
  | .target _ | .invoke .. | .fail _ => none

theorem Step.isSome_outcome? (latest : Option Invocation) (step : Step) :
    (step.outcome? latest).isSome = step.asserts := by
  cases step with
  | assertOutput predicate message => cases latest <;> rfl
  | _ => rfl

/-- A call that fails leaves the context and the world as they are. -/
theorem CaseM.run_callTool_error {host : Host σ} {tool : Tool} {args : ToolArgs}
    {keep : CaseContext → InvocationLog → CaseContext} {s s' : CaseState σ} {e : HarnessError}
    (h : (callTool host tool args keep >>= fun _ => pure ()).run s = (.error e, s')) :
    s' = s := by
  rw [run_bind, run_callTool] at h
  cases hcall : tool.call host args s.world with
  | error e' =>
    rw [hcall] at h
    exact (Prod.mk.inj h).2.symm
  | ok called =>
    rw [hcall] at h
    cases h

/-- An operation that fails leaves the context and the world as they are. -/
theorem Step.perform_error {host : Host σ} {step : Step} {s s' : CaseState σ} {e : HarnessError}
    (h : (step.perform host).run s = (.error e, s')) : s' = s := by
  cases step with
  | assertTrue | assertFalse | compare | record | assertOutput => cases h
  | target args => exact CaseM.run_callTool_error h
  | invoke tool args => exact CaseM.run_callTool_error h
  | fail error => exact (Prod.mk.inj h).2.symm

/-- An operation of a case, and the world it is performed in. -/
structure Act (σ : Type) where
  world : World σ
  step : Step

namespace Act

variable (host : Host σ) (target : Tool)

/-- The record of a call that gave a result. -/
def logOf : Except HarnessError (InvocationLog × World σ) → Option InvocationLog
  | .ok (log, _) => some log
  | .error _ => none

/-- The call that the operation made of the tool under test as such. -/
def targetLog? (a : Act σ) : Option InvocationLog :=
  match a.step with
  | .target args => logOf (target.call host args a.world)
  | _ => none

/-- The call that the operation made, of whatever tool. -/
def log? (a : Act σ) : Option InvocationLog :=
  match a.step with
  | .target args => logOf (target.call host args a.world)
  | .invoke tool args => logOf (tool.call host args a.world)
  | _ => none

/-- The latest output of the tool under test. -/
def latest? (acts : List (Act σ)) : Option Invocation :=
  (acts.filterMap (targetLog? host target)).getLast?.map (·.output)

/-- The context when the operation has been performed, also if it has failed. -/
def after (c : CaseContext) (a : Act σ) : CaseContext :=
  ((a.step.perform host).run ⟨c, a.world⟩).2.context

/-- The context when a case has performed these operations from a fresh one. -/
def context (acts : List (Act σ)) : CaseContext := acts.foldl (after host) { target := target }

variable {host target}

/-- **An operation adds** the outcome of an assertion, the record of a call that gave a
result and, if this was a call of the tool under test, its position. -/
theorem after_eq (c : CaseContext) (a : Act σ) :
    after host c a =
      { target := c.target
        outcomes := ⟨c.outcomes.toList ++ (a.step.outcome? c.lastOutput?).toList⟩
        invocations := c.invocations ++ (a.log? host c.target).toList
        targetIndices := c.targetIndices ++
          ((a.targetLog? host c.target).map fun _ => c.invocations.length).toList } := by
  obtain ⟨w, step⟩ := a
  cases step with
  | assertTrue | assertFalse | compare | record =>
    simp only [after, log?, targetLog?, Option.map_none, Option.toList_none, List.append_nil]
    rfl
  | assertOutput predicate message =>
    simp only [after, Step.perform, CaseM.assertOutput, CaseM.run_onContext,
      CaseContext.assertOutput, log?, targetLog?, Option.map_none, Option.toList_none,
      List.append_nil]
    cases c.lastOutput? with
    | none => rfl
    | some output => rfl
  | target args =>
    simp only [after, Step.perform, CaseM.invokeTarget, run_bind, run_get, CaseM.run_callTool,
      log?, targetLog?]
    cases c.target.call host args w with
    | error e => simp [logOf, Step.outcome?]
    | ok called => simp [logOf, Step.outcome?, run_pure, CaseContext.addTargetCall]
  | invoke tool args =>
    simp only [after, Step.perform, CaseM.invoke, run_bind, CaseM.run_callTool, log?, targetLog?]
    cases tool.call host args w with
    | error e => simp [logOf, Step.outcome?]
    | ok called => simp [logOf, Step.outcome?, run_pure, CaseContext.addCall]
  | fail error =>
    simp only [after, log?, targetLog?, Step.outcome?, Option.map_none, Option.toList_none,
      List.append_nil]
    rfl

theorem context_concat (acts : List (Act σ)) (a : Act σ) :
    context host target (acts ++ [a]) = after host (context host target acts) a :=
  List.foldl_append

/-! ## Calls and their positions -/

/-- The two lists of a context say of the calls that gave a result which they were and
which of them were calls of the tool under test. -/
structure Keeps (host : Host σ) (target : Tool) (acts : List (Act σ)) (c : CaseContext) :
    Prop where
  subject : c.target = target
  invocations : c.invocations = acts.filterMap (log? host target)
  increasing : c.targetIndices.Pairwise (· < ·)
  inRange : ∀ i ∈ c.targetIndices, i < c.invocations.length
  targets : (c.targetIndices.filterMap fun i => c.invocations[i]?) =
    acts.filterMap (targetLog? host target)

variable {acts : List (Act σ)} {c : CaseContext}

theorem log?_of_targetLog? {a : Act σ} {log : InvocationLog}
    (h : a.targetLog? host target = some log) : a.log? host target = some log := by
  obtain ⟨w, step⟩ := a
  cases step with
  | target args => exact h
  | _ => cases h

theorem filterMap_concat (f : Act σ → Option InvocationLog) (acts : List (Act σ)) (a : Act σ) :
    (acts ++ [a]).filterMap f = acts.filterMap f ++ (f a).toList := by
  cases hf : f a <;> simp [hf]

theorem keeps_fresh : Keeps host target ([] : List (Act σ)) { target := target } :=
  ⟨rfl, rfl, List.Pairwise.nil, List.forall_mem_nil _, rfl⟩

theorem Keeps.after (h : Keeps host target acts c) (a : Act σ) :
    Keeps host target (acts ++ [a]) (after host c a) := by
  rw [after_eq, h.subject]
  -- the old positions lead to the same calls in the longer list
  have hold : ∀ more, (c.targetIndices.filterMap fun i => (c.invocations ++ more)[i]?) =
      acts.filterMap (targetLog? host target) := by
    intro more
    rw [← h.targets]
    exact List.filterMap_congr fun i hi => List.getElem?_append_left (h.inRange i hi)
  cases hlog : a.targetLog? host target with
  | none =>
    refine ⟨rfl, ?_, ?_, ?_, ?_⟩
    · rw [h.invocations, filterMap_concat]
    · simpa using h.increasing
    · intro i hi
      have hlt := h.inRange i (by simpa using hi)
      simp only [List.length_append]
      omega
    · rw [filterMap_concat, hlog, ← hold (a.log? host target).toList]
      simp
  | some log =>
    have hcall := log?_of_targetLog? hlog
    refine ⟨rfl, ?_, ?_, ?_, ?_⟩
    · rw [h.invocations, filterMap_concat]
    · simp only [Option.map_some, Option.toList_some, List.pairwise_append, List.mem_singleton]
      exact ⟨h.increasing, List.pairwise_singleton .., fun i hi j hj => hj ▸ h.inRange i hi⟩
    · intro i hi
      simp only [Option.map_some, Option.toList_some, List.mem_append, List.mem_singleton] at hi
      simp only [hcall, Option.toList_some, List.length_append, List.length_singleton]
      rcases hi with hi | rfl
      · have hlt := h.inRange i hi
        omega
      · omega
    · rw [filterMap_concat, hlog, ← hold [log], hcall]
      simp

theorem keeps_context (acts : List (Act σ)) :
    Keeps host target acts (context host target acts) := by
  induction acts using List.reverseRecOn with
  | nil => exact keeps_fresh
  | append_singleton acts a ih =>
    rw [context_concat]
    exact ih.after a

/-- The latest position is that of the latest call of the tool under test, whatever has
been called since. -/
theorem Keeps.lastOutput? (h : Keeps host target acts c) :
    c.lastOutput? = latest? host target acts := by
  rw [latest?, ← h.targets]
  unfold CaseContext.lastOutput?
  rcases List.eq_nil_or_concat c.targetIndices with hnil | ⟨is, i, hconcat⟩
  · simp [hnil]
  · have hlt : i < c.invocations.length := h.inRange i (by simp [hconcat])
    simp [hconcat, List.getElem?_eq_getElem hlt]

/-! ## Outcomes -/

theorem outcomes_concat (acts : List (Act σ)) (a : Act σ) :
    (context host target (acts ++ [a])).outcomes.toList =
      (context host target acts).outcomes.toList ++
        (a.step.outcome? (latest? host target acts)).toList := by
  rw [context_concat, after_eq, (keeps_context acts).lastOutput?]

theorem outcomes_extend (acts later : List (Act σ)) :
    (context host target acts).outcomes.toList <+:
      (context host target (acts ++ later)).outcomes.toList := by
  induction later using List.reverseRecOn with
  | nil => simp
  | append_singleton later a ih =>
    rw [← List.append_assoc, outcomes_concat]
    exact ih.trans (List.prefix_append ..)

theorem length_outcomes (acts : List (Act σ)) :
    (context host target acts).outcomes.toList.length = acts.countP (·.step.asserts) := by
  induction acts using List.reverseRecOn with
  | nil => rfl
  | append_singleton acts a ih =>
    have hone := a.step.isSome_outcome? (latest? host target acts)
    rw [outcomes_concat, List.length_append, ih, List.countP_append, List.countP_singleton, ← hone]
    cases a.step.outcome? (latest? host target acts) <;> simp

/-- The outcome of an assertion stands where as many assertions stand before it. -/
theorem outcome_at {earlier later : List (Act σ)} {a : Act σ} {o : Outcome}
    (h : a.step.outcome? (latest? host target earlier) = some o) :
    (context host target (earlier ++ a :: later)).outcomes.toList[earlier.countP
      (·.step.asserts)]? = some o := by
  have hextend : (context host target (earlier ++ [a])).outcomes.toList <+:
      (context host target (earlier ++ [a] ++ later)).outcomes.toList := outcomes_extend _ later
  obtain ⟨more, hmore⟩ := hextend
  have hlength : (context host target earlier).outcomes.toList.length = _ := length_outcomes earlier
  rw [List.append_cons, ← hmore, outcomes_concat, h, ← hlength]
  simp

/-- A failed outcome is never taken back. -/
theorem status_failed (later : List (Act σ))
    (h : ∃ o ∈ (context host target acts).outcomes.toList, o.passed = false) :
    (context host target (acts ++ later)).outcomes.status = .failed := by
  obtain ⟨o, ho, hfailed⟩ := h
  exact Outcomes.status_of_failed ((outcomes_extend acts later).subset ho) hfailed

/-! ## The report -/

/-- Scripted cases are made of such operations: each step is performed in some world,
and all have given a result when the script has ended without an error. -/
theorem performAll_context {observe : CaseContext → σ → σ} {steps : List Step}
    {s s' : CaseState σ}
    (h : (Step.performAll host observe steps).run s = (.ok (), s')) :
    ∃ acts : List (Act σ), acts.map Act.step = steps ∧
      s'.context = acts.foldl (after host) s.context := by
  induction steps generalizing s with
  | nil =>
    obtain ⟨-, rfl⟩ := Prod.mk.inj h
    exact ⟨[], rfl, rfl⟩
  | cons step rest ih =>
    simp only [Step.performAll, run_bind, CaseM.run_thenAlways] at h
    split at h
    · rename_i u mid hstep
      obtain ⟨acts, hacts, hcontext⟩ := ih h
      obtain ⟨-, rfl⟩ := Prod.mk.inj hstep
      refine ⟨⟨s.world, step⟩ :: acts, by simp [hacts], ?_⟩
      rw [hcontext]
      rfl
    · cases h

/-- **What the report of a case tells about its operations.** -/
structure Tells (host : Host σ) (target : Tool) (acts : List (Act σ)) (report : CaseReport) :
    Prop where
  /-- The calls are those that gave a result. -/
  invocations : report.invocations = acts.filterMap (log? host target)
  increasing : report.targetIndices.Pairwise (· < ·)
  inRange : ∀ i ∈ report.targetIndices, i < report.invocations.length
  /-- The calls of the tool under test are those made of it as such. -/
  targets : report.targetInvocations = acts.filterMap (targetLog? host target)
  size : report.outcomes.size = acts.countP (·.step.asserts)
  /-- The outcome of an assertion stands where as many assertions stand before it.  One
  about the output is about the latest output of the tool under test by then. -/
  outcome : ∀ earlier a later o, acts = earlier ++ a :: later →
    a.step.outcome? (latest? host target earlier) = some o →
    report.outcomes.toList[earlier.countP (·.step.asserts)]? = some o

/-- **The report of a case tells what the case did.**  Whatever operations are performed
from a fresh context, in whatever worlds, the report tells of each call that gave a result
and of each assertion.  An operation that fails changes nothing, and might as well have
been left out; a failed outcome decides the status, whatever comes later.  The report of
a scripted case is one of these. -/
theorem report_tells (host : Host σ) (target : Tool) (acts : List (Act σ)) (label : String)
    (duration : Duration) :
    Tells host target acts ((context host target acts).finish label duration) ∧
    (∀ step s e s', (Step.perform host step).run s = (.error e, s') → s' = s) ∧
    (∀ earlier a later e s', acts = earlier ++ a :: later →
      (a.step.perform host).run ⟨context host target earlier, a.world⟩ = (.error e, s') →
      context host target acts = context host target (earlier ++ later)) ∧
    (∀ later, (∃ o ∈ (context host target acts).outcomes.toList, o.passed = false) →
      ((context host target (acts ++ later)).finish label duration).status = .failed) ∧
    (∀ observe steps w report last,
      (TestCase.scripted label observe steps).run host target w = (.ok report, last) →
      ∃ acts : List (Act σ), acts.map Act.step = steps ∧
        report = (context host target acts).finish label report.duration) := by
  have hkeeps : Keeps host target acts _ := keeps_context acts
  refine ⟨?_, fun step s e s' h => Step.perform_error h, ?_, ?_, ?_⟩
  · refine ⟨hkeeps.invocations, hkeeps.increasing, hkeeps.inRange, hkeeps.targets,
      length_outcomes acts, ?_⟩
    rintro earlier a later o rfl ho
    exact outcome_at ho
  · rintro earlier a later e s' rfl hfails
    have hsame : after host (context host target earlier) a = context host target earlier := by
      obtain rfl := Step.perform_error hfails
      rw [after, hfails]
    simp only [context, List.foldl_append, List.foldl_cons] at hsame ⊢
    rw [hsame]
  · intro later hfailed
    exact status_failed later hfailed
  · intro observe steps w report last hrun
    simp only [TestCase.run, TestCase.scripted] at hrun
    cases hran : (Step.performAll host observe steps).run ⟨{ target := target }, w⟩ with
    | mk result s =>
      rw [hran] at hrun
      cases result with
      | error e => cases hrun
      | ok u =>
        obtain ⟨acts, hacts, hcontext⟩ := performAll_context hran
        obtain ⟨hreport, -⟩ := Prod.mk.inj hrun
        cases hreport
        exact ⟨acts, hacts, by rw [hcontext]; rfl⟩

end Act
end Assay

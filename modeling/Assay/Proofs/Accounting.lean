import Assay.Proofs.Execution
import Mathlib.Data.List.Induction

/-! # The report accounts for every case

The report of a run is filled in by separate updates: a list of selected cases,
a list of labels, two counters, and at an early end the labels that are left.
`RunReport.Accounts` says what all of them have to do with the cases that ran.
It holds of the empty report, entering a case keeps it, and so it holds at the
end of every run (`Runner.run_accounts`), whose report covers its suite
(`Runner.Covers`).
-/

namespace Assay

variable {σ ρ : Type}

namespace RunReport

/-- The report has each of the cases that ended with `reports` in exactly one of
its two lists, and its counters are those of the selected cases. -/
structure Accounts (policy : Policy) (reports : List CaseReport) (report : RunReport) : Prop where
  cases : report.cases = reports.filter fun r => policy.selects r.targetInvocations
  deselected : report.deselected =
    (reports.filter fun r => !policy.selects r.targetInvocations).map (·.label)
  passed : report.passed = report.cases.countP fun r => r.status = .passed
  failed : report.failed = report.cases.countP fun r => r.status ≠ .passed

theorem accounts_empty (policy : Policy) : Accounts policy [] {} := ⟨rfl, rfl, rfl, rfl⟩

/-- One step: a case that is entered is accounted for. -/
theorem Accounts.enter {policy : Policy} {reports : List CaseReport} {report : RunReport}
    (h : Accounts policy reports report) (r : CaseReport) :
    Accounts policy (reports ++ [r]) (policy.enter report r) := by
  obtain ⟨hcases, hdeselected, hpassed, hfailed⟩ := h
  unfold Policy.enter
  by_cases hsel : policy.selects r.targetInvocations
  · rw [if_pos hsel]
    refine ⟨?_, ?_, ?_, ?_⟩
    · simp [addCase, hcases, hsel]
    · simp [addCase, hdeselected, hsel]
    · by_cases hr : r.status = .passed <;> simp [addCase, CaseReport.passed, hpassed, hr]
    · by_cases hr : r.status = .passed <;> simp [addCase, CaseReport.passed, hfailed, hr]
  · rw [if_neg hsel]
    refine ⟨?_, ?_, ?_, ?_⟩
    · simp [addDeselected, hcases, hsel]
    · simp [addDeselected, hdeselected, hsel]
    · exact hpassed
    · exact hfailed

/-- All steps: the report that cases are entered into accounts for them. -/
theorem accounts_foldl (policy : Policy) (reports : List CaseReport) :
    Accounts policy reports (reports.foldl policy.enter {}) := by
  -- entering appends at the end, so the induction takes cases off the end
  induction reports using List.reverseRecOn with
  | nil => exact accounts_empty policy
  | append_singleton reports r ih =>
    rw [List.foldl_append]
    exact ih.enter r

/-- Entering cases neither stops a run nor leaves one out. -/
theorem foldl_enter_open (policy : Policy) (reports : List CaseReport) :
    (reports.foldl policy.enter {}).notRun = [] ∧
      (reports.foldl policy.enter {}).stoppedEarly = false := by
  induction reports using List.reverseRecOn with
  | nil => exact ⟨rfl, rfl⟩
  | append_singleton reports r ih =>
    rw [List.foldl_append, List.foldl_cons, List.foldl_nil, Policy.enter]
    split <;> exact ih

/-- Every case that ran is counted once. -/
theorem Accounts.total {policy : Policy} {reports : List CaseReport} {report : RunReport}
    (h : Accounts policy reports report) :
    report.passed + report.failed + report.deselected.length = reports.length := by
  have hcounted : report.passed + report.failed = report.cases.length := by
    rw [h.passed, h.failed, List.length_eq_countP_add_countP (fun r => r.status = .passed)]
    simp
  rw [hcounted, h.cases, h.deselected, List.length_map, ← List.countP_eq_length_filter,
    ← List.countP_eq_length_filter,
    List.length_eq_countP_add_countP fun r => policy.selects r.targetInvocations]
  simp

end RunReport

namespace Runner

/-- The report that cases leave accounts for them and has the labels of the cases
that did not run.  If there are any, the last case that ran has stopped the run, and the
report says so. -/
theorem Settles.accounts {runner : Runner} {reports : List CaseReport} {rest : List (TestCase σ)}
    {report : RunReport} (h : Settles runner reports rest report) :
    RunReport.Accounts runner.policy reports report ∧ report.notRun = rest.map (·.label) ∧
      (rest ≠ [] → report.stoppedEarly = true ∧
        ∃ earlier last, reports = earlier ++ [last] ∧ runner.stopsAt last = true) := by
  have haccounts := RunReport.accounts_foldl runner.policy reports
  cases h with
  | exhausted _ =>
    exact ⟨haccounts, (RunReport.foldl_enter_open runner.policy reports).1, fun h => absurd rfl h⟩
  | @stopped earlier last _ _ hlast =>
    exact ⟨⟨haccounts.cases, haccounts.deselected, haccounts.passed, haccounts.failed⟩, rfl,
      fun _ => ⟨rfl, earlier, last, rfl, hlast⟩⟩

/-- **The report covers the suite.**  The cases that ended with `reports` are the first of
the suite, and led from the world `w` to the world `after`.  The report accounts for them and
has the labels of all others.  There are others only if the last case that ran has stopped
the run, and the report then says so. -/
structure Covers (runner : Runner) (host : Host σ) (suite : Suite σ) (w after : World σ)
    (reports : List CaseReport) (report : RunReport) : Prop where
  length_le : reports.length ≤ suite.size
  ran : TestCase.runAll host suite.tool (suite.cases.take reports.length) w = (.ok reports, after)
  accounts : RunReport.Accounts runner.policy reports report
  notRun : report.notRun = suite.labels.drop reports.length
  stopped : reports.length < suite.size → report.stoppedEarly = true ∧
    ∃ earlier last, reports = earlier ++ [last] ∧ runner.stopsAt last = true

/-- What cases leave covers the suite that they are the first of. -/
theorem Settles.covers {runner : Runner} {host : Host σ} {suite : Suite σ} {w after last : World σ}
    {ran rest : List (TestCase σ)} {reports : List CaseReport} {report : RunReport}
    (h : Settles runner reports rest report) (hsplit : suite.cases = ran ++ rest)
    (hran : TestCase.runAll host suite.tool ran w = (.ok reports, after)) :
    Covers runner host suite w after reports (timed host w last report) := by
  obtain ⟨haccounts, hnotRun, hstopped⟩ := h.accounts
  obtain ⟨hle, hfirst, hdrop⟩ := TestCase.runAll_first hsplit hran
  refine ⟨hle, hfirst, ?_, ?_, fun hlt => hstopped ?_⟩
  · exact ⟨haccounts.cases, haccounts.deselected, haccounts.passed, haccounts.failed⟩
  · rw [Suite.labels, ← List.map_drop, hdrop]
    exact hnotRun
  · rintro rfl
    rw [List.append_nil] at hsplit
    rw [Suite.size, hsplit, TestCase.runAll_length hran] at hlt
    exact Nat.lt_irrefl _ hlt

theorem Covers.total {runner : Runner} {host : Host σ} {suite : Suite σ} {w after : World σ}
    {reports : List CaseReport} {report : RunReport}
    (h : Covers runner host suite w after reports report) :
    report.passed + report.failed + report.deselected.length + report.notRun.length =
      suite.size := by
  have hle := h.length_le
  rw [h.accounts.total, h.notRun, List.length_drop, Suite.labels, List.length_map]
  exact Nat.add_sub_cancel' hle

/-- A run that ends without an error returns a report that covers its suite. -/
theorem run_covers {runner : Runner} {host : Host σ} {suite : Suite σ} {reporter : Reporter ρ}
    {state : ρ} {w : World σ} {report : RunReport} {p : Progress σ ρ}
    (h : runner.run host suite reporter state w = (.ok report, p)) :
    ∃ reports, Covers runner host suite w p.world reports report := by
  cases run_course h with
  | closed _ hsplit hstretch hsettles _ => exact ⟨_, hsettles.covers hsplit hstretch.ran⟩

/-- The first event of such a run tells the number of cases. -/
theorem run_opens {runner : Runner} {host : Host σ} {suite : Suite σ} {reporter : Reporter ρ}
    {state : ρ} {w : World σ} {report : RunReport} {p : Progress σ ρ}
    (h : runner.run host suite reporter state w = (.ok report, p)) :
    p.events.head? = some (.runStart suite.size) := by
  cases run_course h with
  | closed _ _ hstretch _ _ => simp [closing, hstretch.events, opening]

/-- **A run that ends without an error accounts for every case of its suite.**
For some `k`, running the first `k` cases, each once and in order, gives
`reports` and leaves the very world that the run left.  These reports, split by
the policy, are the two lists of the report; the labels of the other cases are
those that did not run, and there are such cases only after an early end.  The
counters are those of the selected cases, and everything adds up to the number
that the reporter was told at the start. -/
theorem run_accounts {runner : Runner} {host : Host σ} {suite : Suite σ} {reporter : Reporter ρ}
    {state : ρ} {w : World σ} {report : RunReport} {p : Progress σ ρ}
    (h : runner.run host suite reporter state w = (.ok report, p)) :
    ∃ (k : Nat) (reports : List CaseReport), k ≤ suite.size ∧
      TestCase.runAll host suite.tool (suite.cases.take k) w = (.ok reports, p.world) ∧
      reports.map (·.label) = suite.labels.take k ∧
      report.cases = reports.filter (fun r => runner.policy.selects r.targetInvocations) ∧
      report.deselected =
        (reports.filter fun r => !runner.policy.selects r.targetInvocations).map (·.label) ∧
      report.notRun = suite.labels.drop k ∧
      (k < suite.size → report.stoppedEarly = true) ∧
      report.passed = report.cases.countP (fun r => r.status = .passed) ∧
      report.failed = report.cases.countP (fun r => r.status ≠ .passed) ∧
      report.passed + report.failed + report.deselected.length + report.notRun.length =
        suite.size ∧
      p.events.head? = some (.runStart suite.size) := by
  obtain ⟨reports, hcovers⟩ := run_covers h
  refine ⟨reports.length, reports, hcovers.length_le, hcovers.ran, ?_, hcovers.accounts.cases,
    hcovers.accounts.deselected, hcovers.notRun, fun hlt => (hcovers.stopped hlt).1,
    hcovers.accounts.passed, hcovers.accounts.failed, hcovers.total, ?_⟩
  · rw [TestCase.runAll_labels hcovers.ran, List.map_take, Suite.labels]
  · exact run_opens h

/-- The run of the sample suite: one case passed, one was not selected, one
failed, and one did not run. -/
theorem run_accounts_sample :
    ∃ report p, Sample.runner.run Sample.host Sample.suite .silent () Sample.world =
        (.ok report, p) ∧
      (report.passed, report.failed, report.deselected, report.notRun) = (1, 1, ["[b]"], ["[d]"]) ∧
      report.passed + report.failed + report.deselected.length + report.notRun.length = 4 ∧
      p.events.head? = some (.runStart 4) := by
  obtain ⟨report, p, h⟩ : ∃ report p,
      Sample.runner.run Sample.host Sample.suite .silent () Sample.world = (.ok report, p) :=
    ⟨_, _, rfl⟩
  have hcounts : (Sample.runner.run Sample.host Sample.suite .silent () Sample.world).1.map
      (fun r => (r.passed, r.failed, r.deselected, r.notRun)) =
        .ok (1, 1, ["[b]"], ["[d]"]) := rfl
  rw [h] at hcounts
  obtain ⟨_, _, _, _, _, _, _, _, _, _, _, hsum, hstart⟩ := run_accounts h
  exact ⟨report, p, h, Except.ok.inj hcounts, hsum, hstart⟩

end Runner
end Assay

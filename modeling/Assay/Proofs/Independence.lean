import Assay.Proofs.Accounting
import Assay.Proofs.Listening
import Assay.Proofs.Restoration
import Assay.Report.Summary

/-! # Every case reports as if it ran alone

The cases of a run share a world, and so one case could influence the next.  For
artifact cases whose programs depend on the tree alone, none does: each starts in
the tree that the run began with, and reports what it would report if it were
the only case (`Artifact.Scenario.runAll_verdict`).  The report of a run, its
times apart, is then a function of these verdicts (`Runner.tally`), in which
neither the worlds in between nor the runs before leave a trace.
-/

namespace Assay

/-! ## Reports without their times -/

/-- The call with no time. -/
def InvocationLog.untimed (log : InvocationLog) : InvocationLog := { log with duration := .zero }

theorem InvocationLog.output_of_untimed {log log' : InvocationLog}
    (h : log.untimed = log'.untimed) : log.output = log'.output :=
  (InvocationLog.mk.inj h).2.2.1

/-- The case with no times. -/
def CaseReport.untimed (r : CaseReport) : CaseReport :=
  { r with invocations := r.invocations.map InvocationLog.untimed, duration := .zero }

/-- The run with no times. -/
def RunReport.untimed (r : RunReport) : RunReport :=
  { r with cases := r.cases.map CaseReport.untimed, duration := .zero }

theorem CaseReport.targetInvocations_untimed (r : CaseReport) :
    r.untimed.targetInvocations = r.targetInvocations.map InvocationLog.untimed := by
  simp [CaseReport.targetInvocations, CaseReport.untimed, List.map_filterMap]

/-- A policy does not look at times. -/
theorem Policy.selects_untimed (policy : Policy) (r : CaseReport) :
    policy.selects r.untimed.targetInvocations = policy.selects r.targetInvocations := by
  rw [CaseReport.targetInvocations_untimed, Policy.selects, Policy.selects, List.any_map]
  rfl

theorem Policy.enter_untimed (policy : Policy) (report : RunReport) (r : CaseReport) :
    (policy.enter report r).untimed = policy.enter report.untimed r.untimed := by
  unfold Policy.enter
  rw [Policy.selects_untimed]
  split
  · simp [RunReport.addCase, RunReport.untimed, CaseReport.passed, CaseReport.status,
      CaseReport.untimed]
  · rfl

/-- Nor does the summary show times. -/
theorem RunReport.renderSummary_untimed (r : RunReport) (opts : RenderOptions) :
    r.untimed.renderSummary opts = r.renderSummary opts := by
  have hcase : ∀ c : CaseReport, c.untimed.renderSummary opts = c.renderSummary opts := by
    intro c
    have hcalls : c.untimed.renderInvocations = c.renderInvocations := by
      rw [CaseReport.renderInvocations, CaseReport.untimed, List.map_map]
      rfl
    unfold CaseReport.renderSummary
    rw [hcalls]
    rfl
  unfold RunReport.renderSummary
  rw [RunReport.untimed, List.map_map]
  simp only [Function.comp_def, hcase]

theorem RunReport.counts_untimed (r : RunReport) : r.untimed.counts = r.counts := rfl

/-! ## The report as a function of the verdicts -/

/-- Reports that account for the same cases in different orders have the same
cases in each list, and the same totals. -/
theorem RunReport.Accounts.perm {policy : Policy} {reports reports' : List CaseReport}
    {report report' : RunReport} (h : Accounts policy reports report)
    (h' : Accounts policy reports' report') (hperm : reports.Perm reports') :
    report.cases.Perm report'.cases ∧ report.deselected.Perm report'.deselected ∧
      report.passed = report'.passed ∧ report.failed = report'.failed := by
  have hcases : report.cases.Perm report'.cases := by
    rw [h.cases, h'.cases]
    exact hperm.filter _
  refine ⟨hcases, ?_, ?_, ?_⟩
  · rw [h.deselected, h'.deselected]
    exact (hperm.filter _).map _
  · rw [h.passed, h'.passed, hcases.countP_eq]
  · rw [h.failed, h'.failed, hcases.countP_eq]

namespace Runner

variable {σ ρ : Type} {runner : Runner}

/-- Enter cases into a report, up to the first that stops the run; of the cases
after that one only the labels are kept. -/
def tally (runner : Runner) : List CaseReport → RunReport → RunReport
  | [], report => report
  | r :: rest, report =>
    if runner.stopsAt r then (runner.policy.enter report r).stopBefore (rest.map (·.label))
    else runner.tally rest (runner.policy.enter report r)

theorem tally_append {earlier later : List CaseReport} {report : RunReport}
    (hgo : ∀ r ∈ earlier, runner.stopsAt r = false) :
    runner.tally (earlier ++ later) report =
      runner.tally later (earlier.foldl runner.policy.enter report) := by
  induction earlier generalizing report with
  | nil => rfl
  | cons r rest ih =>
    rw [List.cons_append, tally, hgo r List.mem_cons_self, if_neg Bool.false_ne_true]
    exact ih fun x hx => hgo x (List.mem_cons_of_mem r hx)

/-- Without a stop, all cases are entered. -/
theorem tally_complete (hstop : runner.stopOnFail = false) (reports : List CaseReport)
    (report : RunReport) :
    runner.tally reports report = reports.foldl runner.policy.enter report := by
  have hgo : ∀ r ∈ reports, runner.stopsAt r = false := by
    intro r _
    rw [stopsAt, hstop, Bool.false_and]
  rw [← List.append_nil reports, tally_append hgo, List.append_nil]
  rfl

theorem tally_untimed (reports : List CaseReport) (report : RunReport) :
    (runner.tally reports report).untimed =
      runner.tally (reports.map CaseReport.untimed) report.untimed := by
  induction reports generalizing report with
  | nil => rfl
  | cons r rest ih =>
    have hstop : runner.stopsAt r.untimed = runner.stopsAt r := by
      unfold stopsAt Policy.fails
      rw [Policy.selects_untimed]
      rfl
    rw [List.map_cons, tally, tally, hstop, ← Policy.enter_untimed]
    split
    · simp [RunReport.stopBefore, RunReport.untimed, CaseReport.untimed]
    · exact ih _

/-- A report that cases leave is the tally of their reports and those that the
other cases would have given. -/
theorem Settles.eq_tally {reports others : List CaseReport} {rest : List (TestCase σ)}
    {report : RunReport} (h : Settles runner reports rest report)
    (hothers : others.map (·.label) = rest.map (·.label)) :
    runner.tally (reports ++ others) {} = report := by
  cases h with
  | exhausted hgo =>
    obtain rfl : others = [] := by simpa using hothers
    rw [tally_append hgo]
    rfl
  | stopped hgo hstop =>
    rw [List.append_assoc, tally_append hgo, List.singleton_append, tally, if_pos hstop, hothers,
      List.foldl_append]
    rfl

/-- If all cases of a suite end without an error one after the other, the report
of a run is the tally of what they report. -/
theorem Unfolds.eq_tally {host : Host σ} {suite : Suite σ} {w world last : World σ}
    {result : Except HarnessError RunReport} {events : List Event} {reports : List CaseReport}
    (h : Unfolds runner host suite w result events world)
    (hall : TestCase.runAll host suite.tool suite.cases w = (.ok reports, last)) :
    result = .ok (timed host w world (runner.tally reports {})) := by
  cases h with
  | raised hsplit hran _ hcase =>
    rw [hsplit] at hall
    obtain ⟨_, _, _, -, hran', hrest⟩ := TestCase.runAll_append_ok.mp hall
    cases hran.symm.trans hran'
    obtain ⟨_, _, _, -, hcase', -⟩ := TestCase.runAll_cons_ok.mp hrest
    cases hcase.symm.trans hcase'
  | settled hsplit hran hsettles =>
    rw [hsplit] at hall
    obtain ⟨_, others, _, rfl, hran', hrest⟩ := TestCase.runAll_append_ok.mp hall
    cases hran.symm.trans hran'
    rw [hsettles.eq_tally (TestCase.runAll_labels hrest)]

/-- Run a suite several times in a row: once for each state in which a reporter
begins, and each time in the world that the run before has left. -/
def rerun (runner : Runner) (host : Host σ) (suite : Suite σ) (reporter : Reporter ρ) :
    List ρ → World σ → List (Except HarnessError RunReport × Progress σ ρ)
  | [], _ => []
  | state :: states, w =>
    let ended := runner.run host suite reporter state w
    ended :: runner.rerun host suite reporter states ended.2.world

/-- What every case keeps holds at the start of every run in a row. -/
theorem rerun_keeps {host : Host σ} {suite : Suite σ} {reporter : Reporter ρ}
    {P : World σ → Prop} (hcase : ∀ case ∈ suite.cases, ∀ v, P v → P (case.run host suite.tool v).2)
    {states : List ρ} {w : World σ} (hw : P w)
    {ended : Except HarnessError RunReport × Progress σ ρ}
    (h : ended ∈ runner.rerun host suite reporter states w) :
    ∃ state v, P v ∧ ended = runner.run host suite reporter state v := by
  induction states generalizing w with
  | nil => cases h
  | cons state states ih =>
    rcases List.mem_cons.mp h with rfl | hlater
    · exact ⟨state, w, hw, rfl⟩
    · exact ih (run_keeps hcase hw) hlater

end Runner

/-! ## Cases whose programs depend on the tree alone -/

variable {σ ρ : Type}

/-- The tool can always be called with these arguments, and what the call returns
and the tree it leaves depend on nothing but the tree it finds. -/
def Tool.Determined (tool : Tool) (host : Host σ) (args : ToolArgs) : Prop :=
  ∃ f : Tree → Invocation × Tree, ∀ v, ∃ log after, tool.call host args v = .ok (log, after) ∧
    (log.output, after.tree) = f v.tree

/-- Two calls that find the same tree have the same record, its time apart, and
leave the same tree. -/
theorem Tool.Determined.call {tool : Tool} {host : Host σ} {args : ToolArgs} {v v' : World σ}
    (h : tool.Determined host args) (hv : v.tree = v'.tree) :
    ∃ log log' after after', tool.call host args v = .ok (log, after) ∧
      tool.call host args v' = .ok (log', after') ∧ log.untimed = log'.untimed ∧
      after.tree = after'.tree := by
  obtain ⟨f, hf⟩ := h
  obtain ⟨log, after, hcall, hlog⟩ := hf v
  obtain ⟨log', after', hcall', hlog'⟩ := hf v'
  obtain ⟨houtput, htree⟩ := Prod.mk.inj (hlog.trans (hv ▸ hlog'.symm))
  refine ⟨log, log', after, after', hcall, hcall', ?_, htree⟩
  obtain ⟨program, rest, done, hrender, -, rfl⟩ := Tool.call_ok hcall
  obtain ⟨program', rest', done', hrender', -, rfl⟩ := Tool.call_ok hcall'
  cases hrender.symm.trans hrender'
  dsimp only at houtput
  simp only [InvocationLog.untimed, houtput]

namespace Artifact.Scenario

/-- The programs that a case calls depend on the tree alone. -/
structure Determined (host : Host σ) (target : Tool) (c : Scenario) : Prop where
  target : target.Determined host (.ofPaths [c.input])
  checker : ∀ checker, c.checker = some checker →
    checker.Determined host (.ofPaths [c.artifact, c.reference])

variable {host : Host σ} {target : Tool} {c : Scenario} {v v' w : World σ}

/-- A case that finds the same tree gives the same report, its times apart. -/
theorem Determined.run (h : c.Determined host target) (hv : v.tree = v'.tree) :
    ∃ r r', ((c.toCase : TestCase σ).run host target v).1 = .ok r ∧
      ((c.toCase : TestCase σ).run host target v').1 = .ok r' ∧ r.untimed = r'.untimed := by
  obtain ⟨call, call', called, called', hcall, hcall', hlog, htree⟩ := h.target.call hv
  have houtput := InvocationLog.output_of_untimed hlog
  unfold toCase
  split
  · rename_i checker hchecker
    obtain ⟨check, check', compared, compared', hcheck, hcheck', hlog', htree'⟩ :=
      (h.checker checker hchecker).call htree
    have houtput' := InvocationLog.output_of_untimed hlog'
    simp only [artifact, reference] at hcheck hcheck'
    simp only [run_produced, hcall, hcall', hcheck, hcheck']
    refine ⟨_, _, rfl, rfl, ?_⟩
    simp only [CaseReport.untimed, List.map_cons, List.map_nil, hlog, hlog', returned, matched,
      removal, houtput, houtput', htree, htree']
  · simp only [run_absent, hcall, hcall', htree]
    split
    · refine ⟨_, _, rfl, rfl, ?_⟩
      simp only [CaseReport.untimed, List.map_cons, List.map_nil, hlog, returned, removal, houtput,
        htree]
    · refine ⟨_, _, rfl, rfl, ?_⟩
      simp only [CaseReport.untimed, List.map_cons, List.map_nil, hlog, returned, houtput]

/-- What a case reports, its times apart, if it runs alone. -/
def verdict (host : Host σ) (target : Tool) (w : World σ) (c : Scenario) : Option CaseReport :=
  ((c.toCase : TestCase σ).run host target w).1.toOption.map CaseReport.untimed

theorem Determined.verdict (h : c.Determined host target) (hv : v.tree = w.tree) :
    ∃ r, ((c.toCase : TestCase σ).run host target v).1 = .ok r ∧
      c.verdict host target w = some r.untimed := by
  obtain ⟨r, r', hr, hr', heq⟩ := h.run hv
  refine ⟨r, hr, ?_⟩
  rw [Scenario.verdict, hr', heq]
  rfl

/-- **No case sees anything of another.**  From every world with the same tree,
the cases report one after the other what each reports alone. -/
theorem runAll_verdict {scenarios : List Scenario} (hv : v.tree = w.tree)
    (hconfined : ∀ c ∈ scenarios, c.Confined host target w.tree)
    (hdetermined : ∀ c ∈ scenarios, c.Determined host target) :
    ∃ reports last,
      TestCase.runAll host target (scenarios.map (toCase : Scenario → TestCase σ)) v =
        (.ok reports, last) ∧
      reports.map CaseReport.untimed = scenarios.filterMap (verdict host target w) := by
  induction scenarios generalizing v with
  | nil => exact ⟨[], v, rfl, rfl⟩
  | cons c rest ih =>
    obtain ⟨r, hr, hverdict⟩ := (hdetermined c List.mem_cons_self).verdict hv
    have htree := (hconfined c List.mem_cons_self).run_tree hv
    obtain ⟨reports, last, hrest, hreports⟩ := ih htree
      (fun x hx => hconfined x (List.mem_cons_of_mem c hx))
      (fun x hx => hdetermined x (List.mem_cons_of_mem c hx))
    refine ⟨r :: reports, last, ?_, ?_⟩
    · exact TestCase.runAll_cons_ok.mpr ⟨r, reports, _, rfl, Prod.ext hr rfl, hrest⟩
    · rw [List.map_cons, List.filterMap_cons, hverdict, hreports]

/-- The report of a run is the tally of the verdicts, and a reporter that never
fails gets one. -/
theorem run_verdict (runner : Runner) {scenarios : List Scenario} (reporter : Reporter ρ)
    (state : ρ) (hv : v.tree = w.tree)
    (hconfined : ∀ c ∈ scenarios, c.Confined host target w.tree)
    (hdetermined : ∀ c ∈ scenarios, c.Determined host target) :
    ((∀ e s, (reporter.tell e s).1 = .ok ()) →
      ∃ r, (runner.run host (suite target scenarios) reporter state v).1 = .ok r) ∧
    ∀ r, (runner.run host (suite target scenarios) reporter state v).1 = .ok r →
      r.untimed = runner.tally (scenarios.filterMap (verdict host target w)) {} := by
  obtain ⟨reports, last, hall, hreports⟩ := runAll_verdict hv hconfined hdetermined
  obtain ⟨result, events, world, hunfolds⟩ := runner.unfolds host (suite target scenarios) v
  obtain rfl := hunfolds.eq_tally hall
  have hreport : (Runner.timed host v world (runner.tally reports {})).untimed =
      runner.tally (scenarios.filterMap (verdict host target w)) {} := by
    rw [← hreports]
    exact Runner.tally_untimed reports {}
  refine ⟨fun quiet => ?_, fun r hr => ?_⟩
  · obtain ⟨s, hrun⟩ := hunfolds.run_of_quiet quiet state
    exact ⟨_, congrArg Prod.fst hrun⟩
  · cases htold : reporter.tellAll events state with
    | mk taken s =>
      cases taken with
      | ok _ =>
        rw [hunfolds.run_of_ok htold] at hr
        cases hr
        exact hreport
      | error io =>
        obtain ⟨_, _, _, _, _, _, -, -, -, -, -, hrun⟩ := hunfolds.run_of_error htold
        rw [hrun] at hr
        cases hr

/-- **Runs can be repeated, and cases reordered.**  If the programs of each case
touch nothing but its artifact and depend on the tree alone, then every case has
a verdict, and every run in a row has the report, its times apart, that is the
tally of the verdicts: it renders to the same summary and the same counts.  Unless
the run stops at failures, the cases may come in any order: each has the report
it had, in the list where it was, and the totals are the same. -/
theorem run_repeatable (runner : Runner) (host : Host σ) (target : Tool)
    (scenarios : List Scenario) (w : World σ)
    (hconfined : ∀ c ∈ scenarios, c.Confined host target w.tree)
    (hdetermined : ∀ c ∈ scenarios, c.Determined host target) :
    let expected := runner.tally (scenarios.filterMap (verdict host target w)) {}
    (∀ c ∈ scenarios, (c.verdict host target w).isSome) ∧
    (∀ (ρ : Type) (reporter : Reporter ρ) (states : List ρ),
      ∀ ended ∈ runner.rerun host (suite target scenarios) reporter states w,
        ((∀ e s, (reporter.tell e s).1 = .ok ()) → ∃ r, ended.1 = .ok r) ∧
        ∀ r, ended.1 = .ok r → r.untimed = expected ∧ r.counts = expected.counts ∧
          ∀ opts, r.renderSummary opts = expected.renderSummary opts) ∧
    (runner.stopOnFail = false →
      ∀ scenarios', scenarios'.Perm scenarios →
      ∀ (ρ : Type) (reporter : Reporter ρ) (state : ρ),
        let ended := runner.run host (suite target scenarios') reporter state w
        let verdicts := scenarios'.filterMap (verdict host target w)
        ((∀ e s, (reporter.tell e s).1 = .ok ()) → ∃ r, ended.1 = .ok r) ∧
        ∀ r, ended.1 = .ok r →
          r.cases.map CaseReport.untimed =
            verdicts.filter (fun x => runner.policy.selects x.targetInvocations) ∧
          r.deselected = (verdicts.filter
            fun x => !runner.policy.selects x.targetInvocations).map (·.label) ∧
          (r.cases.map CaseReport.untimed).Perm expected.cases ∧
          r.deselected.Perm expected.deselected ∧
          r.passed = expected.passed ∧ r.failed = expected.failed ∧
          r.exitCode = expected.exitCode) := by
  intro expected
  refine ⟨fun c hc => ?_, fun ρ reporter states ended hended => ?_,
    fun hstop scenarios' hperm ρ reporter state => ?_⟩
  · obtain ⟨r, -, hverdict⟩ := (hdetermined c hc).verdict (v := w) rfl
    rw [hverdict]
    rfl
  · obtain ⟨state, v, hv, rfl⟩ := Runner.rerun_keeps (P := fun v => v.tree = w.tree)
      (suite_keeps_tree hconfined) rfl hended
    have hrun := run_verdict runner reporter state hv hconfined hdetermined
    refine ⟨hrun.1, fun r hr => ?_⟩
    have heq : r.untimed = expected := hrun.2 r hr
    rw [← heq]
    exact ⟨rfl, r.counts_untimed.symm, fun opts => (r.renderSummary_untimed opts).symm⟩
  · have hrun := run_verdict runner reporter state (v := w) rfl
      (fun c hc => hconfined c (hperm.mem_iff.mp hc))
      (fun c hc => hdetermined c (hperm.mem_iff.mp hc))
    refine ⟨hrun.1, fun r hr => ?_⟩
    have haccounts (reports : List CaseReport) :
        RunReport.Accounts runner.policy reports (runner.tally reports {}) := by
      rw [Runner.tally_complete hstop]
      exact RunReport.accounts_foldl runner.policy reports
    have hr' : RunReport.Accounts runner.policy _ r.untimed := hrun.2 r hr ▸ haccounts _
    obtain ⟨hcases, hdeselected, hpassed, hfailed⟩ :=
      hr'.perm (haccounts _) (hperm.filterMap (verdict host target w))
    refine ⟨hr'.cases, hr'.deselected, hcases, hdeselected, hpassed, hfailed, ?_⟩
    exact congrArg (fun n => if n = 0 then 0 else 1) hfailed

end Artifact.Scenario

namespace Sample

/-- With one return code for all calls, what a program does depends on the tree
alone. -/
theorem determined {tool : Tool} {args : ToolArgs} {program : String} {rest : List String}
    (n : Nat) (hrender : tool.template.render args = program :: rest)
    (hwords : (⟨program, rest, tool.env, tool.workingDir⟩ : Launch).expressible = true)
    (hcmp : program ≠ "cmp") : tool.Determined (writer fun _ => n) args := by
  refine ⟨fun tree => (.ofCompletion ⟨.code n, [], []⟩, if rest = ["a.c"] then
    tree.insert (spot "a.c.g") (.file [] ⟨0o644, .present, 2⟩) else tree), fun v => ?_⟩
  simp only [Tool.call, hrender, Host.start, hwords, writer, hcmp, if_true, if_false]
  exact ⟨_, _, rfl, rfl⟩

theorem determined_scenario (n : Nat) {checker : Option String}
    (hchecker : checker = some "diff" ∨ checker = none) :
    (scenario checker).Determined (writer fun _ => n) fix := by
  have htarget : fix.Determined (writer fun _ => n) (.ofPaths [Text.utf8 "a.c"]) :=
    determined n words_fix (by decide +kernel) (by decide)
  rcases hchecker with rfl | rfl
  · refine ⟨htarget, ?_⟩
    rintro _ ⟨rfl⟩
    rw [artifact_scenario, reference_scenario]
    exact determined n (words_check "diff") (by decide +kernel) (by decide)
  · exact ⟨htarget, fun _ hnone => by cases hnone⟩

end Sample

namespace Artifact.Scenario

/-- The artifact is wanted by one case and not by the other: in three runs in a
row, and with the cases the other way round, one passes and one fails. -/
theorem run_repeatable_sample :
    let host := Sample.writer fun _ => 0
    let w : World Nat := ⟨Sample.inputTree, 0⟩
    let wanted := Sample.scenario (some "diff")
    let unwanted := Sample.scenario none
    (∀ c ∈ [wanted, unwanted], c.Confined host Sample.fix w.tree) ∧
    (∀ c ∈ [wanted, unwanted], c.Determined host Sample.fix) ∧
    (∀ ended ∈ ({} : Runner).rerun host (suite Sample.fix [wanted, unwanted]) .silent
        [(), (), ()] w, ∃ r, ended.1 = .ok r ∧ r.counts = "1 passed, 1 failed") ∧
    ∃ r, (({} : Runner).run host (suite Sample.fix [unwanted, wanted]) .silent () w).1 = .ok r ∧
      (r.passed, r.failed, r.exitCode) = (1, 1, 1) := by
  intro host w wanted unwanted
  have hconfined : ∀ c ∈ [wanted, unwanted], c.Confined host Sample.fix w.tree := by
    simp [host, w, wanted, unwanted, Sample.confined]
  have hdetermined : ∀ c ∈ [wanted, unwanted], c.Determined host Sample.fix := by
    simp [host, wanted, unwanted, Sample.determined_scenario]
  obtain ⟨-, hrepeat, hreorder⟩ := run_repeatable {} host Sample.fix [wanted, unwanted] w hconfined
    hdetermined
  have hexpected : (({} : Runner).tally
      ([wanted, unwanted].filterMap (verdict host Sample.fix w)) {}).counts =
        "1 passed, 1 failed" := by decide +kernel
  have htotals : (fun r : RunReport => (r.passed, r.failed, r.exitCode)) (({} : Runner).tally
      ([wanted, unwanted].filterMap (verdict host Sample.fix w)) {}) = (1, 1, 1) := by
    decide +kernel
  refine ⟨hconfined, hdetermined, fun ended hended => ?_, ?_⟩
  · obtain ⟨hreturns, hreport⟩ := hrepeat Unit .silent _ ended hended
    obtain ⟨r, hr⟩ := hreturns fun _ _ => rfl
    exact ⟨r, hr, (hreport r hr).2.1.trans hexpected⟩
  · obtain ⟨hreturns, hreport⟩ := hreorder rfl [unwanted, wanted] (.swap _ _ _) Unit .silent ()
    obtain ⟨r, hr⟩ := hreturns fun _ _ => rfl
    obtain ⟨-, -, -, -, hpassed, hfailed, hcode⟩ := hreport r hr
    refine ⟨r, hr, ?_⟩
    rw [hpassed, hfailed, hcode]
    exact htotals

end Artifact.Scenario
end Assay

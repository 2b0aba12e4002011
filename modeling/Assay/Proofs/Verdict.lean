import Assay.Proofs.Accounting
import Assay.Proofs.ExitZero
import Assay.Proofs.RunDocument
import Assay.Proofs.Sinks

/-! # One verdict everywhere

Whether a case has failed is told in several places: by the counters of a report, by
its JSON document, by the lines that the console shows while the run goes on and in
the summary, and by the exit code of the program.  `RunReport.Agrees` says that
they tell the same, and it holds of every report that a run returns
(`Runner.run_agrees`).

`Cli.Concludes` lists the ways a conformance run can go, each with what it leaves;
the exit codes are read off it (`Cli.one_verdict`).
-/

namespace Assay

open Text (line)

variable {σ ρ : Type}

/-! ## Cases -/

/-- A case has failed exactly if there are messages about it. -/
theorem Outcomes.status_eq_failed_iff (os : Outcomes) :
    os.status = .failed ↔ os.failureMessages ≠ [] := by
  by_cases hempty : os.toList = []
  · simp [status, failureMessages, hempty]
  · have hstatus : os.status = .failed ↔ ∃ o ∈ os.toList, o.passed = false := by
      simp [status, hempty]
    have hmessages : os.failureMessages ≠ [] ↔ ∃ o ∈ os.toList, o.passed = false := by
      simp [failureMessages, failures, hempty]
    exact hstatus.trans hmessages.symm

namespace CaseReport

/-- The summary begins what it says about the case with a line that shows `status`. -/
def shownAs (c : CaseReport) (opts : RenderOptions) (status : CaseStatus) : Bool :=
  (statusLine c.label status opts.color).toList.isPrefixOf (c.renderSummary opts).toList

/-- The lines of a case in the summary: its status, a line for each message, and
perhaps its calls. -/
theorem renderSummary_eq (c : CaseReport) (opts : RenderOptions) :
    c.renderSummary opts = statusLine c.label c.status opts.color ++
      String.join (c.failureMessages.map fun m => line ("    " ++ m)) ++
      (if c.status = .failed ∧ opts.verbose = true then c.renderInvocations else "") := by
  unfold renderSummary
  by_cases hfailed : c.status = .failed
  · by_cases hverbose : opts.verbose = true <;> simp [hfailed, hverbose, String.append_assoc]
  · have hnone : c.failureMessages = [] := by
      by_contra hsome
      exact hfailed (c.outcomes.status_eq_failed_iff.mpr hsome)
    simp [hfailed, hnone]

/-- Different statuses are shown with different lines. -/
theorem shownAs_iff (c : CaseReport) (opts : RenderOptions) (status : CaseStatus) :
    c.shownAs opts status = true ↔ c.status = status := by
  rw [shownAs, List.isPrefixOf_iff_prefix, renderSummary_eq]
  constructor
  · intro h
    simp only [statusLine, line, String.toList_append, List.append_assoc,
      List.prefix_append_right_inj] at h
    revert h
    cases opts.color <;> cases c.status <;> cases status <;>
      simp [CaseStatus.render, CaseStatus.label, CaseStatus.colorCode, Paint.paint]
  · rintro rfl
    rw [String.append_assoc, String.toList_append]
    exact List.prefix_append _ _

end CaseReport

/-! ## Reports -/

namespace RunReport

open Json (get? list? text?)

/-- **The places that tell which cases have failed agree**: the exit code, the
counter, the statuses in the JSON document, the lines of the summary, and the
messages. -/
structure Agrees (r : RunReport) : Prop where
  exit : r.exitCode = if ∃ c ∈ r.cases, c.status = .failed then 1 else 0
  serialized : ∃ statuses, r.toJson.get? "cases" (list? (get? "status" text?)) = some statuses ∧
    r.failed = statuses.count "failed"
  printed : ∀ opts, r.failed = r.cases.countP (·.shownAs opts .failed)
  explained : ∀ opts, ∀ c ∈ r.cases, c.shownAs opts .failed = true ↔ c.failureMessages ≠ []
  /-- The summary has the cases in order, each with its status line and a line for
  each message. -/
  summary : ∀ opts, ∃ rest, r.renderSummary opts = line (banner ++ " SUMMARY " ++ banner) ++
    String.join (r.cases.map fun c => statusLine c.label c.status opts.color ++
      String.join (c.failureMessages.map fun m => line ("    " ++ m)) ++
      (if c.status = .failed ∧ opts.verbose = true then c.renderInvocations else "")) ++ rest

theorem Agrees.exitCode_eq_one {r : RunReport} (h : r.Agrees) :
    r.exitCode = 1 ↔ ∃ c ∈ r.cases, c.status = .failed := by
  rw [h.exit]
  split
  · rename_i hsome
    exact iff_of_true rfl hsome
  · rename_i hnone
    exact iff_of_false Nat.zero_ne_one hnone

theorem Agrees.exitCode_eq_zero {r : RunReport} (h : r.Agrees) :
    r.exitCode = 0 ↔ ∀ c ∈ r.cases, c.status ≠ .failed := by
  rw [h.exit]
  split
  · rename_i hsome
    exact iff_of_false Nat.one_ne_zero (by simpa using hsome)
  · rename_i hnone
    exact iff_of_true rfl (by simpa using hnone)

theorem status_texts (r : RunReport) :
    r.toJson.get? "cases" (list? (get? "status" text?)) =
      some (r.cases.map fun c => c.status.key) := by
  have hcase (c : CaseReport) : get? "status" text? c.toJson = some c.status.key := by
    simp [CaseReport.toJson, get?, Json.field?_cons, text?]
  simp [toJson, get?, Json.field?_cons, Json.list?_array _ _ _ hcase]

/-- A report agrees with itself if its counter of failures is that of its cases. -/
theorem agrees_of_failed {r : RunReport}
    (h : r.failed = r.cases.countP fun c => c.status ≠ .passed) : r.Agrees := by
  have hfailed : r.failed = r.cases.countP fun c => c.status = .failed := by
    rw [h]
    refine List.countP_congr fun c _ => ?_
    rcases c.outcomes.status_cases with hc | hc <;> simp [CaseReport.status, hc]
  -- all of them are counts over the same cases, of predicates that agree on each case
  refine ⟨?_, ⟨_, r.status_texts, ?_⟩, fun opts => ?_, fun opts c _ => ?_, fun opts => ?_⟩
  · rw [exitCode, hfailed]
    by_cases hsome : ∃ c ∈ r.cases, c.status = .failed
    · simp [hsome]
    · simp [hsome]
  · rw [hfailed, List.count, List.countP_map]
    refine List.countP_congr fun c _ => ?_
    cases hc : c.status <;> simp [hc, CaseStatus.key]
  · rw [hfailed]
    refine List.countP_congr fun c _ => ?_
    rw [c.shownAs_iff, decide_eq_true_eq]
  · rw [c.shownAs_iff]
    exact c.outcomes.status_eq_failed_iff
  · simp only [← CaseReport.renderSummary_eq]
    exact ⟨_, String.append_assoc⟩

end RunReport

/-! ## Runs -/

namespace Console

/-- The lines that are written when cases are complete. -/
def progress (opts : RenderOptions) (events : List Event) : List String :=
  (events.filterMap Event.completed?).flatMap fun c => pieces opts (.caseComplete c)

variable {opts : RenderOptions}

theorem pieces_caseComplete (hquiet : opts.verbose = false) (c : CaseReport) :
    pieces opts (.caseComplete c) = [statusLine c.label c.status opts.color] := by
  simp [pieces, hquiet, statusLine]

theorem progress_eq (hquiet : opts.verbose = false) (events : List Event) :
    progress opts events = (events.filterMap Event.completed?).map fun c =>
      statusLine c.label c.status opts.color := by
  rw [progress, List.map_eq_flatMap]
  simp only [pieces_caseComplete hquiet]

/-- A console that is not verbose does not mention cases that are not selected. -/
theorem flatMap_pieces_announce (hquiet : opts.verbose = false) (policy : Policy)
    (reports : List CaseReport) : (reports.map policy.announce).flatMap (pieces opts) =
      progress opts (reports.map policy.announce) := by
  induction reports with
  | nil => rfl
  | cons c reports ih =>
    rw [List.map_cons, List.flatMap_cons, ih, progress, progress, Policy.announce]
    split
    · rfl
    · have hsilent : pieces opts (.caseDeselected c) = [] := by simp [pieces, hquiet]
      rw [hsilent]
      rfl

end Console

/-- The bytes of events are those of all their texts. -/
theorem Channel.output_eq (c : Channel) (events : List Event) :
    c.output events = Text.utf8 (String.join (events.flatMap c.pieces)) := by
  rw [output, Text.utf8, String.toList_join, List.flatMap_assoc, List.flatMap_assoc]
  rfl

namespace Runner

variable {runner : Runner} {host : Host σ} {suite : Suite σ} {w : World σ} {r : RunReport}

/-- **Every report that a run returns agrees with itself.** -/
theorem run_agrees {reporter : Reporter ρ} {state : ρ} {p : Progress σ ρ}
    (h : runner.run host suite reporter state w = (.ok r, p)) : r.Agrees := by
  obtain ⟨reports, hcovers⟩ := run_covers h
  exact RunReport.agrees_of_failed hcovers.accounts.failed

/-- What a run writes on a console that is not verbose: the heading, the status line
of every selected case, and the end. -/
theorem run_console {opts : RenderOptions} (hquiet : opts.verbose = false) {p : Progress σ Sink}
    (h : runner.run host suite (Console.reporter opts) {} w = (.ok r, p)) :
    Console.progress opts p.events =
      r.cases.map (fun c => statusLine c.label c.status opts.color) ∧
    p.reporter.written = Text.utf8 (String.join (Console.pieces opts (.runStart suite.size) ++
      Console.progress opts p.events ++ Console.pieces opts (.runComplete r))) := by
  obtain ⟨result, events, world, hunfolds⟩ := unfolds runner host suite w
  have hrun := h.symm.trans (hunfolds.run_unlimited (.console opts))
  obtain ⟨rfl, rfl⟩ := Prod.mk.inj hrun
  rw [Channel.output_eq]
  cases hunfolds with
  | @settled ran rest reports report _ _ _ hsettles =>
    obtain ⟨haccounts, -, -⟩ := hsettles.accounts
    have hprogress := Console.progress_eq hquiet
    constructor
    · rw [hprogress, Event.completed?_events _ _ _ (.inr ⟨_, rfl⟩)]
      exact congrArg _ haccounts.cases.symm
    · rw [hprogress, Event.completed?_events _ _ _ (.inr ⟨_, rfl⟩), List.flatMap_append,
        List.flatMap_cons]
      change Text.utf8 (String.join (_ ++ (_ : List Event).flatMap (Console.pieces opts) ++ _)) = _
      rw [Console.flatMap_pieces_announce hquiet, hprogress, Event.completed?_announce]
      simp [Channel.pieces]

end Runner

/-! ## The program -/

namespace Cli

variable {host : Host σ} {config : Config} {w : World σ}

/-- The runner of a configuration. -/
def runnerFor (config : Config) : Runner := ⟨config.policy, config.stopOnFail⟩

/-- The suite of a configuration that has been checked. -/
def prepare (config : Config) (cwd : Location) (tree : Tree) : Except HarnessError (Suite σ) := do
  config.validate cwd tree
  Conformance.suite config cwd tree

/-- The ways a conformance run can go, and what each of them leaves. -/
inductive Concludes (host : Host σ) (config : Config) (w : World σ) : Ending σ → Prop
  /-- The configuration is refused, or its suite cannot be built. -/
  | unprepared {e : HarnessError} :
      (prepare config host.cwd w.tree : Except HarnessError (Suite σ)) = .error e →
      Concludes host config w (.failed e [] w)
  /-- There is nothing to run. -/
  | idle {suite : Suite σ} : prepare config host.cwd w.tree = .ok suite → suite.isEmpty = true →
      Concludes host config w ⟨0, [], noFixtures config, w⟩
  /-- The run comes to an error. -/
  | aborted {suite : Suite σ} {e : HarnessError} {p : Progress σ Sink} :
      prepare config host.cwd w.tree = .ok suite → suite.isEmpty = false →
      (runnerFor config).run host suite (reporterFor config) {} w = (.error e, p) →
      Concludes host config w (.failed e p.reporter.written p.world)
  /-- The run returns a report. -/
  | reported {suite : Suite σ} {r : RunReport} {p : Progress σ Sink} :
      prepare config host.cwd w.tree = .ok suite → suite.isEmpty = false →
      (runnerFor config).run host suite (reporterFor config) {} w = (.ok r, p) →
      Concludes host config w ⟨r.exitCode, p.reporter.written, "", p.world⟩

theorem conform_concludes (host : Host σ) (config : Config) (w : World σ) :
    Concludes host config w (conform host config w) := by
  unfold conform
  generalize hprepared : (do
    config.validate host.cwd w.tree
    Conformance.suite config host.cwd w.tree : Except HarnessError (Suite σ)) = prepared
  cases prepared with
  | error e => exact .unprepared hprepared
  | ok suite =>
    cases hempty : suite.isEmpty with
    | true =>
      simp only [hempty, if_true]
      exact .idle hprepared hempty
    | false =>
      simp only [hempty, Bool.false_eq_true, if_false]
      cases hrun : (runnerFor config).run host suite (reporterFor config) {} w with
      | mk result p =>
        rw [runnerFor] at hrun
        rw [hrun]
        cases result with
        | error e => exact .aborted hprepared hempty hrun
        | ok r =>
          have hcode : (if 0 < r.failed then failureCode else 0) = r.exitCode := by
            by_cases hzero : r.failed = 0 <;>
              simp [RunReport.exitCode, failureCode, hzero, Nat.pos_of_ne_zero]
          simp only [hcode]
          exact .reported hprepared hempty hrun

/-- The harness could not do its work: the configuration is refused, its suite cannot
be built, or the run comes to an error. -/
inductive Fails (host : Host σ) (config : Config) (w : World σ) (e : HarnessError) : Prop
  | refused : config.validate host.cwd w.tree = .error e → Fails host config w e
  | unbuilt : config.validate host.cwd w.tree = .ok () →
      (Conformance.suite config host.cwd w.tree : Except HarnessError (Suite σ)) = .error e →
      Fails host config w e
  | aborted {suite : Suite σ} {p : Progress σ Sink} :
      prepare config host.cwd w.tree = .ok suite → suite.isEmpty = false →
      (runnerFor config).run host suite (reporterFor config) {} w = (.error e, p) →
      Fails host config w e

/-- The suite is run, and the run returns the report `r`. -/
def Returns (host : Host σ) (config : Config) (w : World σ) (r : RunReport) : Prop :=
  ∃ suite p, prepare config host.cwd w.tree = .ok suite ∧ suite.isEmpty = false ∧
    (runnerFor config).run host suite (reporterFor config) {} w = (.ok r, p)

theorem prepare_eq_error {cwd : Location} {tree : Tree} {e : HarnessError} :
    (prepare config cwd tree : Except HarnessError (Suite σ)) = .error e ↔
      config.validate cwd tree = .error e ∨ config.validate cwd tree = .ok () ∧
        (Conformance.suite config cwd tree : Except HarnessError (Suite σ)) = .error e := by
  unfold prepare
  cases config.validate cwd tree with
  | error e' =>
    constructor
    · intro h
      cases h
      exact .inl rfl
    · rintro (h | ⟨h, -⟩)
      · cases h
        rfl
      · cases h
  | ok u =>
    constructor
    · exact fun h => .inr ⟨rfl, h⟩
    · rintro (h | ⟨-, h⟩)
      · cases h
      · exact h

theorem prepare_eq_ok {cwd : Location} {tree : Tree} {suite : Suite σ} :
    prepare config cwd tree = .ok suite ↔
      config.validate cwd tree = .ok () ∧ Conformance.suite config cwd tree = .ok suite := by
  unfold prepare
  cases config.validate cwd tree with
  | error e => exact iff_of_false (fun h => by cases h) fun h => by cases h.1
  | ok u => exact ⟨fun h => ⟨rfl, h⟩, fun h => h.2⟩

/-- The suite of a valid configuration has a case for each fixture. -/
theorem prepare_of_found {cwd : Location} {tree : Tree} {fixtures : List Fixture}
    (hvalid : config.validate cwd tree = .ok ())
    (hfound : Fixture.discover tree cwd config.inputDir config.extension = .ok fixtures) :
    (prepare config cwd tree : Except HarnessError (Suite σ)) =
      .ok ⟨Conformance.subjectOf config, fixtures.map (Conformance.caseFor config)⟩ := by
  rw [prepare_eq_ok]
  refine ⟨hvalid, ?_⟩
  rw [Conformance.suite, Conformance.suiteBy_eq, ← Fixture.discover, hfound]
  rfl

theorem fails_iff {e : HarnessError} : Fails host config w e ↔
    (prepare config host.cwd w.tree : Except HarnessError (Suite σ)) = .error e ∨
      ∃ suite p, prepare config host.cwd w.tree = .ok suite ∧ suite.isEmpty = false ∧
        (runnerFor config).run host suite (reporterFor config) {} w = (.error e, p) := by
  rw [prepare_eq_error]
  constructor
  · intro h
    cases h with
    | refused h => exact .inl (.inl h)
    | unbuilt hvalid h => exact .inl (.inr ⟨hvalid, h⟩)
    | aborted hprepared hsome hrun => exact .inr ⟨_, _, hprepared, hsome, hrun⟩
  · rintro ((h | ⟨hvalid, h⟩) | ⟨suite, p, hprepared, hsome, hrun⟩)
    · exact .refused h
    · exact .unbuilt hvalid h
    · exact .aborted hprepared hsome hrun

/-- Without a suite nothing is run. -/
theorem Concludes.of_unprepared {ending : Ending σ} (hending : Concludes host config w ending)
    {e : HarnessError}
    (h : (prepare config host.cwd w.tree : Except HarnessError (Suite σ)) = .error e) :
    ending = .failed e [] w := by
  cases hending with
  | unprepared h' =>
    rw [h] at h'
    cases h'
    rfl
  | idle h' _ | aborted h' _ _ | reported h' _ _ =>
    rw [h] at h'
    cases h'

/-- With a suite that has cases, all comes from the run. -/
theorem Concludes.of_prepared {ending : Ending σ} (hending : Concludes host config w ending)
    {suite : Suite σ} (h : prepare config host.cwd w.tree = .ok suite)
    (hsome : suite.isEmpty = false) :
    ending = match (runnerFor config).run host suite (reporterFor config) {} w with
      | (.error e, p) => .failed e p.reporter.written p.world
      | (.ok r, p) => ⟨r.exitCode, p.reporter.written, "", p.world⟩ := by
  cases hending with
  | unprepared h' => cases h.symm.trans h'
  | idle h' hempty =>
    cases h.symm.trans h'
    cases hsome.symm.trans hempty
  | aborted h' _ hrun =>
    cases h.symm.trans h'
    rw [hrun]
  | reported h' _ hrun =>
    cases h.symm.trans h'
    rw [hrun]

/-- What can come of a conformance run: an error, nothing, or one report. -/
theorem Concludes.exitCode {ending : Ending σ} (hending : Concludes host config w ending) :
    (∃ e, Fails host config w e) ∧ (∀ r, ¬ Returns host config w r) ∧ ending.exitCode = 2 ∨
    (∀ e, ¬ Fails host config w e) ∧ (∀ r, ¬ Returns host config w r) ∧ ending.exitCode = 0 ∨
    ∃ r, (∀ e, ¬ Fails host config w e) ∧ (∀ r', Returns host config w r' ↔ r' = r) ∧
      r.Agrees ∧ ending.exitCode = r.exitCode := by
  simp only [fails_iff, Returns]
  cases hending with
  | unprepared h =>
    refine .inl ⟨⟨_, .inl h⟩, ?_, rfl⟩
    simp [h]
  | idle h hempty =>
    refine .inr (.inl ⟨?_, ?_, rfl⟩)
    · simp [h, hempty]
    · simp [h, hempty]
  | aborted h hsome hrun =>
    refine .inl ⟨⟨_, .inr ⟨_, _, h, hsome, hrun⟩⟩, ?_, rfl⟩
    simp [h, hrun]
  | reported h hsome hrun =>
    refine .inr (.inr ⟨_, ?_, ?_, Runner.run_agrees hrun, rfl⟩)
    · simp [h, hrun]
    · intro r'
      constructor
      · rintro ⟨suite', p', h', -, hrun'⟩
        cases h.symm.trans h'
        cases hrun.symm.trans hrun'
        rfl
      · rintro rfl
        exact ⟨_, _, h, hsome, hrun⟩

/-- **One verdict everywhere.**  The program ends with exit code 2 exactly if the
harness could not do its work; if it was the configuration or the suite, then nothing
has been written or changed, and what programs do plays no part in it.  Otherwise it
ends with 1 exactly if a selected case has failed, and else with 0.  This is the exit
code of the report that the run returns, which covers the suite of the fixtures.

Every report that a run returns, for whatever runner, suite and reporter, covers the suite
and agrees with itself; and on a console that is not verbose, the lines written while the run goes on
are the status lines of the cases of the report. -/
theorem one_verdict (host : Host σ) (config : Config) (w : World σ) :
    let ending := conform host config w
    (ending.exitCode = 2 ↔ ∃ e, Fails host config w e) ∧
    (∀ e, (prepare config host.cwd w.tree : Except HarnessError (Suite σ)) = .error e →
      ending.stdout = [] ∧ ending.world = w ∧
      ∀ other : Host σ, other.cwd = host.cwd → conform other config w = ending) ∧
    (ending.exitCode = 1 ↔
      ∃ r, Returns host config w r ∧ ∃ c ∈ r.cases, c.status = .failed) ∧
    (ending.exitCode = 0 ↔ (∀ e, ¬ Fails host config w e) ∧
      ∀ r, Returns host config w r → ∀ c ∈ r.cases, c.status ≠ .failed) ∧
    (∀ r, Returns host config w r → ending.exitCode = r.exitCode ∧ ∃ fixtures reports,
      Fixture.discover w.tree host.cwd config.inputDir config.extension = .ok fixtures ∧
      (runnerFor config).Covers host ⟨Conformance.subjectOf config,
        fixtures.map (Conformance.caseFor config)⟩ w ending.world reports r) ∧
    (∀ (ρ : Type) (runner : Runner) (suite : Suite σ) (reporter : Reporter ρ) (state : ρ) r p,
      runner.run host suite reporter state w = (.ok r, p) →
        r.Agrees ∧ ∃ reports, runner.Covers host suite w p.world reports r) ∧
    ∀ (runner : Runner) (suite : Suite σ) (opts : RenderOptions) r p, opts.verbose = false →
      runner.run host suite (Console.reporter opts) {} w = (.ok r, p) →
      Console.progress opts p.events =
        r.cases.map (fun c => statusLine c.label c.status opts.color) ∧
      p.reporter.written = Text.utf8 (String.join (Console.pieces opts (.runStart suite.size) ++
        Console.progress opts p.events ++ Console.pieces opts (.runComplete r))) := by
  intro ending
  have hconcludes : Concludes host config w ending := conform_concludes host config w
  refine ⟨?_, ?_, ?_, ?_, ?_, ?_, ?_⟩
  · rcases hconcludes.exitCode with ⟨hfails, -, hcode⟩ | ⟨hnone, -, hcode⟩ | ⟨r, hnone, -, hr, hcode⟩
    · exact ⟨fun _ => hfails, fun _ => hcode⟩
    · simp [hcode, hnone]
    · have hlow : r.exitCode ≠ 2 := by
        rw [hr.exit]
        split <;> decide
      simp [hcode, hnone, hlow]
  · intro e h
    have hending := hconcludes.of_unprepared h
    refine ⟨by rw [hending]; rfl, by rw [hending]; rfl, fun other hcwd => ?_⟩
    rw [hending]
    exact (conform_concludes other config w).of_unprepared (hcwd ▸ h)
  · rcases hconcludes.exitCode with ⟨-, hnone, hcode⟩ | ⟨-, hnone, hcode⟩ | ⟨r, -, honly, hr, hcode⟩
    · simp [hcode, hnone]
    · simp [hcode, hnone]
    · simp only [hcode, honly, exists_eq_left, hr.exitCode_eq_one]
  · rcases hconcludes.exitCode with ⟨hfails, -, hcode⟩ | ⟨hnone, hnone', hcode⟩ |
      ⟨r, hnone, honly, hr, hcode⟩
    · obtain ⟨e, he⟩ := hfails
      constructor
      · intro hzero
        cases hcode.symm.trans hzero
      · rintro ⟨hnone, -⟩
        exact absurd he (hnone e)
    · simp [hcode, hnone, hnone']
    · simp [hcode, honly, hnone, hr.exitCode_eq_zero]
  · rintro r ⟨suite, p, hprepared, hsome, hrun⟩
    have hending := hconcludes.of_prepared hprepared hsome
    rw [hrun] at hending
    obtain ⟨fixtures, hfound, rfl⟩ := Conformance.suite_ok (prepare_eq_ok.mp hprepared).2
    obtain ⟨reports, hcovers⟩ := Runner.run_covers hrun
    rw [hending]
    exact ⟨rfl, fixtures, reports, hfound, hcovers⟩
  · intro ρ runner suite reporter state r p h
    exact ⟨Runner.run_agrees h, Runner.run_covers h⟩
  · intro runner suite opts r p hquiet h
    exact Runner.run_console hquiet h

end Cli

end Assay

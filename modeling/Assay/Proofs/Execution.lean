import Assay.Case.Script
import Assay.Proofs.Program
import Assay.Run.Runner

/-! # What a run does, case by case

A run interleaves three things: cases change the world, the reporter is told
events, and a report is filled in.  This module takes them apart.  The cases
alone are `TestCase.runAll`, the reporter alone is `Reporter.tellAll`, and the
report alone is a fold of `Policy.enter`.  A run then is a stretch of cases that
let it go on (`Runner.Passes`), followed by one of four ends (`Runner.Halts`):
the cases are exhausted, a case raises an error, the reporter refuses an event,
or a failure stops the run.  `Runner.runCases_halts` finds this shape in every
run, and `Runner.Passes.runCases` and `Runner.Halts.runCases` build the run from
it, so that no later proof opens the loop again.
-/

namespace Assay

variable {σ ρ : Type}

/-! ## Cases without a listener -/

namespace TestCase

/-- Run cases one after the other, each in the world that the one before has
left, up to the first harness error. -/
def runAll (host : Host σ) (target : Tool) :
    List (TestCase σ) → World σ → Except HarnessError (List CaseReport) × World σ
  | [], w => (.ok [], w)
  | case :: rest, w =>
    match case.run host target w with
    | (.error e, after) => (.error e, after)
    | (.ok report, after) =>
      match runAll host target rest after with
      | (.error e, last) => (.error e, last)
      | (.ok reports, last) => (.ok (report :: reports), last)

variable {host : Host σ} {target : Tool}

theorem runAll_cons_ok {case : TestCase σ} {rest : List (TestCase σ)} {w last : World σ}
    {reports : List CaseReport} :
    runAll host target (case :: rest) w = (.ok reports, last) ↔
      ∃ r rs mid, reports = r :: rs ∧ case.run host target w = (.ok r, mid) ∧
        runAll host target rest mid = (.ok rs, last) := by
  rw [runAll]
  constructor
  · intro h
    split at h
    · cases h
    · rename_i r mid hcase
      split at h
      · cases h
      · rename_i rs end' hrest
        cases h
        exact ⟨r, rs, mid, rfl, hcase, hrest⟩
  · rintro ⟨r, rs, mid, rfl, hcase, hrest⟩
    simp only [hcase, hrest]

theorem runAll_append_ok {done rest : List (TestCase σ)} {w last : World σ}
    {reports : List CaseReport} :
    runAll host target (done ++ rest) w = (.ok reports, last) ↔
      ∃ rs rs' mid, reports = rs ++ rs' ∧ runAll host target done w = (.ok rs, mid) ∧
        runAll host target rest mid = (.ok rs', last) := by
  induction done generalizing w reports with
  | nil =>
    constructor
    · intro h
      exact ⟨[], reports, w, rfl, rfl, h⟩
    · rintro ⟨rs, rs', mid, rfl, hdone, hrest⟩
      cases hdone
      exact hrest
  | cons case done ih =>
    rw [List.cons_append, runAll_cons_ok]
    constructor
    · rintro ⟨r, rs, mid, rfl, hcase, h⟩
      obtain ⟨rs₁, rs₂, mid', rfl, hdone, hrest⟩ := ih.mp h
      exact ⟨r :: rs₁, rs₂, mid', rfl, runAll_cons_ok.mpr ⟨r, rs₁, mid, rfl, hcase, hdone⟩, hrest⟩
    · rintro ⟨rs, rs', mid, rfl, hdone, hrest⟩
      obtain ⟨r, rs₁, mid', rfl, hcase, hdone⟩ := runAll_cons_ok.mp hdone
      exact ⟨r, rs₁ ++ rs', mid', rfl, hcase, ih.mpr ⟨rs₁, rs', mid, rfl, hdone, hrest⟩⟩

theorem runAll_concat {done : List (TestCase σ)} {case : TestCase σ} {w mid last : World σ}
    {reports : List CaseReport} {r : CaseReport}
    (hdone : runAll host target done w = (.ok reports, mid))
    (hcase : case.run host target mid = (.ok r, last)) :
    runAll host target (done ++ [case]) w = (.ok (reports ++ [r]), last) :=
  runAll_append_ok.mpr ⟨reports, [r], mid, rfl, hdone,
    runAll_cons_ok.mpr ⟨r, [], last, rfl, hcase, rfl⟩⟩

theorem run_label {case : TestCase σ} {w after : World σ} {r : CaseReport}
    (h : case.run host target w = (.ok r, after)) : r.label = case.label := by
  unfold run at h
  split at h
  rename_i result s _
  cases result with
  | error e => cases h
  | ok u => cases h; rfl

/-- Cases that ran are reported under their labels, in their order. -/
theorem runAll_labels {cases : List (TestCase σ)} {w last : World σ} {reports : List CaseReport}
    (h : runAll host target cases w = (.ok reports, last)) :
    reports.map (·.label) = cases.map (·.label) := by
  induction cases generalizing w reports with
  | nil => cases h; rfl
  | cons case rest ih =>
    obtain ⟨r, rs, mid, rfl, hcase, hrest⟩ := runAll_cons_ok.mp h
    rw [List.map_cons, List.map_cons, run_label hcase, ih hrest]

theorem runAll_length {cases : List (TestCase σ)} {w last : World σ} {reports : List CaseReport}
    (h : runAll host target cases w = (.ok reports, last)) : reports.length = cases.length := by
  simpa using congrArg List.length (runAll_labels h)

/-- Cases at the head of a list that ran are its first ones, as many as there are
reports. -/
theorem runAll_first {cases ran rest : List (TestCase σ)} {w last : World σ}
    {reports : List CaseReport} (hsplit : cases = ran ++ rest)
    (h : runAll host target ran w = (.ok reports, last)) :
    reports.length ≤ cases.length ∧
      runAll host target (cases.take reports.length) w = (.ok reports, last) ∧
      cases.drop reports.length = rest := by
  rw [runAll_length h, hsplit, List.take_left, List.drop_left, List.length_append]
  exact ⟨Nat.le_add_right _ _, h, rfl⟩

end TestCase

/-! ## A reporter without a run -/

namespace Reporter

/-- Tell events one after the other, up to the first that the reporter fails
on. -/
def tellAll (reporter : Reporter ρ) : List Event → ρ → Except IoError Unit × ρ
  | [], s => (.ok (), s)
  | e :: es, s =>
    match reporter.tell e s with
    | (.error io, after) => (.error io, after)
    | (.ok (), after) => tellAll reporter es after

variable {reporter : Reporter ρ}

@[simp] theorem tellAll_nil (s : ρ) : reporter.tellAll [] s = (.ok (), s) := rfl

theorem tellAll_cons_ok {e : Event} {es : List Event} {s last : ρ} :
    reporter.tellAll (e :: es) s = (.ok (), last) ↔
      ∃ mid, reporter.tell e s = (.ok (), mid) ∧ reporter.tellAll es mid = (.ok (), last) := by
  rw [tellAll]
  constructor
  · intro h
    split at h
    · cases h
    · rename_i mid he
      exact ⟨mid, he, h⟩
  · rintro ⟨mid, he, hes⟩
    simp only [he, hes]

theorem tellAll_append_of_ok {es fs : List Event} {s mid : ρ}
    (h : reporter.tellAll es s = (.ok (), mid)) :
    reporter.tellAll (es ++ fs) s = reporter.tellAll fs mid := by
  induction es generalizing s with
  | nil => cases h; rfl
  | cons e es ih =>
    obtain ⟨mid', he, hes⟩ := tellAll_cons_ok.mp h
    rw [List.cons_append, tellAll, he]
    exact ih hes

theorem tellAll_append_ok {es fs : List Event} {s last : ρ} :
    reporter.tellAll (es ++ fs) s = (.ok (), last) ↔
      ∃ mid, reporter.tellAll es s = (.ok (), mid) ∧ reporter.tellAll fs mid = (.ok (), last) := by
  constructor
  · intro h
    induction es generalizing s with
    | nil => exact ⟨s, rfl, h⟩
    | cons e es ih =>
      obtain ⟨mid, he, hes⟩ := tellAll_cons_ok.mp h
      obtain ⟨mid', hes, hfs⟩ := ih hes
      exact ⟨mid', tellAll_cons_ok.mpr ⟨mid, he, hes⟩, hfs⟩
  · rintro ⟨mid, hes, hfs⟩
    rw [tellAll_append_of_ok hes, hfs]

theorem tellAll_concat_ok {es : List Event} {e : Event} {s last : ρ} :
    reporter.tellAll (es ++ [e]) s = (.ok (), last) ↔
      ∃ mid, reporter.tellAll es s = (.ok (), mid) ∧ reporter.tell e mid = (.ok (), last) := by
  simp [tellAll_append_ok, tellAll_cons_ok]

end Reporter

/-! ## One step of a run -/

namespace Policy

/-- What a reporter is told about a case that has ended. -/
def announce (p : Policy) (r : CaseReport) : Event :=
  if p.selects r.targetInvocations then .caseComplete r else .caseDeselected r

/-- Enter a case that has ended into the report of the run. -/
def enter (p : Policy) (report : RunReport) (r : CaseReport) : RunReport :=
  if p.selects r.targetInvocations then report.addCase r else report.addDeselected r

/-- How far a run has come when a case has ended and its event was told. -/
def advance (policy : Policy) (p : Progress σ ρ) (r : CaseReport) (w : World σ) (s : ρ) :
    Progress σ ρ :=
  ⟨w, s, p.events ++ [policy.announce r]⟩

/-- The case counts and has not passed. -/
def fails (p : Policy) (r : CaseReport) : Bool := p.selects r.targetInvocations && !r.passed

end Policy

namespace Event

/-- The case that the event calls complete. -/
def completed? : Event → Option CaseReport
  | .caseComplete r => some r
  | _ => none

/-- The case that the event calls deselected. -/
def deselected? : Event → Option CaseReport
  | .caseDeselected r => some r
  | _ => none

theorem completed?_announce (policy : Policy) (reports : List CaseReport) :
    (reports.map policy.announce).filterMap completed? =
      reports.filter fun r => policy.selects r.targetInvocations := by
  induction reports with
  | nil => rfl
  | cons r rs ih =>
    rw [List.map_cons, Policy.announce]
    by_cases hsel : policy.selects r.targetInvocations
    · simp [hsel, completed?, ih]
    · simp [hsel, List.filterMap_cons, completed?, ih]

theorem deselected?_announce (policy : Policy) (reports : List CaseReport) :
    (reports.map policy.announce).filterMap deselected? =
      reports.filter fun r => !policy.selects r.targetInvocations := by
  induction reports with
  | nil => rfl
  | cons r rs ih =>
    rw [List.map_cons, Policy.announce]
    by_cases hsel : policy.selects r.targetInvocations
    · simp [hsel, List.filterMap_cons, deselected?, ih]
    · simp [hsel, deselected?, ih]

/-- What may follow the events of the cases. -/
def IsEnding (es : List Event) : Prop := es = [] ∨ ∃ r, es = [.runComplete r]

theorem completed?_events (policy : Policy) (n : Nat) (reports : List CaseReport)
    {ending : List Event} (hending : IsEnding ending) :
    (.runStart n :: reports.map policy.announce ++ ending).filterMap completed? =
      reports.filter fun r => policy.selects r.targetInvocations := by
  rw [List.filterMap_append, List.filterMap_cons_none rfl, completed?_announce]
  rcases hending with rfl | ⟨r, rfl⟩
  · exact List.append_nil _
  · exact List.append_nil _

theorem deselected?_events (policy : Policy) (n : Nat) (reports : List CaseReport)
    {ending : List Event} (hending : IsEnding ending) :
    (.runStart n :: reports.map policy.announce ++ ending).filterMap deselected? =
      reports.filter fun r => !policy.selects r.targetInvocations := by
  rw [List.filterMap_append, List.filterMap_cons_none rfl, deselected?_announce]
  rcases hending with rfl | ⟨r, rfl⟩
  · exact List.append_nil _
  · exact List.append_nil _

end Event

namespace Runner

variable {runner : Runner} {host : Host σ} {target : Tool} {reporter : Reporter ρ}
variable {p p' : Progress σ ρ} {report : RunReport}

/-- The run does not go on after this case: it counts, and it has failed. -/
def stopsAt (runner : Runner) (r : CaseReport) : Bool :=
  runner.stopOnFail && runner.policy.fails r

theorem run_tell (e : Event) (p : Progress σ ρ) :
    (tell reporter e : RunM σ ρ Unit).run p = match reporter.tell e p.reporter with
      | (.error io, s) => (.error (.report io), { p with reporter := s, events := p.events ++ [e] })
      | (.ok (), s) => (.ok (), { p with reporter := s, events := p.events ++ [e] }) := by
  obtain ⟨respond⟩ := reporter
  simp only [tell, run_bind, run_get, run_set]
  cases respond e p.reporter with
  | mk told s =>
    cases told with
    | error io => rfl
    | ok u => rfl

theorem run_runCase (case : TestCase σ) (p : Progress σ ρ) :
    (runCase host target case : RunM σ ρ CaseReport).run p =
      ((case.run host target p.world).1, { p with world := (case.run host target p.world).2 }) := by
  simp only [runCase, run_bind, run_get, run_set]
  cases (case.run host target p.world).1 with
  | error e => rfl
  | ok r => rfl

/-- One step of a run: the next case runs, its event is told, and unless the
run stops there it goes on with the cases that are left. -/
theorem runCases_cons (case : TestCase σ) (rest : List (TestCase σ)) :
    (runner.runCases host target reporter (case :: rest) report).run p =
      match case.run host target p.world with
      | (.error e, w) => (.error e, { p with world := w })
      | (.ok r, w) =>
        match reporter.tell (runner.policy.announce r) p.reporter with
        | (.error io, s) => (.error (.report io), runner.policy.advance p r w s)
        | (.ok (), s) =>
          if runner.stopsAt r then
            (.ok ((runner.policy.enter report r).stopBefore (rest.map (·.label))),
              runner.policy.advance p r w s)
          else (runner.runCases host target reporter rest (runner.policy.enter report r)).run
            (runner.policy.advance p r w s) := by
  rw [runCases, run_bind, run_runCase]
  cases case.run host target p.world with
  | mk result w =>
    cases result with
    | error e => rfl
    | ok r =>
      by_cases hsel : runner.policy.selects r.targetInvocations
      · simp only [hsel, if_true, run_bind, run_tell, Policy.announce, Policy.enter,
          Policy.advance]
        cases reporter.tell (.caseComplete r) p.reporter with
        | mk told s =>
          cases told with
          | error io => rfl
          | ok u =>
            simp only [stopsAt, Policy.fails, hsel, Bool.true_and]
            split <;> rfl
      · simp only [hsel, Bool.false_eq_true, if_false, run_bind, run_tell, Policy.announce,
          Policy.enter, Policy.advance]
        cases reporter.tell (.caseDeselected r) p.reporter with
        | mk told s =>
          cases told with
          | error io => rfl
          | ok u => simp [stopsAt, Policy.fails, hsel]

/-! ## The shape of a run -/

/-- A stretch of a run: the cases of `ran` ended with `reports`, and the reporter
took the event of each. -/
structure Stretch (policy : Policy) (host : Host σ) (target : Tool) (reporter : Reporter ρ)
    (ran : List (TestCase σ)) (reports : List CaseReport) (p p' : Progress σ ρ) : Prop where
  ran : TestCase.runAll host target ran p.world = (.ok reports, p'.world)
  told : reporter.tellAll (reports.map policy.announce) p.reporter = (.ok (), p'.reporter)
  events : p'.events = p.events ++ reports.map policy.announce

/-- A stretch that lets the run go on: none of its cases stopped it. -/
structure Passes (runner : Runner) (host : Host σ) (target : Tool) (reporter : Reporter ρ)
    (done : List (TestCase σ)) (reports : List CaseReport) (p p' : Progress σ ρ) : Prop
    extends Stretch runner.policy host target reporter done reports p p' where
  goesOn : ∀ r ∈ reports, runner.stopsAt r = false

/-- The ways in which the cases of a run come to an end, told from the cases that
are left and from how far the run has come. -/
inductive Halts (runner : Runner) (host : Host σ) (target : Tool) (reporter : Reporter ρ) :
    List (TestCase σ) → RunReport → Progress σ ρ →
      Except HarnessError RunReport → Progress σ ρ → Prop
  /-- No case is left. -/
  | exhausted (report : RunReport) (p : Progress σ ρ) :
      Halts runner host target reporter [] report p (.ok report) p
  /-- The next case returns a harness error. -/
  | raised {case : TestCase σ} {rest : List (TestCase σ)} {report : RunReport}
      {p : Progress σ ρ} {e : HarnessError} {w : World σ} :
      case.run host target p.world = (.error e, w) →
      Halts runner host target reporter (case :: rest) report p (.error e) { p with world := w }
  /-- The reporter fails on the event of the next case. -/
  | refused {case : TestCase σ} {rest : List (TestCase σ)} {report : RunReport}
      {p : Progress σ ρ} {r : CaseReport} {w : World σ} {io : IoError} {s : ρ} :
      case.run host target p.world = (.ok r, w) →
      reporter.tell (runner.policy.announce r) p.reporter = (.error io, s) →
      Halts runner host target reporter (case :: rest) report p (.error (.report io))
        (runner.policy.advance p r w s)
  /-- The next case counts, fails, and stops the run. -/
  | stopped {case : TestCase σ} {rest : List (TestCase σ)} {report : RunReport}
      {p : Progress σ ρ} {r : CaseReport} {w : World σ} {s : ρ} :
      case.run host target p.world = (.ok r, w) →
      reporter.tell (runner.policy.announce r) p.reporter = (.ok (), s) →
      runner.stopsAt r = true →
      Halts runner host target reporter (case :: rest) report p
        (.ok ((runner.policy.enter report r).stopBefore (rest.map (·.label))))
        (runner.policy.advance p r w s)

theorem passes_nil {reports : List CaseReport} :
    Passes runner host target reporter [] reports p p' ↔ reports = [] ∧ p' = p := by
  constructor
  · rintro ⟨⟨hran, htold, hevents⟩, -⟩
    obtain ⟨world, state, events⟩ := p
    obtain ⟨world', state', events'⟩ := p'
    cases hran
    cases htold
    simp only [List.map_nil, List.append_nil] at hevents
    exact ⟨rfl, by rw [hevents]⟩
  · rintro ⟨rfl, rfl⟩
    exact ⟨⟨rfl, rfl, (List.append_nil _).symm⟩, fun _ h => nomatch h⟩

theorem passes_cons {case : TestCase σ} {done : List (TestCase σ)} {reports : List CaseReport} :
    Passes runner host target reporter (case :: done) reports p p' ↔
      ∃ r rs w s, reports = r :: rs ∧ case.run host target p.world = (.ok r, w) ∧
        reporter.tell (runner.policy.announce r) p.reporter = (.ok (), s) ∧
        runner.stopsAt r = false ∧
        Passes runner host target reporter done rs (runner.policy.advance p r w s) p' := by
  constructor
  · rintro ⟨⟨hran, htold, hevents⟩, hgo⟩
    obtain ⟨r, rs, w, rfl, hcase, hran⟩ := TestCase.runAll_cons_ok.mp hran
    obtain ⟨s, htell, htold⟩ := Reporter.tellAll_cons_ok.mp htold
    refine ⟨r, rs, w, s, rfl, hcase, htell, hgo r List.mem_cons_self, ⟨hran, htold, ?_⟩, ?_⟩
    · rw [hevents, List.map_cons, List.append_cons, Policy.advance]
    · exact fun r' hr' => hgo r' (List.mem_cons_of_mem r hr')
  · rintro ⟨r, rs, w, s, rfl, hcase, htell, hgo, hpass⟩
    refine ⟨⟨TestCase.runAll_cons_ok.mpr ⟨r, rs, w, rfl, hcase, hpass.ran⟩,
      Reporter.tellAll_cons_ok.mpr ⟨s, htell, hpass.told⟩, ?_⟩, ?_⟩
    · rw [hpass.events, List.map_cons, List.append_cons, Policy.advance]
    · exact List.forall_mem_cons.mpr ⟨hgo, hpass.goesOn⟩

/-- **Every run of cases is a stretch that goes on and an end.** -/
theorem runCases_halts (runner : Runner) (host : Host σ) (target : Tool) (reporter : Reporter ρ)
    (cases : List (TestCase σ)) (report : RunReport) (p : Progress σ ρ) :
    ∃ done rest reports mid, cases = done ++ rest ∧
      Passes runner host target reporter done reports p mid ∧
      Halts runner host target reporter rest (reports.foldl runner.policy.enter report) mid
        ((runner.runCases host target reporter cases report).run p).1
        ((runner.runCases host target reporter cases report).run p).2 := by
  induction cases generalizing p report with
  | nil => exact ⟨[], [], [], p, rfl, passes_nil.mpr ⟨rfl, rfl⟩, .exhausted report p⟩
  | cons case rest ih =>
    have hnone : Passes runner host target reporter [] [] p p := passes_nil.mpr ⟨rfl, rfl⟩
    rw [runCases_cons]
    split
    · rename_i e w hcase
      exact ⟨[], case :: rest, [], p, rfl, hnone, .raised hcase⟩
    · rename_i r w hcase
      split
      · rename_i io s htell
        exact ⟨[], case :: rest, [], p, rfl, hnone, .refused hcase htell⟩
      · rename_i s htell
        cases hstop : runner.stopsAt r with
        | true => exact ⟨[], case :: rest, [], p, rfl, hnone, .stopped hcase htell hstop⟩
        | false =>
          obtain ⟨done, rest', reports, mid, rfl, hpass, hhalt⟩ :=
            ih (runner.policy.enter report r) (runner.policy.advance p r w s)
          exact ⟨case :: done, rest', r :: reports, mid, rfl,
            passes_cons.mpr ⟨r, reports, w, s, rfl, hcase, htell, hstop, hpass⟩, hhalt⟩

/-- After a stretch that goes on, the run is that of the cases that are left. -/
theorem Passes.runCases {done rest : List (TestCase σ)} {reports : List CaseReport}
    (h : Passes runner host target reporter done reports p p') :
    (runner.runCases host target reporter (done ++ rest) report).run p =
      (runner.runCases host target reporter rest
        (reports.foldl runner.policy.enter report)).run p' := by
  induction done generalizing p report reports with
  | nil =>
    obtain ⟨rfl, rfl⟩ := passes_nil.mp h
    rfl
  | cons case done ih =>
    obtain ⟨r, rs, w, s, rfl, hcase, htell, hgo, hpass⟩ := passes_cons.mp h
    rw [List.cons_append, runCases_cons, hcase]
    simp only [htell, hgo, Bool.false_eq_true, if_false]
    exact ih hpass

theorem Halts.runCases {rest : List (TestCase σ)} {result : Except HarnessError RunReport}
    (h : Halts runner host target reporter rest report p result p') :
    (runner.runCases host target reporter rest report).run p = (result, p') := by
  cases h with
  | exhausted => rfl
  | raised hcase => rw [runCases_cons, hcase]
  | refused hcase htell =>
    rw [runCases_cons, hcase]
    simp only [htell]
  | stopped hcase htell hstop =>
    rw [runCases_cons, hcase]
    simp only [htell, hstop, if_true]

/-- A stretch goes one case further. -/
theorem Stretch.concat {policy : Policy} {done : List (TestCase σ)} {case : TestCase σ}
    {reports : List CaseReport} {r : CaseReport} {w : World σ} {s : ρ}
    (h : Stretch policy host target reporter done reports p p')
    (hcase : case.run host target p'.world = (.ok r, w))
    (htell : reporter.tell (policy.announce r) p'.reporter = (.ok (), s)) :
    Stretch policy host target reporter (done ++ [case]) (reports ++ [r]) p
      (policy.advance p' r w s) where
  ran := TestCase.runAll_concat h.ran hcase
  told := by
    rw [List.map_append]
    exact Reporter.tellAll_concat_ok.mpr ⟨p'.reporter, h.told, htell⟩
  events := by
    rw [Policy.advance, h.events, List.map_append, List.append_assoc]
    rfl

theorem Stretch.announced {policy : Policy} {ran : List (TestCase σ)} {reports : List CaseReport}
    (h : Stretch policy host target reporter ran reports p p') {r : CaseReport}
    (hr : r ∈ reports) : policy.announce r ∈ p'.events := by
  rw [h.events]
  exact List.mem_append_right _ (List.mem_map_of_mem hr)

/-- A stretch is cut where its reports are. -/
theorem Stretch.split {policy : Policy} {ran : List (TestCase σ)} {rs rs' : List CaseReport}
    (h : Stretch policy host target reporter ran (rs ++ rs') p p') :
    ∃ before after mid, ran = before ++ after ∧
      Stretch policy host target reporter before rs p mid ∧
      Stretch policy host target reporter after rs' mid p' := by
  have hran := h.ran
  have hlen := TestCase.runAll_length hran
  rw [← List.take_append_drop rs.length ran] at hran
  obtain ⟨as, bs, w, heq, hbefore, hafter⟩ := TestCase.runAll_append_ok.mp hran
  have has : as.length = rs.length := by
    rw [TestCase.runAll_length hbefore, List.length_take]
    simp only [List.length_append] at hlen
    omega
  obtain ⟨rfl, rfl⟩ := List.append_inj heq has.symm
  have htold := h.told
  rw [List.map_append] at htold
  obtain ⟨s, htold, htold'⟩ := Reporter.tellAll_append_ok.mp htold
  refine ⟨_, _, ⟨w, s, p.events ++ rs.map policy.announce⟩,
    (List.take_append_drop rs.length ran).symm, ⟨hbefore, htold, rfl⟩, hafter, htold', ?_⟩
  rw [h.events, List.map_append, List.append_assoc]

/-- The last case of a stretch, taken off again. -/
theorem Stretch.unconcat {policy : Policy} {ran : List (TestCase σ)} {reports : List CaseReport}
    {r : CaseReport} (h : Stretch policy host target reporter ran (reports ++ [r]) p p') :
    ∃ before case mid w s, ran = before ++ [case] ∧
      Stretch policy host target reporter before reports p mid ∧
      case.run host target mid.world = (.ok r, w) ∧
      reporter.tell (policy.announce r) mid.reporter = (.ok (), s) ∧
      p' = policy.advance mid r w s := by
  obtain ⟨before, after, mid, rfl, hbefore, hran, htold, hevents⟩ := h.split
  cases after with
  | nil => cases hran
  | cons case rest =>
    obtain ⟨r', rs, w, hrs, hcase, hrest⟩ := TestCase.runAll_cons_ok.mp hran
    cases hrs
    cases List.length_eq_zero_iff.mp (TestCase.runAll_length hrest).symm
    obtain ⟨s, htell, hdone⟩ := Reporter.tellAll_cons_ok.mp htold
    refine ⟨before, case, mid, w, s, rfl, hbefore, hcase, htell, ?_⟩
    obtain ⟨world, state, events⟩ := p'
    cases hrest
    cases hdone
    rw [Policy.advance]
    exact congrArg _ hevents

/-! ## From the first event to the last -/

/-- How far a run has come when its start was told. -/
def opening (suite : Suite σ) (w : World σ) (s : ρ) : Progress σ ρ :=
  ⟨w, s, [.runStart suite.size]⟩

/-- The report with the time of the run. -/
def timed (host : Host σ) (before after : World σ) (report : RunReport) : RunReport :=
  { report with duration := .between (host.clock before) (host.clock after) }

/-- How far a run has come when its end was told. -/
def closing (p : Progress σ ρ) (report : RunReport) (s : ρ) : Progress σ ρ :=
  { p with reporter := s, events := p.events ++ [.runComplete report] }

theorem Stretch.events_opening {policy : Policy} {suite : Suite σ} {w : World σ} {s : ρ}
    {ran : List (TestCase σ)} {reports : List CaseReport}
    (h : Stretch policy host target reporter ran reports (opening suite w s) p) :
    p.events = .runStart suite.size :: reports.map policy.announce := h.events

theorem run_eq (suite : Suite σ) (state : ρ) (w : World σ) :
    runner.run host suite reporter state w =
      match reporter.tell (.runStart suite.size) state with
      | (.error io, s) => (.error (.report io), opening suite w s)
      | (.ok (), s) =>
        match (runner.runCases host suite.tool reporter suite.cases {}).run (opening suite w s) with
        | (.error e, p) => (.error e, p)
        | (.ok report, p) =>
          match reporter.tell (.runComplete (timed host w p.world report)) p.reporter with
          | (.error io, s) => (.error (.report io), closing p (timed host w p.world report) s)
          | (.ok (), s) =>
            (.ok (timed host w p.world report), closing p (timed host w p.world report) s) := by
  simp only [run, runSuite, run_bind, run_get, run_tell, run_pure]
  cases reporter.tell (.runStart suite.size) state with
  | mk told s =>
    cases told with
    | error io => rfl
    | ok u =>
      simp only [List.nil_append, opening]
      generalize (runner.runCases host suite.tool reporter suite.cases {}).run _ = ended
      obtain ⟨result, p⟩ := ended
      cases result with
      | error e => rfl
      | ok report =>
        simp only [timed, closing]
        generalize reporter.tell _ _ = told
        obtain ⟨told, s⟩ := told
        cases told with
        | error io => rfl
        | ok u => rfl

/-- The report that cases leave when they end without an error: their reports
are entered in order, and if the last of them stopped the run, the labels of the
cases of `rest` are kept. -/
inductive Settles (runner : Runner) :
    List CaseReport → List (TestCase σ) → RunReport → Prop
  | exhausted {reports : List CaseReport} :
      (∀ r ∈ reports, runner.stopsAt r = false) →
      Settles runner reports [] (reports.foldl runner.policy.enter {})
  | stopped {earlier : List CaseReport} {last : CaseReport} {rest : List (TestCase σ)} :
      (∀ r ∈ earlier, runner.stopsAt r = false) → runner.stopsAt last = true →
      Settles runner (earlier ++ [last]) rest
        (((earlier ++ [last]).foldl runner.policy.enter {}).stopBefore (rest.map (·.label)))

/-- The course of a whole run: which cases ran, which events were told, and what
brought the run to its end. -/
inductive Course (runner : Runner) (host : Host σ) (suite : Suite σ) (reporter : Reporter ρ)
    (state : ρ) (w : World σ) : Except HarnessError RunReport → Progress σ ρ → Prop
  /-- The reporter fails on the start. -/
  | unopened {io : IoError} {s : ρ} :
      reporter.tell (.runStart suite.size) state = (.error io, s) →
      Course runner host suite reporter state w (.error (.report io)) (opening suite w s)
  /-- A case returns a harness error. -/
  | raised {s : ρ} {ran rest : List (TestCase σ)} {case : TestCase σ}
      {reports : List CaseReport} {mid : Progress σ ρ} {e : HarnessError} {after : World σ} :
      reporter.tell (.runStart suite.size) state = (.ok (), s) →
      suite.cases = ran ++ case :: rest →
      Passes runner host suite.tool reporter ran reports (opening suite w s) mid →
      case.run host suite.tool mid.world = (.error e, after) →
      Course runner host suite reporter state w (.error e) { mid with world := after }
  /-- The reporter fails on the event of a case. -/
  | refused {s s' : ρ} {ran rest : List (TestCase σ)} {case : TestCase σ}
      {reports : List CaseReport} {mid : Progress σ ρ} {r : CaseReport} {after : World σ}
      {io : IoError} :
      reporter.tell (.runStart suite.size) state = (.ok (), s) →
      suite.cases = ran ++ case :: rest →
      Passes runner host suite.tool reporter ran reports (opening suite w s) mid →
      case.run host suite.tool mid.world = (.ok r, after) →
      reporter.tell (runner.policy.announce r) mid.reporter = (.error io, s') →
      Course runner host suite reporter state w (.error (.report io))
        (runner.policy.advance mid r after s')
  /-- The reporter fails on the end. -/
  | unclosed {s s' : ρ} {ran rest : List (TestCase σ)} {reports : List CaseReport}
      {mid : Progress σ ρ} {report : RunReport} {io : IoError} :
      reporter.tell (.runStart suite.size) state = (.ok (), s) →
      suite.cases = ran ++ rest →
      Stretch runner.policy host suite.tool reporter ran reports (opening suite w s) mid →
      Settles runner reports rest report →
      reporter.tell (.runComplete (timed host w mid.world report)) mid.reporter = (.error io, s') →
      Course runner host suite reporter state w (.error (.report io))
        (closing mid (timed host w mid.world report) s')
  /-- Everything went through. -/
  | closed {s s' : ρ} {ran rest : List (TestCase σ)} {reports : List CaseReport}
      {mid : Progress σ ρ} {report : RunReport} :
      reporter.tell (.runStart suite.size) state = (.ok (), s) →
      suite.cases = ran ++ rest →
      Stretch runner.policy host suite.tool reporter ran reports (opening suite w s) mid →
      Settles runner reports rest report →
      reporter.tell (.runComplete (timed host w mid.world report)) mid.reporter = (.ok (), s') →
      Course runner host suite reporter state w (.ok (timed host w mid.world report))
        (closing mid (timed host w mid.world report) s')

/-- Cases that ended without an error are a stretch of the suite whose reports
settle the report of the run. -/
theorem runCases_settles {cases : List (TestCase σ)}
    (h : (runner.runCases host target reporter cases {}).run p = (.ok report, p')) :
    ∃ ran rest reports, cases = ran ++ rest ∧
      Stretch runner.policy host target reporter ran reports p p' ∧
      Settles runner reports rest report := by
  obtain ⟨done, rest, reports, mid, rfl, hpass, hhalt⟩ :=
    runCases_halts runner host target reporter cases {} p
  rw [h] at hhalt
  cases hhalt with
  | exhausted => exact ⟨done, [], reports, rfl, hpass.toStretch, .exhausted hpass.goesOn⟩
  | stopped hcase htell hstop =>
    rename_i case rest r w s
    refine ⟨done ++ [case], rest, reports ++ [r], by simp, hpass.toStretch.concat hcase htell, ?_⟩
    have hsettles : Settles runner (reports ++ [r]) rest _ := .stopped hpass.goesOn hstop
    rwa [List.foldl_append] at hsettles

/-- **Every run takes one of the five courses.** -/
theorem run_course {suite : Suite σ} {state : ρ} {w : World σ}
    {result : Except HarnessError RunReport}
    (h : runner.run host suite reporter state w = (result, p)) :
    Course runner host suite reporter state w result p := by
  rw [run_eq] at h
  split at h
  · rename_i io s hstart
    cases h
    exact .unopened hstart
  · rename_i s hstart
    split at h
    · rename_i e p hcases
      cases h
      obtain ⟨done, rest, reports, mid, hsplit, hpass, hhalt⟩ :=
        runCases_halts runner host suite.tool reporter suite.cases {} (opening suite w s)
      rw [hcases] at hhalt
      cases hhalt with
      | raised hcase => exact .raised hstart hsplit hpass hcase
      | refused hcase htell => exact .refused hstart hsplit hpass hcase htell
    · rename_i report p hcases
      obtain ⟨ran, rest, reports, hsplit, hstretch, hsettles⟩ := runCases_settles hcases
      split at h
      · rename_i io s' hend
        cases h
        exact .unclosed hstart hsplit hstretch hsettles hend
      · rename_i s' hend
        cases h
        exact .closed hstart hsplit hstretch hsettles hend

theorem Settles.runCases {ran rest : List (TestCase σ)} {reports : List CaseReport}
    (h : Settles runner reports rest report)
    (hran : Stretch runner.policy host target reporter ran reports p p') :
    (runner.runCases host target reporter (ran ++ rest) {}).run p = (.ok report, p') := by
  cases h with
  | exhausted hgo =>
    have hpass : Passes runner host target reporter ran reports p p' := ⟨hran, hgo⟩
    rw [hpass.runCases]
    rfl
  | stopped hgo hstop =>
    obtain ⟨before, case, mid, w, s, rfl, hbefore, hcase, htell, rfl⟩ := hran.unconcat
    have hpass : Passes runner host target reporter before _ p mid := ⟨hbefore, hgo⟩
    rw [List.append_assoc, List.singleton_append, hpass.runCases,
      (Halts.stopped hcase htell hstop).runCases, List.foldl_append]
    rfl

/-- A course is the run. -/
theorem Course.run {suite : Suite σ} {state : ρ} {w : World σ}
    {result : Except HarnessError RunReport}
    (h : Course runner host suite reporter state w result p) :
    runner.run host suite reporter state w = (result, p) := by
  rw [run_eq]
  cases h with
  | unopened hstart => rw [hstart]
  | raised hstart hsplit hpass hcase =>
    simp only [hstart, hsplit, hpass.runCases, (Halts.raised hcase).runCases]
  | refused hstart hsplit hpass hcase htell =>
    simp only [hstart, hsplit, hpass.runCases, (Halts.refused hcase htell).runCases]
  | unclosed hstart hsplit hstretch hsettles hend =>
    simp only [hstart, hsplit, hsettles.runCases hstretch, hend]
  | closed hstart hsplit hstretch hsettles hend =>
    simp only [hstart, hsplit, hsettles.runCases hstretch, hend]

end Runner

/-! ## A small suite

Runs on fixed inputs, to see the statements about all runs at work. -/

namespace Sample

/-- Every program returns the number of its arguments; the ambient state counts
the programs that ran, and the clock shows that count. -/
def host : Host Nat where
  cwd := []
  launch l w := .ok (⟨.code l.args.length, [], []⟩, { w with ambient := w.ambient + 1 })
  clock w := w.ambient

/-- Call the tool under test on `inputs` and assert `holds`. -/
def case (label : String) (inputs : List String) (holds : Bool) : TestCase Nat :=
  .scripted label (fun _ n => n) [.target { inputs }, .assertTrue holds "does not hold"]

/-- A case that passes, one that fails and returns 1, one that fails and returns
0, and one that raises an error. -/
def suite : Suite Nat where
  tool := { name := "tool", template := (Template.program "tool").inputs }
  cases := [case "[a]" [] true, case "[b]" ["x"] false, case "[c]" [] false,
    .scripted "[d]" (fun _ n => n) [.fail (.config "broken")]]

/-- Only cases that return 0 count, and the first of them that fails stops the
run. -/
def runner : Runner where
  policy := { returnCode := some 0 }
  stopOnFail := true

def world : World Nat := ⟨.empty, 0⟩

end Sample
end Assay

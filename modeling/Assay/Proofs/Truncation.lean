import Assay.Proofs.Accounting

/-! # Stopping at a failure cuts a run short

The same suite is run twice from the same world, once to the end and once with
`stopOnFail`.  As long as no counted case has failed, the two runs do the same;
at the first counted failure the second one ends, and what it reports is what
the first one had at that point.

Both directions go through the courses of the two runs.  A course of the full
run in which nothing counted fails is a course of the short run as well
(`Course.toFailFast`); otherwise the stretch that the full run went through
is cut behind its first counted failure, and the part before the cut is the
course of the short run.
-/

namespace Assay.Runner

variable {σ ρ : Type} {host : Host σ} {suite : Suite σ} {reporter : Reporter ρ}
variable {state : ρ} {w : World σ} {result : Except HarnessError RunReport} {p : Progress σ ρ}

/-- Run every case, whatever becomes of it. -/
def complete (policy : Policy) : Runner := { policy, stopOnFail := false }

/-- End the run after the first counted failure. -/
def failFast (policy : Policy) : Runner := { policy, stopOnFail := true }

/-- If no counted case of a stretch was told as failed, none of its cases
fails. -/
theorem fails_of_told {policy : Policy} {reports : List CaseReport} {events : List Event}
    (hpassed : ∀ r, Event.caseComplete r ∈ events → r.passed = true)
    (hsub : ∀ r ∈ reports, policy.announce r ∈ events) :
    ∀ r ∈ reports, (failFast policy).stopsAt r = false := by
  intro r hr
  have htold := hsub r hr
  unfold Policy.announce at htold
  by_cases hsel : policy.selects r.targetInvocations
  · rw [if_pos hsel] at htold
    simp [stopsAt, failFast, Policy.fails, hpassed r htold]
  · simp [stopsAt, failFast, Policy.fails, hsel]

/-- The reports of a run that goes to the end are those of all its cases. -/
theorem Settles.exhausted_of_complete {policy : Policy} {reports : List CaseReport}
    {rest : List (TestCase σ)} {report : RunReport}
    (h : Settles (complete policy) reports rest report) :
    rest = [] ∧ report = reports.foldl policy.enter {} := by
  cases h with
  | exhausted _ => exact ⟨rfl, rfl⟩
  | stopped _ hstop => cases hstop

theorem Settles.toFailFast {policy : Policy} {reports : List CaseReport} {rest : List (TestCase σ)}
    {report : RunReport} (h : Settles (complete policy) reports rest report)
    (hgo : ∀ r ∈ reports, (failFast policy).stopsAt r = false) :
    Settles (failFast policy) reports rest report := by
  obtain ⟨rfl, rfl⟩ := h.exhausted_of_complete
  exact .exhausted hgo

/-- A run to the end is not stopped. -/
theorem Course.not_stopped {policy : Policy} {report : RunReport}
    (h : Course (complete policy) host suite reporter state w (.ok report) p) :
    report.stoppedEarly = false := by
  cases h with
  | closed _ _ _ hsettles _ =>
    obtain ⟨-, rfl⟩ := hsettles.exhausted_of_complete
    exact (RunReport.foldl_enter_open policy _).2

/-- Where no counted case is told as failed, stopping at failures changes
nothing. -/
theorem Course.toFailFast {policy : Policy}
    (h : Course (complete policy) host suite reporter state w result p)
    (hpassed : ∀ r, Event.caseComplete r ∈ p.events → r.passed = true) :
    Course (failFast policy) host suite reporter state w result p := by
  cases h with
  | unopened hstart => exact .unopened hstart
  | raised hstart hsplit hpass hcase =>
    have hgo := fails_of_told hpassed fun r hr => hpass.announced hr
    exact .raised hstart hsplit ⟨hpass.toStretch, hgo⟩ hcase
  | refused hstart hsplit hpass hcase htell =>
    have hgo := fails_of_told hpassed fun r hr => List.mem_append_left _ (hpass.announced hr)
    exact .refused hstart hsplit ⟨hpass.toStretch, hgo⟩ hcase htell
  | unclosed hstart hsplit hstretch hsettles hend =>
    have hgo := fails_of_told hpassed fun r hr => List.mem_append_left _ (hstretch.announced hr)
    exact .unclosed hstart hsplit hstretch (hsettles.toFailFast hgo) hend
  | closed hstart hsplit hstretch hsettles hend =>
    have hgo := fails_of_told hpassed fun r hr => List.mem_append_left _ (hstretch.announced hr)
    exact .closed hstart hsplit hstretch (hsettles.toFailFast hgo) hend

theorem tell_ok (quiet : ∀ e s, (reporter.tell e s).1 = .ok ()) (e : Event) (s : ρ) :
    ∃ s', reporter.tell e s = (.ok (), s') :=
  ⟨_, Prod.ext (quiet e s) rfl⟩

/-- The cases that a run went through, told to a reporter that never fails: its
events name them, and its report, if there is one, accounts for them. -/
theorem Course.stretch {policy : Policy}
    (quiet : ∀ e s, (reporter.tell e s).1 = .ok ())
    (h : Course (complete policy) host suite reporter state w result p) :
    ∃ s ran rest reports mid ending, reporter.tell (.runStart suite.size) state = (.ok (), s) ∧
      suite.cases = ran ++ rest ∧
      Stretch policy host suite.tool reporter ran reports (opening suite w s) mid ∧
      Event.IsEnding ending ∧
      p.events = .runStart suite.size :: reports.map policy.announce ++ ending ∧
      ∀ whole, result = .ok whole → RunReport.Accounts policy reports whole := by
  have loud : ∀ {e s io s'}, reporter.tell e s ≠ (.error io, s') := by
    intro e s io s' hfail
    obtain ⟨_, hquiet⟩ := tell_ok quiet e s
    cases hfail.symm.trans hquiet
  cases h with
  | unopened hstart => exact absurd hstart loud
  | refused _ _ _ _ htell => exact absurd htell loud
  | unclosed _ _ _ _ hend => exact absurd hend loud
  | @raised s ran rest case reports mid e after hstart hsplit hpass hcase =>
    refine ⟨s, ran, case :: rest, reports, mid, [], hstart, hsplit, hpass.toStretch, .inl rfl, ?_,
      ?_⟩
    · rw [hpass.events_opening, List.append_nil]
      rfl
    · intro whole hwhole
      cases hwhole
  | @closed s s' ran rest reports mid report hstart hsplit hstretch hsettles _ =>
    refine ⟨s, ran, rest, reports, mid, [.runComplete (timed host w mid.world report)], hstart,
      hsplit, hstretch, .inr ⟨_, rfl⟩, ?_, ?_⟩
    · rw [closing, hstretch.events_opening]
      rfl
    · intro whole hwhole
      cases hwhole
      obtain ⟨haccounts, -, -⟩ := hsettles.accounts
      exact ⟨haccounts.cases, haccounts.deselected, haccounts.passed, haccounts.failed⟩

/-- A stretch with a counted failure is cut behind the first one. -/
theorem Stretch.cut {policy : Policy} {target : Tool} {ran : List (TestCase σ)}
    {reports : List CaseReport} {mid : Progress σ ρ}
    (h : Stretch policy host target reporter ran reports p mid)
    (hfails : ∃ r ∈ reports, policy.fails r = true) :
    ∃ before case after earlier failing later last,
      ran = before ++ case :: after ∧ reports = earlier ++ failing :: later ∧
      (∀ r ∈ earlier, policy.fails r = false) ∧ policy.fails failing = true ∧
      Stretch policy host target reporter (before ++ [case]) (earlier ++ [failing]) p last := by
  obtain ⟨failing, hfirst⟩ := Option.isSome_iff_exists.mp (List.find?_isSome.mpr hfails)
  obtain ⟨hfailing, earlier, later, rfl, hearlier⟩ := List.find?_eq_some_iff_append.mp hfirst
  rw [List.append_cons] at h
  obtain ⟨upto, after, last, rfl, hupto, -⟩ := h.split
  obtain ⟨before, case, _, _, _, rfl, -, -, -, -⟩ := hupto.unconcat
  refine ⟨before, case, after, earlier, failing, later, last, ?_, rfl, ?_, hfailing, hupto⟩
  · rw [List.append_assoc, List.singleton_append]
  · intro r hr
    simpa using hearlier r hr

/-- Cases that end with the first counted failure settle the report of the short
run. -/
theorem settles_failFast {policy : Policy} {earlier : List CaseReport} {failing : CaseReport}
    (hearlier : ∀ r ∈ earlier, policy.fails r = false) (hfailing : policy.fails failing = true)
    (rest : List (TestCase σ)) :
    Settles (failFast policy) (earlier ++ [failing]) rest
      (((earlier ++ [failing]).foldl policy.enter {}).stopBefore (rest.map (·.label))) :=
  .stopped (fun r hr => by simp [stopsAt, failFast, hearlier r hr])
    (by simp [stopsAt, failFast, hfailing])

/-- A report on cases of which the last is the first counted failure has that
failure as its last case and as its only one. -/
theorem accounts_first_failure {policy : Policy} {earlier : List CaseReport}
    {failing : CaseReport} {report : RunReport}
    (h : RunReport.Accounts policy (earlier ++ [failing]) report)
    (hearlier : ∀ r ∈ earlier, policy.fails r = false) (hfailing : policy.fails failing = true) :
    ∃ passing, report.cases = passing ++ [failing] ∧ (∀ r ∈ passing, r.passed = true) ∧
      report.failed = 1 := by
  obtain ⟨hsel, hfailed⟩ : policy.selects failing.targetInvocations = true ∧
      failing.passed = false := by simpa [Policy.fails] using hfailing
  have hcases : report.cases =
      earlier.filter (fun r => policy.selects r.targetInvocations) ++ [failing] := by
    rw [h.cases, List.filter_append]
    simp [hsel]
  have hpassing : ∀ r ∈ earlier.filter (fun r => policy.selects r.targetInvocations),
      r.passed = true := by
    intro r hr
    obtain ⟨hmem, hrsel⟩ := List.mem_filter.mp hr
    simpa [Policy.fails, hrsel] using hearlier r hmem
  refine ⟨_, hcases, hpassing, ?_⟩
  rw [h.failed, hcases, List.countP_append, List.countP_eq_zero.mpr]
  · simpa [CaseReport.passed] using hfailed
  · intro r hr
    simpa [CaseReport.passed] using hpassing r hr

/-- **Stopping at failures is a truncation.**  A suite is run twice from the same
world, to the end and with a stop at the first counted failure, and the reporter
never fails.  If the full run tells of a counted case that failed, then the
short run ends with a report: the cases up to and including the first counted
failure ran, and no other; its lists are those of these cases, and they begin
the lists of the full run, as far as that came.  If it tells of none, the two
runs are the same, and nothing was stopped. -/
theorem stopOnFail_truncates (policy : Policy) (host : Host σ) (suite : Suite σ)
    (reporter : Reporter ρ) (state : ρ) (w : World σ)
    (quiet : ∀ e s, (reporter.tell e s).1 = .ok ()) :
    let full := (complete policy).run host suite reporter state w
    let short := (failFast policy).run host suite reporter state w
    ((∃ r, Event.caseComplete r ∈ full.2.events ∧ r.passed = false) →
      ∃ before case after earlier failing report,
        suite.cases = before ++ case :: after ∧
        TestCase.runAll host suite.tool (before ++ [case]) w =
          (.ok (earlier ++ [failing]), short.2.world) ∧
        (∀ r ∈ earlier, policy.fails r = false) ∧ policy.fails failing = true ∧
        short.1 = .ok report ∧
        report.cases =
          (earlier ++ [failing]).filter (fun r => policy.selects r.targetInvocations) ∧
        report.deselected = ((earlier ++ [failing]).filter
          fun r => !policy.selects r.targetInvocations).map (·.label) ∧
        report.cases <+: full.2.events.filterMap Event.completed? ∧
        report.deselected <+: (full.2.events.filterMap Event.deselected?).map (·.label) ∧
        (∀ whole, full.1 = .ok whole →
          report.cases <+: whole.cases ∧ report.deselected <+: whole.deselected) ∧
        report.failed = 1 ∧
        (∃ passing, report.cases = passing ++ [failing] ∧ ∀ r ∈ passing, r.passed = true) ∧
        report.stoppedEarly = true ∧ report.notRun = after.map (·.label)) ∧
    ((∀ r, Event.caseComplete r ∈ full.2.events → r.passed = true) →
      short = full ∧ ∀ report, full.1 = .ok report → report.stoppedEarly = false) := by
  intro full short
  have hfull : Course (complete policy) host suite reporter state w full.1 full.2 := run_course rfl
  constructor
  · rintro ⟨r, hr, hfailed⟩
    obtain ⟨s, ran, rest, reports, mid, ending, hstart, hsplit, hstretch, hending, hevents,
      hwhole⟩ := hfull.stretch quiet
    have hcompleted := hevents ▸ Event.completed?_events policy suite.size reports hending
    have hdeselected := hevents ▸ Event.deselected?_events policy suite.size reports hending
    have hnamed : r ∈ full.2.events.filterMap Event.completed? :=
      List.mem_filterMap.mpr ⟨_, hr, rfl⟩
    rw [hcompleted] at hnamed
    obtain ⟨hmem, hsel⟩ := List.mem_filter.mp hnamed
    have hfails : policy.fails r = true := by simpa [Policy.fails, hfailed] using hsel
    obtain ⟨before, case, after, earlier, failing, later, last, rfl, rfl, hearlier, hfailing,
      hcut⟩ := hstretch.cut ⟨r, hmem, hfails⟩
    have hsettles := settles_failFast hearlier hfailing (after ++ rest)
    obtain ⟨s', hend⟩ := tell_ok quiet
      (.runComplete (timed host w last.world _)) last.reporter
    have hshort : short = _ :=
      (Course.closed hstart (by simpa using hsplit) hcut hsettles hend).run
    obtain ⟨haccounts, hnotRun, -⟩ := hsettles.accounts
    obtain ⟨passing, hlast, hpassing, hone⟩ :=
      accounts_first_failure haccounts hearlier hfailing
    have hbegins : earlier ++ [failing] <+: earlier ++ failing :: later := ⟨later, by simp⟩
    refine ⟨before, case, after ++ rest, earlier, failing, _, by simpa using hsplit, ?_, hearlier,
      hfailing, congrArg Prod.fst hshort, haccounts.cases, haccounts.deselected, ?_, ?_, ?_, hone,
      ⟨passing, hlast, hpassing⟩, rfl, hnotRun⟩
    · rw [hshort]
      exact hcut.ran
    · rw [hcompleted]
      exact haccounts.cases ▸ hbegins.filter _
    · rw [hdeselected]
      exact haccounts.deselected ▸ (hbegins.filter _).map _
    · intro whole hok
      have haccounts' := hwhole whole hok
      rw [haccounts'.cases, haccounts'.deselected]
      exact ⟨haccounts.cases ▸ hbegins.filter _, haccounts.deselected ▸ (hbegins.filter _).map _⟩
  · intro hpassed
    refine ⟨(hfull.toFailFast hpassed).run, ?_⟩
    intro report hreport
    rw [hreport] at hfull
    exact hfull.not_stopped

/-- The sample suite: to the end, the run is broken off by the last case; with a
stop at failures it ends with a report before that. -/
theorem stopOnFail_truncates_sample :
    ((complete { returnCode := some 0 }).run Sample.host Sample.suite .silent ()
      Sample.world).1 = .error (.config "broken") ∧
    ∃ report, ((failFast { returnCode := some 0 }).run Sample.host Sample.suite .silent ()
        Sample.world).1 = .ok report ∧
      report.failed = 1 ∧ report.stoppedEarly = true := by
  refine ⟨by decide +kernel, ?_⟩
  obtain ⟨hcut, -⟩ := stopOnFail_truncates { returnCode := some 0 } Sample.host Sample.suite
    .silent () Sample.world (fun _ _ => rfl)
  obtain ⟨_, _, _, _, _, report, _, _, _, _, hok, _, _, _, _, _, hone, _, hstopped, _⟩ :=
    hcut ⟨_, List.mem_of_getElem? (i := 3) rfl, rfl⟩
  exact ⟨report, hok, hone, hstopped⟩

end Assay.Runner

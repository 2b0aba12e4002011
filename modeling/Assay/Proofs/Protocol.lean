import Assay.Proofs.Accounting

/-! # What a reporter is told

A reporter may fail on any event, and a case may raise an error at any point; a
run ends at the first of these.  So whatever happens, the events of a run are
the beginning of one fixed sequence: the start, one event for each case that
ended, and the end.  `Runner.run_heard` reads this off the course of a run,
together with the three ways in which the sequence can break off, and
`Runner.run_protocol` states it as the protocol between run and reporter.
-/

namespace Assay.Runner

variable {σ ρ : Type} {host : Host σ} {suite : Suite σ} {reporter : Reporter ρ}
variable {state s : ρ} {w : World σ} {p : Progress σ ρ}

/-- A stretch behind a start that was told: the reporter took all events so
far. -/
theorem Stretch.tellAll {policy : Policy} {ran : List (TestCase σ)} {reports : List CaseReport}
    (hstart : reporter.tell (.runStart suite.size) state = (.ok (), s))
    (h : Stretch policy host suite.tool reporter ran reports (opening suite w s) p) :
    reporter.tellAll p.events state = (.ok (), p.reporter) := by
  rw [h.events_opening]
  exact Reporter.tellAll_cons_ok.mpr ⟨s, hstart, h.told⟩

/-- **The events of a run, and what broke them off.**  `reports` are those of the
cases that ended, `mid` is the world these left, and `ending` is the last event
if the run came that far. -/
theorem run_heard {runner : Runner} {result : Except HarnessError RunReport}
    (h : runner.run host suite reporter state w = (result, p)) :
    ∃ reports mid ending, reports.length ≤ suite.size ∧
      TestCase.runAll host suite.tool (suite.cases.take reports.length) w = (.ok reports, mid) ∧
      p.events = .runStart suite.size :: reports.map runner.policy.announce ++ ending ∧
      ((∃ r, result = .ok r ∧ ending = [.runComplete r] ∧ p.world = mid ∧
          reporter.tellAll p.events state = (.ok (), p.reporter) ∧
          Covers runner host suite w mid reports r) ∨
        (∃ told last io s, result = .error (.report io) ∧ p.world = mid ∧
          Event.IsEnding ending ∧
          p.events = told ++ [last] ∧ reporter.tellAll told state = (.ok (), s) ∧
          reporter.tell last s = (.error io, p.reporter)) ∨
        (∃ e case rest, result = .error e ∧ ending = [] ∧
          suite.cases.drop reports.length = case :: rest ∧
          case.run host suite.tool mid = (.error e, p.world) ∧
          reporter.tellAll p.events state = (.ok (), p.reporter))) := by
  cases run_course h with
  | @unopened io s hstart =>
    refine ⟨[], w, [], Nat.zero_le _, rfl, rfl, .inr (.inl ?_)⟩
    exact ⟨[], .runStart suite.size, io, state, rfl, rfl, .inl rfl, rfl, rfl, hstart⟩
  | @raised s ran rest case reports mid e after hstart hsplit hpass hcase =>
    obtain ⟨hle, hran, hdrop⟩ := TestCase.runAll_first hsplit hpass.ran
    have htold := Stretch.tellAll hstart hpass.toStretch
    refine ⟨reports, mid.world, [], hle, hran, ?_, .inr (.inr ?_)⟩
    · rw [List.append_nil]
      exact hpass.events_opening
    · exact ⟨e, case, rest, rfl, rfl, hdrop, hcase, htold⟩
  | @refused s s' ran rest case reports mid r after io hstart hsplit hpass hcase htell =>
    -- the case did end, so it is one of those that ran, though its event was not taken
    obtain ⟨hle, hran, -⟩ := TestCase.runAll_first (List.append_cons .. ▸ hsplit)
      (TestCase.runAll_concat hpass.ran hcase)
    have htold := Stretch.tellAll hstart hpass.toStretch
    refine ⟨reports ++ [r], after, [], hle, hran, ?_, .inr (.inl ?_)⟩
    · simp [Policy.advance, hpass.events_opening]
    · exact ⟨mid.events, _, io, mid.reporter, rfl, rfl, .inl rfl, rfl, htold, htell⟩
  | @unclosed s s' ran rest reports mid report io hstart hsplit hstretch hsettles hend =>
    obtain ⟨hle, hran, -⟩ := TestCase.runAll_first hsplit hstretch.ran
    have htold := Stretch.tellAll hstart hstretch
    refine ⟨reports, mid.world, [.runComplete (timed host w mid.world report)], hle, hran, ?_,
      .inr (.inl ?_)⟩
    · rw [closing, hstretch.events_opening]
    · exact ⟨mid.events, _, io, mid.reporter, rfl, rfl, .inr ⟨_, rfl⟩, rfl, htold, hend⟩
  | @closed s s' ran rest reports mid report hstart hsplit hstretch hsettles hend =>
    obtain ⟨hle, hran, -⟩ := TestCase.runAll_first hsplit hstretch.ran
    have htold := Stretch.tellAll hstart hstretch
    refine ⟨reports, mid.world, [.runComplete (timed host w mid.world report)], hle, hran, ?_,
      .inl ⟨_, rfl, rfl, rfl, ?_, hsettles.covers hsplit hstretch.ran⟩⟩
    · rw [closing, hstretch.events_opening]
    · exact Reporter.tellAll_concat_ok.mpr ⟨mid.reporter, htold, hend⟩

/-- **The protocol of a run.**  The reporter is told the start with the number of
cases, then one event for each case that ended, in the order of the suite, and
then, if the run comes that far, the end; its state is what these events made of
it.  The run gives a report exactly if the end was told and no event failed.
Then the cases called complete are those of the report, the labels of the
deselected ones are its labels, the end was told with that very report, and the
report covers the suite.

If the run gives an error, it is that of the first step that failed.  Either the
last event failed, all before it having been taken, or the next case raised the
error when all events had been taken, and then neither an event of this case nor
the end was told.  In both cases the world is as that step left it: no case ran
after it. -/
theorem run_protocol (runner : Runner) (host : Host σ) (suite : Suite σ)
    (reporter : Reporter ρ) (state : ρ) (w : World σ) :
    let result := (runner.run host suite reporter state w).1
    let p := (runner.run host suite reporter state w).2
    ∃ reports mid ending, reports.length ≤ suite.size ∧
      TestCase.runAll host suite.tool (suite.cases.take reports.length) w = (.ok reports, mid) ∧
      (ending = [] ∨ ∃ r, ending = [.runComplete r]) ∧
      p.events = .runStart suite.size :: reports.map runner.policy.announce ++ ending ∧
      (reporter.tellAll p.events state).2 = p.reporter ∧
      (∀ r, result = .ok r ↔
        ending = [.runComplete r] ∧ (reporter.tellAll p.events state).1 = .ok ()) ∧
      (∀ r, result = .ok r →
        p.events.filterMap Event.completed? = r.cases ∧
        (p.events.filterMap Event.deselected?).map (·.label) = r.deselected ∧ p.world = mid ∧
        Covers runner host suite w mid reports r) ∧
      (∀ e, result = .error e →
        (∃ told last io s, p.events = told ++ [last] ∧
          reporter.tellAll told state = (.ok (), s) ∧
          reporter.tell last s = (.error io, p.reporter) ∧ e = .report io ∧ p.world = mid) ∨
        (∃ case rest, suite.cases.drop reports.length = case :: rest ∧
          case.run host suite.tool mid = (.error e, p.world) ∧ ending = [] ∧
          reporter.tellAll p.events state = (.ok (), p.reporter))) := by
  intro result p
  have hrun : runner.run host suite reporter state w = (result, p) := rfl
  obtain ⟨reports, mid, ending, hle, hran, hevents, hend⟩ := run_heard hrun
  refine ⟨reports, mid, ending, hle, hran, ?_⟩
  rcases hend with ⟨r, hok, rfl, hworld, htold, hcovers⟩ |
    ⟨told, last, io, s, herr, hworld, hending, hsplit, htold, hlast⟩ |
    ⟨e, case, rest, herr, rfl, hdrop, hcase, htold⟩
  · refine ⟨.inr ⟨r, rfl⟩, hevents, by rw [htold], ?_, ?_, ?_⟩
    · intro r'
      rw [hok, htold]
      simp
    · intro r' hr'
      rw [hok] at hr'
      cases hr'
      rw [hevents, Event.completed?_events _ _ _ (.inr ⟨r, rfl⟩),
        Event.deselected?_events _ _ _ (.inr ⟨r, rfl⟩)]
      exact ⟨hcovers.accounts.cases.symm, hcovers.accounts.deselected.symm, hworld, hcovers⟩
    · intro e he
      rw [hok] at he
      cases he
  · have hfailed : reporter.tellAll p.events state = (.error io, p.reporter) := by
      rw [hsplit, Reporter.tellAll_append_of_ok htold, Reporter.tellAll, hlast]
    refine ⟨hending, hevents, by rw [hfailed], ?_, ?_, ?_⟩
    · intro r
      rw [herr, hfailed]
      simp
    · intro r hr
      rw [herr] at hr
      cases hr
    · intro e he
      rw [herr] at he
      cases he
      exact .inl ⟨told, last, io, s, hsplit, htold, hlast, rfl, hworld⟩
  · refine ⟨.inl rfl, hevents, by rw [htold], ?_, ?_, ?_⟩
    · intro r
      rw [herr]
      simp
    · intro r hr
      rw [herr] at hr
      cases hr
    · intro e' he
      rw [herr] at he
      cases he
      exact .inr ⟨case, rest, hdrop, hcase, rfl, htold⟩

end Assay.Runner

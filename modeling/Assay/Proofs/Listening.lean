import Assay.Proofs.Execution

/-! # A reporter only listens

A reporter can break a run off, but it cannot lead it anywhere else.  `Unfolds`
says what a run comes to if every event is taken: its result, its events and the
world it leaves, with no reporter in sight.  Every run unfolds in some way
(`Runner.unfolds`), and then the run with a given reporter follows from what that
reporter makes of the events alone: if it takes them all, the run ends as it
unfolds (`Runner.Unfolds.run_of_ok`); if it refuses one, the run has come up to
that event and no further (`Runner.Unfolds.run_of_error`).
-/

namespace Assay

variable {σ ρ : Type}

/-! ## The cases behind the events -/

namespace Event

/-- The case that an event is about. -/
def case? : Event → Option CaseReport
  | .caseComplete r => some r
  | .caseDeselected r => some r
  | _ => none

theorem case?_announce (policy : Policy) (r : CaseReport) :
    case? (policy.announce r) = some r := by
  unfold Policy.announce
  split <;> rfl

/-- The events of a run are about its cases, in their order. -/
theorem filterMap_case? (policy : Policy) (n : Nat) (reports : List CaseReport) :
    (.runStart n :: reports.map policy.announce).filterMap case? = reports := by
  rw [List.filterMap_cons_none rfl]
  induction reports with
  | nil => rfl
  | cons r rs ih => rw [List.map_cons, List.filterMap_cons_some (case?_announce policy r), ih]

end Event

/-! ## Refused events -/

namespace Reporter

variable {reporter : Reporter ρ}

/-- A reporter that does not take all events takes some, and refuses the next. -/
theorem tellAll_error {es : List Event} {s last : ρ} {io : IoError}
    (h : reporter.tellAll es s = (.error io, last)) :
    ∃ told e later mid, es = told ++ e :: later ∧ reporter.tellAll told s = (.ok (), mid) ∧
      reporter.tell e mid = (.error io, last) := by
  induction es generalizing s with
  | nil => cases h
  | cons e es ih =>
    rw [tellAll] at h
    split at h
    · rename_i he
      cases h
      exact ⟨[], e, es, s, rfl, rfl, he⟩
    · rename_i mid he
      obtain ⟨told, e', later, mid', rfl, htold, htell⟩ := ih h
      exact ⟨e :: told, e', later, mid', rfl, tellAll_cons_ok.mpr ⟨mid, he, htold⟩, htell⟩

theorem tellAll_append_of_error {es fs : List Event} {s last : ρ} {io : IoError}
    (h : reporter.tellAll es s = (.error io, last)) :
    reporter.tellAll (es ++ fs) s = (.error io, last) := by
  obtain ⟨told, e, later, mid, rfl, htold, htell⟩ := tellAll_error h
  rw [List.append_assoc, tellAll_append_of_ok htold, List.cons_append, tellAll, htell]

/-- A reporter that never fails takes all events. -/
theorem tellAll_quiet (quiet : ∀ e s, (reporter.tell e s).1 = .ok ()) (es : List Event) (s : ρ) :
    ∃ last, reporter.tellAll es s = (.ok (), last) := by
  cases htold : reporter.tellAll es s with
  | mk result last =>
    cases result with
    | ok u => exact ⟨last, rfl⟩
    | error io =>
      obtain ⟨_, e, _, mid, _, _, htell⟩ := tellAll_error htold
      have hquiet := quiet e mid
      rw [htell] at hquiet
      cases hquiet

end Reporter

/-! ## Reports in the middle -/

/-- Cases that ran are cut where a report of theirs is. -/
theorem TestCase.runAll_cut {host : Host σ} {target : Tool} {ran : List (TestCase σ)}
    {w last : World σ} {earlier later : List CaseReport} {r : CaseReport}
    (h : runAll host target ran w = (.ok (earlier ++ r :: later), last)) :
    ∃ before case after mid next, ran = before ++ case :: after ∧
      runAll host target before w = (.ok earlier, mid) ∧
      case.run host target mid = (.ok r, next) := by
  induction earlier generalizing ran w with
  | nil =>
    cases ran with
    | nil => cases h
    | cons case rest =>
      obtain ⟨r', rs, next, heq, hcase, -⟩ := runAll_cons_ok.mp h
      obtain ⟨rfl, rfl⟩ := List.cons.inj heq
      exact ⟨[], case, rest, w, next, rfl, rfl, hcase⟩
  | cons x earlier ih =>
    cases ran with
    | nil => cases h
    | cons case rest =>
      obtain ⟨r', rs, mid, heq, hcase, hrest⟩ := runAll_cons_ok.mp h
      obtain ⟨rfl, rfl⟩ := List.cons.inj heq
      obtain ⟨before, case', after, mid', next, rfl, hbefore, hcase'⟩ := ih hrest
      exact ⟨case :: before, case', after, mid', next, rfl,
        runAll_cons_ok.mpr ⟨x, earlier, mid, rfl, hcase, hbefore⟩, hcase'⟩

/-! ## A run without a reporter -/

namespace Runner

variable {runner : Runner} {host : Host σ} {suite : Suite σ} {reporter : Reporter ρ}
variable {state : ρ} {w : World σ}

/-- What a run comes to if every event is taken. -/
inductive Unfolds (runner : Runner) (host : Host σ) (suite : Suite σ) (w : World σ) :
    Except HarnessError RunReport → List Event → World σ → Prop
  /-- A case returns a harness error. -/
  | raised {ran rest : List (TestCase σ)} {case : TestCase σ} {reports : List CaseReport}
      {mid after : World σ} {e : HarnessError} :
      suite.cases = ran ++ case :: rest →
      TestCase.runAll host suite.tool ran w = (.ok reports, mid) →
      (∀ r ∈ reports, runner.stopsAt r = false) →
      case.run host suite.tool mid = (.error e, after) →
      Unfolds runner host suite w (.error e)
        (.runStart suite.size :: reports.map runner.policy.announce) after
  /-- The cases come to an end, or one of them stops the run. -/
  | settled {ran rest : List (TestCase σ)} {reports : List CaseReport} {report : RunReport}
      {last : World σ} :
      suite.cases = ran ++ rest →
      TestCase.runAll host suite.tool ran w = (.ok reports, last) →
      Settles runner reports rest report →
      Unfolds runner host suite w (.ok (timed host w last report))
        (.runStart suite.size :: reports.map runner.policy.announce ++
          [.runComplete (timed host w last report)]) last

/-- Every run unfolds in some way: as it does for a reporter that lets every event
pass. -/
theorem unfolds (runner : Runner) (host : Host σ) (suite : Suite σ) (w : World σ) :
    ∃ result events world, Unfolds runner host suite w result events world := by
  obtain ⟨result, p, hrun⟩ : ∃ result p,
      runner.run host suite (.silent : Reporter Unit) () w = (result, p) := ⟨_, _, rfl⟩
  cases run_course hrun with
  | unopened hstart => cases hstart
  | refused _ _ _ _ htell => cases htell
  | unclosed _ _ _ _ hend => cases hend
  | raised _ hsplit hpass hcase => exact ⟨_, _, _, .raised hsplit hpass.ran hpass.goesOn hcase⟩
  | closed _ hsplit hstretch hsettles _ => exact ⟨_, _, _, .settled hsplit hstretch.ran hsettles⟩

/-- Cases that ran are a stretch for every reporter that takes their events. -/
theorem stretch_of_runAll {policy : Policy} {ran : List (TestCase σ)} {reports : List CaseReport}
    {mid : World σ} {s s' : ρ} (hran : TestCase.runAll host suite.tool ran w = (.ok reports, mid))
    (htold : reporter.tellAll (reports.map policy.announce) s = (.ok (), s')) :
    Stretch policy host suite.tool reporter ran reports (opening suite w s)
      ⟨mid, s', .runStart suite.size :: reports.map policy.announce⟩ :=
  ⟨hran, htold, rfl⟩

/-- None of the reports before the last stopped the run. -/
theorem Settles.goesOn {reports earlier later : List CaseReport} {r : CaseReport}
    {rest : List (TestCase σ)} {report : RunReport} (h : Settles runner reports rest report)
    (hsplit : reports = earlier ++ r :: later) : ∀ x ∈ earlier, runner.stopsAt x = false := by
  intro x hx
  cases h with
  | exhausted hgo => exact hgo x (by simp [hsplit, hx])
  | @stopped before last _ hgo _ =>
    -- something follows the earlier reports, so the last one is not among them
    have hbegins : earlier <+: before := by
      have hleft : earlier <+: before ++ [last] := hsplit ▸ List.prefix_append _ _
      refine List.prefix_of_prefix_length_le hleft (List.prefix_append _ _) ?_
      have hlen := congrArg List.length hsplit
      simp only [List.length_append, List.length_cons, List.length_nil] at hlen
      omega
    exact hgo x (hbegins.subset hx)

/-- **A reporter that takes all events changes nothing.** -/
theorem Unfolds.run_of_ok {result : Except HarnessError RunReport} {events : List Event}
    {world : World σ} {s : ρ} (h : Unfolds runner host suite w result events world)
    (htold : reporter.tellAll events state = (.ok (), s)) :
    runner.run host suite reporter state w = (result, ⟨world, s, events⟩) := by
  cases h with
  | raised hsplit hran hgo hcase =>
    obtain ⟨s₀, hstart, htold⟩ := Reporter.tellAll_cons_ok.mp htold
    exact (Course.raised hstart hsplit ⟨stretch_of_runAll hran htold, hgo⟩ hcase).run
  | settled hsplit hran hsettles =>
    obtain ⟨s₁, htold, hend⟩ := Reporter.tellAll_concat_ok.mp htold
    obtain ⟨s₀, hstart, htold⟩ := Reporter.tellAll_cons_ok.mp htold
    exact (Course.closed hstart hsplit (stretch_of_runAll hran htold) hsettles hend).run

/-- A reporter that never fails lets the run end as it unfolds. -/
theorem Unfolds.run_of_quiet {result : Except HarnessError RunReport} {events : List Event}
    {world : World σ} (h : Unfolds runner host suite w result events world)
    (quiet : ∀ e s, (reporter.tell e s).1 = .ok ()) (state : ρ) :
    ∃ s, runner.run host suite reporter state w = (result, ⟨world, s, events⟩) := by
  obtain ⟨s, htold⟩ := Reporter.tellAll_quiet quiet events state
  exact ⟨s, h.run_of_ok htold⟩

/-- **The run breaks off at an event.**  The reporter takes some of `events` and
refuses the next with `io`, which leaves it in the state `s`.  The run has told
the events up to and including the refused one; the cases that these events are
about have run, and no other. -/
def BreaksOff (runner : Runner) (host : Host σ) (suite : Suite σ) (reporter : Reporter ρ)
    (state : ρ) (w : World σ) (events : List Event) (io : IoError) (s : ρ) : Prop :=
  ∃ told last later mid reports after, events = told ++ last :: later ∧
    reporter.tellAll told state = (.ok (), mid) ∧ reporter.tell last mid = (.error io, s) ∧
    (told ++ [last]).filterMap Event.case? = reports ∧
    TestCase.runAll host suite.tool (suite.cases.take reports.length) w = (.ok reports, after) ∧
    runner.run host suite reporter state w = (.error (.report io), ⟨after, s, told ++ [last]⟩)

theorem BreaksOff.append {events more : List Event} {io : IoError} {s : ρ}
    (h : BreaksOff runner host suite reporter state w events io s) :
    BreaksOff runner host suite reporter state w (events ++ more) io s := by
  obtain ⟨told, last, later, mid, reports, after, rfl, hrest⟩ := h
  exact ⟨told, last, later ++ more, mid, reports, after, by simp, hrest⟩

/-- A reporter that refuses the start, or the event of a case, breaks the run
off there. -/
theorem breaksOff_of_runAll {ran rest : List (TestCase σ)} {reports : List CaseReport}
    {mid : World σ} {s : ρ} {io : IoError} (hsplit : suite.cases = ran ++ rest)
    (hran : TestCase.runAll host suite.tool ran w = (.ok reports, mid))
    (hgo : ∀ earlier r later, reports = earlier ++ r :: later →
      ∀ x ∈ earlier, runner.stopsAt x = false)
    (hrefused : reporter.tellAll (.runStart suite.size :: reports.map runner.policy.announce)
      state = (.error io, s)) :
    BreaksOff runner host suite reporter state w
      (.runStart suite.size :: reports.map runner.policy.announce) io s := by
  obtain ⟨told, last, later, s₁, hevents, htold, htell⟩ := Reporter.tellAll_error hrefused
  cases told with
  | nil =>
    obtain ⟨rfl, rfl⟩ := List.cons.inj hevents
    cases htold
    exact ⟨[], _, _, state, [], w, rfl, rfl, htell, rfl, rfl, (Course.unopened htell).run⟩
  | cons start told =>
    obtain ⟨rfl, hannounced⟩ := List.cons.inj hevents
    obtain ⟨s₀, hstart, htaken⟩ := Reporter.tellAll_cons_ok.mp htold
    obtain ⟨earlier, others, rfl, rfl, hothers⟩ := List.map_eq_append_iff.mp hannounced
    obtain ⟨r, others, rfl, rfl, rfl⟩ := List.map_eq_cons_iff.mp hothers
    obtain ⟨before, case, after, mid', next, rfl, hbefore, hcase⟩ := TestCase.runAll_cut hran
    have hran' := TestCase.runAll_concat hbefore hcase
    have hsplit' : suite.cases = before ++ case :: (after ++ rest) := by simpa using hsplit
    have hfirst := TestCase.runAll_first (by simpa using hsplit') hran'
    have hpass : Passes runner host suite.tool reporter before earlier (opening suite w s₀) _ :=
      ⟨stretch_of_runAll hbefore htaken, hgo earlier r others rfl⟩
    refine ⟨_, _, _, s₁, earlier ++ [r], next, hevents, htold, htell, ?_, hfirst.2.1,
      (Course.refused hstart hsplit' hpass hcase htell).run⟩
    have hcases := Event.filterMap_case? runner.policy suite.size (earlier ++ [r])
    rwa [List.map_append] at hcases

/-- **A reporter that refuses an event ends the run at it.** -/
theorem Unfolds.run_of_error {result : Except HarnessError RunReport} {events : List Event}
    {world : World σ} {s : ρ} {io : IoError} (h : Unfolds runner host suite w result events world)
    (htold : reporter.tellAll events state = (.error io, s)) :
    BreaksOff runner host suite reporter state w events io s := by
  cases h with
  | raised hsplit hran hgo hcase =>
    refine breaksOff_of_runAll hsplit hran (fun earlier r later hreports x hx => ?_) htold
    exact hgo x (by simp [hreports, hx])
  | @settled ran rest reports report last hsplit hran hsettles =>
    cases hcases : reporter.tellAll
        (.runStart suite.size :: reports.map runner.policy.announce) state with
    | mk taken s₁ =>
      cases taken with
      | error io' =>
        rw [Reporter.tellAll_append_of_error hcases] at htold
        cases htold
        exact (breaksOff_of_runAll hsplit hran
          (fun earlier r later hreports => hsettles.goesOn hreports) hcases).append
      | ok u =>
        rw [Reporter.tellAll_append_of_ok hcases, Reporter.tellAll] at htold
        split at htold
        · rename_i hend
          cases htold
          obtain ⟨s₀, hstart, htold⟩ := Reporter.tellAll_cons_ok.mp hcases
          have hfirst := TestCase.runAll_first hsplit hran
          refine ⟨_, _, [], s₁, reports, _, rfl, hcases, hend, ?_, hfirst.2.1,
            (Course.unclosed hstart hsplit (stretch_of_runAll hran htold) hsettles hend).run⟩
          rw [List.filterMap_append, Event.filterMap_case?]
          exact List.append_nil reports
        · cases htold

end Runner
end Assay

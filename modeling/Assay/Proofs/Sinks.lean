import Assay.Proofs.Listening
import Assay.Report.Reporters

/-! # A full sink cuts the output

A reporter that writes does so in many pieces: several for an event, and more
with every event.  For the sink it is all one text (`Sink.writeAll_eq`,
`Reporter.tellAll_writing`): writing in pieces is writing at once, and a sink
with room for `n` bytes keeps the first `n` of them.

Since a reporter only listens, the rest of the run follows: with enough room
nothing changes, and without it the run breaks off at the very event whose text
no longer fits (`Runner.full_sink_cuts`).
-/

namespace Assay

open Text (Bytes)

/-! ## Writing in pieces -/

namespace Sink

theorem write_nil (s : Sink) : s.write [] = (.ok (), s) := by
  unfold write
  split <;> simp

/-- Two texts are written one after the other as they are written together. -/
theorem write_append (s : Sink) (first second : Bytes) :
    s.write (first ++ second) = match s.write first with
      | (.error e, after) => (.error e, after)
      | (.ok (), after) => after.write second := by
  obtain ⟨limit, written⟩ := s
  cases limit with
  | none => simp [write]
  | some limit =>
    by_cases hfirst : first.length ≤ limit - written.length
    · simp only [write, hfirst, if_true, List.length_append]
      by_cases hboth : first.length + second.length ≤ limit - written.length
      · have hsecond : second.length ≤ limit - (written.length + first.length) := by omega
        simp [hboth, hsecond]
      · have hsecond : ¬ second.length ≤ limit - (written.length + first.length) := by omega
        have hroom : limit - written.length - first.length =
            limit - (written.length + first.length) := by omega
        simp [hboth, hsecond, List.take_append, List.take_of_length_le hfirst, hroom]
    · have hboth : ¬ (first ++ second).length ≤ limit - written.length := by
        rw [List.length_append]
        omega
      have htake : (first ++ second).take (limit - written.length) =
          first.take (limit - written.length) := List.take_append_of_le_length (by omega)
      simp only [write, hfirst, hboth, if_false, htake]

/-- Writing in pieces is writing at once. -/
theorem writeAll_eq (pieces : List Bytes) (s : Sink) :
    writeAll pieces s = s.write pieces.flatten := by
  induction pieces generalizing s with
  | nil => exact (write_nil s).symm
  | cons piece rest ih =>
    rw [writeAll, List.flatten_cons, write_append]
    cases s.write piece with
    | mk result after =>
      cases result with
      | error e => rfl
      | ok _ => exact ih after

/-- A sink without a limit takes everything. -/
theorem write_unlimited (data : Bytes) :
    ({} : Sink).write data = (.ok (), { written := data }) := rfl

/-- A sink with room for `limit` bytes takes as many. -/
theorem write_limited (limit : Nat) (data : Bytes) :
    ({ limit := some limit } : Sink).write data =
      if data.length ≤ limit then (.ok (), { limit := some limit, written := data })
      else (.error full, { limit := some limit, written := data.take limit }) := rfl

end Sink

namespace Reporter

/-- The bytes that a reporter writes for an event. -/
def bytes (pieces : Event → List String) (e : Event) : Bytes := (pieces e).flatMap Text.utf8

/-- Telling events to a reporter that writes is writing the texts of all of them
at once. -/
theorem tellAll_writing (pieces : Event → List String) (events : List Event) (s : Sink) :
    (writing pieces).tellAll events s = s.write (events.flatMap (bytes pieces)) := by
  have htell : ∀ e s, (writing pieces).tell e s = s.write (bytes pieces e) := by
    intro e s
    exact (Sink.writeAll_eq _ s).trans (by rw [bytes, List.flatMap_def])
  induction events generalizing s with
  | nil => exact (Sink.write_nil s).symm
  | cons e es ih =>
    rw [tellAll, List.flatMap_cons, Sink.write_append, htell]
    cases s.write (bytes pieces e) with
    | mk result after =>
      cases result with
      | error io => rfl
      | ok _ => exact ih after

end Reporter

/-! ## The three reporters -/

/-- Where the report of a run goes: to the console, into a document, or nowhere. -/
inductive Channel where
  | console (opts : RenderOptions)
  | document
  | nowhere
  deriving Repr, DecidableEq

namespace Channel

def pieces : Channel → Event → List String
  | .console opts => Console.pieces opts
  | .document => Document.pieces
  | .nowhere => fun _ => []

def reporter : Channel → Reporter Sink
  | .console opts => Console.reporter opts
  | .document => Document.reporter
  | .nowhere => .silent

theorem reporter_eq (c : Channel) : c.reporter = .writing c.pieces := by
  cases c <;> rfl

/-- What is written for events altogether. -/
def output (c : Channel) (events : List Event) : Bytes :=
  events.flatMap (Reporter.bytes c.pieces)

theorem tellAll (c : Channel) (events : List Event) (s : Sink) :
    c.reporter.tellAll events s = s.write (c.output events) := by
  rw [reporter_eq, Reporter.tellAll_writing, output]

@[simp] theorem output_append (c : Channel) (es fs : List Event) :
    c.output (es ++ fs) = c.output es ++ c.output fs := List.flatMap_append

/-- Nothing goes into a document before the end of the run. -/
theorem output_document (policy : Policy) (n : Nat) (reports : List CaseReport) :
    document.output (.runStart n :: reports.map policy.announce) = [] := by
  simp only [output, List.flatMap_eq_nil_iff, List.mem_cons, List.mem_map]
  rintro e (rfl | ⟨r, -, rfl⟩)
  · rfl
  · unfold Policy.announce
    split <;> rfl

end Channel

namespace Runner

variable {σ : Type} {runner : Runner} {host : Host σ} {suite : Suite σ} {w world : World σ}
variable {result : Except HarnessError RunReport} {events : List Event} {c : Channel}

/-- With a sink that takes everything, the run ends as it unfolds. -/
theorem Unfolds.run_unlimited (h : Unfolds runner host suite w result events world)
    (c : Channel) : runner.run host suite c.reporter {} w =
      (result, ⟨world, { written := c.output events }, events⟩) := by
  apply h.run_of_ok
  rw [Channel.tellAll, Sink.write_unlimited]

/-- With enough room, the run ends as it unfolds. -/
theorem Unfolds.run_roomy (h : Unfolds runner host suite w result events world) {limit : Nat}
    (hroom : (c.output events).length ≤ limit) :
    runner.run host suite c.reporter { limit := some limit } w =
      (result, ⟨world, { limit := some limit, written := c.output events }, events⟩) := by
  apply h.run_of_ok
  rw [Channel.tellAll, Sink.write_limited, if_pos hroom]

/-- Without enough room, the run breaks off. -/
theorem Unfolds.run_tight (h : Unfolds runner host suite w result events world) {limit : Nat}
    (hroom : limit < (c.output events).length) :
    BreaksOff runner host suite c.reporter { limit := some limit } w events Sink.full
      { limit := some limit, written := (c.output events).take limit } := by
  apply h.run_of_error
  rw [Channel.tellAll, Sink.write_limited, if_neg (Nat.not_le.mpr hroom)]

/-- What a reporter could write before it had to give up does not overflow the
sink; with the event it refused, it does. -/
theorem overflow {limit : Nat} {told : List Event} {last : Event} {mid s : Sink} {io : IoError}
    (htold : c.reporter.tellAll told { limit := some limit } = (.ok (), mid))
    (hlast : c.reporter.tell last mid = (.error io, s)) :
    (c.output told).length ≤ limit ∧ limit < (c.output (told ++ [last])).length := by
  have hrefused : c.reporter.tellAll (told ++ [last]) { limit := some limit } = (.error io, s) := by
    rw [Reporter.tellAll_append_of_ok htold, Reporter.tellAll, hlast]
  rw [Channel.tellAll, Sink.write_limited] at htold hrefused
  constructor
  · split at htold
    · rename_i hfits
      exact hfits
    · cases htold
  · split at hrefused
    · cases hrefused
    · rename_i hmore
      exact Nat.not_le.mp hmore

/-- A document that does not fit is noticed at the end of the run, when all its
cases have run. -/
theorem Unfolds.document_overflow (h : Unfolds runner host suite w result events world)
    {limit : Nat} {told later : List Event} {last : Event} {reports : List CaseReport}
    {after : World σ} (hsplit : events = told ++ last :: later)
    (hover : limit < (Channel.document.output (told ++ [last])).length)
    (hcases : (told ++ [last]).filterMap Event.case? = reports)
    (hran : TestCase.runAll host suite.tool (suite.cases.take reports.length) w =
      (.ok reports, after)) : later = [] ∧ after = world := by
  -- what was told is more than the start and the cases, which write nothing
  have hsilent : ∀ {n rs rest}, .runStart n :: List.map runner.policy.announce rs =
      (told ++ [last]) ++ rest → False := by
    intro n rs rest heq
    have hnone := Channel.output_document runner.policy n rs
    rw [heq, Channel.output_append, List.append_eq_nil_iff] at hnone
    rw [hnone.1] at hover
    exact absurd hover (Nat.not_lt_zero limit)
  cases h with
  | raised => exact (hsilent (by simpa using hsplit)).elim
  | @settled ran rest rs report _ hsuite hran' _ =>
    rcases List.eq_nil_or_concat later with rfl | ⟨before, x, rfl⟩
    · refine ⟨rfl, ?_⟩
      have hreports : reports = rs := by
        rw [← hcases, ← hsplit, List.filterMap_append, Event.filterMap_case?]
        exact List.append_nil rs
      obtain ⟨-, hfirst, -⟩ := TestCase.runAll_first hsuite hran'
      rw [hreports, hfirst] at hran
      exact (Prod.mk.inj hran).2.symm
    · rw [List.concat_eq_append, ← List.cons_append, ← List.append_assoc] at hsplit
      obtain ⟨heq, -⟩ := List.append_inj' hsplit rfl
      exact (hsilent (by simpa using heq)).elim

/-- **Reporting never changes a run, and a full sink cuts its output.**  Let `out`
be what is written when there is no limit; it is the text of the events told.
Without a limit, result and world are the same wherever the report goes.  With
room for `out`, they are the same again, and `out` is written.  With less room,
exactly as much of `out` is written as there is room for, and the run gives the
error of the sink: it has told the events up to the one whose text no longer
fits, and run the cases that these are about and no other.

A document is written at the end, so that nothing is left to run when it does not
fit; and nothing at all is written when a case raises an error. -/
theorem full_sink_cuts (runner : Runner) (host : Host σ) (suite : Suite σ) (w : World σ)
    (c : Channel) (limit : Nat) :
    let free := runner.run host suite c.reporter {} w
    let tight := runner.run host suite c.reporter { limit := some limit } w
    let out := free.2.reporter.written
    out = c.output free.2.events ∧
    (∀ other : Channel,
      (runner.run host suite other.reporter {} w).1 = free.1 ∧
      (runner.run host suite other.reporter {} w).2.world = free.2.world) ∧
    (out.length ≤ limit →
      tight.2.reporter.written = out ∧ tight.1 = free.1 ∧ tight.2.world = free.2.world) ∧
    (limit < out.length →
      tight.2.reporter.written = out.take limit ∧ tight.1 = .error (.report Sink.full) ∧
      ∃ told last later reports, free.2.events = told ++ last :: later ∧
        tight.2.events = told ++ [last] ∧
        (c.output told).length ≤ limit ∧ limit < (c.output (told ++ [last])).length ∧
        (told ++ [last]).filterMap Event.case? = reports ∧
        TestCase.runAll host suite.tool (suite.cases.take reports.length) w =
          (.ok reports, tight.2.world) ∧
        (c = .document → later = [] ∧ tight.2.world = free.2.world)) ∧
    (c = .document → ∀ e, free.1 = .error e →
      out = [] ∧ tight.1 = .error e ∧ tight.2.reporter.written = []) := by
  intro free tight out
  obtain ⟨result, events, world, hunfolds⟩ := unfolds runner host suite w
  have hfree : free = _ := hunfolds.run_unlimited c
  have hout : out = c.output events := by
    change free.2.reporter.written = _
    rw [hfree]
  have hroomy : out.length ≤ limit → tight.2.reporter.written = out ∧ tight.1 = free.1 ∧
      tight.2.world = free.2.world := by
    intro hroom
    have htight : tight = _ := hunfolds.run_roomy (hout ▸ hroom)
    rw [htight, hfree, hout]
    exact ⟨rfl, rfl, rfl⟩
  refine ⟨by rw [hout, hfree], ?_, hroomy, ?_, ?_⟩
  · intro other
    rw [hunfolds.run_unlimited other, hfree]
    exact ⟨rfl, rfl⟩
  · intro hroom
    obtain ⟨told, last, later, mid, reports, after, hsplit, htold, hlast, hcases, hran, htight⟩ :=
      hunfolds.run_tight (hout ▸ hroom)
    have htight : tight = _ := htight
    obtain ⟨hfits, hover⟩ := overflow htold hlast
    rw [htight, hfree, hout]
    refine ⟨rfl, rfl, told, last, later, reports, hsplit, rfl, hfits, hover, hcases, hran, ?_⟩
    rintro rfl
    exact hunfolds.document_overflow hsplit hover hcases hran
  · rintro rfl e he
    have hnone : out = [] := by
      rw [hfree] at he
      cases hunfolds with
      | raised => rw [hout, Channel.output_document]
      | settled => cases he
    obtain ⟨hwritten, hresult, -⟩ := hroomy (by rw [hnone]; exact Nat.zero_le limit)
    exact ⟨hnone, hresult.trans he, hwritten.trans hnone⟩

/-- The text of the sample run reaches the line of its first case after 84 bytes;
with room for 90, the run breaks off there, at its second event. -/
example :
    let ended := Sample.runner.run Sample.host Sample.suite (Channel.console {}).reporter
      { limit := some 90 } Sample.world
    (ended.2.reporter.written.length, ended.2.events.length, ended.2.world.ambient) =
      (90, 2, 1) := by decide +kernel

end Runner
end Assay

import Assay.Proofs.Accounting
import Assay.Report.Summary

/-! # The counts of the footer can be read back

The counts of a run are written as parts, `2 passed, 1 not run`, and a count of zero has no
part.  `Counts.read` takes such a text apart again: it splits it at the commas, reads the
number at the head of each part, and takes a part that is not there for zero.  It gives back
the four numbers that were written (`RunReport.read_counts`), so a text stands for one choice
of them only, and for a run they add up to the number of cases that was announced
(`RunReport.footer_faithful`).
-/

namespace Assay

/-- The four numbers of a footer. -/
structure Counts where
  passed : Nat
  failed : Nat
  deselected : Nat
  notRun : Nat
  deriving DecidableEq

namespace Counts

def total (c : Counts) : Nat := c.passed + c.failed + c.deselected + c.notRun

/-! ## Reading -/

/-- A part of the text: the number at its head, behind spaces, and what follows it. -/
def readPart (part : List Char) : Nat × List Char :=
  let digits := (part.dropWhile (· == ' ')).takeWhile Char.isDigit
  (Nat.ofDigitChars 10 digits 0, (part.dropWhile (· == ' ')).dropWhile Char.isDigit)

/-- The parts of the text, which stand between commas. -/
def readParts (text : String) : List (Nat × List Char) := (text.toList.splitOn ',').map readPart

/-- The number before the words `what`; zero if no part has them. -/
def readCount (text what : String) : Nat :=
  ((readParts text).find? fun part => part.2 = ' ' :: what.toList).elim 0 (·.1)

/-- The four numbers that a text tells. -/
def read (text : String) : Counts :=
  ⟨readCount text "passed", readCount text "failed", readCount text "deselected",
    readCount text "not run"⟩

/-! ## One part -/

/-- A number and what it counts, in words. -/
def writePart (entry : Nat × String) : String := toString entry.1 ++ " " ++ entry.2

theorem toList_writePart (entry : Nat × String) :
    (writePart entry).toList = Nat.toDigits 10 entry.1 ++ ' ' :: entry.2.toList := by
  simp [writePart, Nat.repr_eq_ofList_toDigits]

theorem comma_notMem_writePart {entry : Nat × String} (h : ',' ∉ entry.2.toList) :
    ',' ∉ (writePart entry).toList := by
  rw [toList_writePart, List.mem_append, List.mem_cons]
  rintro (hdigit | hspace | hwhat)
  · have hcomma := Nat.isDigit_of_mem_toDigits (by decide) (by decide) hdigit
    exact absurd hcomma (by decide)
  · exact absurd hspace (by decide)
  · exact h hwhat

/-- Spaces before a part are passed over. -/
theorem readPart_space (part : List Char) : readPart (' ' :: part) = readPart part := rfl

/-- The number ends at the space behind it. -/
theorem readPart_writePart (entry : Nat × String) :
    readPart (writePart entry).toList = (entry.1, ' ' :: entry.2.toList) := by
  have hdigits : ∀ c ∈ Nat.toDigits 10 entry.1, c.isDigit = true :=
    fun _ => Nat.isDigit_of_mem_toDigits (by decide) (by decide)
  have hstart : (writePart entry).toList.dropWhile (· == ' ') = (writePart entry).toList := by
    obtain ⟨d, ds, hd⟩ := List.exists_cons_of_ne_nil (Nat.toDigits_ne_nil (b := 10) (n := entry.1))
    have hdigit : d.isDigit = true := hdigits d (by simp [hd])
    have hspace : d ≠ ' ' := fun heq => absurd (heq ▸ hdigit) (by decide)
    rw [toList_writePart, hd, List.cons_append, List.dropWhile_cons_of_neg (by simpa using hspace)]
  rw [readPart, hstart, toList_writePart, List.takeWhile_append_of_pos hdigits,
    List.dropWhile_append_of_pos hdigits]
  simp [Nat.ofDigitChars_toDigits]

/-! ## All parts -/

/-- A separator of two characters is one comma, with the space left to what follows. -/
theorem intercalate_comma_space (part : List Char) (parts : List (List Char)) :
    [',', ' '].intercalate (part :: parts) = [','].intercalate (part :: parts.map (' ' :: ·)) := by
  induction parts generalizing part with
  | nil => simp
  | cons next parts ih =>
    rw [List.intercalate_cons_cons, ih, List.map_cons, List.intercalate_cons_cons]
    cases parts with
    | nil => simp
    | cons _ _ => simp [List.intercalate_cons_cons]

/-- **Parts that are written side by side are read one by one.** -/
theorem readParts_intercalate {entries : List (Nat × String)} (hne : entries ≠ [])
    (hcomma : ∀ entry ∈ entries, ',' ∉ entry.2.toList) :
    readParts (", ".intercalate (entries.map writePart)) =
      entries.map fun entry => (entry.1, ' ' :: entry.2.toList) := by
  obtain ⟨first, others, rfl⟩ := List.exists_cons_of_ne_nil hne
  have hfirst := comma_notMem_writePart (hcomma first List.mem_cons_self)
  have hothers : ∀ part ∈ (others.map fun entry => ' ' :: (writePart entry).toList),
      ',' ∉ part := by
    intro part hpart
    obtain ⟨entry, hentry, rfl⟩ := List.mem_map.mp hpart
    have hwhat := comma_notMem_writePart (hcomma entry (List.mem_cons_of_mem first hentry))
    simpa using hwhat
  have hsplit : (", ".intercalate ((first :: others).map writePart)).toList.splitOn ',' =
      (writePart first).toList :: others.map fun entry => ' ' :: (writePart entry).toList := by
    rw [String.toList_intercalate, List.map_map, List.map_cons, show ", ".toList = [',', ' '] from rfl,
      intercalate_comma_space, List.map_map]
    refine List.splitOn_intercalate ',' ?_ (List.cons_ne_nil _ _)
    intro part hpart
    rcases List.mem_cons.mp hpart with rfl | hpart
    · exact hfirst
    · exact hothers part hpart
  rw [readParts, hsplit, List.map_cons, List.map_map, List.map_cons, readPart_writePart]
  congr 1
  refine List.map_congr_left fun entry _ => ?_
  rw [Function.comp_apply, readPart_space, readPart_writePart]

/-- Among entries for different words, a look-up finds the number of its word, also if that
is zero and has been left out. -/
theorem find?_nonzero {entries : List (Nat × String)} (hdistinct : (entries.map (·.2)).Nodup)
    {n : Nat} {what : String} (h : (n, what) ∈ entries) :
    ((entries.filter (·.1 ≠ 0)).find? fun entry => entry.2 = what).elim 0 (·.1) = n := by
  induction entries with
  | nil => cases h
  | cons entry entries ih =>
    obtain ⟨hfresh, hrest⟩ := List.nodup_cons.mp hdistinct
    rcases List.mem_cons.mp h with rfl | h
    · by_cases hn : n = 0
      · have hnone : (entries.filter (·.1 ≠ 0)).find? (fun entry => entry.2 = what) = none := by
          rw [List.find?_eq_none]
          intro other hother heq
          refine hfresh (List.mem_map.mpr ⟨other, (List.mem_filter.mp hother).1, ?_⟩)
          simpa using heq
        rw [List.filter_cons_of_neg (by simpa using hn), hnone, hn]
        rfl
      · rw [List.filter_cons_of_pos (by simpa using hn), List.find?_cons_of_pos (by simp)]
        rfl
    · have hother : entry.2 ≠ what := fun heq =>
        hfresh (List.mem_map.mpr ⟨(n, what), h, heq.symm⟩)
      rw [List.filter_cons]
      split
      · rw [List.find?_cons_of_neg (by simpa using hother), ih hrest h]
      · exact ih hrest h

end Counts

namespace RunReport

open Counts

/-- What a footer tells of the report. -/
def tallied (r : RunReport) : Counts := ⟨r.passed, r.failed, r.deselected.length, r.notRun.length⟩

/-- The four numbers with their words, in the order of the footer. -/
def counted (r : RunReport) : List (Nat × String) :=
  [(r.passed, "passed"), (r.failed, "failed"), (r.deselected.length, "deselected"),
    (r.notRun.length, "not run")]

/-- The parts are those of the numbers that are not zero. -/
theorem countParts_eq (r : RunReport) :
    r.countParts = (r.counted.filter (·.1 ≠ 0)).map writePart := by
  have hpart (n : Nat) (what : String) (entries : List (Nat × String)) :
      countPart n what ++ (entries.filter (·.1 ≠ 0)).map writePart =
        (((n, what) :: entries).filter (·.1 ≠ 0)).map writePart := by
    by_cases hn : n = 0
    · simp [countPart, hn]
    · simp [countPart, hn, writePart]
  have hnone : ([] : List String) = (([] : List (Nat × String)).filter (·.1 ≠ 0)).map writePart := rfl
  rw [countParts, ← List.append_nil (_ ++ countPart r.notRun.length "not run"), hnone]
  simp only [List.append_assoc, hpart, counted]

/-- What is read before `what` is the number written there, and zero if there is none. -/
theorem readCount_counts (r : RunReport) (what : String) :
    readCount r.counts what =
      ((r.counted.filter (·.1 ≠ 0)).find? fun entry => entry.2 = what).elim 0 (·.1) := by
  rw [counts, countParts_eq]
  cases hentries : r.counted.filter (·.1 ≠ 0) with
  | nil =>
    -- a text without numbers tells zero, whatever it is asked for
    have hparts : readParts "no cases selected" = [(0, "no cases selected".toList)] := by decide
    rw [List.map_nil, readCount, hparts, List.find?_singleton]
    split <;> rfl
  | cons first others =>
    have hcomma : ∀ entry ∈ first :: others, ',' ∉ entry.2.toList := by
      intro entry hentry
      rw [← hentries] at hentry
      have hmem := (List.mem_filter.mp hentry).1
      simp only [counted, List.mem_cons, List.not_mem_nil, or_false] at hmem
      rcases hmem with rfl | rfl | rfl | rfl <;> simp
    have hread := readParts_intercalate (List.cons_ne_nil first others) hcomma
    rw [List.map_cons] at hread ⊢
    dsimp only
    rw [readCount, hread, List.find?_map]
    simp [Function.comp_def, Option.elim_map, String.toList_inj]

/-- **The counts are read back as they were written.** -/
theorem read_counts (r : RunReport) : Counts.read r.counts = r.tallied := by
  have hdistinct : (r.counted.map (·.2)).Nodup := by simp [counted]
  have hread {n : Nat} {what : String} (h : (n, what) ∈ r.counted) : readCount r.counts what = n := by
    rw [readCount_counts, find?_nonzero hdistinct h]
  rw [Counts.read, tallied, hread (n := r.passed), hread (n := r.failed),
    hread (n := r.deselected.length), hread (n := r.notRun.length)] <;> simp [counted]

example : Counts.read "12 passed, 3 not run" = ⟨12, 0, 0, 3⟩ := by decide

/-- The footer names no number exactly if there is none. -/
theorem counts_eq_none_iff (r : RunReport) :
    r.counts = "no cases selected" ↔ r.tallied = ⟨0, 0, 0, 0⟩ := by
  constructor
  · intro h
    rw [← read_counts, h]
    decide
  · intro h
    obtain ⟨hpassed, hfailed, hdeselected, hnotRun⟩ := Counts.mk.inj h
    simp [counts, countParts, countPart, hpassed, hfailed, hdeselected, hnotRun]

end RunReport

namespace Runner

variable {σ ρ : Type}

/-- The numbers of a report add up to what the reporter was told at the start. -/
theorem run_total {runner : Runner} {host : Host σ} {suite : Suite σ} {reporter : Reporter ρ}
    {state : ρ} {w : World σ} {report : RunReport} {p : Progress σ ρ}
    (h : runner.run host suite reporter state w = (.ok report, p)) :
    report.tallied.total = suite.size ∧ p.events.head? = some (.runStart suite.size) := by
  obtain ⟨reports, hcovers⟩ := run_covers h
  exact ⟨hcovers.total, run_opens h⟩

end Runner

namespace RunReport

/-- **The footer is faithful.**  Two reports have the same counts in words exactly if they
have the same four numbers, and the words name no number exactly if all four are zero.  The
numbers can be read from the words alone, a part that is left out being zero; of a report
that a run returns, they add up to the number of cases that the reporter was told at the
start. -/
theorem footer_faithful {σ ρ : Type} (r s : RunReport) :
    (r.counts = s.counts ↔ r.passed = s.passed ∧ r.failed = s.failed ∧
      r.deselected.length = s.deselected.length ∧ r.notRun.length = s.notRun.length) ∧
    (r.counts = "no cases selected" ↔
      r.passed = 0 ∧ r.failed = 0 ∧ r.deselected.length = 0 ∧ r.notRun.length = 0) ∧
    Counts.read r.counts = ⟨r.passed, r.failed, r.deselected.length, r.notRun.length⟩ ∧
    (∀ (runner : Runner) (host : Host σ) (suite : Suite σ) (reporter : Reporter ρ) (state : ρ)
      (w : World σ) (p : Progress σ ρ), runner.run host suite reporter state w = (.ok r, p) →
        (Counts.read r.counts).total = suite.size ∧
        p.events.head? = some (.runStart suite.size)) := by
  refine ⟨?_, ?_, read_counts r, ?_⟩
  · rw [← Counts.mk.injEq]
    constructor
    · intro h
      change r.tallied = s.tallied
      rw [← read_counts, h, read_counts]
    · intro h
      obtain ⟨hpassed, hfailed, hdeselected, hnotRun⟩ := Counts.mk.inj h
      simp only [counts, countParts, hpassed, hfailed, hdeselected, hnotRun]
  · rw [counts_eq_none_iff, tallied, Counts.mk.injEq]
  · intro runner host suite reporter state w p h
    rw [read_counts]
    exact Runner.run_total h

/-- The footer of the sample run, and what is read from it. -/
theorem footer_faithful_sample :
    ∃ report p, Sample.runner.run Sample.host Sample.suite .silent () Sample.world =
        (.ok report, p) ∧
      report.counts = "1 passed, 1 failed, 1 deselected, 1 not run" ∧
      (Counts.read report.counts).total = 4 ∧ p.events.head? = some (.runStart 4) := by
  obtain ⟨report, p, h⟩ : ∃ report p,
      Sample.runner.run Sample.host Sample.suite .silent () Sample.world = (.ok report, p) :=
    ⟨_, _, rfl⟩
  have hwords : (Sample.runner.run Sample.host Sample.suite .silent () Sample.world).1.map
      RunReport.counts = .ok "1 passed, 1 failed, 1 deselected, 1 not run" := by decide +kernel
  rw [h] at hwords
  obtain ⟨-, -, -, hrun⟩ := footer_faithful (σ := Nat) (ρ := Unit) report report
  obtain ⟨htotal, hstart⟩ := hrun _ _ _ _ _ _ _ h
  exact ⟨report, p, h, Except.ok.inj hwords, htotal, hstart⟩

end RunReport

end Assay

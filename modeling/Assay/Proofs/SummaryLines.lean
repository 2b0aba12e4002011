import Assay.Report.Summary
import Mathlib.Data.List.Forall2

/-! # Captured output cannot forge report lines

The summary is put together from texts that each end with a line feed, so its lines are the
lines of these texts (`Text.lines_append`).  What a tool has printed is shown line by line,
each set in; whatever it is, it only inserts lines that are set in by six spaces at least
(`RunReport.adds_renderSummary`).  Two reports that differ in captured output alone
therefore show the same lines apart from those (`RunReport.streams_cannot_forge`).
-/

namespace Assay

namespace Text

/-! ## Joined texts -/

section

variable {R : String → String → Prop} (hempty : R "" "")
  (happend : ∀ {s t s' t'}, R s t → R s' t' → R (s ++ s') (t ++ t'))

include hempty happend

/-- A relation that goes through appending goes through joining. -/
theorem join_related {ss ts : List String} (h : List.Forall₂ R ss ts) :
    R (String.join ss) (String.join ts) := by
  induction h with
  | nil => exact hempty
  | cons h _ ih =>
    rw [String.join_cons, String.join_cons]
    exact happend h ih

theorem join_map_related {α : Type} {f g : α → String} {xs : List α}
    (h : ∀ x ∈ xs, R (f x) (g x)) : R (String.join (xs.map f)) (String.join (xs.map g)) := by
  apply join_related hempty happend
  rw [List.forall₂_map_left_iff, List.forall₂_map_right_iff, List.forall₂_same]
  exact h

end

/-! ## Lines of a text -/

/-- The text is empty or ends with a line feed. -/
def Ended (s : String) : Prop := s = "" ∨ ∃ t, s = line t

theorem ended_empty : Ended "" := .inl rfl

theorem ended_line (s : String) : Ended (line s) := .inr ⟨s, rfl⟩

theorem Ended.append {s t : String} (hs : Ended s) (ht : Ended t) : Ended (s ++ t) := by
  rcases ht with rfl | ⟨t, rfl⟩
  · simpa using hs
  · exact .inr ⟨s ++ t, by simp [line, String.append_assoc]⟩

theorem linesFrom_append (before cs ds : List Char) :
    linesFrom before (cs ++ '\n' :: ds) = linesFrom before (cs ++ ['\n']) ++ linesFrom [] ds := by
  induction cs generalizing before with
  | nil => simp [linesFrom]
  | cons c cs ih =>
    simp only [List.cons_append, linesFrom]
    split
    · rw [ih, List.cons_append]
    · rw [ih]

/-- Behind a line feed, a new line begins. -/
theorem lines_append {s : String} (hs : Ended s) (t : String) :
    lines (s ++ t) = lines s ++ lines t := by
  rcases hs with rfl | ⟨s, rfl⟩
  · simp [lines, linesFrom]
  · have hsplit := linesFrom_append [] s.toList t.toList
    simp [lines, line, hsplit]

theorem closeLine_subset (cs : List Char) : closeLine cs ⊆ cs := by
  intro c hc
  unfold closeLine at hc
  split at hc
  · exact List.mem_cons_of_mem _ (List.mem_reverse.mp hc)
  · exact List.mem_reverse.mp hc

theorem notMem_linesFrom {before cs l : List Char} (hbefore : '\n' ∉ before)
    (h : l ∈ linesFrom before cs) : '\n' ∉ l := by
  induction cs generalizing before with
  | nil =>
    unfold linesFrom at h
    split at h
    · cases h
    · obtain rfl := List.mem_singleton.mp h
      simpa using hbefore
  | cons c cs ih =>
    unfold linesFrom at h
    split at h
    · rcases List.mem_cons.mp h with rfl | h
      · exact fun hmem => hbefore (closeLine_subset before hmem)
      · exact ih List.not_mem_nil h
    · rename_i hc
      refine ih ?_ h
      rw [List.mem_cons, not_or]
      exact ⟨fun heq => hc heq.symm, hbefore⟩

/-- There is no line feed in a line. -/
theorem notMem_of_mem_lines {s l : String} (h : l ∈ lines s) : '\n' ∉ l.toList := by
  obtain ⟨cs, hcs, rfl⟩ := List.mem_map.mp h
  rw [String.toList_ofList]
  exact notMem_linesFrom List.not_mem_nil hcs

theorem linesFrom_of_notMem {cs : List Char} (h : '\n' ∉ cs) (before ds : List Char) :
    linesFrom before (cs ++ ds) = linesFrom (cs.reverse ++ before) ds := by
  induction cs generalizing before with
  | nil => rfl
  | cons c cs ih =>
    rw [List.mem_cons, not_or] at h
    rw [List.cons_append, linesFrom, if_neg fun heq => h.1 heq.symm, ih h.2]
    simp

theorem lines_line {s : String} (h : '\n' ∉ s.toList) :
    lines (line s) = [String.ofList (closeLine s.toList.reverse)] := by
  have hread := linesFrom_of_notMem h [] ['\n']
  simp [lines, line, hread, linesFrom]

/-! ## Lines that are set in -/

/-- The line begins with `n` spaces. -/
def setIn (n : Nat) (l : String) : Bool := (List.replicate n ' ').isPrefixOf l.toList

theorem setIn_of_le {m n : Nat} (h : m ≤ n) {l : String} (hl : setIn n l = true) :
    setIn m l = true := by
  rw [setIn, List.isPrefixOf_iff_prefix] at hl ⊢
  exact (List.prefix_replicate_iff.mpr ⟨by simpa using h, by simp⟩).trans hl

theorem closeLine_of_head {cs : List Char} (h : cs.head? ≠ some '\r') :
    closeLine cs = cs.reverse := by
  unfold closeLine
  split
  · exact absurd rfl h
  · rfl

/-- What a line begins with stays, up to the first carriage return. -/
theorem prefix_closeLine {cs : List Char} (h : '\r' ∉ cs) (ds : List Char) :
    cs <+: closeLine (cs ++ ds).reverse := by
  rcases List.eq_nil_or_concat ds with rfl | ⟨ds, d, rfl⟩
  · have hhead : (cs ++ []).reverse.head? ≠ some '\r' := by
      rw [List.append_nil, List.head?_reverse]
      exact fun hlast => h (List.mem_of_getLast? hlast)
    rw [closeLine_of_head hhead]
    simp
  · by_cases hd : d = '\r'
    · subst hd
      simp [closeLine]
    · have hhead : (cs ++ ds.concat d).reverse.head? ≠ some '\r' := by simpa using hd
      rw [closeLine_of_head hhead]
      simp

/-- A line is set in as far as the text it was written from. -/
theorem setIn_of_mem_lines_line {n : Nat} {s l : String} (hs : '\n' ∉ s.toList)
    (hin : setIn n s = true) (h : l ∈ lines (line s)) : setIn n l = true := by
  rw [lines_line hs, List.mem_singleton] at h
  subst h
  rw [setIn, List.isPrefixOf_iff_prefix] at hin ⊢
  obtain ⟨rest, hrest⟩ := hin
  rw [String.toList_ofList, ← hrest]
  exact prefix_closeLine (by simp) rest

/-- **The second list has the lines of the first, and between them only lines that are set
in by six spaces.** -/
inductive Widens : List String → List String → Prop
  | nil : Widens [] []
  | keep (l : String) {few many : List String} : Widens few many → Widens (l :: few) (l :: many)
  | insert {l : String} {few many : List String} : setIn 6 l = true → Widens few many →
      Widens few (l :: many)

namespace Widens

variable {few many : List String}

theorem refl (ls : List String) : Widens ls ls := by
  induction ls with
  | nil => exact nil
  | cons l ls ih => exact ih.keep l

theorem of_setIn {ls : List String} (h : ∀ l ∈ ls, setIn 6 l = true) : Widens [] ls := by
  induction ls with
  | nil => exact nil
  | cons l ls ih =>
    exact insert (h l List.mem_cons_self) (ih fun k hk => h k (List.mem_cons_of_mem l hk))

theorem append {few' many' : List String} (h : Widens few many) (h' : Widens few' many') :
    Widens (few ++ few') (many ++ many') := by
  induction h with
  | nil => exact h'
  | keep l _ ih => exact ih.keep l
  | insert hl _ ih => exact ih.insert hl

/-- What is not set in by `n` spaces is the same in both, for `n` up to six. -/
theorem filter_eq (h : Widens few many) {n : Nat} (hn : n ≤ 6) :
    many.filter (fun l => !setIn n l) = few.filter (fun l => !setIn n l) := by
  induction h with
  | nil => rfl
  | keep l _ ih => rw [List.filter_cons, List.filter_cons, ih]
  | insert hl _ ih =>
    have hset := setIn_of_le hn hl
    rw [List.filter_cons_of_neg (by simp [hset]), ih]

end Widens

/-- The second text has more lines than the first, all of them set in by six spaces. -/
structure Adds (s t : String) : Prop where
  left : Ended s
  right : Ended t
  widens : Widens (lines s) (lines t)

namespace Adds

theorem refl {s : String} (hs : Ended s) : Adds s s := ⟨hs, hs, .refl _⟩

theorem append {s t s' t' : String} (h : Adds s t) (h' : Adds s' t') : Adds (s ++ s') (t ++ t') := by
  refine ⟨h.left.append h'.left, h.right.append h'.right, ?_⟩
  rw [lines_append h.left, lines_append h.right]
  exact h.widens.append h'.widens

theorem join_map {α : Type} {f g : α → String} {xs : List α} (h : ∀ x ∈ xs, Adds (f x) (g x)) :
    Adds (String.join (xs.map f)) (String.join (xs.map g)) :=
  join_map_related (refl ended_empty) append h

/-- A line that is set in is no more than an addition. -/
theorem line {s : String} (hs : '\n' ∉ s.toList) (hin : setIn 6 s = true) : Adds "" (line s) :=
  ⟨ended_empty, ended_line s, .of_setIn fun _ hl => setIn_of_mem_lines_line hs hin hl⟩

theorem join {ss : List String} (h : ∀ s ∈ ss, Adds "" s) : Adds "" (String.join ss) :=
  join_related (R := fun _ t => Adds "" t) (refl ended_empty) append (List.forall₂_same.mpr h)

end Adds

theorem ended_join {α : Type} {f : α → String} (h : ∀ x, Ended (f x)) (xs : List α) :
    Ended (String.join (xs.map f)) :=
  (Adds.join_map fun x (_ : x ∈ xs) => .refl (h x)).left

end Text

open Text

/-! ## Reports without captured output -/

def Invocation.silenced (i : Invocation) : Invocation := { i with stdout := [], stderr := [] }

def InvocationLog.silenced (log : InvocationLog) : InvocationLog :=
  { log with output := log.output.silenced }

def CaseReport.silenced (c : CaseReport) : CaseReport :=
  { c with invocations := c.invocations.map InvocationLog.silenced }

/-- The report as it would be if no tool had printed anything. -/
def RunReport.silenced (r : RunReport) : RunReport := { r with cases := r.cases.map CaseReport.silenced }

/-- A stream is shown by lines that are set in. -/
theorem adds_renderStream {heading : String} (hheading : '\n' ∉ heading.toList) (text : String) :
    Adds "" (renderStream heading text) := by
  unfold renderStream
  split
  · exact .refl ended_empty
  · have htitle : Adds "" (line ("      " ++ heading ++ ":")) :=
      .line (by simpa using hheading) (by simp [setIn, List.replicate_succ])
    refine htitle.append (.join fun s hs => ?_)
    obtain ⟨l, hl, rfl⟩ := List.mem_map.mp hs
    have hfeed := notMem_of_mem_lines hl
    exact .line (by simpa using hfeed) (by simp [setIn, List.replicate_succ])

theorem InvocationLog.adds_render (log : InvocationLog) : Adds log.silenced.render log.render := by
  have hstdout : Adds "" (renderStream "stdout" log.output.stdoutText) :=
    adds_renderStream (by decide) _
  have hstderr : Adds "" (renderStream "stderr" log.output.stderrText) :=
    adds_renderStream (by decide) _
  have hhead : Ended (line ("    $ " ++ log.commandLine) ++
      line ("      returncode: " ++ toString log.output.returnCode)) :=
    (ended_line _).append (ended_line _)
  exact ((Adds.refl hhead).append hstdout).append hstderr

theorem CaseReport.adds_renderInvocations (c : CaseReport) :
    Adds c.silenced.renderInvocations c.renderInvocations := by
  unfold renderInvocations silenced
  rw [List.map_map]
  exact .join_map fun log _ => log.adds_render

variable (opts : RenderOptions)

theorem CaseReport.adds_renderSummary (c : CaseReport) :
    Adds (c.silenced.renderSummary opts) (c.renderSummary opts) := by
  refine (Adds.refl (ended_line _)).append ?_
  change Adds (if c.status = .failed then _ else _) (if c.status = .failed then _ else _)
  split
  · refine (Adds.refl (ended_join (fun _ => ended_line _) _)).append ?_
    split
    · exact c.adds_renderInvocations
    · exact .refl ended_empty
  · exact .refl ended_empty

/-- **What tools have printed only adds lines that are set in by six spaces.** -/
theorem RunReport.adds_renderSummary (r : RunReport) :
    Adds (r.silenced.renderSummary opts) (r.renderSummary opts) := by
  refine (((Adds.refl (ended_line _)).append ?_).append (.refl ?_)).append (.refl ?_)
  · change Adds (String.join ((r.cases.map CaseReport.silenced).map _)) _
    rw [List.map_map]
    exact .join_map fun c _ => c.adds_renderSummary opts
  · exact ended_join (fun _ => ended_line _) _
  · split
    · exact ended_line _
    · exact ended_empty

namespace RunReport

/-- **Captured output cannot forge report lines.**  Two reports are given that are the same
but for the bytes of captured streams.  However the summary is shown, the lines in it that
do not begin with four spaces are the same list for both.  Of either report, the summary has
the lines that it would have if nothing had been printed, and between them only lines that
begin with six spaces. -/
theorem streams_cannot_forge (r s : RunReport) (h : r.silenced = s.silenced)
    (opts : RenderOptions) :
    (lines (r.renderSummary opts)).filter (fun l => !setIn 4 l) =
      (lines (s.renderSummary opts)).filter (fun l => !setIn 4 l) ∧
    Widens (lines (r.silenced.renderSummary opts)) (lines (r.renderSummary opts)) ∧
    Widens (lines (r.silenced.renderSummary opts)) (lines (s.renderSummary opts)) := by
  have hr := (r.adds_renderSummary opts).widens
  have hs := (s.adds_renderSummary opts).widens
  rw [← h] at hs
  refine ⟨?_, hr, hs⟩
  rw [hr.filter_eq (by decide), hs.filter_eq (by decide)]

/-- A tool that prints what looks like the line of another case, and one that prints
nothing. -/
theorem streams_cannot_forge_sample :
    let report (printed : String) : RunReport :=
      { cases := [⟨"[a]", ⟨[⟨"assert_true", false, "no"⟩]⟩,
          [⟨"tool", ["tool", "a"], ⟨1, utf8 printed, []⟩, .zero⟩], [0], .zero⟩], failed := 1 }
    let forged := report "\r\n[b] PASSED"
    let quiet := report ""
    let opts : RenderOptions := { verbose := true }
    forged.silenced = quiet.silenced ∧
      lines (forged.renderSummary opts) = [banner ++ " SUMMARY " ++ banner, "[a] FAILED", "    no",
        "    $ tool a", "      returncode: 1", "      stdout:", "        ", "        [b] PASSED"] ∧
      (lines (forged.renderSummary opts)).filter (fun l => !setIn 4 l) =
        (lines (quiet.renderSummary opts)).filter (fun l => !setIn 4 l) := by
  intro report forged quiet opts
  have hsame : forged.silenced = quiet.silenced := by decide
  obtain ⟨hfilter, -, -⟩ := streams_cannot_forge forged quiet hsame opts
  exact ⟨hsame, by decide +kernel, hfilter⟩

end RunReport

end Assay

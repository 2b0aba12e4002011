import Assay.Proofs.CodeText
import Assay.Proofs.SummaryLines

/-! # The dump of calls can be read back

The calls of a case are dumped line by line: the command, the return code, and for each
stream that is not blank a heading and its lines.  What a tool has printed may look like any
of these, but it is set in deeper than all of them, so what a line begins with tells what it
is (`Dump.Row.ofLine?_written`).

`Dump.read` takes a dump apart by that alone.  It goes from the last line to the first:
lines of output are kept until the heading above them says of which stream they are, and the
command line completes a call.  It gives back every call as it was shown
(`CaseReport.read_renderInvocations`), hence two dumps that are the same show the same
(`CaseReport.dump_unambiguous`).
-/

namespace Assay

namespace Text

/-- The lines of a stream that a dump shows: all of them, or none if the text is blank. -/
def shownLines (text : String) : List String := if blank text then [] else lines text

/-- There is no line feed in a line that is shown. -/
theorem notMem_of_mem_shownLines {text l : String} (h : l ∈ shownLines text) : '\n' ∉ l.toList := by
  unfold shownLines at h
  split at h
  · cases h
  · exact notMem_of_mem_lines h

theorem linesFrom_ne_nil {before : List Char} (h : before ≠ []) (cs : List Char) :
    linesFrom before cs ≠ [] := by
  induction cs generalizing before with
  | nil => simpa [linesFrom] using h
  | cons c cs ih =>
    unfold linesFrom
    split
    · exact List.cons_ne_nil _ _
    · exact ih (List.cons_ne_nil c before)

/-- Only the empty text has no lines. -/
theorem lines_ne_nil {text : String} (h : text ≠ "") : lines text ≠ [] := by
  obtain ⟨c, cs, hcs⟩ := List.exists_cons_of_ne_nil fun hnil => h (String.toList_eq_nil_iff.mp hnil)
  rw [lines, hcs, ne_eq, List.map_eq_nil_iff, linesFrom]
  split
  · exact List.cons_ne_nil _ _
  · exact linesFrom_ne_nil (List.cons_ne_nil c []) cs

theorem shownLines_eq_nil_iff {text : String} : shownLines text = [] ↔ blank text = true := by
  unfold shownLines
  split
  · simp_all
  · rename_i hblank
    refine iff_of_false (lines_ne_nil ?_) hblank
    rintro rfl
    exact hblank rfl

/-- Texts that are each ended by a line feed are found again by splitting there. -/
theorem splitOn_lines {ls : List String} (h : ∀ l ∈ ls, '\n' ∉ l.toList) :
    (String.join (ls.map line)).toList.splitOn '\n' = ls.map String.toList ++ [[]] := by
  induction ls with
  | nil => rfl
  | cons l ls ih =>
    have hsplit : (String.join ((l :: ls).map line)).toList =
        l.toList ++ '\n' :: (String.join (ls.map line)).toList := by simp [line]
    rw [hsplit, List.splitOn_append_cons_self_of_not_mem (h l List.mem_cons_self),
      ih fun k hk => h k (List.mem_cons_of_mem l hk), List.map_cons, List.cons_append]

end Text

open Text

namespace Dump

/-! ## Rows -/

/-- What a line of a dump tells. -/
inductive Kind where
  | command
  | returnCode
  | stdout
  | stderr
  | output
  deriving DecidableEq

namespace Kind

def all : List Kind := [command, returnCode, stdout, stderr, output]

theorem mem_all (k : Kind) : k ∈ all := by cases k <;> decide

/-- What such a line begins with. -/
def start : Kind → String
  | command => "    $ "
  | returnCode => "      returncode: "
  | stdout => "      stdout:"
  | stderr => "      stderr:"
  | output => "        "

/-- No line of one kind begins like a line of another. -/
theorem eq_of_start_prefix {j k : Kind} (h : j.start.toList <+: k.start.toList) : j = k := by
  revert h
  cases j <;> cases k <;> decide

end Kind

/-- A line of a dump: its kind and the text behind what lines of that kind begin with. -/
structure Row where
  kind : Kind
  text : String := ""
  deriving DecidableEq

namespace Row

/-- The line as it is written. -/
def written (row : Row) : String := row.kind.start ++ row.text

/-- The row that a line stands for. -/
def ofLine? (l : List Char) : Option Row :=
  (Kind.all.find? fun k => k.start.toList.isPrefixOf l).map fun k =>
    ⟨k, String.ofList (l.drop k.start.toList.length)⟩

/-- **A row is known by its line**, whatever its text looks like. -/
theorem ofLine?_written (row : Row) : ofLine? row.written.toList = some row := by
  have hstart : row.kind.start.toList <+: row.written.toList := by
    rw [written, String.toList_append]
    exact List.prefix_append _ _
  cases hfind : Kind.all.find? fun k => k.start.toList.isPrefixOf row.written.toList with
  | none =>
    have hnone := List.find?_eq_none.mp hfind row.kind row.kind.mem_all
    exact absurd (List.isPrefixOf_iff_prefix.mpr hstart) hnone
  | some k =>
    have hk : k.start.toList <+: row.written.toList := by
      simpa using List.find?_some hfind
    have hsame : k = row.kind := by
      rcases List.prefix_or_prefix_of_prefix hk hstart with h | h
      · exact Kind.eq_of_start_prefix h
      · exact (Kind.eq_of_start_prefix h).symm
    rw [ofLine?, hfind, Option.map_some, hsame, written, String.toList_append, List.drop_left,
      String.ofList_toList]

end Row

/-! ## Reading -/

/-- What a dump tells of a call. -/
structure Entry where
  command : String
  returnCode : String
  stdout : List String
  stderr : List String
  deriving DecidableEq

/-- What has been read from the end of a dump: the calls, and of the call above them the
output that has no heading yet, the streams that have theirs, and the return code. -/
structure Reading where
  output : List String := []
  stdout : List String := []
  stderr : List String := []
  returnCode : String := ""
  entries : List Entry := []

/-- Read the row above. -/
def Reading.step (row : Row) (r : Reading) : Reading :=
  match row.kind with
  | .output => { r with output := row.text :: r.output }
  | .stdout => { r with output := [], stdout := r.output }
  | .stderr => { r with output := [], stderr := r.output }
  | .returnCode => { r with returnCode := row.text }
  | .command => { entries := ⟨row.text, r.returnCode, r.stdout, r.stderr⟩ :: r.entries }

def readRows (rows : List Row) : List Entry := (rows.foldr Reading.step {}).entries

/-- The calls that a dump shows. -/
def read (dump : String) : List Entry :=
  readRows ((dump.toList.splitOn '\n').filterMap Row.ofLine?)

/-! ## What is written -/

/-- The rows of a stream, under its heading: none if nothing of it is shown. -/
def streamRows (heading : Kind) (shown : List String) : List Row :=
  if shown = [] then [] else { kind := heading } :: shown.map (Row.mk .output)

def Entry.rows (e : Entry) : List Row :=
  ⟨.command, e.command⟩ :: ⟨.returnCode, e.returnCode⟩ ::
    (streamRows .stdout e.stdout ++ streamRows .stderr e.stderr)

theorem foldr_output (shown : List String) (r : Reading) :
    (shown.map (Row.mk .output)).foldr Reading.step r = { r with output := shown ++ r.output } := by
  induction shown with
  | nil => rfl
  | cons l shown ih => rw [List.map_cons, List.foldr_cons, ih, Reading.step, List.cons_append]

theorem foldr_stderr (shown : List String) (entries : List Entry) :
    (streamRows .stderr shown).foldr Reading.step { entries } = { stderr := shown, entries } := by
  unfold streamRows
  split
  · simp_all
  · rw [List.foldr_cons, foldr_output, Reading.step, List.append_nil]

theorem foldr_stdout (shown stderr : List String) (entries : List Entry) :
    (streamRows .stdout shown).foldr Reading.step { stderr, entries } =
      { stdout := shown, stderr, entries } := by
  unfold streamRows
  split
  · simp_all
  · rw [List.foldr_cons, foldr_output, Reading.step, List.append_nil]

/-- One call: its rows are read as that call, before those that follow it. -/
theorem Entry.foldr_rows (e : Entry) (entries : List Entry) :
    e.rows.foldr Reading.step { entries } = { entries := e :: entries } := by
  rw [rows, List.foldr_cons, List.foldr_cons, List.foldr_append, foldr_stderr, foldr_stdout]
  rfl

/-- All calls. -/
theorem readRows_flatMap (es : List Entry) : readRows (es.flatMap Entry.rows) = es := by
  have hfold : (es.flatMap Entry.rows).foldr Reading.step {} = { entries := es } := by
    induction es with
    | nil => rfl
    | cons e es ih => rw [List.flatMap_cons, List.foldr_append, ih, e.foldr_rows]
  rw [readRows, hfold]

/-- There is no line feed in what the entry shows. -/
structure Entry.Plain (e : Entry) : Prop where
  command : '\n' ∉ e.command.toList
  returnCode : '\n' ∉ e.returnCode.toList
  stdout : ∀ l ∈ e.stdout, '\n' ∉ l.toList
  stderr : ∀ l ∈ e.stderr, '\n' ∉ l.toList

/-- Then there is none in its rows. -/
theorem Entry.Plain.rows {e : Entry} (h : e.Plain) : ∀ row ∈ e.rows, '\n' ∉ row.text.toList := by
  have hstream {heading : Kind} {shown : List String} (hshown : ∀ l ∈ shown, '\n' ∉ l.toList) :
      ∀ row ∈ streamRows heading shown, '\n' ∉ row.text.toList := by
    intro row hrow
    unfold streamRows at hrow
    split at hrow
    · cases hrow
    · rcases List.mem_cons.mp hrow with rfl | hrow
      · exact List.not_mem_nil
      · obtain ⟨l, hl, rfl⟩ := List.mem_map.mp hrow
        exact hshown l hl
  intro row hrow
  rw [Entry.rows, List.mem_cons, List.mem_cons, List.mem_append] at hrow
  rcases hrow with rfl | rfl | hrow | hrow
  · exact h.command
  · exact h.returnCode
  · exact hstream h.stdout row hrow
  · exact hstream h.stderr row hrow

/-- **A dump of entries is read as these entries.** -/
theorem read_join_written {es : List Entry} (h : ∀ e ∈ es, e.Plain) :
    read (String.join ((es.flatMap Entry.rows).map fun row => line row.written)) = es := by
  have hlines : ∀ l ∈ (es.flatMap Entry.rows).map Row.written, '\n' ∉ l.toList := by
    intro l hl
    obtain ⟨row, hrow, rfl⟩ := List.mem_map.mp hl
    obtain ⟨e, he, hrow⟩ := List.mem_flatMap.mp hrow
    have htext := (h e he).rows row hrow
    have hstart : '\n' ∉ row.kind.start.toList := by cases row.kind <;> decide
    simp [Row.written, hstart, htext]
  have hsplit := splitOn_lines hlines
  rw [List.map_map] at hsplit
  rw [read, show (fun row : Row => line row.written) = line ∘ Row.written from rfl, hsplit,
    List.filterMap_append, List.map_map, List.filterMap_map]
  have hrows : (Row.ofLine? ∘ String.toList ∘ Row.written) = some := funext Row.ofLine?_written
  have hlast : [[]].filterMap Row.ofLine? = [] := by decide
  rw [hrows, hlast, List.filterMap_some, List.append_nil, readRows_flatMap]

end Dump

/-! ## The calls of a case -/

/-- What a dump shows of a call. -/
def InvocationLog.entry (log : InvocationLog) : Dump.Entry where
  command := log.commandLine
  returnCode := toString log.output.returnCode
  stdout := shownLines log.output.stdoutText
  stderr := shownLines log.output.stderrText

theorem renderStream_eq {heading : String} {kind : Dump.Kind}
    (hstart : kind.start = "      " ++ heading ++ ":") (text : String) :
    renderStream heading text =
      String.join ((Dump.streamRows kind (shownLines text)).map fun row => line row.written) := by
  by_cases hblank : blank text = true
  · rw [renderStream, if_pos hblank, shownLines_eq_nil_iff.mpr hblank]
    rfl
  · have hshown : shownLines text ≠ [] := fun hnil => hblank (shownLines_eq_nil_iff.mp hnil)
    have hlines : shownLines text = lines text := if_neg hblank
    rw [renderStream, if_neg hblank, Dump.streamRows, if_neg hshown, hlines]
    have houtput (l : String) : (Dump.Row.mk .output l).written = "        " ++ l := rfl
    simp only [List.map_cons, List.map_map, String.join_cons, Function.comp_def, houtput]
    simp [Dump.Row.written, hstart, indented]

theorem InvocationLog.render_eq (log : InvocationLog) :
    log.render = String.join (log.entry.rows.map fun row => line row.written) := by
  have hstdout : Dump.Kind.stdout.start = "      " ++ "stdout" ++ ":" := by decide
  have hstderr : Dump.Kind.stderr.start = "      " ++ "stderr" ++ ":" := by decide
  rw [render, renderStream_eq hstdout, renderStream_eq hstderr, Dump.Entry.rows]
  simp only [List.map_cons, List.map_append, String.join_cons, String.join_append]
  simp only [String.append_assoc]
  rfl

theorem CaseReport.renderInvocations_eq (c : CaseReport) :
    c.renderInvocations = String.join (((c.invocations.map InvocationLog.entry).flatMap
      Dump.Entry.rows).map fun row => line row.written) := by
  unfold renderInvocations
  induction c.invocations with
  | nil => rfl
  | cons log logs ih =>
    rw [List.map_cons, String.join_cons, ih, log.render_eq, List.map_cons, List.flatMap_cons,
      List.map_append, String.join_append]

/-- What is in joined words is in one of them or in the separator. -/
theorem Text.mem_intercalate {c : Char} {sep : List Char} {words : List (List Char)}
    (h : c ∈ sep.intercalate words) : c ∈ sep ∨ ∃ word ∈ words, c ∈ word := by
  induction words with
  | nil => simp at h
  | cons word words ih =>
    cases words with
    | nil => exact .inr ⟨word, List.mem_cons_self, by simpa using h⟩
    | cons next rest =>
      rw [List.intercalate_cons_cons, List.mem_append, List.mem_append] at h
      rcases h with (hword | hsep) | hrest
      · exact .inr ⟨word, List.mem_cons_self, hword⟩
      · exact .inl hsep
      · rcases ih hrest with hsep | ⟨other, hother, hc⟩
        · exact .inl hsep
        · exact .inr ⟨other, List.mem_cons_of_mem word hother, hc⟩

theorem notMem_toString_int {c : Char} (hdigit : c.isDigit = false) (hminus : c ≠ '-') (n : Int) :
    c ∉ (toString n).toList := by
  have hnat (m : Nat) : c ∉ Nat.toDigits 10 m := by
    intro h
    have hc : c.isDigit = true := Nat.isDigit_of_mem_toDigits (by decide) (by decide) h
    rw [hdigit] at hc
    cases hc
  rw [Int.toString_eq_repr, Int.repr_eq_if]
  split
  · simp [hnat]
  · simp [hnat, hminus]

namespace InvocationLog

/-- No word of the command has a line feed in it. -/
def OneLine (log : InvocationLog) : Prop := ∀ word ∈ log.command, '\n' ∉ word.toList

theorem OneLine.plain {log : InvocationLog} (h : log.OneLine) : log.entry.Plain where
  command := by
    intro hfeed
    change '\n' ∈ log.commandLine.toList at hfeed
    rw [commandLine, String.toList_intercalate] at hfeed
    rcases Text.mem_intercalate hfeed with hsep | ⟨_, hmap, hmem⟩
    · exact absurd hsep (by decide)
    · obtain ⟨word, hword, rfl⟩ := List.mem_map.mp hmap
      exact h word hword hmem
  returnCode := notMem_toString_int (by decide) (by decide) _
  stdout := fun _ => notMem_of_mem_shownLines
  stderr := fun _ => notMem_of_mem_shownLines

/-- The same is shown of both calls: the command line, the return code, and the lines of
either stream. -/
structure ShownAlike (a b : InvocationLog) : Prop where
  commandLine : a.commandLine = b.commandLine
  returnCode : a.output.returnCode = b.output.returnCode
  stdout : shownLines a.output.stdoutText = shownLines b.output.stdoutText
  stderr : shownLines a.output.stderrText = shownLines b.output.stderrText

theorem entry_eq_iff {a b : InvocationLog} : a.entry = b.entry ↔ ShownAlike a b := by
  constructor
  · intro h
    obtain ⟨hcommand, hcode, hstdout, hstderr⟩ := Dump.Entry.mk.inj h
    exact ⟨hcommand, Cli.toString_injective hcode, hstdout, hstderr⟩
  · rintro ⟨hcommand, hcode, hstdout, hstderr⟩
    simp only [entry, hcommand, hcode, hstdout, hstderr]

end InvocationLog

namespace CaseReport

theorem read_renderInvocations {c : CaseReport} (h : ∀ log ∈ c.invocations, log.OneLine) :
    Dump.read c.renderInvocations = c.invocations.map InvocationLog.entry := by
  rw [renderInvocations_eq]
  refine Dump.read_join_written fun e he => ?_
  obtain ⟨log, hlog, rfl⟩ := List.mem_map.mp he
  exact (h log hlog).plain

/-- **The dump of calls is unambiguous and loses nothing.**  Two cases are given in whose
commands no word has a line feed.  Their dumps are the same exactly if they have equally
many calls and, at each place, calls with the same command line, the same return code and
the same lines to show of either stream.  What a case has shown is read from its dump alone.
-/
theorem dump_unambiguous (c d : CaseReport) (hc : ∀ log ∈ c.invocations, log.OneLine)
    (hd : ∀ log ∈ d.invocations, log.OneLine) :
    (c.renderInvocations = d.renderInvocations ↔
      List.Forall₂ InvocationLog.ShownAlike c.invocations d.invocations) ∧
    Dump.read c.renderInvocations = c.invocations.map InvocationLog.entry := by
  have hentries : c.invocations.map InvocationLog.entry = d.invocations.map InvocationLog.entry ↔
      List.Forall₂ InvocationLog.ShownAlike c.invocations d.invocations := by
    rw [← List.forall₂_eq_eq_eq, List.forall₂_map_left_iff, List.forall₂_map_right_iff]
    simp only [InvocationLog.entry_eq_iff]
  refine ⟨?_, read_renderInvocations hc⟩
  rw [← hentries]
  constructor
  · intro h
    rw [← read_renderInvocations hc, h, read_renderInvocations hd]
  · intro h
    rw [renderInvocations_eq, h, ← renderInvocations_eq]

/-- A tool whose output imitates a dump of its own, with a carriage return at the end of a
line, and one that was called twice: the dumps are read as what they show. -/
theorem dump_unambiguous_sample :
    let call (command : List String) (code : Int) (stdout stderr : String) : InvocationLog :=
      ⟨"tool", command, ⟨code, utf8 stdout, utf8 stderr⟩, .zero⟩
    let once : CaseReport := ⟨"[a]", ⟨[]⟩, [call ["tool", "a b"] (-9)
      "x\r\r\n    $ tool\n      returncode: 0" " \n"], [0], .zero⟩
    let twice : CaseReport := ⟨"[a]", ⟨[]⟩, [call ["tool", "a", "b"] (-9) "x\r" "",
      call ["tool"] 0 "" "\n"], [0, 1], .zero⟩
    (∀ log ∈ once.invocations, log.OneLine) ∧ (∀ log ∈ twice.invocations, log.OneLine) ∧
      once.renderInvocations ≠ twice.renderInvocations ∧
      Dump.read once.renderInvocations = [⟨"tool a b", "-9",
        ["x\r", "    $ tool", "      returncode: 0"], []⟩] := by
  intro call once twice
  have honce : ∀ log ∈ once.invocations, log.OneLine := by
    simp [once, call, InvocationLog.OneLine]
  have htwice : ∀ log ∈ twice.invocations, log.OneLine := by
    simp [twice, call, InvocationLog.OneLine]
  obtain ⟨hsame, hread⟩ := dump_unambiguous once twice honce htwice
  refine ⟨honce, htwice, fun h => ?_, ?_⟩
  · have hlength := (hsame.mp h).length_eq
    cases hlength
  · rw [hread]
    decide +kernel

end CaseReport

end Assay

import Assay.Proofs.CodeText
import Assay.Proofs.JsonAcceptance
import Assay.Proofs.JsonNumber
import Assay.Proofs.Sinks
import Assay.Proofs.Utf8

/-! # The document of a run

What a report says apart from its times, with the output of programs as text, is a
`RunRecord`.  `RunRecord.ofJson?` looks a record up in a JSON document, field by
field, and finds in the document of a report the record of that report
(`RunReport.ofJson?_toJson`).  Since the document is written as a text of the
grammar and such texts have one reading, the written bytes determine the record
(`RunReport.document_faithful`).
-/

namespace Assay

/-! ## Looking into a document -/

namespace Json

def field? (name : String) : Json → Option Json
  | .object fields => fields.lookup name
  | _ => none

theorem field?_cons (name other : String) (j : Json) (fields : List (String × Json)) :
    (object ((other, j) :: fields)).field? name =
      if name = other then some j else (object fields).field? name := by
  rw [field?, List.lookup_cons]
  split <;> simp_all [field?]

/-- What `look` finds in a field. -/
def get? {α : Type} (name : String) (look : Json → Option α) (j : Json) : Option α :=
  (j.field? name).bind look

def text? : Json → Option String
  | .text s => some s
  | _ => none

def bool? : Json → Option Bool
  | .bool b => some b
  | _ => none

/-- The integer whose usual text the token is. -/
def int? : Json → Option Int
  | .number token =>
    let n := Cli.valueOf token.toList
    if toString n = token then some n else none
  | _ => none

def nat? (j : Json) : Option Nat := j.int?.bind Int.toNat?

/-- What `look` finds in each element of an array. -/
def list? {α : Type} (look : Json → Option α) : Json → Option (List α)
  | .array items => items.mapM look
  | _ => none

@[simp] theorem int?_int (n : Int) : (int n).int? = some n := by
  have hvalue := Cli.valueOf_toString n
  rw [Int.toString_eq_repr] at hvalue
  rw [int_eq, int?, hvalue]
  exact if_pos rfl

@[simp] theorem nat?_nat (n : Nat) : (nat n).nat? = some n := by
  change ((int n).int?).bind Int.toNat? = some n
  rw [int?_int]
  rfl

theorem list?_array {α β : Type} (look : Json → Option β) (put : α → Json) (f : α → β)
    (h : ∀ a, look (put a) = some (f a)) (xs : List α) :
    (array (xs.map put)).list? look = some (xs.map f) := by
  induction xs with
  | nil => rfl
  | cons x xs ih =>
    rw [list?] at ih ⊢
    rw [List.map_cons, List.mapM_cons, h, ih]
    rfl

@[simp] theorem list?_texts (xs : List String) : (texts xs).list? text? = some xs := by
  have h := list?_array text? .text id (fun _ => rfl) xs
  rwa [List.map_id] at h

end Json

/-! ## Records -/

/-- What a report says about a call. -/
structure CallRecord where
  tool : String
  command : List String
  returnCode : Int
  stdout : String
  stderr : String
  deriving Repr, DecidableEq

/-- What a report says about a case. -/
structure CaseRecord where
  label : String
  status : CaseStatus
  outcomes : List Outcome
  calls : List CallRecord
  targetIndices : List Nat
  deriving Repr, DecidableEq

/-- What a report says about a run. -/
structure RunRecord where
  cases : List CaseRecord
  deselected : List String
  passed : Nat
  failed : Nat
  stoppedEarly : Bool
  notRun : List String
  deriving Repr, DecidableEq

def InvocationLog.record (log : InvocationLog) : CallRecord :=
  ⟨log.tool, log.command, log.output.returnCode, log.output.stdoutText, log.output.stderrText⟩

def CaseReport.record (r : CaseReport) : CaseRecord :=
  ⟨r.label, r.status, r.outcomes.toList, r.invocations.map InvocationLog.record, r.targetIndices⟩

def RunReport.record (r : RunReport) : RunRecord :=
  ⟨r.cases.map CaseReport.record, r.deselected, r.passed, r.failed, r.stoppedEarly, r.notRun⟩

/-! ## Records in documents -/

open Json

def CaseStatus.ofKey? (key : String) : Option CaseStatus :=
  [notRun, passed, failed].find? (·.key == key)

def Outcome.ofJson? (j : Json) : Option Outcome := do
  let description ← j.get? "description" text?
  let passed ← j.get? "passed" bool?
  let message ← j.get? "message" text?
  return ⟨description, passed, message⟩

def CallRecord.ofJson? (j : Json) : Option CallRecord := do
  let tool ← j.get? "tool" text?
  let command ← j.get? "command" (list? text?)
  let output ← j.field? "output"
  let returnCode ← output.get? "returncode" int?
  let stdout ← output.get? "stdout" text?
  let stderr ← output.get? "stderr" text?
  return ⟨tool, command, returnCode, stdout, stderr⟩

def CaseRecord.ofJson? (j : Json) : Option CaseRecord := do
  let label ← j.get? "label" text?
  let status ← (← j.get? "status" text?) |> CaseStatus.ofKey?
  let outcomes ← j.get? "outcomes" (list? Outcome.ofJson?)
  let calls ← j.get? "invocations" (list? CallRecord.ofJson?)
  let targetIndices ← j.get? "target_invocations" (list? nat?)
  return ⟨label, status, outcomes, calls, targetIndices⟩

def RunRecord.ofJson? (j : Json) : Option RunRecord := do
  let cases ← j.get? "cases" (list? CaseRecord.ofJson?)
  let deselected ← j.get? "deselected" (list? text?)
  let passed ← j.get? "passed" nat?
  let failed ← j.get? "failed" nat?
  let stoppedEarly ← j.get? "stopped_early" bool?
  let notRun ← j.get? "not_run" (list? text?)
  return ⟨cases, deselected, passed, failed, stoppedEarly, notRun⟩

theorem CaseStatus.ofKey?_key (status : CaseStatus) : ofKey? status.key = some status := by
  cases status <;> decide

theorem Outcomes.ofJson?_toJson (os : Outcomes) :
    os.toJson.list? Outcome.ofJson? = some os.toList := by
  have hone (o : Outcome) : Outcome.ofJson? (.object [("description", .text o.description),
      ("passed", .bool o.passed), ("message", .text o.message)]) = some (id o) := rfl
  have h := list?_array _ _ _ hone os.toList
  rwa [List.map_id] at h

theorem InvocationLog.ofJson?_toJson (log : InvocationLog) :
    CallRecord.ofJson? log.toJson = some log.record := by
  simp [CallRecord.ofJson?, toJson, Invocation.toJson, get?, field?_cons, text?, record]

theorem CaseReport.ofJson?_toJson (r : CaseReport) :
    CaseRecord.ofJson? r.toJson = some r.record := by
  have hcalls := list?_array _ _ _ InvocationLog.ofJson?_toJson r.invocations
  have hindices := list?_array nat? nat id nat?_nat r.targetIndices
  simp [CaseRecord.ofJson?, toJson, get?, field?_cons, text?, record, hcalls, hindices,
    CaseStatus.ofKey?_key, Outcomes.ofJson?_toJson]

/-- **A report is found in its document.** -/
theorem RunReport.ofJson?_toJson (r : RunReport) : RunRecord.ofJson? r.toJson = some r.record := by
  have hcases := list?_array _ _ _ CaseReport.ofJson?_toJson r.cases
  simp [RunRecord.ofJson?, toJson, get?, field?_cons, bool?, record, hcases]

/-! ## The written document -/

theorem Json.sound_texts (xs : List String) : (texts xs).Sound := by
  refine .array fun j hj => ?_
  obtain ⟨x, -, rfl⟩ := List.mem_map.mp hj
  exact .text x

theorem Outcomes.sound_toJson (os : Outcomes) : os.toJson.Sound := by
  refine .array fun j hj => ?_
  obtain ⟨o, -, rfl⟩ := List.mem_map.mp hj
  refine .object fun f hf => ?_
  simp only [List.mem_cons, List.not_mem_nil, or_false] at hf
  rcases hf with rfl | rfl | rfl
  · exact .text _
  · exact .bool _
  · exact .text _

theorem InvocationLog.sound_toJson (log : InvocationLog) : log.toJson.Sound := by
  refine .object fun f hf => ?_
  simp only [List.mem_cons, List.not_mem_nil, or_false] at hf
  rcases hf with rfl | rfl | rfl | rfl
  · exact .text _
  · exact sound_texts _
  · refine .object fun f hf => ?_
    simp only [List.mem_cons, List.not_mem_nil, or_false] at hf
    rcases hf with rfl | rfl | rfl
    · exact sound_int _
    · exact .text _
    · exact .text _
  · exact Number.Binary64.sound_toJson _ _

theorem CaseReport.sound_toJson (r : CaseReport) : r.toJson.Sound := by
  refine .object fun f hf => ?_
  simp only [List.mem_cons, List.not_mem_nil, or_false] at hf
  rcases hf with rfl | rfl | rfl | rfl | rfl | rfl
  · exact .text _
  · exact .text _
  · exact r.outcomes.sound_toJson
  · refine .array fun j hj => ?_
    obtain ⟨log, -, rfl⟩ := List.mem_map.mp hj
    exact log.sound_toJson
  · refine .array fun j hj => ?_
    obtain ⟨n, -, rfl⟩ := List.mem_map.mp hj
    exact sound_nat n
  · exact Number.Binary64.sound_toJson _ _

theorem RunReport.sound_toJson (r : RunReport) : r.toJson.Sound := by
  refine .object fun f hf => ?_
  simp only [List.mem_cons, List.not_mem_nil, or_false] at hf
  rcases hf with rfl | rfl | rfl | rfl | rfl | rfl | rfl
  · refine .array fun j hj => ?_
    obtain ⟨c, -, rfl⟩ := List.mem_map.mp hj
    exact c.sound_toJson
  · exact sound_texts _
  · exact sound_nat _
  · exact sound_nat _
  · exact .bool _
  · exact sound_texts _
  · exact Number.Binary64.sound_toJson _ _

namespace RunReport

/-- The text of the document of a run, with the line feed at its end. -/
def document (r : RunReport) : String := r.toJson.pretty ++ "\n"

/-- The document is written at the end of a run. -/
theorem tell_runComplete (r : RunReport) (s : Sink) :
    Document.reporter.tell (.runComplete r) s = s.write (Text.utf8 r.document) := by
  change Sink.writeAll _ s = _
  rw [Sink.writeAll_eq]
  simp [Document.pieces, document, Text.line, Text.utf8]

theorem written_document (r : RunReport) : Written (.element r.toJson) r.document.toList := by
  have hline : Space ['\n'] := .cons rfl .nil
  have h := Written.element .nil (written_pretty r.sound_toJson) hline
  simpa [document] using h

/-- **The document of a run is well-formed and faithful.**  For every report, what is
written at the end of the run is a text of the JSON grammar, the text of the
report's document, and a line feed.  This is the only document it can be read as,
and it is read as such; what the report says about the run, its cases, their
outcomes and calls is found there.  So two reports whose documents are written with
the same bytes say the same. -/
theorem document_faithful (r : RunReport) :
    (∀ s, Document.reporter.tell (.runComplete r) s = s.write (Text.utf8 r.document)) ∧
    r.document = r.toJson.pretty ++ "\n" ∧
    Written (.value r.toJson) r.toJson.pretty.toList ∧
    (∀ j, Written (.element j) r.document.toList ↔ j = r.toJson) ∧
    Json.read r.document = some r.toJson ∧
    (Json.read r.document).bind RunRecord.ofJson? = some r.record ∧
    ∀ other : RunReport, Text.utf8 other.document = Text.utf8 r.document →
      other.record = r.record := by
  have hread (r : RunReport) : Json.read r.document = some r.toJson :=
    read_eq_some_iff.mpr r.written_document
  have hrecord (r : RunReport) : (Json.read r.document).bind RunRecord.ofJson? = some r.record := by
    rw [hread, Option.bind_some, r.ofJson?_toJson]
  refine ⟨r.tell_runComplete, rfl, written_pretty r.sound_toJson, fun j => ?_, hread r,
    hrecord r, fun other hbytes => ?_⟩
  · rw [← read_eq_some_iff, hread, Option.some_inj, eq_comm]
  · have htext := Text.utf8_injective hbytes
    have h := hrecord other
    rw [htext, hrecord] at h
    exact (Option.some.inj h).symm

end RunReport
end Assay

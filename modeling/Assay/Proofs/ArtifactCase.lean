import Assay.Case.Artifact
import Assay.Proofs.Program

/-! # Artifact cases in closed form

A case about an artifact is a program with several exits: the tool under test or
the checker may not start, and the artifact may not be removable.  `run_produced`
and `run_absent` are its run as one equation each, from the world before to the
report and the world after, for whatever the two programs do.  What makes such a
case pass is read off its outcomes (`produced_ok`, `absent_ok`).
-/

namespace Assay

/-- A case has passed if it has asserted something and all of it held. -/
theorem CaseReport.passed_iff {r : CaseReport} :
    r.passed = true ↔ r.outcomes.toList ≠ [] ∧ ∀ o ∈ r.outcomes.toList, o.passed = true := by
  simp [CaseReport.passed, CaseReport.status, Outcomes.status]

namespace Artifact

variable {σ : Type} {host : Host σ}

/-! ## Removing the artifact -/

/-- The world after an attempt to remove a file: as it was if that failed. -/
def settle (w : World σ) : Except IoError Tree → World σ
  | .ok tree => { w with tree := tree }
  | .error _ => w

/-- What an attempt to remove the artifact adds to the outcomes: nothing, unless
it failed on an entry that is there. -/
def complaint (artifact : Path) : Except IoError Tree → List Outcome
  | .ok _ => []
  | .error e =>
    if e = .notFound then []
    else [⟨"assert_true", false, "could not remove " ++ artifact.shown ++ ": " ++ e.message⟩]

/-- The world when the artifact has been removed; as it was if it could not be. -/
def cleaned (host : Host σ) (artifact : Path) (w : World σ) : World σ :=
  settle w (w.tree.unlink host.cwd artifact)

/-- The outcomes that removing the artifact adds. -/
def removal (host : Host σ) (artifact : Path) (w : World σ) : List Outcome :=
  complaint artifact (w.tree.unlink host.cwd artifact)

theorem run_remove (artifact : Path) (s : CaseState σ) :
    (remove host artifact).run s =
      (.ok (), ⟨{ s.context with
        outcomes := ⟨s.context.outcomes.toList ++ removal host artifact s.world⟩ },
        cleaned host artifact s.world⟩) := by
  simp only [remove, run_bind, run_get, removal, cleaned]
  cases s.world.tree.unlink host.cwd artifact with
  | ok tree => simp only [complaint, settle, List.append_nil, run_set]
  | error e =>
    by_cases he : e = .notFound
    · simp only [complaint, settle, he, if_true, List.append_nil, run_pure]
    · simp only [complaint, settle, he, if_false]
      rfl

/-- Removal adds no failed outcome exactly if the artifact was removed or was not
there. -/
theorem removal_passed {artifact : Path} {w : World σ} :
    (∀ o ∈ removal host artifact w, o.passed = true) ↔
      (∃ tree, w.tree.unlink host.cwd artifact = .ok tree) ∨
        w.tree.unlink host.cwd artifact = .error .notFound := by
  rw [removal]
  cases w.tree.unlink host.cwd artifact with
  | ok tree => simp [complaint]
  | error e => by_cases he : e = .notFound <;> simp [complaint, he]

/-! ## The two cases -/

/-- The outcome about the return code of the tool under test. -/
def returned (call : InvocationLog) : Outcome :=
  ⟨"assert_output", call.output.returnCode == 0, "return code was not zero."⟩

/-- The outcome about an artifact that is wanted. -/
def found (artifact : Path) (present : Bool) : Outcome :=
  ⟨"assert_true", present, "expected " ++ artifact.shown ++ " file to be generated."⟩

/-- The outcome about an artifact that is not wanted. -/
def missing (artifact : Path) (present : Bool) : Outcome :=
  ⟨"assert_false", !present, "unexpected file generated: " ++ artifact.shown⟩

/-- The outcome about the return code of the checker. -/
def matched (check : InvocationLog) : Outcome :=
  let comparison := Comparison.of (0 : Int) check.output.returnCode
  ⟨comparison.description, comparison.holds, "output file was not same as expected."⟩

@[simp] theorem returned_passed (call : InvocationLog) :
    (returned call).passed = true ↔ call.output.returnCode = 0 := beq_iff_eq

@[simp] theorem found_passed (artifact : Path) (present : Bool) :
    (found artifact present).passed = present := rfl

@[simp] theorem missing_passed (artifact : Path) (present : Bool) :
    (missing artifact present).passed = !present := rfl

@[simp] theorem matched_passed (check : InvocationLog) :
    (matched check).passed = true ↔ check.output.returnCode = 0 :=
  beq_iff_eq.trans eq_comm

variable {target checker : Tool} {input : Path} {layout : ArtifactLayout}

/-- The tool under test is called from a fresh context: one call, one outcome. -/
theorem run_invokeOn (w : World σ) :
    (invokeOn host input).run ⟨{ target := target }, w⟩ =
      match target.call host (.ofPaths [input]) w with
      | .error e => (.error e, ⟨{ target := target }, w⟩)
      | .ok (call, called) => (.ok (), ⟨⟨target, ⟨[returned call]⟩, [call], [0]⟩, called⟩) := by
  simp only [invokeOn, CaseM.invokeTarget, run_bind, run_get, CaseM.run_callTool]
  cases target.call host (.ofPaths [input]) w with
  | error e => rfl
  | ok called => rfl

/-- The tool under test is called, then the checker; each call that gives a
result adds its outcomes. -/
theorem run_verify (w : World σ) :
    (verify host input layout checker).run ⟨{ target := target }, w⟩ =
      let artifact := layout.artifact input
      match target.call host (.ofPaths [input]) w with
      | .error e => (.error e, ⟨{ target := target }, w⟩)
      | .ok (call, called) =>
        let seen := found artifact (called.tree.pathExists host.cwd artifact)
        match checker.call host (.ofPaths [artifact, layout.reference input]) called with
        | .error e => (.error e, ⟨⟨target, ⟨[returned call, seen]⟩, [call], [0]⟩, called⟩)
        | .ok (check, compared) =>
          (.ok (), ⟨⟨target, ⟨[returned call, seen, matched check]⟩, [call, check], [0]⟩,
            compared⟩) := by
  -- one step only: what follows the first call is opened when that call is known
  rw [verify, run_bind, run_invokeOn]
  cases target.call host (.ofPaths [input]) w with
  | error e => rfl
  | ok first =>
    obtain ⟨call, called⟩ := first
    simp only [run_bind, CaseM.run_ask, CaseM.assertTrue, CaseM.run_onContext, CaseM.invoke,
      CaseM.run_callTool]
    cases checker.call host (.ofPaths [layout.artifact input, layout.reference input])
        called with
    | error e => rfl
    | ok second => rfl

/-- **The run of a case that wants the artifact.**  The first program that cannot
be called decides the result, and the artifact is removed from whatever world
that leaves. -/
theorem run_produced (w : World σ) :
    (produced input layout checker).run host target w =
      let artifact := layout.artifact input
      match target.call host (.ofPaths [input]) w with
      | .error e => (.error e, cleaned host artifact w)
      | .ok (call, called) =>
        match checker.call host (.ofPaths [artifact, layout.reference input]) called with
        | .error e => (.error e, cleaned host artifact called)
        | .ok (check, compared) =>
          (.ok ⟨label input,
            ⟨[returned call, found artifact (called.tree.pathExists host.cwd artifact),
              matched check] ++ removal host artifact compared⟩, [call, check], [0],
            .between (host.clock w) (host.clock (cleaned host artifact compared))⟩,
            cleaned host artifact compared) := by
  simp only [TestCase.run, produced, CaseM.run_thenAlways, run_remove, run_verify]
  cases target.call host (.ofPaths [input]) w with
  | error e => rfl
  | ok first =>
    obtain ⟨call, called⟩ := first
    simp only
    cases checker.call host (.ofPaths [layout.artifact input, layout.reference input])
        called with
    | error e => rfl
    | ok second => rfl

/-- **The run of a case that wants no artifact.**  The artifact is removed only if
it was seen. -/
theorem run_absent (w : World σ) :
    (absent input layout).run host target w =
      let artifact := layout.artifact input
      match target.call host (.ofPaths [input]) w with
      | .error e => (.error e, w)
      | .ok (call, called) =>
        if called.tree.pathExists host.cwd artifact then
          (.ok ⟨label input, ⟨[returned call, missing artifact true] ++
              removal host artifact called⟩, [call], [0],
            .between (host.clock w) (host.clock (cleaned host artifact called))⟩,
            cleaned host artifact called)
        else
          (.ok ⟨label input, ⟨[returned call, missing artifact false]⟩, [call], [0],
            .between (host.clock w) (host.clock called)⟩, called) := by
  simp only [TestCase.run, absent, run_bind, run_invokeOn]
  cases target.call host (.ofPaths [input]) w with
  | error e => rfl
  | ok first =>
    obtain ⟨call, called⟩ := first
    simp only [CaseM.run_ask, CaseM.assertFalse, CaseM.run_onContext]
    cases called.tree.pathExists host.cwd (layout.artifact input) with
    | false => rfl
    | true =>
      simp only [if_true, run_remove]
      rfl

/-! ## What makes them pass -/

/-- A case that wants the artifact and ends without an error has called both
programs once, the tool under test first.  It has passed exactly if both returned
zero, the artifact was there in between, and removing it did not fail. -/
theorem produced_ok {w after : World σ} {report : CaseReport}
    (h : (produced input layout checker).run host target w = (.ok report, after)) :
    ∃ call called check compared,
      target.call host (.ofPaths [input]) w = .ok (call, called) ∧
      checker.call host (.ofPaths [layout.artifact input, layout.reference input]) called =
        .ok (check, compared) ∧
      report.invocations = [call, check] ∧ report.targetInvocations = [call] ∧
      after = cleaned host (layout.artifact input) compared ∧
      (report.passed = true ↔ call.output.returnCode = 0 ∧
        called.tree.pathExists host.cwd (layout.artifact input) = true ∧
        check.output.returnCode = 0 ∧
        ((∃ tree, compared.tree.unlink host.cwd (layout.artifact input) = .ok tree) ∨
          compared.tree.unlink host.cwd (layout.artifact input) = .error .notFound)) := by
  simp only [run_produced] at h
  split at h
  · cases h
  · rename_i call called hcall
    split at h
    · cases h
    · rename_i check compared hcheck
      cases h
      refine ⟨call, called, check, compared, hcall, hcheck, rfl, rfl, rfl, ?_⟩
      rw [CaseReport.passed_iff, ← removal_passed]
      simp

/-- A case that wants no artifact and ends without an error has called the tool
under test once and nothing else.  It has passed exactly if that returned zero
and no artifact was seen, and then the world is as the tool left it. -/
theorem absent_ok {w after : World σ} {report : CaseReport}
    (h : (absent input layout).run host target w = (.ok report, after)) :
    ∃ call called, target.call host (.ofPaths [input]) w = .ok (call, called) ∧
      report.invocations = [call] ∧ report.targetInvocations = [call] ∧
      after = (if called.tree.pathExists host.cwd (layout.artifact input) then
        cleaned host (layout.artifact input) called else called) ∧
      (report.passed = true ↔ call.output.returnCode = 0 ∧
        called.tree.pathExists host.cwd (layout.artifact input) = false) := by
  simp only [run_absent] at h
  split at h
  · cases h
  · rename_i call called hcall
    split at h
    · rename_i hseen
      cases h
      refine ⟨call, called, hcall, rfl, rfl, (if_pos hseen).symm, ?_⟩
      simp [CaseReport.passed_iff, hseen]
    · rename_i hseen
      obtain ⟨⟨rfl⟩, rfl⟩ := Prod.mk.inj h
      refine ⟨call, called, hcall, rfl, rfl, (if_neg hseen).symm, ?_⟩
      simp [CaseReport.passed_iff, hseen]

end Artifact

namespace Sample

/-- The location of names that are written as a path. -/
def spot (path : String) : Location := Path.steps (Text.utf8 path)

end Sample

end Assay

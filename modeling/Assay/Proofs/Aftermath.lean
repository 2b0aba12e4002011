import Assay.Proofs.Removal
import Assay.Proofs.Restoration

/-! # What an artifact case leaves and what it says of it

A case that wants the artifact clears it away on every path through it, and whatever
comes of that, the first program that could not be called decides the result
(`Artifact.produced_settles`).  Whether the artifact is there is asked of the tree after
the call, not of the call.  So a case passes on an artifact that was there before, and
`Artifact.pass_without_production` says when; it does not if the run begins in a clean
tree.

A case that wants no artifact clears away what it has seen.  It does not see a link that
leads nowhere; nothing else escapes it (`Artifact.absent_leaves`).
-/

namespace Assay

open Text (utf8)

variable {σ ρ : Type}

theorem CaseReport.status_eq_passed {r : CaseReport} : r.status = .passed ↔ r.passed = true :=
  beq_iff_eq.symm

/-- The case ends without an error, and has passed. -/
def TestCase.Succeeds (case : TestCase σ) (host : Host σ) (target : Tool) (w : World σ) : Prop :=
  ∃ report, (case.run host target w).1 = .ok report ∧ report.status = .passed

instance (case : TestCase σ) (host : Host σ) (target : Tool) (w : World σ) :
    Decidable (case.Succeeds host target w) :=
  decidable_of_iff ((case.run host target w).1.toOption.map CaseReport.status = some .passed) (by
    unfold TestCase.Succeeds
    cases (case.run host target w).1 with
    | error e => simp [Except.toOption]
    | ok report => simp [Except.toOption])

namespace Artifact

variable {host : Host σ} {target checker : Tool} {input : Path} {layout : ArtifactLayout}
variable {v w : World σ}

/-! ## Clearing away -/

/-- **The artifact has been cleared away**, from the world `v` to the world `after`. -/
structure Clears (host : Host σ) (artifact : Path) (v after : World σ) : Prop where
  /-- The path names nothing any more, unless there was an obstacle. -/
  vacant : after.tree.Vacant host.cwd artifact ∨
    ∃ e, v.tree.unlink host.cwd artifact = .error e ∧ e ≠ .notFound
  /-- Nothing has changed but the entry that the path named. -/
  frame : after = v ∨ ∃ loc e, v.tree.resolve host.cwd artifact false = .ok ⟨loc, some e⟩ ∧
    e.isDir = false ∧ after = { v with tree := v.tree.erase loc }

theorem cleaned_clears (host : Host σ) (artifact : Path) (v : World σ) :
    Clears host artifact v (cleaned host artifact v) := by
  unfold cleaned
  cases hremoved : v.tree.unlink host.cwd artifact with
  | ok tree =>
    obtain ⟨-, loc, e, hway, hdir, rfl⟩ := Tree.unlink_eq_ok hremoved
    exact ⟨.inl (Tree.unlink_vacant hremoved), .inr ⟨loc, e, hway, hdir, rfl⟩⟩
  | error e =>
    refine ⟨?_, .inl rfl⟩
    by_cases he : e = .notFound
    · subst he
      exact .inl (Tree.vacant_of_unlink hremoved)
    · exact .inr ⟨e, hremoved, he⟩

/-! ## The three ways of a case that wants the artifact -/

section Ways

variable {call check : InvocationLog} {called compared : World σ} {e : HarnessError}

/-- The tool under test cannot be called. -/
theorem run_produced_of_refused (h : target.call host (.ofPaths [input]) w = .error e) :
    (produced input layout checker).run host target w =
      (.error e, cleaned host (layout.artifact input) w) := by
  simp only [run_produced, h]

/-- The checker cannot be called. -/
theorem run_produced_of_unchecked (hcall : target.call host (.ofPaths [input]) w =
      .ok (call, called))
    (h : checker.call host (.ofPaths [layout.artifact input, layout.reference input]) called =
      .error e) :
    (produced input layout checker).run host target w =
      (.error e, cleaned host (layout.artifact input) called) := by
  simp only [run_produced, hcall, h]

/-- Both can be called, and the case says what it has found. -/
theorem run_produced_of_checked (hcall : target.call host (.ofPaths [input]) w =
      .ok (call, called))
    (hcheck : checker.call host (.ofPaths [layout.artifact input, layout.reference input])
      called = .ok (check, compared)) :
    ∃ report, (produced input layout checker).run host target w =
        (.ok report, cleaned host (layout.artifact input) compared) ∧
      report.invocations = [call, check] ∧ report.targetIndices = [0] ∧
      (report.status = .passed ↔ call.output.returnCode = 0 ∧
        called.tree.pathExists host.cwd (layout.artifact input) = true ∧
        check.output.returnCode = 0 ∧
        ((∃ tree, compared.tree.unlink host.cwd (layout.artifact input) = .ok tree) ∨
          compared.tree.unlink host.cwd (layout.artifact input) = .error .notFound)) := by
  have hrun : (produced input layout checker).run host target w = _ := run_produced w
  simp only [hcall, hcheck] at hrun
  refine ⟨_, hrun, rfl, rfl, ?_⟩
  rw [CaseReport.status_eq_passed, CaseReport.passed_iff, ← removal_passed]
  simp

end Ways

/-- **From the call of the tool to the cleared tree.**  A case that wants the artifact
gives a result exactly if the tool under test and then the checker can be called.

If the tool cannot be called, that is the error, and all of it: no other program matters
to the case.  If the checker cannot be called, then that is the error.  If both can, the
report has the two calls, of which the first is that of the tool under test, and has
passed exactly if both returned zero, the artifact was there in between, and it could be
removed or was not there any more.

On each of these ways the artifact has been cleared away from the world that the programs
have left, and an obstacle to that fails the case, but does not change the error. -/
theorem produced_settles (host : Host σ) (target checker : Tool) (input : Path)
    (layout : ArtifactLayout) (w : World σ) :
    let artifact := layout.artifact input
    let callTarget := target.call host (.ofPaths [input])
    let callChecker := checker.call host (.ofPaths [artifact, layout.reference input])
    let ended := (produced input layout checker).run host target w
    ((∃ report, ended.1 = .ok report) ↔ ∃ call called check compared,
      callTarget w = .ok (call, called) ∧ callChecker called = .ok (check, compared)) ∧
    (∀ e, callTarget w = .error e →
      ended.1 = .error e ∧ Clears host artifact w ended.2 ∧
      ∀ (host' : Host σ) checker', host'.cwd = host.cwd →
        target.call host' (.ofPaths [input]) w = .error e →
        (produced input layout checker').run host' target w = ended) ∧
    (∀ call called e, callTarget w = .ok (call, called) → callChecker called = .error e →
      ended.1 = .error e ∧ Clears host artifact called ended.2) ∧
    (∀ call called check compared, callTarget w = .ok (call, called) →
      callChecker called = .ok (check, compared) →
      ∃ report, ended.1 = .ok report ∧ Clears host artifact compared ended.2 ∧
        report.invocations = [call, check] ∧ report.targetIndices = [0] ∧
        (report.status = .passed ↔ call.output.returnCode = 0 ∧
          called.tree.pathExists host.cwd artifact = true ∧ check.output.returnCode = 0 ∧
          ((∃ tree, compared.tree.unlink host.cwd artifact = .ok tree) ∨
            compared.tree.unlink host.cwd artifact = .error .notFound)) ∧
        (∀ e, compared.tree.unlink host.cwd artifact = .error e → e ≠ .notFound →
          report.status = .failed)) := by
  dsimp only
  refine ⟨⟨?_, ?_⟩, fun e h => ?_, fun call called e hcall h => ?_,
    fun call called check compared hcall hcheck => ?_⟩
  · rintro ⟨report, hreport⟩
    obtain ⟨call, called, check, compared, hcall, hcheck, -⟩ := produced_ok (Prod.ext hreport rfl)
    exact ⟨call, called, check, compared, hcall, hcheck⟩
  · rintro ⟨call, called, check, compared, hcall, hcheck⟩
    obtain ⟨report, hrun, -⟩ := run_produced_of_checked hcall hcheck
    exact ⟨report, by rw [hrun]⟩
  · rw [run_produced_of_refused h]
    dsimp only
    refine ⟨rfl, cleaned_clears host _ w, fun host' checker' hcwd h' => ?_⟩
    -- clearing away starts no program, so of the host only its directory matters
    rw [run_produced_of_refused h', cleaned, cleaned, hcwd]
  · rw [run_produced_of_unchecked hcall h]
    dsimp only
    exact ⟨rfl, cleaned_clears host _ called⟩
  · obtain ⟨report, hrun, hcalls, htarget, hpassed⟩ := run_produced_of_checked hcall hcheck
    rw [hrun]
    dsimp only
    refine ⟨report, rfl, cleaned_clears host _ compared, hcalls, htarget, hpassed, ?_⟩
    intro e hstuck hfound
    refine (report.outcomes.status_cases).resolve_left fun hstatus => ?_
    obtain ⟨-, -, -, ⟨tree, hremoved⟩ | hmissing⟩ := hpassed.mp hstatus
    · cases hstuck.symm.trans hremoved
    · exact hfound (Except.error.inj (hstuck.symm.trans hmissing))

/-! ## Passing on an artifact that was there before -/

/-- When a case that wants the artifact passes. -/
theorem produced_succeeds_iff :
    (produced input layout checker).Succeeds host target w ↔ ∃ call called check compared,
      target.call host (.ofPaths [input]) w = .ok (call, called) ∧
      checker.call host (.ofPaths [layout.artifact input, layout.reference input]) called =
        .ok (check, compared) ∧
      call.output.returnCode = 0 ∧
      called.tree.pathExists host.cwd (layout.artifact input) = true ∧
      check.output.returnCode = 0 ∧
      ((∃ tree, compared.tree.unlink host.cwd (layout.artifact input) = .ok tree) ∨
        compared.tree.unlink host.cwd (layout.artifact input) = .error .notFound) := by
  constructor
  · rintro ⟨report, hreport, hstatus⟩
    obtain ⟨call, called, check, compared, hcall, hcheck, -, -, -, hpassed⟩ :=
      produced_ok (Prod.ext hreport rfl)
    exact ⟨call, called, check, compared, hcall, hcheck,
      hpassed.mp (CaseReport.status_eq_passed.mp hstatus)⟩
  · rintro ⟨call, called, check, compared, hcall, hcheck, hall⟩
    obtain ⟨report, hrun, -, -, hpassed⟩ := run_produced_of_checked hcall hcheck
    exact ⟨report, by rw [hrun], hpassed.mpr hall⟩

/-- With a tool that returns zero and leaves the tree alone, it passes if the artifact was
there before. -/
theorem produced_succeeds_iff_of_idle {call : InvocationLog} {called : World σ}
    (hcall : target.call host (.ofPaths [input]) w = .ok (call, called))
    (hzero : call.output.returnCode = 0) (hidle : called.tree = w.tree) :
    (produced input layout checker).Succeeds host target w ↔
      w.tree.pathExists host.cwd (layout.artifact input) = true ∧ ∃ check compared,
        checker.call host (.ofPaths [layout.artifact input, layout.reference input]) called =
          .ok (check, compared) ∧
        check.output.returnCode = 0 ∧
        ((∃ tree, compared.tree.unlink host.cwd (layout.artifact input) = .ok tree) ∨
          compared.tree.unlink host.cwd (layout.artifact input) = .error .notFound) := by
  rw [produced_succeeds_iff]
  constructor
  · rintro ⟨call', called', check, compared, hcall', hcheck, -, hseen, hrest⟩
    cases hcall.symm.trans hcall'
    rw [hidle] at hseen
    exact ⟨hseen, check, compared, hcheck, hrest⟩
  · rintro ⟨hseen, check, compared, hcheck, hrest⟩
    rw [← hidle] at hseen
    exact ⟨call, called, check, compared, hcall, hcheck, hzero, hseen, hrest⟩

/-- If the programs of a case touch nothing but its artifact, and there was none, then the
case passes only if the tool under test has written it. -/
theorem Scenario.Confined.addsFile {tree : Tree} {c : Scenario}
    (h : c.Confined host target tree) (hchecker : c.checker.isSome = true) (hv : v.tree = tree)
    (hsucceeds : (c.toCase : TestCase σ).Succeeds host target v) :
    ∃ call called, target.call host (.ofPaths [c.input]) v = .ok (call, called) ∧
      tree.AddsFile host.cwd c.artifact called.tree := by
  obtain ⟨checker, hchecker⟩ := Option.isSome_iff_exists.mp hchecker
  simp only [Scenario.toCase, hchecker] at hsucceeds
  obtain ⟨call, called, _, _, hcall, -, -, hseen, -⟩ := produced_succeeds_iff.mp hsucceeds
  refine ⟨call, called, hcall, (h.target v call called hv hcall).resolve_left fun hsame => ?_⟩
  have hunseen : tree.pathExists host.cwd (c.layout.artifact c.input) = false :=
    h.vacant.pathExists
  rw [hsame, hunseen] at hseen
  cases hseen

/-- **A case can pass on an artifact that its tool has not written.**  If the tool under
test returns zero and leaves the tree alone, the case passes exactly if something was at
the path of the artifact before, the checker returns zero, and the artifact can then be
removed.  So it does not pass if nothing was there.

In a run whose programs touch nothing but artifacts, and which begins in a tree without
any, a case that wants the artifact passes only if the tool under test has written it in
the call that the case made. -/
theorem pass_without_production (host : Host σ) (target : Tool) :
    (∀ input layout checker w call called,
      target.call host (.ofPaths [input]) w = .ok (call, called) →
      call.output.returnCode = 0 → called.tree = w.tree →
      let artifact := layout.artifact input
      ((produced input layout checker).Succeeds host target w ↔
        w.tree.pathExists host.cwd artifact = true ∧ ∃ check compared,
          checker.call host (.ofPaths [artifact, layout.reference input]) called =
            .ok (check, compared) ∧ check.output.returnCode = 0 ∧
          ((∃ tree, compared.tree.unlink host.cwd artifact = .ok tree) ∨
            compared.tree.unlink host.cwd artifact = .error .notFound)) ∧
      (w.tree.Vacant host.cwd artifact →
        ¬(produced input layout checker).Succeeds host target w)) ∧
    (∀ (runner : Runner) scenarios (reporter : Reporter ρ) state w,
      (∀ c ∈ scenarios, c.Confined host target w.tree) →
      ∀ c ∈ scenarios, c.checker.isSome = true → ∀ start,
        runner.Starts host (Scenario.suite target scenarios) reporter state w c.toCase start →
        c.toCase.Succeeds host target start →
        ∃ call called, target.call host (.ofPaths [c.input]) start = .ok (call, called) ∧
          w.tree.AddsFile host.cwd c.artifact called.tree) := by
  constructor
  · intro input layout checker w call called hcall hzero hidle artifact
    have hexact : (produced input layout checker).Succeeds host target w ↔ _ :=
      produced_succeeds_iff_of_idle hcall hzero hidle
    refine ⟨hexact, fun hvacant hsucceeds => ?_⟩
    have hseen := (hexact.mp hsucceeds).1
    rw [hvacant.pathExists] at hseen
    cases hseen
  · intro runner scenarios reporter state w hconfined c hc hchecker start hstarts hsucceeds
    have hstart : start.tree = w.tree :=
      hstarts.keeps (P := fun v => v.tree = w.tree) (Scenario.suite_keeps_tree hconfined) rfl
    exact (hconfined c hc).addsFile hchecker hstart hsucceeds

end Artifact

namespace Sample

/-- No program changes anything.  Called with `-s` and two paths, a program returns zero if
the files there have the same contents, and one if not; else it returns zero. -/
def comparer : Host Unit where
  cwd := []
  launch l w :=
    let contents (path : String) := (w.tree.stat [] (utf8 path)).toOption.map Entry.data
    let code := match l.args with
      | ["-s", a, b] => if contents a = contents b then 0 else 1
      | _ => 0
    .ok (⟨.code code, [], []⟩, w)
  clock _ := 0

/-- An input and its reference file, and an artifact that an earlier run has left. -/
def staleTree : Tree where
  entries := [(spot "a.c", .file [] ⟨0o644, .present, 1⟩),
    (spot "a.c.f", .file [1] ⟨0o644, .present, 2⟩), (spot "a.c.g", .file [1] ⟨0o644, .present, 3⟩)]
  nodup := by decide

theorem call_fix_comparer (tree : Tree) :
    fix.call comparer (.ofPaths [utf8 "a.c"]) ⟨tree, ()⟩ =
      .ok (⟨"fix", ["fix", "a.c"], ⟨0, [], []⟩, .between 0 0⟩, ⟨tree, ()⟩) := by
  rfl

end Sample

namespace Artifact

/-- From a tree without the artifact, a tool that writes nothing does not pass; one that
passes has written it. -/
theorem pass_without_production_sample :
    Sample.inputTree.Vacant [] (utf8 "a.c.g") ∧
    ¬(produced (utf8 "a.c") ⟨"g", "f"⟩ (diffChecker "diff")).Succeeds Sample.comparer Sample.fix
      ⟨Sample.inputTree, ()⟩ ∧
    (produced (utf8 "a.c") ⟨"g", "f"⟩ (diffChecker "diff")).Succeeds (Sample.writer fun _ => 0) Sample.fix
      ⟨Sample.inputTree, 0⟩ ∧
    ∃ call called, Sample.fix.call (Sample.writer fun _ => 0) (.ofPaths [utf8 "a.c"])
        ⟨Sample.inputTree, 0⟩ = .ok (call, called) ∧
      Sample.inputTree.AddsFile [] (utf8 "a.c.g") called.tree := by
  have hpasses : (produced (utf8 "a.c") ⟨"g", "f"⟩ (diffChecker "diff")).Succeeds
      (Sample.writer fun _ => 0) Sample.fix ⟨Sample.inputTree, 0⟩ := by decide +kernel
  refine ⟨Sample.vacant, ?_, hpasses, ?_⟩
  · exact ((pass_without_production (ρ := Unit) Sample.comparer Sample.fix).1 (utf8 "a.c") ⟨"g", "f"⟩ _ _ _
      _ (Sample.call_fix_comparer Sample.inputTree) rfl rfl).2 Sample.vacant
  · have hconfined := Sample.confined (fun _ => 0) (some "diff")
    exact (pass_without_production (Sample.writer fun _ => 0) Sample.fix).2 {}
      [Sample.scenario (some "diff")] .silent () ⟨Sample.inputTree, 0⟩ (by simpa using hconfined)
      (Sample.scenario (some "diff")) (by simp) rfl ⟨Sample.inputTree, 0⟩
      ⟨(), [], [], [], _, rfl, rfl, Runner.passes_nil.mpr ⟨rfl, rfl⟩, rfl⟩ hpasses

/-- From a tree with an artifact that equals the reference file, it does. -/
theorem stale_artifact_passes :
    (∃ call, Sample.fix.call Sample.comparer (.ofPaths [utf8 "a.c"]) ⟨Sample.staleTree, ()⟩ =
      .ok (call, ⟨Sample.staleTree, ()⟩) ∧ call.output.returnCode = 0) ∧
    (produced (utf8 "a.c") ⟨"g", "f"⟩ (diffChecker "diff")).Succeeds Sample.comparer Sample.fix
      ⟨Sample.staleTree, ()⟩ := by
  refine ⟨⟨_, Sample.call_fix_comparer Sample.staleTree, rfl⟩, ?_⟩
  decide +kernel

/-! ## Cases that want no artifact -/

/-- The report says that the artifact could not be removed. -/
def Complains (artifact : Path) (report : CaseReport) : Prop :=
  ∃ e : IoError, ⟨"assert_true", false, "could not remove " ++ artifact.shown ++ ": " ++ e.message⟩ ∈
    report.outcomes.toList

section Ways

variable {call : InvocationLog} {called : World σ}

/-- What is seen is a failure, and is removed. -/
theorem run_absent_of_seen (hcall : target.call host (.ofPaths [input]) w = .ok (call, called))
    (hseen : called.tree.pathExists host.cwd (layout.artifact input) = true) :
    ∃ report, (absent input layout).run host target w =
        (.ok report, cleaned host (layout.artifact input) called) ∧
      report.outcomes.toList = [returned call, missing (layout.artifact input) true] ++
        removal host (layout.artifact input) called := by
  have hrun : (absent input layout).run host target w = _ := run_absent w
  simp only [hcall, hseen, if_true] at hrun
  exact ⟨_, hrun, rfl⟩

/-- What is not seen is left as it is. -/
theorem run_absent_of_unseen
    (hcall : target.call host (.ofPaths [input]) w = .ok (call, called))
    (hunseen : called.tree.pathExists host.cwd (layout.artifact input) = false) :
    ∃ report, (absent input layout).run host target w = (.ok report, called) ∧
      report.outcomes.toList = [returned call, missing (layout.artifact input) false] := by
  have hrun : (absent input layout).run host target w = _ := run_absent w
  simp only [hcall, hunseen, Bool.false_eq_true, if_false] at hrun
  exact ⟨_, hrun, rfl⟩

end Ways

/-- **A case that wants no artifact leaves none unnoticed, but for a link that leads
nowhere.**  If something else is at the path of the artifact when the tool under test has
ended, the case has failed.  Afterwards nothing is there, or the report says that it could
not be removed.

A link that leads nowhere is not seen: the world stays as it is, with the link, the case
passes if the tool has returned zero, and nothing is said. -/
theorem absent_leaves (host : Host σ) (target : Tool) (input : Path) (layout : ArtifactLayout)
    (w after : World σ) (report : CaseReport)
    (h : (absent input layout).run host target w = (.ok report, after)) :
    let artifact := layout.artifact input
    ∃ call called, target.call host (.ofPaths [input]) w = .ok (call, called) ∧
      (¬called.tree.Dangling host.cwd artifact →
        (¬called.tree.Vacant host.cwd artifact → report.status = .failed) ∧
        (after.tree.Vacant host.cwd artifact ∨ Complains artifact report)) ∧
      (called.tree.Dangling host.cwd artifact →
        after = called ∧ ¬after.tree.Vacant host.cwd artifact ∧ ¬Complains artifact report ∧
        (report.status = .passed ↔ call.output.returnCode = 0)) := by
  dsimp only
  obtain ⟨call, called, hcall, -⟩ := absent_ok h
  refine ⟨call, called, hcall, ?_⟩
  cases hseen : called.tree.pathExists host.cwd (layout.artifact input) with
  | true =>
    obtain ⟨report', hrun, houtcomes⟩ := run_absent_of_seen hcall hseen
    obtain ⟨⟨rfl⟩, rfl⟩ := Prod.mk.inj (h.symm.trans hrun)
    refine ⟨fun _ => ⟨fun _ => ?_, ?_⟩, fun hdangling => ?_⟩
    · exact Outcomes.status_of_failed (o := missing (layout.artifact input) true)
        (by simp [houtcomes]) rfl
    · have hclears := cleaned_clears host (layout.artifact input) called
      rcases hclears.vacant with hvacant | ⟨e, hstuck, he⟩
      · exact .inl hvacant
      · refine .inr ⟨e, ?_⟩
        rw [houtcomes, removal, hstuck, complaint, if_neg he]
        simp
    · cases hseen.symm.trans hdangling.2
  | false =>
    obtain ⟨report', hrun, houtcomes⟩ := run_absent_of_unseen hcall hseen
    obtain ⟨⟨rfl⟩, rfl⟩ := Prod.mk.inj (h.symm.trans hrun)
    refine ⟨fun hdangling => ?_, fun hdangling => ⟨rfl, hdangling.not_vacant, ?_, ?_⟩⟩
    · -- the check follows links, so what it misses is such a link or nothing
      have hvacant := Tree.vacant_of_unseen hdangling hseen
      exact ⟨fun hthere => absurd hvacant hthere, .inl hvacant⟩
    · rintro ⟨e, he⟩
      simp [houtcomes, returned, missing] at he
    · rw [CaseReport.status_eq_passed, CaseReport.passed_iff, houtcomes]
      simp

end Artifact

namespace Sample

/-- Every program returns zero and leaves an entry next to the input. -/
def leaver (e : Entry) : Host Unit where
  cwd := []
  launch _ w := .ok (⟨.code 0, [], []⟩, { w with tree := w.tree.insert (Sample.spot "a.c.g") e })
  clock _ := 0

def folder : Entry := .dir ⟨0o755, .present, 2⟩

def brokenLink : Entry := .link (utf8 "nowhere") ⟨0o777, .present, 2⟩

theorem call_fix_leaver (e : Entry) :
    fix.call (leaver e) (.ofPaths [utf8 "a.c"]) ⟨inputTree, ()⟩ =
      .ok (⟨"fix", ["fix", "a.c"], ⟨0, [], []⟩, .between 0 0⟩,
        ⟨inputTree.insert (Sample.spot "a.c.g") e, ()⟩) := by
  rfl

end Sample

namespace Artifact

/-- A directory at the path of the artifact fails the case.  It stays, since it cannot be
removed as a file, and the report says so. -/
theorem absent_leaves_sample :
    ∃ report after, (absent (utf8 "a.c") ⟨"g", "f"⟩).run (Sample.leaver Sample.folder) Sample.fix
        ⟨Sample.inputTree, ()⟩ = (.ok report, after) ∧
      report.status = .failed ∧ ¬after.tree.Vacant [] (utf8 "a.c.g") ∧ Complains (utf8 "a.c.g") report := by
  have hcall := Sample.call_fix_leaver Sample.folder
  have hseen : (Sample.inputTree.insert (Sample.spot "a.c.g") Sample.folder).pathExists []
      (ArtifactLayout.artifact ⟨"g", "f"⟩ (utf8 "a.c")) = true := by decide +kernel
  obtain ⟨report, hrun, -⟩ := run_absent_of_seen hcall hseen
  obtain ⟨call, called, hcall', hrest, -⟩ := absent_leaves _ _ _ _ _ _ _ hrun
  cases hcall.symm.trans hcall'
  obtain ⟨hfailed, hleft⟩ := hrest fun hdangling => by cases hseen.symm.trans hdangling.2
  have hstays : ¬(cleaned (Sample.leaver Sample.folder) (utf8 "a.c.g")
      ⟨Sample.inputTree.insert (Sample.spot "a.c.g") Sample.folder, ()⟩).tree.Vacant [] (utf8 "a.c.g") :=
    fun hvacant => hvacant Sample.folder rfl
  exact ⟨report, _, hrun, hfailed fun hvacant => hvacant Sample.folder rfl, hstays,
    hleft.resolve_left hstays⟩

/-- A link that leads nowhere does not fail the case, and stays. -/
theorem dangling_link_stays :
    let run := (absent (utf8 "a.c") ⟨"g", "f"⟩).run (Sample.leaver Sample.brokenLink) Sample.fix
      ⟨Sample.inputTree, ()⟩
    Sample.inputTree.Vacant [] (utf8 "a.c.g") ∧
    run.1.toOption.map CaseReport.status = some .passed ∧
    run.1.toOption.map CaseReport.failureMessages = some [] ∧
    run.2.tree.get? (Sample.spot "a.c.g") = some Sample.brokenLink := by
  refine ⟨Sample.vacant, ?_⟩
  decide +kernel

end Artifact
end Assay

import Assay.Cli.Program
import Assay.Proofs.Accounting
import Assay.Proofs.ArtifactCase
import Assay.Proofs.Suffixes

/-! # What exit code zero means

A run of the program ends with exit code zero if nothing that counts has failed.
With no filter set everything counts, so a green run speaks of every fixture:
none was skipped, and the tool under test did with each what its category asks
for (`Cli.conform_sound`).  The parts are that a run without a counted failure
has run all of its cases (`Runner.run_green`), and what it takes for the case of
one fixture to pass (`Conformance.caseFor_passed`).

A command is made of texts, and a fixture may have a name that is none.  Then a green
run says that the tool did well on the text its path is shown as, which is another
path.
-/

namespace Assay

open Text (utf8)

variable {σ ρ : Type}

/-! ## Commands -/

/-- The command of `launch` was started in `w`, returned zero and left `after`;
`log` is the record of this. -/
structure Succeeds (host : Host σ) (launch : Launch) (w after : World σ) (log : InvocationLog) :
    Prop where
  command : log.command = launch.program :: launch.args
  returned : log.output.returnCode = 0
  started : ∃ done, host.start launch w = .ok (done, after) ∧ log.output = .ofCompletion done

/-- A call that gave a result has started the command that the template renders
to. -/
theorem Tool.call_succeeds {tool : Tool} {host : Host σ} {args : ToolArgs} {w after : World σ}
    {log : InvocationLog} {program : String} {rest : List String}
    (hrender : tool.template.render args = program :: rest)
    (h : tool.call host args w = .ok (log, after)) (hzero : log.output.returnCode = 0) :
    Succeeds host ⟨program, rest, tool.env, tool.workingDir⟩ w after log := by
  simp only [Tool.call, hrender] at h
  split at h
  · cases h
  · rename_i done _ hstart
    cases h
    exact ⟨rfl, hzero, done, hstart, rfl⟩

theorem Conformance.render_subject (path : Path) (flags : List String) (traceVar : String)
    (input : Path) :
    (subject path flags traceVar).template.render (.ofPaths [input]) =
      path.shown :: input.shown :: "--" :: flags := by
  simp [subject, ToolArgs.ofPaths, Tool.withEnv, Template.render, Template.program, Template.inputs,
    Template.literal, Template.literals, Template.trailing, Template.add, Token.render,
    List.flatMap_map]

theorem Artifact.render_diffChecker (program : String) (artifact reference : Path) :
    (diffChecker program).template.render (.ofPaths [artifact, reference]) =
      [program, "-s", artifact.shown, reference.shown] := rfl

/-! ## Runs without a counted failure -/

namespace Runner

variable {runner : Runner} {host : Host σ} {suite : Suite σ} {reporter : Reporter ρ}
variable {state : ρ} {w : World σ} {report : RunReport} {p : Progress σ ρ}

/-- If the report counts no failure, no case is left and none of those that ran
has failed: a run that stops early has counted the failure it stopped at. -/
theorem Settles.green {reports : List CaseReport} {rest : List (TestCase σ)}
    (h : Settles runner reports rest report) (hfailed : report.failed = 0) :
    rest = [] ∧ ∀ r ∈ reports, runner.policy.fails r = false := by
  have hnone : ∀ r ∈ reports, runner.policy.fails r = false := by
    intro r hr
    obtain ⟨haccounts, -⟩ := h.accounts
    have hcount := haccounts.failed
    rw [hfailed, haccounts.cases, eq_comm, List.countP_eq_zero] at hcount
    by_cases hsel : runner.policy.selects r.targetInvocations
    · have hpassed := hcount r (List.mem_filter.mpr ⟨hr, hsel⟩)
      simp_all [Policy.fails, CaseReport.passed]
    · simp [Policy.fails, hsel]
  refine ⟨?_, hnone⟩
  -- cases are left only behind a case that stopped the run, and that one counts as failed
  cases h with
  | exhausted _ => rfl
  | @stopped earlier last _ _ hlast =>
    have hfails := hnone last (by simp)
    simp [stopsAt, hfails] at hlast

/-- A run that counts no failure has run every case of its suite. -/
theorem run_green (h : runner.run host suite reporter state w = (.ok report, p))
    (hfailed : report.failed = 0) :
    ∃ reports, TestCase.runAll host suite.tool suite.cases w = (.ok reports, p.world) ∧
      ∀ r ∈ reports, runner.policy.fails r = false := by
  cases run_course h with
  | @closed _ _ ran rest reports mid tally _ hsplit hstretch hsettles _ =>
    obtain ⟨rfl, hnone⟩ := hsettles.green hfailed
    rw [List.append_nil] at hsplit
    rw [hsplit]
    exact ⟨reports, hstretch.ran, hnone⟩

end Runner

theorem Policy.selects_of_isUnrestricted {policy : Policy} (h : policy.isUnrestricted = true)
    (logs : List InvocationLog) : policy.selects logs = true := by
  rw [Policy.selects, h, Bool.true_or]

/-! ## One fixture -/

namespace Conformance

/-- **The tool under test did with a fixture what its category asks for.**  From
the world `before` its case to the world `after` it, the tool was called once and
returned zero.  It was called with the text of the fixture's path; its command is
that path, the one of the tool and the flags exactly if both paths are texts.  If an
artifact is wanted, it was there right after that call, the checker was called with
the texts of the artifact's path and the reference's and returned zero, and then the
artifact was removed or was not there any more; if none is wanted, none was there. -/
def Conforms (host : Host σ) (config : Config) (fixture : Fixture) (report : CaseReport)
    (before after : World σ) : Prop :=
  let artifact := fixture.path.suffixed config.layout.artifactSuffix
  let reference := fixture.path.suffixed config.layout.referenceSuffix
  ∃ call called, report.targetInvocations = [call] ∧
    Succeeds host ⟨config.toolPath.shown, fixture.path.shown :: "--" :: config.toolFlags,
      [(config.traceVar, "1")], none⟩ before called call ∧
    (call.command.map utf8 =
        config.toolPath :: fixture.path :: utf8 "--" :: config.toolFlags.map utf8 ↔
      Text.IsText config.toolPath ∧ Text.IsText fixture.path) ∧
    (fixture.category = .goodCanFix ∨ fixture.category = .badWithFix →
      called.tree.pathExists host.cwd artifact = true ∧
      ∃ check compared, report.invocations = [call, check] ∧
        Succeeds host ⟨config.diffProgram, ["-s", artifact.shown, reference.shown], [], none⟩
          called compared check ∧
        (check.command.map utf8 = [utf8 config.diffProgram, utf8 "-s", artifact, reference] ↔
          Text.IsText fixture.path) ∧
        ((∃ tree, compared.tree.unlink host.cwd artifact = .ok tree ∧
            after = { compared with tree := tree }) ∨
          (compared.tree.unlink host.cwd artifact = .error .notFound ∧ after = compared))) ∧
    (fixture.category = .goodNoFix ∨ fixture.category = .badWithoutFix →
      report.invocations = [call] ∧ called.tree.pathExists host.cwd artifact = false ∧
      after = called)

variable {host : Host σ} {config : Config} {fixture : Fixture} {report : CaseReport}
variable {before after : World σ}

/-- The tool under test of a configuration. -/
def subjectOf (config : Config) : Tool :=
  subject config.toolPath config.toolFlags config.traceVar

theorem call_subjectOf {w called : World σ} {call : InvocationLog} {input : Path}
    (h : (subjectOf config).call host (.ofPaths [input]) w = .ok (call, called))
    (hzero : call.output.returnCode = 0) :
    Succeeds host ⟨config.toolPath.shown, input.shown :: "--" :: config.toolFlags,
      [(config.traceVar, "1")], none⟩ w called call :=
  Tool.call_succeeds (render_subject ..) h hzero

/-- The words for two paths stand for these paths exactly if both are texts. -/
theorem words_eq_iff (before behind : List String) {path path' : Path} :
    (before ++ path.shown :: path'.shown :: behind).map utf8 =
        before.map utf8 ++ path :: path' :: behind.map utf8 ↔
      Text.IsText path ∧ Text.IsText path' := by
  simp only [List.map_append, List.map_cons, List.append_cancel_left_eq, List.cons.injEq, and_true,
    Path.shown, Text.utf8_lossy_eq_iff]

/-- The case of a fixture passes only if the tool under test did as its category
asks. -/
theorem caseFor_passed
    (h : (caseFor config fixture).run host (subjectOf config) before = (.ok report, after))
    (hpassed : report.passed = true) : Conforms host config fixture report before after := by
  unfold caseFor at h
  split at h
  · rename_i hwanted
    obtain ⟨call, called, check, compared, hcall, hcheck, hlogs, htarget, hafter, hiff⟩ :=
      Artifact.produced_ok h
    obtain ⟨hreturned, hthere, hequal, hremoved⟩ := hiff.mp hpassed
    have hran := call_subjectOf hcall hreturned
    have hchecked := Tool.call_succeeds (Artifact.render_diffChecker ..) hcheck hequal
    refine ⟨call, called, htarget, hran, ?_, fun _ => ⟨hthere, check, compared, hlogs, hchecked, ?_,
      ?_⟩, fun hplain => ?_⟩
    · rw [hran.command]
      exact words_eq_iff [] _
    · rw [hchecked.command, ← and_self_iff (a := Text.IsText fixture.path)]
      refine (words_eq_iff [config.diffProgram, "-s"] []).trans ?_
      rw [ArtifactLayout.artifact, ArtifactLayout.reference, Path.isText_suffixed,
        Path.isText_suffixed]
    · rcases hremoved with ⟨tree, hunlink⟩ | hunlink
      · rw [Artifact.cleaned, hunlink] at hafter
        exact .inl ⟨tree, hunlink, hafter⟩
      · rw [Artifact.cleaned, hunlink] at hafter
        exact .inr ⟨hunlink, hafter⟩
    · rcases hplain with hc | hc <;> simp [hc, Category.expectsArtifact] at hwanted
  · rename_i hplain
    obtain ⟨call, called, hcall, hlogs, htarget, hafter, hiff⟩ := Artifact.absent_ok h
    obtain ⟨hreturned, hnone⟩ := hiff.mp hpassed
    rw [hnone] at hafter
    have hran := call_subjectOf hcall hreturned
    refine ⟨call, called, htarget, hran, ?_, fun hwanted => ?_, fun _ => ⟨hlogs, hnone, hafter⟩⟩
    · rw [hran.command]
      exact words_eq_iff [] _
    · rcases hwanted with hc | hc <;> simp [hc, Category.expectsArtifact] at hplain

theorem suiteBy_eq (read : Fixture.Reader) (config : Config) (cwd : Location) (tree : Tree) :
    (suiteBy read config cwd tree : Except HarnessError (Suite σ)) =
      (Fixture.discoverBy read tree cwd config.inputDir config.extension).map fun fixtures =>
        ⟨subjectOf config, fixtures.map (caseFor config)⟩ := by
  unfold suiteBy
  cases Fixture.discoverBy read tree cwd config.inputDir config.extension <;> rfl

theorem suite_ok {cwd : Location} {tree : Tree} {s : Suite σ}
    (h : suite config cwd tree = .ok s) :
    ∃ fixtures, Fixture.discover tree cwd config.inputDir config.extension = .ok fixtures ∧
      s = ⟨subjectOf config, fixtures.map (caseFor config)⟩ := by
  rw [suite, suiteBy_eq, ← Fixture.discover] at h
  cases hfound : Fixture.discover tree cwd config.inputDir config.extension with
  | error e => rw [hfound] at h; cases h
  | ok fixtures => rw [hfound] at h; cases h; exact ⟨fixtures, rfl, rfl⟩

end Conformance

/-! ## The program -/

namespace Cli

variable {host : Host σ} {config : Config} {w : World σ}

/-- Exit code zero: the fixtures were found, their cases all ran, from the world
the program started in to the one it left, and none that counts has failed. -/
theorem conform_green (hzero : (conform host config w).exitCode = 0) :
    ∃ fixtures reports,
      Fixture.discover w.tree host.cwd config.inputDir config.extension = .ok fixtures ∧
      TestCase.runAll host (Conformance.subjectOf config)
        (fixtures.map (Conformance.caseFor config)) w =
          (.ok reports, (conform host config w).world) ∧
      ∀ r ∈ reports, config.policy.fails r = false := by
  unfold conform at hzero ⊢
  generalize hprepared : (do
    config.validate host.cwd w.tree
    Conformance.suite config host.cwd w.tree : Except HarnessError (Suite σ)) = prepared
    at hzero ⊢
  cases prepared with
  | error e => cases hzero
  | ok suite =>
    -- a configuration that was refused has prepared nothing, so this suite is that of the fixtures
    have hsuite : Conformance.suite config host.cwd w.tree = .ok suite := by
      cases hvalid : config.validate host.cwd w.tree with
      | error e => rw [hvalid] at hprepared; cases hprepared
      | ok u => rw [hvalid] at hprepared; exact hprepared
    obtain ⟨fixtures, hfound, rfl⟩ := Conformance.suite_ok hsuite
    refine ⟨fixtures, ?_⟩
    simp only at hzero ⊢
    split at hzero
    · rename_i hempty
      obtain rfl : fixtures = [] := by simpa [Suite.isEmpty] using hempty
      exact ⟨[], hfound, rfl, by simp⟩
    · rename_i hsome
      rw [if_neg hsome]
      split at hzero
      · cases hzero
      · rename_i report p hrun
        have hfailed : report.failed = 0 := by
          by_contra hne
          simp [Nat.pos_of_ne_zero hne, failureCode] at hzero
        obtain ⟨reports, hran, hnone⟩ := Runner.run_green hrun hfailed
        exact ⟨reports, hfound, hran, hnone⟩

/-- **Exit code zero is sound.**  If no filter is set and the program ends with
exit code zero, then for every fixture that discovery finds: the cases of the
fixtures before it ran, then its own case, then those of the fixtures after it,
up to the world that the program left, and the tool under test did with it what
its category asks for. -/
theorem conform_sound (host : Host σ) (config : Config) (w : World σ)
    (hpolicy : config.policy.isUnrestricted = true)
    (hzero : (conform host config w).exitCode = 0) :
    ∃ fixtures,
      Fixture.discover w.tree host.cwd config.inputDir config.extension = .ok fixtures ∧
      ∀ pre fixture post, fixtures = pre ++ fixture :: post →
        ∃ earlier before report after later,
          TestCase.runAll host (Conformance.subjectOf config)
            (pre.map (Conformance.caseFor config)) w = (.ok earlier, before) ∧
          (Conformance.caseFor config fixture).run host (Conformance.subjectOf config) before =
            (.ok report, after) ∧
          TestCase.runAll host (Conformance.subjectOf config)
            (post.map (Conformance.caseFor config)) after =
              (.ok later, (conform host config w).world) ∧
          Conformance.Conforms host config fixture report before after := by
  obtain ⟨fixtures, reports, hfound, hran, hnone⟩ := conform_green hzero
  refine ⟨fixtures, hfound, ?_⟩
  rintro pre fixture post rfl
  rw [List.map_append, List.map_cons] at hran
  obtain ⟨earlier, here, before, rfl, hpre, hrest⟩ := TestCase.runAll_append_ok.mp hran
  obtain ⟨report, later, after, rfl, hcase, hpost⟩ := TestCase.runAll_cons_ok.mp hrest
  have hpassed : report.passed = true := by
    have hfails := hnone report (by simp)
    simpa [Policy.fails, Policy.selects_of_isUnrestricted hpolicy] using hfails
  exact ⟨earlier, before, report, after, later, hpre, hcase, hpost,
    Conformance.caseFor_passed hcase hpassed⟩

end Cli

namespace Sample

/-- A tool, and one fixture for each of two categories. -/
def fixtureTree : Tree where
  entries := [(spot "t", .file [] ⟨0o755, .present, 1⟩), (spot "in", .dir ⟨0o755, .present, 2⟩),
    (spot "in/good_no_fix", .dir ⟨0o755, .present, 3⟩),
    (spot "in/good_no_fix/b.c", .file [] ⟨0o644, .present, 4⟩),
    (spot "in/good_can_fix", .dir ⟨0o755, .present, 5⟩),
    (spot "in/good_can_fix/a.c", .file [] ⟨0o644, .present, 6⟩)]
  nodup := by decide

/-- Every program returns zero, and on the fixture that can be fixed it writes an
artifact. -/
def fixer : Host Unit where
  cwd := []
  launch l w :=
    let artifact : Entry := .file [] ⟨0o644, .present, 7⟩
    let after : World Unit := if l.args.head? = some "in/good_can_fix/a.c" then
      ⟨w.tree.insert (spot "in/good_can_fix/a.c.g") artifact, ()⟩ else w
    .ok (⟨.code 0, [], []⟩, after)
  clock _ := 0

def config : Config where
  toolPath := utf8 "t"
  inputDir := utf8 "in"
  extension := "c"
  layout := ⟨"g", "f"⟩
  color := false

end Sample

/-- The green run of the sample fixtures: the one that can be fixed came second,
and its artifact was written, compared and removed. -/
theorem Cli.conform_sound_sample :
    Sample.config.policy.isUnrestricted = true ∧
    (conform Sample.fixer Sample.config ⟨Sample.fixtureTree, ()⟩).exitCode = 0 ∧
    ∃ before report after,
      Conformance.Conforms Sample.fixer Sample.config ⟨.goodCanFix, utf8 "in/good_can_fix/a.c"⟩
        report before after := by
  have hzero : (conform Sample.fixer Sample.config ⟨Sample.fixtureTree, ()⟩).exitCode = 0 := by
    decide +kernel
  have hfixtures : (Fixture.discover Sample.fixtureTree Sample.fixer.cwd Sample.config.inputDir
      Sample.config.extension).toOption = some [⟨.goodNoFix, utf8 "in/good_no_fix/b.c"⟩,
        ⟨.goodCanFix, utf8 "in/good_can_fix/a.c"⟩] := by
    decide +kernel
  obtain ⟨fixtures, hfound, hsound⟩ := conform_sound Sample.fixer Sample.config
    ⟨Sample.fixtureTree, ()⟩ rfl hzero
  rw [hfound] at hfixtures
  obtain ⟨_, before, report, after, _, _, _, _, hconforms⟩ :=
    hsound [⟨.goodNoFix, utf8 "in/good_no_fix/b.c"⟩] ⟨.goodCanFix, utf8 "in/good_can_fix/a.c"⟩ []
      (Option.some.inj hfixtures)
  exact ⟨rfl, hzero, before, report, after, hconforms⟩

namespace Sample

/-- Every program returns zero, does to the files what `effect` says, and its command
is kept. -/
def recorder (effect : List String → Tree → Tree) : Host (List (List String)) where
  cwd := []
  launch l w :=
    let command := l.program :: l.args
    .ok (⟨.code 0, [], []⟩, ⟨effect command w.tree, w.ambient ++ [command]⟩)
  clock _ := 0

/-- The path of a fixture with a byte that stands in no text. -/
def garbled : Path := utf8 "in/good_no_fix/a" ++ 0xFF :: utf8 ".c"

def garbledTree : Tree where
  entries := [(spot "t", .file [] ⟨0o755, .present, 1⟩), (spot "in", .dir ⟨0o755, .present, 2⟩),
    (spot "in/good_no_fix", .dir ⟨0o755, .present, 3⟩),
    (garbled.steps, .file [] ⟨0o644, .present, 4⟩)]
  nodup := by decide

/-- Only the fixture that can be fixed. -/
def fixableTree : Tree := fixtureTree.erase (spot "in/good_no_fix/b.c")

/-- The tool writes the artifact, and the checker takes it away. -/
def snatch (command : List String) (tree : Tree) : Tree :=
  let artifact := spot "in/good_can_fix/a.c.g"
  if command.head? = some "t" then tree.insert artifact (.file [] ⟨0o644, .present, 7⟩)
  else tree.erase artifact

/-- The commands that such a run comes to. -/
def fixCall : List String := "t" :: "in/good_can_fix/a.c" :: "--" :: config.toolFlags

def checkCall : List String := ["diff", "-s", "in/good_can_fix/a.c.g", "in/good_can_fix/a.c.f"]

def garbledRun : Cli.Ending (List (List String)) :=
  Cli.conform (recorder fun _ tree => tree) config ⟨garbledTree, []⟩

def snatchedRun : Cli.Ending (List (List String)) :=
  Cli.conform (recorder snatch) config ⟨fixableTree, []⟩

end Sample

/-- Two green runs.  In the first the tool is called on a path that is not the one of the
fixture, which is no text.  In the second removing the artifact fails, since it is not
there any more when the checker has returned. -/
theorem Cli.green_despite_lost_path_or_artifact :
    ((Fixture.discover Sample.garbledTree [] Sample.config.inputDir
        Sample.config.extension).toOption = some [⟨.goodNoFix, Sample.garbled⟩] ∧
      Sample.garbledRun.exitCode = 0 ∧
      Sample.garbledRun.world.ambient =
        ["t" :: "in/good_no_fix/a\uFFFD.c" :: "--" :: Sample.config.toolFlags] ∧
      ∀ command ∈ Sample.garbledRun.world.ambient, ∀ word ∈ command, utf8 word ≠ Sample.garbled) ∧
    Sample.snatchedRun.exitCode = 0 ∧
      Sample.snatchedRun.world.ambient = [Sample.fixCall, Sample.checkCall] ∧
      (Sample.snatch Sample.checkCall (Sample.snatch Sample.fixCall Sample.fixableTree)).unlink []
        (utf8 "in/good_can_fix/a.c.g") = .error .notFound := by
  refine ⟨by decide +kernel, by decide +kernel, by decide +kernel, ?_⟩
  rfl

end Assay

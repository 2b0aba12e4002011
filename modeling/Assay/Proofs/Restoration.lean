import Assay.Proofs.AddedFile
import Assay.Proofs.ArtifactCase
import Assay.Proofs.Execution
import Assay.Proofs.Utf8
import Mathlib.Control.Monad.Basic

/-! # A run leaves the tree as it was

A case about an artifact has its tool write next to the input, and removes what
was written.  The two kinds of case clean up in different ways: one always, one
only if it has seen something.  Either way the tree is restored by the end of
the case, on every path through it (`Artifact.Scenario.Confined.run_tree`), as
long as the tool under test adds nothing but the artifact.

What every case keeps, every run keeps, however it ends, and every case of it
starts with (`Runner.run_keeps`, `Runner.Starts.keeps`).  So a run of artifact
cases can neither leave files behind nor show one case the files of another.
-/

namespace Assay

open Text (utf8)

variable {σ ρ : Type}

/-! ## What every case keeps -/

namespace TestCase

variable {host : Host σ} {target : Tool} {P : World σ → Prop}

theorem runAll_keeps {cases : List (TestCase σ)} {w : World σ}
    (hcase : ∀ case ∈ cases, ∀ v, P v → P (case.run host target v).2) (hw : P w) :
    P (runAll host target cases w).2 := by
  induction cases generalizing w with
  | nil => exact hw
  | cons case rest ih =>
    have hafter := hcase case List.mem_cons_self w hw
    rw [runAll]
    split
    · rename_i e after hrun
      rwa [hrun] at hafter
    · rename_i r after hrun
      rw [hrun] at hafter
      have hlast := ih (fun c hc => hcase c (List.mem_cons_of_mem case hc)) hafter
      split
      · rename_i e last hrest
        rwa [hrest] at hlast
      · rename_i rs last hrest
        rwa [hrest] at hlast

end TestCase

namespace Runner

variable {runner : Runner} {host : Host σ} {suite : Suite σ} {reporter : Reporter ρ}
variable {state : ρ} {w : World σ} {P : World σ → Prop}

/-- The run executes `case`, and starts it in the world `start`: the reporter has
taken the start of the run, and the cases before this one have run and let the
run go on. -/
def Starts (runner : Runner) (host : Host σ) (suite : Suite σ) (reporter : Reporter ρ)
    (state : ρ) (w : World σ) (case : TestCase σ) (start : World σ) : Prop :=
  ∃ s ran rest reports mid, reporter.tell (.runStart suite.size) state = (.ok (), s) ∧
    suite.cases = ran ++ case :: rest ∧
    Passes runner host suite.tool reporter ran reports (opening suite w s) mid ∧
    mid.world = start

theorem Stretch.keeps {policy : Policy} {target : Tool} {ran : List (TestCase σ)}
    {reports : List CaseReport} {p p' : Progress σ ρ}
    (h : Stretch policy host target reporter ran reports p p')
    (hcase : ∀ case ∈ ran, ∀ v, P v → P (case.run host target v).2) (hp : P p.world) :
    P p'.world := by
  have hlast := TestCase.runAll_keeps hcase hp
  rwa [h.ran] at hlast

theorem Starts.keeps {case : TestCase σ} {start : World σ}
    (h : Starts runner host suite reporter state w case start)
    (hcase : ∀ case ∈ suite.cases, ∀ v, P v → P (case.run host suite.tool v).2) (hw : P w) :
    P start := by
  obtain ⟨s, ran, rest, reports, mid, -, hsplit, hpass, rfl⟩ := h
  refine hpass.toStretch.keeps (fun c hc => hcase c ?_) hw
  rw [hsplit]
  exact List.mem_append_left _ hc

/-- What every case keeps also holds when a case of the run has ended, with a
result or with an error. -/
theorem Starts.keeps_after {case : TestCase σ} {start after : World σ}
    {result : Except HarnessError CaseReport}
    (h : Starts runner host suite reporter state w case start)
    (hcase : ∀ case ∈ suite.cases, ∀ v, P v → P (case.run host suite.tool v).2) (hw : P w)
    (hends : case.run host suite.tool start = (result, after)) : P after := by
  have hstart := h.keeps hcase hw
  obtain ⟨_, _, _, _, _, -, hsplit, -, -⟩ := h
  have hafter := hcase case (by simp [hsplit]) start hstart
  rwa [hends] at hafter

/-- What every case keeps holds in the world that a run leaves, whatever brought
it to its end. -/
theorem run_keeps (hcase : ∀ case ∈ suite.cases, ∀ v, P v → P (case.run host suite.tool v).2)
    (hw : P w) : P (runner.run host suite reporter state w).2.world := by
  obtain ⟨result, p, hrun⟩ :
      ∃ result p, runner.run host suite reporter state w = (result, p) := ⟨_, _, rfl⟩
  rw [hrun]
  cases run_course hrun with
  | unopened => exact hw
  | raised hstart hsplit hpass hends =>
    have hstarts : Starts runner host suite reporter state w _ _ :=
      ⟨_, _, _, _, _, hstart, hsplit, hpass, rfl⟩
    exact hstarts.keeps_after hcase hw hends
  | refused hstart hsplit hpass hends _ =>
    have hstarts : Starts runner host suite reporter state w _ _ :=
      ⟨_, _, _, _, _, hstart, hsplit, hpass, rfl⟩
    exact hstarts.keeps_after hcase hw hends
  | unclosed _ hsplit hstretch _ _ =>
    exact hstretch.keeps (fun c hc => hcase c (hsplit ▸ List.mem_append_left _ hc)) hw
  | closed _ hsplit hstretch _ _ =>
    exact hstretch.keeps (fun c hc => hcase c (hsplit ▸ List.mem_append_left _ hc)) hw

end Runner

/-! ## Artifact cases -/

namespace Artifact

/-- An artifact case as data. -/
structure Scenario where
  input : Path
  layout : ArtifactLayout
  /-- What compares the artifact with the reference; if there is nothing, no
  artifact is wanted. -/
  checker : Option Tool
  deriving Repr, DecidableEq

namespace Scenario

def artifact (c : Scenario) : Path := c.layout.artifact c.input

def reference (c : Scenario) : Path := c.layout.reference c.input

def toCase (c : Scenario) : TestCase σ :=
  match c.checker with
  | some checker => produced c.input c.layout checker
  | none => absent c.input c.layout

/-- The suite of artifact cases for a tool. -/
def suite (target : Tool) (scenarios : List Scenario) : Suite σ :=
  ⟨target, scenarios.map toCase⟩

/-- **The programs of a case touch nothing but its artifact.**  In `tree` nothing
stands at the path of the artifact.  A call of the tool under test from this tree
fails to start, leaves the tree as it is or adds a regular file at that path; a
call of the checker fails to start or leaves the tree as it is.  What the
programs return, and what they do to the rest of the world, is left open. -/
structure Confined (host : Host σ) (target : Tool) (tree : Tree) (c : Scenario) : Prop where
  vacant : tree.Vacant host.cwd c.artifact
  target : ∀ v log after, v.tree = tree →
    target.call host (.ofPaths [c.input]) v = .ok (log, after) →
    after.tree = tree ∨ tree.AddsFile host.cwd c.artifact after.tree
  checker : ∀ checker, c.checker = some checker → ∀ v log after,
    checker.call host (.ofPaths [c.artifact, c.reference]) v = .ok (log, after) →
    after.tree = v.tree

variable {host : Host σ} {target : Tool} {tree : Tree} {c : Scenario} {v : World σ}

/-- Removing the artifact restores the tree, whether the tool has added it or
not. -/
theorem Confined.cleaned (h : c.Confined host target tree)
    (hv : v.tree = tree ∨ tree.AddsFile host.cwd c.artifact v.tree) :
    (cleaned host c.artifact v).tree = tree := by
  rcases hv with hsame | hadded
  · obtain ⟨e, he⟩ := h.vacant.unlink
    rw [Artifact.cleaned, hsame, he]
    exact hsame
  · rw [Artifact.cleaned, hadded.unlink]
    rfl

/-- **A case restores the tree,** on every path through it. -/
theorem Confined.run_tree (h : c.Confined host target tree) (hv : v.tree = tree) :
    ((c.toCase : TestCase σ).run host target v).2.tree = tree := by
  unfold toCase
  split
  · rename_i checker hchecker
    simp only [run_produced]
    split
    · dsimp only
      exact h.cleaned (.inl hv)
    · rename_i call called hcall
      have hcalled := h.target v call called hv hcall
      split
      · dsimp only
        exact h.cleaned hcalled
      · rename_i check compared hcheck
        rw [← h.checker checker hchecker called check compared hcheck] at hcalled
        dsimp only
        exact h.cleaned hcalled
  · simp only [run_absent]
    split
    · exact hv
    · rename_i call called hcall
      have hcalled := h.target v call called hv hcall
      split
      · dsimp only
        exact h.cleaned hcalled
      · rename_i hunseen
        -- what was not seen was not added
        rcases hcalled with hsame | hadded
        · exact hsame
        · exact absurd hadded.pathExists hunseen

theorem suite_keeps_tree {scenarios : List Scenario}
    (h : ∀ c ∈ scenarios, c.Confined host target tree) :
    ∀ case ∈ (suite target scenarios : Suite σ).cases, ∀ v, v.tree = tree →
      (case.run host target v).2.tree = tree := by
  intro case hcase v hv
  obtain ⟨c, hc, rfl⟩ := List.mem_map.mp hcase
  exact (h c hc).run_tree hv

/-- **A run restores the tree.**  If the programs of each case touch nothing but
its artifact, then however the run ends, with a report, at a failure, in the
middle of a case or at an event that the reporter refuses, the tree is as it was
at the beginning, and so it was when each case that was executed started. -/
theorem run_restores_tree (runner : Runner) (host : Host σ) (target : Tool)
    (scenarios : List Scenario) (reporter : Reporter ρ) (state : ρ) (w : World σ)
    (h : ∀ c ∈ scenarios, c.Confined host target w.tree) :
    (runner.run host (suite target scenarios) reporter state w).2.world.tree = w.tree ∧
    ∀ case start, runner.Starts host (suite target scenarios) reporter state w case start →
      start.tree = w.tree := by
  have hkeeps := suite_keeps_tree h
  exact ⟨Runner.run_keeps (P := fun v => v.tree = w.tree) hkeeps rfl,
    fun case start hstart => hstart.keeps (P := fun v => v.tree = w.tree) hkeeps rfl⟩

end Scenario
end Artifact

namespace Sample

/-- One input file and nothing else. -/
def inputTree : Tree where
  entries := [(spot "a.c", .file [] ⟨0o644, .present, 1⟩)]
  nodup := by decide

/-- Called on `a.c` alone, a program writes `a.c.g`; `cmp` cannot be started.  The
ambient state counts the programs that ran, the clock shows that count, and
`code` gives the return code for it. -/
def writer (code : Nat → Nat) : Host Nat where
  cwd := []
  launch l w :=
    if l.program = "cmp" then .error .notFound
    else
      let tree := if l.args = ["a.c"] then
        w.tree.insert (spot "a.c.g") (.file [] ⟨0o644, .present, 2⟩) else w.tree
      .ok (⟨.code (code w.ambient), [], []⟩, ⟨tree, w.ambient + 1⟩)
  clock w := w.ambient

def fix : Tool where
  name := "fix"
  template := (Template.program "fix").inputs

/-- A case about `a.c`. -/
def scenario (checker : Option String) : Artifact.Scenario :=
  ⟨utf8 "a.c", ⟨"g", "f"⟩, checker.map Artifact.diffChecker⟩

theorem artifact_scenario (checker : Option String) :
    (scenario checker).artifact = utf8 "a.c.g" := by
  change Path.suffixed (utf8 "a.c") "g" = utf8 "a.c.g"
  decide

theorem reference_scenario (checker : Option String) :
    (scenario checker).reference = utf8 "a.c.f" := by
  change Path.suffixed (utf8 "a.c") "f" = utf8 "a.c.f"
  decide

/-- The artifact is wanted, it is not wanted, and it is wanted but the checker
cannot be started. -/
def scenarios : List Artifact.Scenario :=
  [scenario (some "diff"), scenario none, scenario (some "cmp")]

theorem start_writer {code : Nat → Nat} {l : Launch} {v after : World Nat} {done : Completion}
    (h : (writer code).start l v = .ok (done, after)) :
    after.tree = if l.args = ["a.c"] then
      v.tree.insert (spot "a.c.g") (.file [] ⟨0o644, .present, 2⟩) else v.tree := by
  unfold Host.start writer at h
  split at h
  · dsimp only at h
    split at h
    · cases h
    · cases h
      rfl
  · cases h

theorem vacant : inputTree.Vacant [] (utf8 "a.c.g") := by
  intro e he
  have hnone : (inputTree.lstat [] (utf8 "a.c.g")).toOption = none := by decide +kernel
  rw [he] at hnone
  cases hnone

theorem addsFile : inputTree.AddsFile [] (utf8 "a.c.g")
    (inputTree.insert (spot "a.c.g") (.file [] ⟨0o644, .present, 2⟩)) :=
  ⟨spot "a.c.g", [], ⟨0o644, .present, 2⟩, by decide +kernel, by decide +kernel, by decide +kernel,
    by decide +kernel⟩

theorem words_fix : fix.template.render (.ofPaths [utf8 "a.c"]) = ["fix", "a.c"] := by
  decide +kernel

theorem words_check (name : String) :
    (Artifact.diffChecker name).template.render (.ofPaths [utf8 "a.c.g", utf8 "a.c.f"]) =
      [name, "-s", "a.c.g", "a.c.f"] := by
  change [name, "-s", Text.lossy (utf8 "a.c.g"), Text.lossy (utf8 "a.c.f")] = _
  rw [Text.lossy_utf8, Text.lossy_utf8]

theorem confined (code : Nat → Nat) (checker : Option String) :
    (scenario checker).Confined (writer code) fix inputTree where
  vacant := artifact_scenario checker ▸ vacant
  target := by
    intro v log after hv hcall
    obtain ⟨program, rest, done, hrender, hstart, -⟩ := Tool.call_ok hcall
    obtain ⟨rfl, rfl⟩ := List.cons.inj (words_fix.symm.trans hrender)
    have hafter := start_writer hstart
    rw [if_pos rfl, hv] at hafter
    rw [hafter, artifact_scenario]
    exact .inr addsFile
  checker := by
    rintro _ hchecker v log after hcall
    obtain ⟨name, -, rfl⟩ := Option.map_eq_some_iff.mp hchecker
    obtain ⟨program, rest, done, hrender, hstart, -⟩ := Tool.call_ok hcall
    rw [artifact_scenario, reference_scenario, words_check] at hrender
    obtain ⟨rfl, rfl⟩ := List.cons.inj hrender
    have hafter := start_writer hstart
    rwa [if_neg (by simp)] at hafter

end Sample

namespace Artifact.Scenario

/-- Three cases about one input, of which the last breaks the run off, because
its checker cannot be started: the tree is restored. -/
theorem run_restores_tree_sample :
    let ended := ({} : Runner).run (Sample.writer id) (suite Sample.fix Sample.scenarios) .silent ()
      ⟨Sample.inputTree, 0⟩
    (∀ c ∈ Sample.scenarios, c.Confined (Sample.writer id) Sample.fix Sample.inputTree) ∧
    ended.1 = .error (.spawn "diff" "cmp" .notFound) ∧ ended.2.world.tree = Sample.inputTree := by
  have hconfined : ∀ c ∈ Sample.scenarios,
      c.Confined (Sample.writer id) Sample.fix Sample.inputTree := by
    simp [Sample.scenarios, Sample.confined]
  refine ⟨hconfined, ?_, ?_⟩
  · decide +kernel
  · exact (run_restores_tree {} _ _ _ .silent () ⟨Sample.inputTree, 0⟩ hconfined).1

end Artifact.Scenario
end Assay

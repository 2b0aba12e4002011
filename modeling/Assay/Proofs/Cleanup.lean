import Assay.Proofs.Discovery
import Assay.Proofs.Restoration
import Assay.Proofs.Validation
import Assay.Proofs.Verdict

/-! # What cleaning up can hit

At the end of a case its artifact is removed, a file that is named after the input.
A valid configuration makes sure that this is neither the input of the case nor its own
reference file, but it may be those of another fixture: `Cli.cleanup_hits` says exactly
when.  If the suffixes are apart from the extension (`ArtifactLayout.Clear`), no entry that
the path of a fixture or of a reference file names is ever removed, by whatever way the
path leads there.
-/

namespace Assay

open Text (utf8)

variable {σ : Type}

/-! ## What a case does to the world -/

/-- Programs, started one after the other, lead from a world to another. -/
inductive Host.Reaches (host : Host σ) (w : World σ) : World σ → Prop
  | refl : Reaches host w w
  | step {v after : World σ} {l : Launch} {done : Completion} :
      Reaches host w v → host.start l v = .ok (done, after) → Reaches host w after

theorem Host.Reaches.keeps {host : Host σ} {w v : World σ} {P : World σ → Prop}
    (h : host.Reaches w v)
    (hstart : ∀ l v done after, host.start l v = .ok (done, after) → P v → P after) (hw : P w) :
    P v := by
  induction h with
  | refl => exact hw
  | step _ hstarted ih => exact hstart _ _ _ _ hstarted ih

theorem Host.Reaches.call {host : Host σ} {w v after : World σ} {tool : Tool} {args : ToolArgs}
    {log : InvocationLog} (h : host.Reaches w v)
    (hcall : tool.call host args v = .ok (log, after)) : host.Reaches w after := by
  obtain ⟨_, _, _, -, hstart, -⟩ := Tool.call_ok hcall
  exact h.step hstart

/-- The worlds that programs can lead to, and those from which then the artifact has been
removed. -/
inductive Artifact.Leaves (host : Host σ) (artifact : Path) (w : World σ) : World σ → Prop
  | kept {v : World σ} : host.Reaches w v → Leaves host artifact w v
  | removed {v : World σ} : host.Reaches w v → Leaves host artifact w (cleaned host artifact v)

theorem Artifact.Leaves.keeps {host : Host σ} {artifact : Path} {w v : World σ}
    {P : World σ → Prop} (h : Leaves host artifact w v)
    (hstart : ∀ l v done after, host.start l v = .ok (done, after) → P v → P after)
    (hclean : ∀ v, P v → P (cleaned host artifact v)) (hw : P w) : P v := by
  cases h with
  | kept hreaches => exact hreaches.keeps hstart hw
  | removed hreaches => exact hclean _ (hreaches.keeps hstart hw)

/-- A case starts programs and may remove its artifact when they have ended.  It does
nothing else to the world. -/
theorem Conformance.caseFor_leaves (host : Host σ) (config : Config) (target : Tool) (f : Fixture)
    (w : World σ) :
    Artifact.Leaves host (config.layout.artifact f.path) w
      ((caseFor config f).run host target w).2 := by
  unfold caseFor
  split
  · simp only [Artifact.run_produced]
    split
    · dsimp only
      exact .removed .refl
    · rename_i call called hcall
      have hcalled := Host.Reaches.refl.call hcall
      split
      · dsimp only
        exact .removed hcalled
      · rename_i check compared hcheck
        dsimp only
        exact .removed (hcalled.call hcheck)
  · simp only [Artifact.run_absent]
    split
    · exact .kept .refl
    · rename_i call called hcall
      have hcalled := Host.Reaches.refl.call hcall
      split
      · dsimp only
        exact .removed hcalled
      · exact .kept hcalled

namespace Cli

variable {host : Host σ} {config : Config} {w : World σ} {P : World σ → Prop}

/-- If there are fixtures, the program leaves the world that the run of their cases
leaves. -/
theorem conform_world (host : Host σ) (config : Config) (w : World σ) {fixtures : List Fixture}
    (hvalid : config.validate host.cwd w.tree = .ok ())
    (hfound : Fixture.discover w.tree host.cwd config.inputDir config.extension = .ok fixtures)
    (hsome : fixtures ≠ []) :
    (conform host config w).world = ((runnerFor config).run host
      ⟨Conformance.subjectOf config, fixtures.map (Conformance.caseFor config)⟩
      (reporterFor config) {} w).2.world := by
  have hsuite : (fixtures.map (Conformance.caseFor config) : List (TestCase σ)).isEmpty = false := by
    simpa using hsome
  rw [(conform_concludes host config w).of_prepared (prepare_of_found hvalid hfound) hsuite]
  split
  · rename_i e p hended
    rw [hended]
    rfl
  · rename_i r p hended
    rw [hended]

/-- What programs and the removal of artifacts keep holds when the program ends. -/
theorem conform_keeps
    (hstart : ∀ l v done after, host.start l v = .ok (done, after) → P v → P after)
    (hclean : ∀ fixtures,
      Fixture.discover w.tree host.cwd config.inputDir config.extension = .ok fixtures →
      ∀ f ∈ fixtures, ∀ v, P v → P (Artifact.cleaned host (config.layout.artifact f.path) v))
    (hw : P w) : P (conform host config w).world := by
  have hrun {suite : Suite σ} (hprepared : prepare config host.cwd w.tree = .ok suite) :
      P ((runnerFor config).run host suite (reporterFor config) {} w).2.world := by
    obtain ⟨fixtures, hfound, rfl⟩ := Conformance.suite_ok (prepare_eq_ok.mp hprepared).2
    refine Runner.run_keeps (fun case hcase v hv => ?_) hw
    obtain ⟨f, hf, rfl⟩ := List.mem_map.mp hcase
    exact (Conformance.caseFor_leaves host config _ f v).keeps hstart
      (hclean fixtures hfound f hf) hv
  generalize hending : conform host config w = ending
  have hconcludes := conform_concludes host config w
  rw [hending] at hconcludes
  cases hconcludes with
  | unprepared _ => exact hw
  | idle _ _ => exact hw
  | aborted hprepared _ hended | reported hprepared _ hended =>
    have hlast := hrun hprepared
    rwa [hended] at hlast

end Cli

/-! ## Removing by name -/

/-- What has another name than the artifact is not removed with it. -/
theorem Artifact.cleaned_spares {host : Host σ} {artifact : Path} {loc : Location}
    (hname : Path.Ordinary (Path.fileName artifact))
    (hloc : loc.getLast? ≠ some (Path.fileName artifact)) (v : World σ) :
    (cleaned host artifact v).tree.get? loc = v.tree.get? loc := by
  unfold cleaned
  cases hremoved : v.tree.unlink host.cwd artifact with
  | error e => rfl
  | ok tree =>
    obtain ⟨-, loc', entry, hway, -, rfl⟩ := Tree.unlink_eq_ok hremoved
    refine Tree.get?_erase_of_ne ?_
    rintro rfl
    exact hloc (Tree.resolve_fileName hname hway)

/-! ## Names that are apart -/

namespace ArtifactLayout

variable {layout : ArtifactLayout} {extension : String}

/-- **Artifacts are named apart from inputs with the extension and their reference
files**: neither the suffix of artifacts, nor what one of the suffixes has before the
other, ends with the extension. -/
structure Clear (layout : ArtifactLayout) (extension : String) : Prop where
  input : Path.lastPart (utf8 layout.artifactSuffix) ≠ utf8 extension
  artifact : ∀ z, Path.lastPart (utf8 z) = utf8 extension →
    layout.artifactSuffix ≠ z ++ "." ++ layout.referenceSuffix
  reference : ∀ z, Path.lastPart (utf8 z) = utf8 extension →
    layout.referenceSuffix ≠ z ++ "." ++ layout.artifactSuffix

/-- Suffixes without a dot are clear as soon as that of artifacts is not the
extension. -/
theorem clear_of_notMem (hartifact : Path.dot ∉ utf8 layout.artifactSuffix)
    (hreference : Path.dot ∉ utf8 layout.referenceSuffix)
    (hne : layout.artifactSuffix ≠ extension) : layout.Clear extension := by
  have hdot (a b : String) : Path.dot ∈ utf8 (a ++ "." ++ b) := by
    rw [Text.utf8_append, Text.utf8_append]
    exact List.mem_append_left _ (List.mem_append_right _ (by decide))
  refine ⟨?_, fun z _ heq => hartifact (heq ▸ hdot z _), fun z _ heq => hreference (heq ▸ hdot z _)⟩
  rw [Path.lastPart_of_notMem hartifact]
  exact Text.utf8_injective.ne hne

/-- An artifact is never named as its own input or reference file. -/
theorem artifact_ne_own (hne : layout.artifactSuffix ≠ layout.referenceSuffix) (path : Path) :
    layout.artifact path ≠ path ∧ layout.artifact path ≠ layout.reference path := by
  refine ⟨fun heq => ?_, fun heq => hne (Text.utf8_injective ?_)⟩
  · simp [artifact, Path.suffixed] at heq
  · simpa [artifact, reference, Path.suffixed] using heq

/-- No artifact is named as an input with the extension or a reference file of one.  The
names may be whole paths or last names. -/
theorem Clear.artifact_ne (h : layout.Clear extension)
    (hne : layout.artifactSuffix ≠ layout.referenceSuffix) {x y : Path}
    (hx : Path.lastPart x = utf8 extension) (hy : Path.lastPart y = utf8 extension) :
    layout.artifact x ≠ y ∧ layout.artifact x ≠ layout.reference y := by
  constructor
  · rintro rfl
    exact h.input ((Path.lastPart_suffixed x _).symm.trans hy)
  · intro heq
    rcases Path.suffixed_inj heq with ⟨-, hsame⟩ | ⟨z, hz, rfl⟩ | ⟨z, hz, rfl⟩
    · exact hne hsame
    · exact h.artifact z ((Path.lastPart_suffixed x z).symm.trans hy) hz
    · exact h.reference z ((Path.lastPart_suffixed y z).symm.trans hx) hz

end ArtifactLayout

/-! ## Fixtures and their reference files -/

namespace Cli

/-- Neither cleaning up after one of the fixtures changes what stands at the location,
nor does the whole run, if its programs do not. -/
structure Spares (host : Host σ) (config : Config) (fixtures : List Fixture) (w : World σ)
    (loc : Location) : Prop where
  cleanup : ∀ f ∈ fixtures, ∀ v : World σ,
    (Artifact.cleaned host (config.layout.artifact f.path) v).tree.get? loc = v.tree.get? loc
  run : (∀ l v done after, host.start l v = .ok (done, after) →
      after.tree.get? loc = v.tree.get? loc) →
    (conform host config w).world.tree.get? loc = w.tree.get? loc

variable {host : Host σ} {config : Config} {w : World σ} {fixtures : List Fixture}

/-- Whatever keeps the names of artifacts off a location spares it. -/
theorem spares_of_fileName_ne {loc : Location}
    (hfound : Fixture.discover w.tree host.cwd config.inputDir config.extension = .ok fixtures)
    (hname : ∀ f ∈ fixtures, Path.Ordinary (Path.fileName (config.layout.artifact f.path)) ∧
      loc.getLast? ≠ some (Path.fileName (config.layout.artifact f.path))) :
    Spares host config fixtures w loc where
  cleanup f hf := Artifact.cleaned_spares (hname f hf).1 (hname f hf).2
  run hstart := by
    refine conform_keeps (P := fun v => v.tree.get? loc = w.tree.get? loc) ?_ ?_ rfl
    · intro l v done after h hv
      exact (hstart l v done after h).trans hv
    · intro found hagain f hf v hv
      cases hfound.symm.trans hagain
      exact (Artifact.cleaned_spares (hname f hf).1 (hname f hf).2 v).trans hv

/-- No text that names are made of has a slash. -/
def SlashFree (config : Config) : Prop :=
  ∀ text ∈ [config.extension, config.layout.artifactSuffix, config.layout.referenceSuffix],
    Path.slash ∉ utf8 text

/-- The last name of a fixture has the extension. -/
theorem fileName_of_mem (hvalid : config.Valid host.cwd w.tree)
    (hfound : Fixture.discover w.tree host.cwd config.inputDir config.extension = .ok fixtures)
    (hslash : SlashFree config) {f : Fixture} (hf : f ∈ fixtures) :
    Path.Ordinary (Path.fileName f.path) ∧
      Path.lastPart (Path.fileName f.path) = utf8 config.extension := by
  obtain ⟨stem, hpath, hdot⟩ := Fixture.path_of_mem hfound hf
  rw [hpath, Path.fileName_suffixed stem (hslash _ (by simp))]
  refine ⟨Path.ordinary_suffixed hvalid.extension_ne fun _ heq => hdot (by simp [heq, Path.self]), ?_⟩
  rw [Path.lastPart_suffixed, Path.lastPart_of_notMem hdot]

/-- If names are apart, then so are the entries that paths name. -/
theorem spares_of_clear (hvalid : config.Valid host.cwd w.tree)
    (hfound : Fixture.discover w.tree host.cwd config.inputDir config.extension = .ok fixtures)
    (hclear : config.layout.Clear config.extension) (hslash : SlashFree config)
    {g : Fixture} (hg : g ∈ fixtures) {path : Path}
    (hpath : path = g.path ∨ path = config.layout.reference g.path)
    {t : Tree} {loc : Location} {entry : Option Entry}
    (hway : t.resolve host.cwd path false = .ok ⟨loc, entry⟩) :
    Spares host config fixtures w loc := by
  obtain ⟨hordinary, hlast⟩ := fileName_of_mem hvalid hfound hslash hg
  refine spares_of_fileName_ne hfound fun f hf => ?_
  obtain ⟨hordinary', hlast'⟩ := fileName_of_mem hvalid hfound hslash hf
  have hne := hclear.artifact_ne hvalid.suffixes hlast' hlast
  have hartifact : Path.fileName (config.layout.artifact f.path) =
      config.layout.artifact (Path.fileName f.path) :=
    Path.fileName_suffixed f.path (hslash _ (by simp))
  have hreference : Path.fileName (config.layout.reference g.path) =
      config.layout.reference (Path.fileName g.path) :=
    Path.fileName_suffixed g.path (hslash _ (by simp))
  -- an entry has the last name of its path, so it is enough to compare last names
  rw [hartifact]
  refine ⟨Path.ordinary_suffixed hvalid.artifactSuffix_ne fun h => absurd h hordinary'.1, ?_⟩
  rcases hpath with rfl | rfl
  · rw [Tree.resolve_fileName hordinary hway]
    exact fun heq => hne.1 (Option.some.inj heq).symm
  · have hordinary'' : Path.Ordinary (Path.fileName (config.layout.reference g.path)) := by
      rw [hreference]
      exact Path.ordinary_suffixed hvalid.referenceSuffix_ne fun h => absurd h hordinary.1
    rw [Tree.resolve_fileName hordinary'' hway, hreference]
    exact fun heq => hne.2 (Option.some.inj heq).symm

/-- The artifact of one fixture is a reference file of another exactly if the suffixes
overlap so. -/
theorem artifact_eq_reference_iff (hvalid : config.Valid host.cwd w.tree)
    (hfound : Fixture.discover w.tree host.cwd config.inputDir config.extension = .ok fixtures)
    {f : Fixture} (hf : f ∈ fixtures) :
    (∃ g ∈ fixtures, config.layout.artifact f.path = config.layout.reference g.path) ↔
      (∃ z, config.layout.artifactSuffix = z ++ "." ++ config.layout.referenceSuffix ∧
        Path.lastPart (utf8 z) = utf8 config.extension ∧
        Fixture.Lies w.tree host.cwd config.inputDir f.category (f.path.suffixed z)) ∨
      ∃ z, config.layout.referenceSuffix = z ++ "." ++ config.layout.artifactSuffix ∧
        ∃ g ∈ fixtures, f.path = g.path.suffixed z := by
  have hlonger := Fixture.suffixed_mem_iff hfound hvalid.extension_ne hf
  constructor
  · rintro ⟨g, hg, heq⟩
    rcases Path.suffixed_inj heq with ⟨-, hsame⟩ | ⟨z, hz, hgpath⟩ | ⟨z, hz, hfpath⟩
    · -- equal suffixes are the one overlap that a valid configuration rules out
      exact absurd hsame hvalid.suffixes
    · exact .inl ⟨z, hz, (hlonger z).mp ⟨g, hg, hgpath⟩⟩
    · exact .inr ⟨z, hz, g, hg, hfpath⟩
  · rintro (⟨z, hz, hlies⟩ | ⟨z, hz, g, hg, hfpath⟩)
    · obtain ⟨g, hg, hgpath⟩ := (hlonger z).mpr hlies
      refine ⟨g, hg, ?_⟩
      rw [ArtifactLayout.artifact, ArtifactLayout.reference, hgpath, hz, Path.suffixed_suffixed]
    · refine ⟨g, hg, ?_⟩
      rw [ArtifactLayout.artifact, ArtifactLayout.reference, hfpath, hz, Path.suffixed_suffixed]

/-- **What cleaning up can hit.**  After a case of a fixture nothing has been done to the
world but what its programs did, and that its artifact has been removed.

That is never the input of the case or its own reference file.  It is the input of another
case exactly if the suffix of artifacts ends with the extension and there is such a file;
and it is the reference file of another case exactly if one of the suffixes is the other
with something in front, and the one input is the other with that behind.

If names are clear of each other, neither happens; and if they have no slashes, then the
entries that the paths of fixtures and reference files name are left as they are by the
removal of any artifact from any world, and by the run as a whole, however it ends and
whatever its programs do elsewhere. -/
theorem cleanup_hits (host : Host σ) (config : Config) (w : World σ) (fixtures : List Fixture)
    (hvalid : config.validate host.cwd w.tree = .ok ())
    (hfound : Fixture.discover w.tree host.cwd config.inputDir config.extension = .ok fixtures) :
    let layout := config.layout
    let lies := Fixture.Lies w.tree host.cwd config.inputDir
    (∀ f ∈ fixtures,
      (∀ v, Artifact.Leaves host (layout.artifact f.path) v
        ((Conformance.caseFor config f).run host (Conformance.subjectOf config) v).2) ∧
      layout.artifact f.path ≠ f.path ∧ layout.artifact f.path ≠ layout.reference f.path ∧
      ((∃ g ∈ fixtures, layout.artifact f.path = g.path) ↔
        Path.lastPart (utf8 layout.artifactSuffix) = utf8 config.extension ∧
          lies f.category (layout.artifact f.path)) ∧
      ((∃ g ∈ fixtures, layout.artifact f.path = layout.reference g.path) ↔
        (∃ z, layout.artifactSuffix = z ++ "." ++ layout.referenceSuffix ∧
          Path.lastPart (utf8 z) = utf8 config.extension ∧ lies f.category (f.path.suffixed z)) ∨
        ∃ z, layout.referenceSuffix = z ++ "." ++ layout.artifactSuffix ∧
          ∃ g ∈ fixtures, f.path = g.path.suffixed z)) ∧
    (layout.Clear config.extension →
      (∀ f ∈ fixtures, ∀ g ∈ fixtures,
        layout.artifact f.path ≠ g.path ∧ layout.artifact f.path ≠ layout.reference g.path) ∧
      (SlashFree config → ∀ g ∈ fixtures, ∀ path, path = g.path ∨ path = layout.reference g.path →
        ∀ (t : Tree) loc entry, t.resolve host.cwd path false = .ok ⟨loc, entry⟩ →
          Spares host config fixtures w loc)) := by
  intro layout lies
  have hv := Config.validate_eq_ok_iff.mp hvalid
  refine ⟨fun f hf => ⟨?_, ?_, ?_, ?_, ?_⟩, fun hclear => ⟨?_, ?_⟩⟩
  · exact Conformance.caseFor_leaves host config _ f
  · exact (ArtifactLayout.artifact_ne_own hv.suffixes f.path).1
  · exact (ArtifactLayout.artifact_ne_own hv.suffixes f.path).2
  · simp only [eq_comm (a := layout.artifact f.path)]
    exact Fixture.suffixed_mem_iff hfound hv.extension_ne hf layout.artifactSuffix
  · exact artifact_eq_reference_iff hv hfound hf
  · intro f hf g hg
    exact hclear.artifact_ne hv.suffixes (Fixture.lastPart_of_mem hfound hf)
      (Fixture.lastPart_of_mem hfound hg)
  · intro hslash g hg path hpath t loc entry hway
    exact spares_of_clear hv hfound hclear hslash hg hpath hway

/-- In the sample run an artifact is written next to the fixture that can be fixed, and
removed again: the fixture stays, and so would its reference file. -/
theorem cleanup_hits_sample :
    let fixtures : List Fixture :=
      [⟨.goodNoFix, utf8 "in/good_no_fix/b.c"⟩, ⟨.goodCanFix, utf8 "in/good_can_fix/a.c"⟩]
    Sample.config.validate [] Sample.fixtureTree = .ok () ∧
    Fixture.discover Sample.fixtureTree [] (utf8 "in") "c" = .ok fixtures ∧
    Spares Sample.fixer Sample.config fixtures ⟨Sample.fixtureTree, ()⟩
      (Sample.spot "in/good_can_fix/a.c") ∧
    Spares Sample.fixer Sample.config fixtures ⟨Sample.fixtureTree, ()⟩
      (Sample.spot "in/good_can_fix/a.c.f") := by
  intro fixtures
  have hvalid : Sample.config.validate [] Sample.fixtureTree = .ok () := by decide +kernel
  have hfound : Fixture.discover Sample.fixtureTree [] (utf8 "in") "c" = .ok fixtures := by
    decide +kernel
  have hclear : Sample.config.layout.Clear "c" :=
    ArtifactLayout.clear_of_notMem (by decide) (by decide) (by decide)
  have hspared := ((cleanup_hits Sample.fixer Sample.config ⟨Sample.fixtureTree, ()⟩ fixtures
    hvalid hfound).2 hclear).2 (by unfold SlashFree; decide)
    ⟨.goodCanFix, utf8 "in/good_can_fix/a.c"⟩ (by simp [fixtures])
  have hinput : Sample.fixtureTree.resolve [] (utf8 "in/good_can_fix/a.c") false =
      .ok ⟨(Sample.spot "in/good_can_fix/a.c"), some (.file [] ⟨0o644, .present, 6⟩)⟩ := by
    decide +kernel
  have hreference : Sample.fixtureTree.resolve [] (utf8 "in/good_can_fix/a.c.f") false =
      .ok ⟨(Sample.spot "in/good_can_fix/a.c.f"), none⟩ := by
    decide +kernel
  exact ⟨hvalid, hfound, hspared _ (.inl rfl) _ _ _ hinput, hspared _ (.inr rfl) _ _ _ hreference⟩

end Cli

namespace Sample

/-- Two inputs, of which one is named as an artifact of the other if these have the
extension of inputs for their suffix. -/
def nestedTree : Tree where
  entries := [(spot "t", .file [] ⟨0o755, .present, 1⟩), (spot "in", .dir ⟨0o755, .present, 2⟩),
    (spot "in/good_can_fix", .dir ⟨0o755, .present, 3⟩),
    (spot "in/good_can_fix/a.c", .file [] ⟨0o644, .present, 4⟩),
    (spot "in/good_can_fix/a.c.c", .file [] ⟨0o644, .present, 5⟩)]
  nodup := by decide

def nestedFixtures : List Fixture :=
  [⟨.goodCanFix, utf8 "in/good_can_fix/a.c"⟩, ⟨.goodCanFix, utf8 "in/good_can_fix/a.c.c"⟩]

theorem discover_nestedTree :
    Fixture.discover nestedTree [] (utf8 "in") "c" = .ok nestedFixtures := by
  have hnames : Fixture.listFilesBy (Fixture.readerOf nestedTree []) nestedTree []
      (Fixture.dirOf (utf8 "in") .goodCanFix) "c" = .ok (nestedFixtures.map Fixture.path) :=
    Fixture.listFilesBy_of_sorted [utf8 "a.c", utf8 "a.c.c"] [utf8 "a.c", utf8 "a.c.c"]
      (by decide +kernel) (by decide +kernel) (by decide +kernel)
  simp only [Fixture.discover, Fixture.discoverBy, Category.all, List.mapM_cons,
    Fixture.ofCategory, hnames]
  decide +kernel

def nestedConfig : Config := { config with layout := ⟨"c", "f"⟩ }

/-- Every program returns zero and changes nothing. -/
def idler : Host Unit where
  cwd := []
  launch _ w := .ok (⟨.code 0, [], []⟩, w)
  clock _ := 0

end Sample

/-- The configuration is valid and no program changes anything, but when the run has
ended an input is gone. -/
theorem Cli.cleanup_removes_input :
    Sample.nestedConfig.validate [] Sample.nestedTree = .ok () ∧
    Fixture.discover Sample.nestedTree [] (utf8 "in") "c" = .ok Sample.nestedFixtures ∧
    (conform Sample.idler Sample.nestedConfig ⟨Sample.nestedTree, ()⟩).world.tree.get?
      (Sample.spot "in/good_can_fix/a.c.c") = none := by
  have hvalid : Sample.nestedConfig.validate [] Sample.nestedTree = .ok () := by decide +kernel
  refine ⟨hvalid, Sample.discover_nestedTree, ?_⟩
  rw [conform_world Sample.idler Sample.nestedConfig ⟨Sample.nestedTree, ()⟩ hvalid
    Sample.discover_nestedTree (by decide)]
  decide +kernel

end Assay

import Assay.Config

/-! # Valid configurations

`Config.validate` goes through its checks one after the other and reports the first
that fails.  `Config.Valid` is what holds when none does.
-/

namespace Assay.Config

variable {c : Config} {cwd : Location} {tree : Tree}

/-- What is checked of a configuration: the tool is a file, the directory of the
fixtures is there, no required text is empty, and artifacts are not named as reference
files are. -/
structure Valid (c : Config) (cwd : Location) (tree : Tree) : Prop where
  tool : ∃ data a, tree.stat cwd c.toolPath = .ok (.file data a)
  inputDir : tree.isDirAt cwd c.inputDir = true
  texts : ∀ t ∈ c.requiredTexts, t.2 ≠ ""
  suffixes : c.layout.artifactSuffix ≠ c.layout.referenceSuffix

theorem Valid.extension_ne (h : c.Valid cwd tree) : c.extension ≠ "" :=
  h.texts ("fixture extension", c.extension) (by simp [requiredTexts])

theorem Valid.artifactSuffix_ne (h : c.Valid cwd tree) : c.layout.artifactSuffix ≠ "" :=
  h.texts ("artifact suffix", c.layout.artifactSuffix) (by simp [requiredTexts])

theorem Valid.referenceSuffix_ne (h : c.Valid cwd tree) : c.layout.referenceSuffix ≠ "" :=
  h.texts ("reference suffix", c.layout.referenceSuffix) (by simp [requiredTexts])

/-- **A configuration is accepted exactly if it is valid.** -/
theorem validate_eq_ok_iff : c.validate cwd tree = .ok () ↔ c.Valid cwd tree := by
  unfold validate
  -- each check in turn: where it fails, neither side holds
  cases hstat : tree.stat cwd c.toolPath with
  | error e =>
    refine iff_of_false (fun h => by cases h) ?_
    rintro ⟨⟨data, a, htool⟩, -⟩
    cases hstat.symm.trans htool
  | ok e =>
    cases hfile : e.isFile with
    | false =>
      refine iff_of_false (fun h => by simp only [hfile] at h; cases h) ?_
      rintro ⟨⟨data, a, htool⟩, -⟩
      cases hstat.symm.trans htool
      cases hfile
    | true =>
      cases hdir : tree.isDirAt cwd c.inputDir with
      | false =>
        refine iff_of_false (fun h => by simp only [hfile] at h; cases h) ?_
        rintro ⟨-, hinput, -, -⟩
        cases hdir.symm.trans hinput
      | true =>
        cases hempty : c.requiredTexts.find? (·.2.isEmpty) with
        | some t =>
          refine iff_of_false (fun h => by simp only [hfile] at h; cases h) ?_
          rintro ⟨-, -, htexts, -⟩
          exact htexts t (List.mem_of_find?_eq_some hempty) (by simpa using List.find?_some hempty)
        | none =>
          obtain ⟨data, a, rfl⟩ : ∃ data a, e = .file data a := by
            cases e with
            | file data a => exact ⟨data, a, rfl⟩
            | _ => cases hfile
          have htexts : ∀ t ∈ c.requiredTexts, t.2 ≠ "" := by
            simpa using List.find?_eq_none.mp hempty
          by_cases hsuffixes : c.layout.artifactSuffix = c.layout.referenceSuffix
          · refine iff_of_false (fun h => ?_) fun h => h.suffixes hsuffixes
            simp only [hsuffixes] at h
            cases h
          · refine iff_of_true ?_ ⟨⟨data, a, hstat⟩, hdir, htexts, hsuffixes⟩
            simp only [hsuffixes]
            rfl

end Assay.Config

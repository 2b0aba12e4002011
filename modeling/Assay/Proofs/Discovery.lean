import Assay.Fixture
import Assay.Proofs.Suffixes

/-! # Which files are fixtures

The fixtures are the regular files in the directories of the categories that have the
wanted extension (`Fixture.mem_discover`).  The path of a fixture says in which of the
directories it lies (`Fixture.pathOf_inj`).
-/

namespace Assay

open Text (utf8)

theorem Category.mem_all (category : Category) : category ∈ all := by
  cases category <;> simp [all]

namespace Fixture

variable {read : Reader} {tree : Tree} {cwd : Location} {root : Path} {extension : String}

/-! ## Paths of fixtures -/

/-- The path of a name in the directory of a category. -/
def pathOf (root : Path) (category : Category) (name : Path) : Path :=
  Path.join (dirOf root category) name

/-- Paths in the directories of the categories differ only after the root. -/
theorem pathOf_eq (root : Path) (category : Category) (name : Path) :
    pathOf root category name =
      Path.join root [] ++ (utf8 category.dirName ++ Path.slash :: name) := by
  have hdir : dirOf root category = Path.join root [] ++ utf8 category.dirName := by
    unfold dirOf Path.join
    split <;> simp
  have hsome : utf8 category.dirName ≠ [] := by cases category <;> decide
  have hlast : (utf8 category.dirName).getLast? ≠ some Path.slash := by cases category <;> decide
  have hempty : (dirOf root category).isEmpty = false := by simp [hdir, hsome]
  have hslash : Path.endsWithSlash (dirOf root category) = false := by
    rw [Path.endsWithSlash, hdir, List.getLast?_append_of_ne_nil _ hsome]
    simpa using hlast
  rw [pathOf, Path.join, hempty, hslash, hdir]
  simp

theorem pathOf_suffixed (root : Path) (category : Category) (name : Path) (suffix : String) :
    pathOf root category (name.suffixed suffix) = (pathOf root category name).suffixed suffix := by
  simp [pathOf_eq, Path.suffixed]

theorem pathOf_inj {c c' : Category} {name name' : Path} :
    pathOf root c name = pathOf root c' name' ↔ c = c' ∧ name = name' := by
  constructor
  · intro h
    rw [pathOf_eq, pathOf_eq, List.append_cancel_left_eq] at h
    -- the names of the directories have no slash, so the first one comes right after them
    have hfirst : ∀ category : Category, Path.slash ∉ utf8 category.dirName := by
      intro category
      cases category <;> decide
    have hsplit := congrArg (List.splitOn Path.slash) h
    rw [List.splitOn_append_cons_self_of_not_mem (hfirst c),
      List.splitOn_append_cons_self_of_not_mem (hfirst c')] at hsplit
    have hdirs : utf8 c.dirName = utf8 c'.dirName := (List.cons.inj hsplit).1
    have hsame : c = c' := by revert hdirs; cases c <;> cases c' <;> decide
    rw [hsame, List.append_cancel_left_eq] at h
    exact ⟨hsame, (List.cons.inj h).2⟩
  · rintro ⟨rfl, rfl⟩
    rfl

/-! ## Members -/

/-- A directory is read to its end if each entry is a name. -/
theorem mapM_id_eq_ok_iff {ε α : Type} {entries : List (Except ε α)} {names : List α} :
    entries.mapM id = .ok names ↔ entries = names.map .ok := by
  induction entries generalizing names with
  | nil => cases names <;> simp [pure, Except.pure]
  | cons entry entries ih =>
    rw [List.mapM_cons]
    cases entry with
    | error e =>
      refine iff_of_false (fun h => by cases h) ?_
      cases names <;> simp
    | ok name =>
      cases hrest : entries.mapM id with
      | error e =>
        refine iff_of_false (fun h => by cases h) ?_
        cases names with
        | nil => simp
        | cons _ names =>
          intro h
          cases hrest.symm.trans (ih.mpr (List.cons.inj h).2)
      | ok rest =>
        cases names with
        | nil => exact iff_of_false (fun h => by cases h) (by simp)
        | cons _ names =>
          rw [List.map_cons, List.cons.injEq, ← ih, hrest]
          simp [bind, Except.bind, pure, Except.pure]

theorem readerOf_eq_ok_iff {dir : Path} {entries : List (Except IoError Path)} :
    readerOf tree cwd dir = .ok entries ↔
      ∃ names, tree.listing cwd dir = .ok names ∧ entries = names.map .ok := by
  unfold readerOf
  cases tree.listing cwd dir with
  | error e => exact iff_of_false (fun h => by cases h) (fun ⟨_, h, _⟩ => by cases h)
  | ok names => simp [bind, Except.bind, pure, Except.pure, eq_comm]

theorem readerOf_of_error {dir : Path} {e : IoError} (h : tree.listing cwd dir = .error e) :
    readerOf tree cwd dir = .error e := by
  rw [readerOf, h]
  rfl

/-- A directory that is missing has no files. -/
theorem listFilesBy_of_missing {dir : Path} (h : read dir = .error .notFound) :
    listFilesBy read tree cwd dir extension = .ok [] := by
  unfold listFilesBy
  rw [h]
  exact if_pos rfl

theorem mem_listFilesBy {dir path : Path} :
    (∃ paths, listFilesBy read tree cwd dir extension = .ok paths ∧ path ∈ paths) ↔
      ∃ (names : List Path) (name : Path), read dir = .ok (names.map .ok) ∧ name ∈ names ∧
        path = Path.join dir name ∧ tree.isFileAt cwd path = true ∧
        Path.extension? name = some (utf8 extension) := by
  unfold listFilesBy
  cases read dir with
  | error e =>
    refine iff_of_false ?_ (by simp)
    rintro ⟨paths, hpaths, hpath⟩
    dsimp only at hpaths
    split at hpaths
    · cases hpaths
      cases hpath
    · cases hpaths
  | ok entries =>
    dsimp only
    cases hentries : entries.mapM id with
    | error e =>
      refine iff_of_false (fun ⟨_, h, _⟩ => by cases h) ?_
      rintro ⟨names, name, ⟨rfl⟩, -⟩
      cases hentries.symm.trans (mapM_id_eq_ok_iff.mpr rfl)
    | ok names =>
      obtain rfl := mapM_id_eq_ok_iff.mp hentries
      constructor
      · rintro ⟨_, ⟨rfl⟩, hpath⟩
        simp only [List.mem_map, List.mem_mergeSort, List.mem_filter, Bool.and_eq_true,
          beq_iff_eq] at hpath
        obtain ⟨name, ⟨hname, hfile, hextension⟩, rfl⟩ := hpath
        exact ⟨names, name, rfl, hname, rfl, hfile, hextension⟩
      · rintro ⟨names', name, hsame, hname, rfl, hfile, hextension⟩
        rw [mapM_id_eq_ok_iff.mpr (Except.ok.inj hsame)] at hentries
        obtain rfl := Except.ok.inj hentries
        refine ⟨_, rfl, ?_⟩
        simp only [List.mem_map, List.mem_mergeSort, List.mem_filter, Bool.and_eq_true, beq_iff_eq]
        exact ⟨name, ⟨hname, hfile, hextension⟩, rfl⟩

/-- Names that are in order already keep it. -/
theorem listFilesBy_of_sorted {dir : Path} (names wanted : List Path)
    (hread : read dir = .ok (names.map .ok))
    (hwanted : (names.filter fun name => tree.isFileAt cwd (Path.join dir name) &&
      Path.extension? name == some (utf8 extension)) = wanted)
    (hsorted : wanted.Pairwise fun a b => Path.le a b = true) :
    listFilesBy read tree cwd dir extension = .ok (wanted.map (Path.join dir)) := by
  unfold listFilesBy
  simp only [hread, mapM_id_eq_ok_iff.mpr rfl, hwanted]
  rw [List.mergeSort_of_pairwise hsorted]

theorem mem_ofCategory {category : Category} {f : Fixture} :
    (∃ group, ofCategory read tree cwd root extension category = .ok group ∧ f ∈ group) ↔
      f.category = category ∧ ∃ paths,
        listFilesBy read tree cwd (dirOf root category) extension = .ok paths ∧
        f.path ∈ paths := by
  unfold ofCategory
  cases listFilesBy read tree cwd (dirOf root category) extension with
  | error e =>
    refine iff_of_false ?_ (by simp)
    rintro ⟨group, ⟨⟩, -⟩
  | ok paths =>
    constructor
    · rintro ⟨_, ⟨rfl⟩, hf⟩
      obtain ⟨path, hpath, rfl⟩ := List.mem_map.mp hf
      exact ⟨rfl, paths, rfl, hpath⟩
    · rintro ⟨rfl, _, ⟨rfl⟩, hpath⟩
      exact ⟨_, rfl, List.mem_map.mpr ⟨f.path, hpath, rfl⟩⟩

theorem mem_flatten_mapM {α β ε : Type} {f : α → Except ε (List β)} {xs : List α}
    {groups : List (List β)} (h : xs.mapM f = .ok groups) {b : β} :
    b ∈ groups.flatten ↔ ∃ x ∈ xs, ∃ group, f x = .ok group ∧ b ∈ group := by
  induction xs generalizing groups with
  | nil =>
    cases h
    simp
  | cons x xs ih =>
    rw [List.mapM_cons] at h
    cases hx : f x with
    | error e =>
      rw [hx] at h
      cases h
    | ok group =>
      cases hxs : xs.mapM f with
      | error e =>
        rw [hx, hxs] at h
        cases h
      | ok rest =>
        rw [hx, hxs] at h
        cases h
        simp [hx, ih hxs]

/-- A regular file lies at this path, directly in the directory of the category. -/
def Lies (tree : Tree) (cwd : Location) (root : Path) (category : Category) (path : Path) : Prop :=
  ∃ names name, tree.listing cwd (dirOf root category) = .ok names ∧ name ∈ names ∧
    path = pathOf root category name ∧ tree.isFileAt cwd path = true

variable {fixtures : List Fixture} {f : Fixture}

/-- **The fixtures are the files in the directories that have the extension.** -/
theorem mem_discover (h : discover tree cwd root extension = .ok fixtures) :
    f ∈ fixtures ↔ Lies tree cwd root f.category f.path ∧ ∃ name,
      f.path = pathOf root f.category name ∧ Path.extension? name = some (utf8 extension) := by
  unfold discover discoverBy at h
  cases hgroups : Category.all.mapM (ofCategory (readerOf tree cwd) tree cwd root extension) with
  | error e =>
    rw [hgroups] at h
    cases h
  | ok groups =>
    rw [hgroups] at h
    cases h
    simp only [mem_flatten_mapM hgroups, mem_ofCategory, mem_listFilesBy, readerOf_eq_ok_iff]
    constructor
    · rintro ⟨_, -, rfl, names, name, ⟨listed, hlisted, hsame⟩, hname, hpath, hfile, hextension⟩
      obtain rfl := List.map_injective_iff.mpr (fun _ _ => Except.ok.inj) hsame
      exact ⟨⟨names, name, hlisted, hname, hpath, hfile⟩, name, hpath, hextension⟩
    · rintro ⟨⟨names, name, hnames, hname, hpath, hfile⟩, name', hpath', hextension⟩
      -- the name is that of the path, whichever way it was come by
      obtain ⟨-, rfl⟩ := pathOf_inj.mp (hpath'.symm.trans hpath)
      exact ⟨f.category, f.category.mem_all, rfl, names, name', ⟨names, hnames, rfl⟩, hname, hpath,
        hfile, hextension⟩

/-- The path of a fixture ends with the extension, which has no dot. -/
theorem path_of_mem (h : discover tree cwd root extension = .ok fixtures) (hf : f ∈ fixtures) :
    ∃ stem : Path, f.path = stem.suffixed extension ∧ Path.dot ∉ utf8 extension := by
  obtain ⟨-, name, hpath, hextension⟩ := (mem_discover h).mp hf
  obtain ⟨stem, -, rfl, hdot, -⟩ := Path.extension?_eq_some_iff.mp hextension
  exact ⟨pathOf root f.category stem, hpath.trans (pathOf_suffixed ..), hdot⟩

theorem lastPart_of_mem (h : discover tree cwd root extension = .ok fixtures) (hf : f ∈ fixtures) :
    Path.lastPart f.path = utf8 extension := by
  obtain ⟨stem, hpath, hdot⟩ := path_of_mem h hf
  rw [hpath, Path.lastPart_suffixed, Path.lastPart_of_notMem hdot]

/-- When what a fixture is called with a suffix behind is a fixture too: the suffix ends
with the extension, and there is such a file. -/
theorem suffixed_mem_iff (h : discover tree cwd root extension = .ok fixtures)
    (hsome : extension ≠ "") (hf : f ∈ fixtures) (suffix : String) :
    (∃ g ∈ fixtures, g.path = f.path.suffixed suffix) ↔
      Path.lastPart (utf8 suffix) = utf8 extension ∧
        Lies tree cwd root f.category (f.path.suffixed suffix) := by
  obtain ⟨-, name, hpath, hextension⟩ := (mem_discover h).mp hf
  have hname : name ≠ [] := by
    rintro rfl
    cases hextension
  have hsome' : utf8 extension ≠ [] := mt Text.utf8_eq_nil_iff.mp hsome
  have hlonger : f.path.suffixed suffix = pathOf root f.category (name.suffixed suffix) := by
    rw [hpath, pathOf_suffixed]
  constructor
  · rintro ⟨g, hg, hgpath⟩
    obtain ⟨hlies, name', hpath', hextension'⟩ := (mem_discover h).mp hg
    obtain ⟨hcategory, rfl⟩ := pathOf_inj.mp (hpath'.symm.trans (hgpath.trans hlonger))
    rw [hcategory, hgpath] at hlies
    exact ⟨(Path.extension?_suffixed_iff hname hsome').mp hextension', hlies⟩
  · rintro ⟨hlast, hlies⟩
    refine ⟨⟨f.category, f.path.suffixed suffix⟩, (mem_discover h).mpr ⟨hlies, _, hlonger, ?_⟩, rfl⟩
    exact (Path.extension?_suffixed_iff hname hsome').mpr hlast

end Fixture

end Assay

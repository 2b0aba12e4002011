import Assay.Proofs.Cleanup
import Mathlib.Data.List.Nodup

/-! # Discovery is exact, and the same in any order

A directory is read in an order that nothing is known of, and reading may fail at once or
at any entry.  What discovery finds is described without the program: the names that are
stored in the directory of a category, lead to a regular file and have the extension
(`Fixture.Suits`), in the order of their bytes (`Fixture.Lists`).  There is only one such
list (`Fixture.Lists.unique`), so what is found does not depend on the reader
(`Fixture.discoverBy_eq_discover`).

Discovery fails only if a directory is there and cannot be read to its end, and then on the
first of these (`Fixture.discoverBy_of_firstBlocked`).  The suite has a case for each of the
files (`Fixture.discovery_exact`).  A case is labelled by the text of its path, so names that
are no texts may have one label.
-/

namespace Assay

open Text (utf8)

/-! ## The order of paths -/

namespace Path

theorem le_iff {a b : Path} : le a b = true ↔ a < b ∨ a = b := by
  induction a generalizing b with
  | nil => cases b <;> simp [le]
  | cons x a ih =>
    cases b with
    | nil => simp [le]
    | cons y b =>
      rw [le, List.cons_lt_cons_iff, List.cons.injEq, UInt8.lt_iff_toNat_lt]
      by_cases hxy : x = y
      · simp [hxy, ih]
      · simp [hxy]

theorem le_total (a b : Path) : (le a b || le b a) = true := by
  induction a generalizing b with
  | nil => simp [le]
  | cons x a ih =>
    cases b with
    | nil => simp [le]
    | cons y b =>
      by_cases hxy : x = y
      · simpa [le, hxy] using ih b
      · have hne : x.toNat ≠ y.toNat := fun h => hxy (UInt8.toNat_inj.mp h)
        simp only [le, hxy, Ne.symm hxy, if_false, Bool.or_eq_true, decide_eq_true_eq]
        omega

theorem le_trans {a b c : Path} (hab : le a b = true) (hbc : le b c = true) : le a c = true := by
  rw [le_iff] at hab hbc ⊢
  rcases hab with hab | rfl
  · rcases hbc with hbc | rfl
    · exact .inl (List.lt_trans hab hbc)
    · exact .inl hab
  · exact hbc

/-- Sorted names that are all different stand in the order of their bytes. -/
theorem pairwise_lt_mergeSort {names : List Path} (h : names.Nodup) :
    (names.mergeSort le).Pairwise (· < ·) := by
  have hsorted := @List.pairwise_mergeSort _ le (fun _ _ _ => le_trans) le_total names
  refine (hsorted.and ((List.mergeSort_perm names le).nodup_iff.mpr h)).imp ?_
  rintro a b ⟨hle, hne⟩
  exact (le_iff.mp hle).resolve_right hne

end Path

/-! ## The names in a directory -/

namespace Tree

variable {t : Tree} {cwd : Location} {dir name : Path}

theorem nameBelow?_eq_some_iff {loc child : Location} :
    nameBelow? loc child = some name ↔ child = loc ++ [name] := by
  unfold nameBelow?
  constructor
  · intro h
    split at h
    · rename_i last hlast
      obtain ⟨before, rfl⟩ := List.getLast?_eq_some_iff.mp hlast
      simp only [List.dropLast_concat, Option.ite_none_right_eq_some, Option.some.injEq] at h
      rw [h.1, h.2]
    · cases h
  · rintro rfl
    simp

theorem nodup_names (t : Tree) (loc : Location) : (t.names loc).Nodup := by
  have hkeys : t.names loc = (t.entries.map Prod.fst).filterMap (nameBelow? loc) := by
    rw [List.filterMap_map]
    rfl
  rw [hkeys]
  refine t.nodup.filterMap fun child child' name h h' => ?_
  rw [nameBelow?_eq_some_iff.mp h, nameBelow?_eq_some_iff.mp h']

theorem mem_names {loc : Location} : name ∈ t.names loc ↔ t.get? (loc ++ [name]) ≠ none := by
  have hsome : loc ++ [name] ≠ [] := by simp
  rw [get?, if_neg hsome, Ne, List.lookup_eq_none_iff, names, List.mem_filterMap]
  simp [nameBelow?_eq_some_iff]

/-- **The path leads to a directory in which something has this name.**  What every
directory calls itself and the one above is no such name. -/
def Stores (t : Tree) (cwd : Location) (dir name : Path) : Prop :=
  ∃ place attributes, t.resolve cwd dir true = .ok place ∧ place.entry = some (.dir attributes) ∧
    t.get? (place.location ++ [name]) ≠ none ∧ name ≠ Path.self ∧ name ≠ Path.above

theorem Stores.ne_above (h : t.Stores cwd dir name) : name ≠ Path.above := by
  obtain ⟨place, attributes, -, -, -, -, hname⟩ := h
  exact hname

theorem Stores.exists_listing (h : t.Stores cwd dir name) :
    ∃ names, t.listing cwd dir = .ok names := by
  obtain ⟨place, attributes, hplace, hentry, -⟩ := h
  refine ⟨(t.names place.location).filter fun name => name != Path.self && name != Path.above, ?_⟩
  rw [listing, hplace]
  dsimp only [bind, Except.bind]
  rw [hentry]
  rfl

theorem listing_eq_ok {names : List Path} (h : t.listing cwd dir = .ok names) :
    names.Nodup ∧ ∀ name, name ∈ names ↔ t.Stores cwd dir name := by
  unfold listing at h
  cases hplace : t.resolve cwd dir true with
  | error e =>
    rw [hplace] at h
    cases h
  | ok place =>
    rw [hplace] at h
    dsimp only [bind, Except.bind] at h
    split at h
    · rename_i attributes hentry
      cases h
      refine ⟨(t.nodup_names _).filter _, fun name => ?_⟩
      simp only [List.mem_filter, mem_names, Bool.and_eq_true, bne_iff_ne]
      constructor
      · rintro ⟨hstored, hproper⟩
        exact ⟨place, attributes, hplace, hentry, hstored, hproper⟩
      · rintro ⟨place', -, hplace', -, hstored, hproper⟩
        obtain rfl : place = place' := by simpa [hplace] using hplace'
        exact ⟨hstored, hproper⟩
    · cases h
    · cases h

/-- **A way to read the directories of the tree.**  It may fail with any error, at once or
at any entry.  But a directory that it does not find is not there, and one that it reads to
its end has the names that it gave, in whatever order. -/
structure Enumerates (t : Tree) (cwd : Location) (read : Fixture.Reader) : Prop where
  missing : ∀ dir, read dir = .error .notFound → t.listing cwd dir = .error .notFound
  complete : ∀ dir (names : List Path), read dir = .ok (names.map .ok) →
    ∃ listed, t.listing cwd dir = .ok listed ∧ names.Perm listed

end Tree

namespace Fixture

variable {read : Reader} {tree : Tree} {cwd : Location} {root : Path} {extension : String}

/-! ## Reading a directory -/

theorem mapM_of_ok {α β ε : Type} {f : α → Except ε β} {g : α → β} {xs : List α}
    (h : ∀ x ∈ xs, f x = .ok (g x)) : xs.mapM f = .ok (xs.map g) := by
  induction xs with
  | nil => rfl
  | cons x xs ih =>
    rw [List.mapM_cons, h x List.mem_cons_self, ih fun y hy => h y (List.mem_cons_of_mem x hy)]
    rfl

/-- A traversal that fails does so on the first element that fails. -/
theorem mapM_of_error {α β ε : Type} {f : α → Except ε β} {before after : List α} {x : α} {e : ε}
    (hbefore : ∀ y ∈ before, ∃ b, f y = .ok b) (hx : f x = .error e) :
    (before ++ x :: after).mapM f = .error e := by
  induction before with
  | nil =>
    rw [List.nil_append, List.mapM_cons, hx]
    rfl
  | cons y before ih =>
    obtain ⟨b, hb⟩ := hbefore y List.mem_cons_self
    rw [List.cons_append, List.mapM_cons, hb, ih fun z hz => hbefore z (List.mem_cons_of_mem y hz)]
    rfl

/-- Entries are all names, or there is a first among them that is none. -/
theorem entries_cases (entries : List (Except IoError Path)) :
    (∃ names : List Path, entries = names.map .ok) ∨
      ∃ (names : List Path) (e : IoError) (rest : List (Except IoError Path)),
        entries = names.map .ok ++ .error e :: rest := by
  induction entries with
  | nil => exact .inl ⟨[], rfl⟩
  | cons entry entries ih =>
    cases entry with
    | error e => exact .inr ⟨[], e, entries, rfl⟩
    | ok name =>
      rcases ih with ⟨names, rfl⟩ | ⟨names, e, rest, rfl⟩
      · exact .inl ⟨name :: names, rfl⟩
      · exact .inr ⟨name :: names, e, rest, rfl⟩

/-- **The directory of the category cannot be read, and not because it is not there**: it
cannot be opened, or reading it breaks off at an entry. -/
inductive Blocked (read : Reader) (root : Path) (category : Category) (e : IoError) : Prop
  | unopened : read (dirOf root category) = .error e → e ≠ .notFound → Blocked read root category e
  | unread (names : List Path) (rest : List (Except IoError Path)) :
      read (dirOf root category) = .ok (names.map .ok ++ .error e :: rest) →
      Blocked read root category e

variable {category : Category}

theorem read_of_not_blocked (h : ∀ e, ¬ Blocked read root category e) :
    read (dirOf root category) = .error .notFound ∨
      ∃ names : List Path, read (dirOf root category) = .ok (names.map .ok) := by
  cases hread : read (dirOf root category) with
  | error e =>
    obtain rfl : e = .notFound := not_not.mp fun hne => h e (.unopened hread hne)
    exact .inl rfl
  | ok entries =>
    rcases entries_cases entries with ⟨names, rfl⟩ | ⟨names, e, rest, rfl⟩
    · exact .inr ⟨names, rfl⟩
    · exact absurd (.unread names rest hread) (h e)

/-- The tree's own order is one to read it in. -/
theorem enumerates_readerOf (tree : Tree) (cwd : Location) :
    tree.Enumerates cwd (readerOf tree cwd) where
  missing dir h := by
    unfold readerOf at h
    cases hlisting : tree.listing cwd dir with
    | error e =>
      rw [hlisting] at h
      cases h
      rfl
    | ok names =>
      rw [hlisting] at h
      cases h
  complete dir names h := by
    obtain ⟨listed, hlisting, hsame⟩ := readerOf_eq_ok_iff.mp h
    obtain rfl := List.map_injective_iff.mpr (fun _ _ => Except.ok.inj) hsame
    exact ⟨names, hlisting, .refl _⟩

/-- What some reader can read is never refused in the tree's own order. -/
theorem not_blocked_readerOf (hread : tree.Enumerates cwd read)
    (h : ∀ e, ¬ Blocked read root category e) (e : IoError) :
    ¬ Blocked (readerOf tree cwd) root category e := by
  have hown : readerOf tree cwd (dirOf root category) = .error .notFound ∨
      ∃ names : List Path, readerOf tree cwd (dirOf root category) = .ok (names.map .ok) := by
    rcases read_of_not_blocked h with hmissing | ⟨names, hnames⟩
    · exact .inl (readerOf_of_error (hread.missing _ hmissing))
    · obtain ⟨listed, hlisting, -⟩ := hread.complete _ names hnames
      exact .inr ⟨listed, readerOf_eq_ok_iff.mpr ⟨listed, hlisting, rfl⟩⟩
  rintro (⟨hrefused, hne⟩ | ⟨names, rest, hrefused⟩)
  · rcases hown with hmissing | ⟨listed, hlisted⟩
    · exact hne (Except.error.inj (hrefused.symm.trans hmissing))
    · cases hrefused.symm.trans hlisted
  · rcases hown with hmissing | ⟨listed, hlisted⟩
    · cases hrefused.symm.trans hmissing
    · have hmem : Except.error e ∈ listed.map Except.ok := by
        rw [← Except.ok.inj (hrefused.symm.trans hlisted)]
        simp
      simp at hmem

/-! ## One category -/

/-- **What makes a name in the directory of a category a fixture.** -/
structure Suits (tree : Tree) (cwd : Location) (root : Path) (extension : String)
    (category : Category) (name : Path) : Prop where
  stored : tree.Stores cwd (dirOf root category) name
  file : tree.isFileAt cwd (pathOf root category name) = true
  named : ∃ stem : Path, stem ≠ [] ∧ name = stem.suffixed extension ∧ Path.dot ∉ utf8 extension

/-- These are the names of the fixtures of a category, each once and in the order of their
bytes. -/
structure Lists (tree : Tree) (cwd : Location) (root : Path) (extension : String)
    (category : Category) (names : List Path) : Prop where
  increasing : names.Pairwise (· < ·)
  mem_iff : ∀ name, name ∈ names ↔ Suits tree cwd root extension category name

theorem Lists.nodup {names : List Path} (h : Lists tree cwd root extension category names) :
    names.Nodup := by
  refine h.increasing.imp ?_
  rintro a _ hlt rfl
  exact List.lt_irrefl _ hlt

/-- What the fixtures of a category are does not leave their order open. -/
theorem Lists.unique {names names' : List Path}
    (h : Lists tree cwd root extension category names)
    (h' : Lists tree cwd root extension category names') : names = names' := by
  refine List.Perm.eq_of_pairwise (fun a b _ _ hab hba => ?_) h.increasing h'.increasing ?_
  · exact absurd (List.lt_trans hab hba) (List.lt_irrefl a)
  · rw [List.perm_ext_iff_of_nodup h.nodup h'.nodup]
    intro name
    rw [h.mem_iff, h'.mem_iff]

/-- The fixtures of a category that have these names. -/
def named (root : Path) (category : Category) (names : List Path) : List Fixture :=
  names.map fun name => ⟨category, pathOf root category name⟩

theorem named_eq (names : List Path) :
    named root category names =
      (names.map (Path.join (dirOf root category))).map (Fixture.mk category) := by
  rw [List.map_map]
  rfl

theorem ofCategory_blocked {e : IoError} (h : Blocked read root category e) :
    ofCategory read tree cwd root extension category = .error (.io (dirOf root category) e) := by
  unfold ofCategory listFilesBy
  cases h with
  | unopened hread hne =>
    simp only [hread, if_neg hne]
    rfl
  | unread names rest hread =>
    have hfails : (names.map Except.ok ++ Except.error e :: rest).mapM id = .error e :=
      mapM_of_error (by simp) rfl
    simp only [hread, hfails]
    rfl

/-- **A directory that is not blocked gives the files in it that suit.** -/
theorem ofCategory_readable (hread : tree.Enumerates cwd read)
    (h : ∀ e, ¬ Blocked read root category e) :
    ∃ names, Lists tree cwd root extension category names ∧
      ofCategory read tree cwd root extension category = .ok (named root category names) := by
  rcases read_of_not_blocked h with hmissing | ⟨given, hgiven⟩
  · refine ⟨[], ⟨.nil, fun name => ?_⟩, by rw [ofCategory, listFilesBy_of_missing hmissing]; rfl⟩
    refine iff_of_false List.not_mem_nil ?_
    rintro ⟨hstored, -, -⟩
    obtain ⟨names, hnames⟩ := hstored.exists_listing
    cases hnames.symm.trans (hread.missing _ hmissing)
  · obtain ⟨listed, hlisting, hperm⟩ := hread.complete _ given hgiven
    obtain ⟨hnodup, hstores⟩ := Tree.listing_eq_ok hlisting
    let wanted := given.filter fun name =>
      tree.isFileAt cwd (pathOf root category name) && Path.extension? name == some (utf8 extension)
    refine ⟨wanted.mergeSort Path.le,
      ⟨Path.pairwise_lt_mergeSort ((hperm.nodup_iff.mpr hnodup).filter _), fun name => ?_⟩, ?_⟩
    · rw [List.mem_mergeSort, List.mem_filter, hperm.mem_iff, hstores, Bool.and_eq_true,
        beq_iff_eq, Path.extension?_eq_some_iff]
      constructor
      · rintro ⟨hstored, hfile, stem, hstem, hname, hdot, -⟩
        exact ⟨hstored, hfile, stem, hstem, hname, hdot⟩
      · rintro ⟨hstored, hfile, stem, hstem, hname, hdot⟩
        exact ⟨hstored, hfile, stem, hstem, hname, hdot, hstored.ne_above⟩
    · unfold ofCategory listFilesBy
      simp only [hgiven, mapM_id_eq_ok_iff.mpr rfl]
      rw [named_eq]
      rfl

/-! ## All categories -/

/-- The category is the first, in the order of the suite, whose directory cannot be read and
is not missing. -/
def FirstBlocked (read : Reader) (root : Path) (category : Category) (e : IoError) : Prop :=
  Blocked read root category e ∧ ∃ before after, Category.all = before ++ category :: after ∧
    ∀ c ∈ before, ∀ e', ¬ Blocked read root c e'

theorem exists_firstBlocked (h : ∃ category e, Blocked read root category e) :
    ∃ category e, FirstBlocked read root category e := by
  classical
  let blocked (category : Category) : Bool := ∃ e, Blocked read root category e
  obtain ⟨category, hblocked⟩ := h
  have hfind : (Category.all.find? blocked).isSome :=
    List.find?_isSome.mpr ⟨category, category.mem_all, decide_eq_true hblocked⟩
  obtain ⟨first, hfirst⟩ := Option.isSome_iff_exists.mp hfind
  obtain ⟨he, before, after, hall, hbefore⟩ := List.find?_eq_some_iff_append.mp hfirst
  obtain ⟨e, he⟩ := of_decide_eq_true he
  refine ⟨first, e, he, before, after, hall, fun c hc e' he' => ?_⟩
  have hnot := hbefore c hc
  simp only [blocked, Bool.not_eq_true', decide_eq_false_iff_not] at hnot
  exact hnot ⟨e', he'⟩

theorem discoverBy_of_firstBlocked {e : IoError} (hread : tree.Enumerates cwd read)
    (h : FirstBlocked read root category e) :
    discoverBy read tree cwd root extension = .error (.io (dirOf root category) e) := by
  obtain ⟨hblocked, before, after, hall, hbefore⟩ := h
  have hgroups : Category.all.mapM (ofCategory read tree cwd root extension) =
      .error (.io (dirOf root category) e) := by
    rw [hall]
    refine mapM_of_error (fun c hc => ?_) (ofCategory_blocked hblocked)
    obtain ⟨names, -, hnames⟩ := ofCategory_readable hread (hbefore c hc)
    exact ⟨_, hnames⟩
  rw [discoverBy, hgroups]
  rfl

theorem discoverBy_of_readable (hread : tree.Enumerates cwd read)
    (h : ∀ category e, ¬ Blocked read root category e) :
    ∃ names : Category → List Path,
      (∀ category, Lists tree cwd root extension category (names category)) ∧
      discoverBy read tree cwd root extension =
        .ok (Category.all.flatMap fun category => named root category (names category)) := by
  have hgroup : ∀ category, ∃ names, Lists tree cwd root extension category names ∧
      ofCategory read tree cwd root extension category = .ok (named root category names) :=
    fun category => ofCategory_readable hread (h category)
  choose names hlists hnames using hgroup
  refine ⟨names, hlists, ?_⟩
  rw [discoverBy, mapM_of_ok fun category _ => hnames category]
  rfl

/-- **The order in which directories are read makes no difference.** -/
theorem discoverBy_eq_discover (hread : tree.Enumerates cwd read)
    (h : ∀ category e, ¬ Blocked read root category e) (extension : String) :
    discoverBy read tree cwd root extension = discover tree cwd root extension := by
  obtain ⟨names, hlists, hnames⟩ := @discoverBy_of_readable read tree cwd root extension hread h
  obtain ⟨names', hlists', hnames'⟩ := @discoverBy_of_readable _ tree cwd root extension
    (enumerates_readerOf tree cwd) fun category => not_blocked_readerOf hread (h category)
  obtain rfl : names = names' := funext fun category => (hlists category).unique (hlists' category)
  rw [hnames, discover, hnames']

/-! ## Paths and labels -/

/-- No two fixtures have one path. -/
theorem nodup_paths {names : Category → List Path}
    (h : ∀ category, Lists tree cwd root extension category (names category)) :
    ((Category.all.flatMap fun category => named root category (names category)).map
      Fixture.path).Nodup := by
  have hpaths : (Category.all.flatMap fun category => named root category (names category)).map
      Fixture.path = Category.all.flatMap fun category => (names category).map (pathOf root category) := by
    simp [List.map_flatMap, named, Function.comp_def]
  rw [hpaths, List.nodup_flatMap]
  constructor
  · intro category _
    exact (h category).nodup.map fun a b hab => (pathOf_inj.mp hab).2
  · have hall : Category.all.Nodup := by decide
    refine hall.imp fun {c c'} hne path hpath hpath' => hne ?_
    obtain ⟨name, -, rfl⟩ := List.mem_map.mp hpath
    obtain ⟨name', -, heq⟩ := List.mem_map.mp hpath'
    exact (pathOf_inj.mp heq).1.symm

theorem shown_pathOf (root : Path) (category : Category) (name : Path) :
    (pathOf root category name).shown =
      (Path.join root []).shown ++ (category.dirName ++ "/" ++ name.shown) := by
  have hsome : category.dirName ++ "/" ≠ "" := by cases category <;> decide
  have hdir : utf8 category.dirName ++ Path.slash :: name =
      utf8 (category.dirName ++ "/") ++ name := by
    rw [Text.utf8_append, List.append_assoc]
    rfl
  rw [pathOf_eq, hdir, Path.shown, Text.lossy_append_utf8_append hsome]
  rfl

/-- Paths are shown alike exactly if they are of one category and their names are. -/
theorem shown_pathOf_inj {c c' : Category} {name name' : Path} :
    (pathOf root c name).shown = (pathOf root c' name').shown ↔
      c = c' ∧ name.shown = name'.shown := by
  constructor
  · intro h
    rw [shown_pathOf, shown_pathOf, String.append_right_inj] at h
    -- the two texts are paths from the empty one on, which are told apart already
    have hpath (category : Category) (text : String) :
        utf8 (category.dirName ++ "/" ++ text) = pathOf [] category (utf8 text) := by
      rw [pathOf_eq, Text.utf8_append, Text.utf8_append, List.append_assoc]
      rfl
    have hbytes := congrArg utf8 h
    rw [hpath, hpath, pathOf_inj] at hbytes
    exact ⟨hbytes.1, Text.utf8_injective hbytes.2⟩
  · rintro ⟨rfl, hname⟩
    rw [shown_pathOf, shown_pathOf, hname]

theorem label_inj {a b : Path} : Artifact.label a = Artifact.label b ↔ a.shown = b.shown := by
  simp [Artifact.label]

/-- Labels are told apart exactly if in each category the names are, as they are shown. -/
theorem nodup_labels_iff (names : Category → List Path) :
    ((Category.all.flatMap fun category => named root category (names category)).map
      fun f => Artifact.label f.path).Nodup ↔
      ∀ category, ((names category).map Path.shown).Nodup := by
  have hlabels : (Category.all.flatMap fun category => named root category (names category)).map
      (fun f => Artifact.label f.path) = Category.all.flatMap fun category =>
        (names category).map fun name => Artifact.label (pathOf root category name) := by
    simp [List.map_flatMap, named, Function.comp_def]
  have hcategory (category : Category) :
      ((names category).map fun name => Artifact.label (pathOf root category name)).Nodup ↔
        ((names category).map Path.shown).Nodup := by
    simp only [List.Nodup, List.pairwise_map, ne_eq, label_inj, shown_pathOf_inj, true_and]
  rw [hlabels, List.nodup_flatMap]
  simp only [hcategory]
  constructor
  · rintro ⟨h, -⟩ category
    exact h category category.mem_all
  · intro h
    have hall : Category.all.Nodup := by decide
    refine ⟨fun category _ => h category, hall.imp fun {c c'} hne label hlabel hlabel' => hne ?_⟩
    obtain ⟨name, -, rfl⟩ := List.mem_map.mp hlabel
    obtain ⟨name', -, heq⟩ := List.mem_map.mp hlabel'
    exact (shown_pathOf_inj.mp (label_inj.mp heq)).1.symm

theorem nodup_shown_of_texts {names : List Path} (h : names.Nodup)
    (htexts : ∀ name ∈ names, Text.IsText name) : (names.map Path.shown).Nodup :=
  h.map_on fun a ha b hb hab => ((htexts a ha).lossy_inj (htexts b hb)).mp hab

/-! ## The suite -/

theorem caseFor_eq {σ : Type} (config : Config) (f : Fixture) :
    (Conformance.caseFor config f : TestCase σ) =
      if f.category = .goodCanFix ∨ f.category = .badWithFix then
        Artifact.produced f.path config.layout (Artifact.diffChecker config.diffProgram)
      else Artifact.absent f.path config.layout := by
  unfold Conformance.caseFor
  cases hcategory : f.category <;> simp [Category.expectsArtifact]

theorem map_label_caseFor {σ : Type} (config : Config) (fixtures : List Fixture) :
    (fixtures.map (Conformance.caseFor config : Fixture → TestCase σ)).map (·.label) =
      fixtures.map fun f => Artifact.label f.path := by
  rw [List.map_map]
  refine List.map_congr_left fun f _ => ?_
  dsimp only [Function.comp_apply, Conformance.caseFor]
  split <;> rfl

/-- **Discovery is exact, and the order in which directories are read makes no difference.**
Directories are read in any way, which may fail with any error.  Discovery fails if and only
if the directory of some category cannot be read to its end, unless it is not there; the
error names the first of these, and there is no suite.

Otherwise it finds what is found in the order of the tree.  Category after category, the
fixtures are the names stored in the directory that are a stem, a dot and the extension and
whose paths lead to regular files, each once and in the order of their bytes.  The suite then
has a case for each of them in this order, which demands an artifact in two of the categories
and is labelled by the text of the path.  No two fixtures have one path.  Two labels are the
same exactly if in one category two names are shown alike, which no names do that are
texts. -/
theorem discovery_exact {σ : Type} (config : Config) (tree : Tree) (cwd : Location)
    (read : Reader) (hread : tree.Enumerates cwd read) :
    let root := config.inputDir
    let found := discoverBy read tree cwd root config.extension
    let built : Except HarnessError (Suite σ) := Conformance.suiteBy read config cwd tree
    ((∃ error, found = .error error) ↔ ∃ category e, Blocked read root category e) ∧
    (∀ error, found = .error error → built = .error error ∧
      ∃ category e, FirstBlocked read root category e ∧ error = .io (dirOf root category) e) ∧
    ∀ fixtures, found = .ok fixtures →
      discover tree cwd root config.extension = .ok fixtures ∧
      (fixtures.map Fixture.path).Nodup ∧
      ∃ (names : Category → List Path) (suite : Suite σ),
        (∀ category, Lists tree cwd root config.extension category (names category)) ∧
        (fixtures = [.goodNoFix, .goodCanFix, .badWithFix, .badWithoutFix].flatMap fun category =>
          named root category (names category)) ∧
        built = .ok suite ∧
        suite.cases = fixtures.map (fun f =>
          if f.category = .goodCanFix ∨ f.category = .badWithFix then
            Artifact.produced f.path config.layout (Artifact.diffChecker config.diffProgram)
          else Artifact.absent f.path config.layout) ∧
        suite.cases.map (·.label) = fixtures.map (fun f => "[" ++ f.path.shown ++ "]") ∧
        ((suite.cases.map (·.label)).Nodup ↔
          ∀ category, ((names category).map Path.shown).Nodup) ∧
        ((∀ category, ∀ name ∈ names category, Text.IsText name) →
          (suite.cases.map (·.label)).Nodup) := by
  intro root found built
  have hbuilt : built = found.map fun fixtures =>
      ⟨Conformance.subjectOf config, fixtures.map (Conformance.caseFor config)⟩ :=
    Conformance.suiteBy_eq read config cwd tree
  by_cases hblocked : ∃ category e, Blocked read root category e
  · obtain ⟨category, e, hfirst⟩ := exists_firstBlocked hblocked
    have hfound : found = .error (.io (dirOf root category) e) :=
      discoverBy_of_firstBlocked hread hfirst
    rw [hbuilt, hfound]
    refine ⟨iff_of_true ⟨_, rfl⟩ hblocked, ?_, ?_⟩
    · rintro _ ⟨rfl⟩
      exact ⟨rfl, category, e, hfirst, rfl⟩
    · rintro fixtures ⟨⟩
  · have hreadable : ∀ category e, ¬ Blocked read root category e := by
      simpa only [not_exists] using hblocked
    obtain ⟨names, hlists, hnames⟩ :=
      @discoverBy_of_readable read tree cwd root config.extension hread hreadable
    have hsame : found = discover tree cwd root config.extension :=
      discoverBy_eq_discover hread hreadable _
    rw [← hsame, hbuilt, show found = _ from hnames]
    refine ⟨iff_of_false ?_ hblocked, ?_, ?_⟩
    · rintro ⟨_, ⟨⟩⟩
    · rintro _ ⟨⟩
    · rintro _ ⟨rfl⟩
      have hlabels := @map_label_caseFor σ config (Category.all.flatMap fun category =>
        named root category (names category))
      have hiff := @nodup_labels_iff root names
      rw [← hlabels] at hiff
      refine ⟨rfl, nodup_paths hlists, names, _, hlists, rfl, rfl, ?_, hlabels, hiff, ?_⟩
      · exact List.map_congr_left fun f _ => caseFor_eq config f
      · intro htexts
        exact hiff.mpr fun category => nodup_shown_of_texts (hlists category).nodup (htexts category)

end Fixture

namespace Sample

/-- A directory with two files that suit, of which one is a link to the other, and a file
without a stem, a directory and a file of another extension. -/
def mixedTree : Tree where
  entries := [(spot "in", .dir ⟨0o755, .present, 1⟩),
    (spot "in/good_can_fix", .dir ⟨0o755, .present, 2⟩),
    (spot "in/good_can_fix/e.c.h", .file [] ⟨0o644, .present, 3⟩),
    (spot "in/good_can_fix/d.c", .dir ⟨0o755, .present, 4⟩),
    (spot "in/good_can_fix/b.c", .file [] ⟨0o644, .present, 5⟩),
    (spot "in/good_can_fix/a.c", .link (utf8 "b.c") ⟨0o777, .present, 6⟩),
    (spot "in/good_can_fix/.c", .file [] ⟨0o644, .present, 7⟩)]
  nodup := by decide

/-- The directories of the tree, read from the last name to the first. -/
def readBack : Fixture.Reader := fun dir =>
  (Fixture.readerOf mixedTree [] dir).map List.reverse

theorem enumerates_readBack : mixedTree.Enumerates [] readBack where
  missing dir h := by
    refine (Fixture.enumerates_readerOf mixedTree []).missing dir ?_
    unfold readBack at h
    cases hread : Fixture.readerOf mixedTree [] dir with
    | error e =>
      rw [hread] at h
      exact h
    | ok entries =>
      rw [hread] at h
      cases h
  complete dir names h := by
    unfold readBack at h
    cases hread : Fixture.readerOf mixedTree [] dir with
    | error e =>
      rw [hread] at h
      cases h
    | ok entries =>
      rw [hread] at h
      have hentries : entries = names.reverse.map .ok := by
        rw [List.map_reverse, ← Except.ok.inj h, List.reverse_reverse]
      obtain ⟨listed, hlisting, hperm⟩ :=
        (Fixture.enumerates_readerOf mixedTree []).complete dir names.reverse (hentries ▸ hread)
      exact ⟨listed, hlisting, names.reverse_perm.symm.trans hperm⟩

end Sample

namespace Fixture

/-- The tree has its names from the last to the first, and is read the other way. -/
theorem discovery_exact_sample :
    let fixtures : List Fixture :=
      [⟨.goodCanFix, utf8 "in/good_can_fix/a.c"⟩, ⟨.goodCanFix, utf8 "in/good_can_fix/b.c"⟩]
    Sample.mixedTree.Enumerates [] Sample.readBack ∧
    Sample.readBack (utf8 "in/good_can_fix") =
      .ok ([".c", "a.c", "b.c", "d.c", "e.c.h"].map fun name => .ok (utf8 name)) ∧
    discoverBy Sample.readBack Sample.mixedTree [] (utf8 "in") "c" = .ok fixtures ∧
    ∃ suite : Suite Unit,
      Conformance.suiteBy Sample.readBack Sample.config [] Sample.mixedTree = .ok suite ∧
      suite.cases.map (·.label) = ["[in/good_can_fix/a.c]", "[in/good_can_fix/b.c]"] := by
  intro fixtures
  have hnames : listFilesBy Sample.readBack Sample.mixedTree [] (dirOf (utf8 "in") .goodCanFix) "c" =
      .ok (fixtures.map Fixture.path) :=
    listFilesBy_of_sorted ([".c", "a.c", "b.c", "d.c", "e.c.h"].map utf8) [utf8 "a.c", utf8 "b.c"]
      (by decide +kernel) (by decide +kernel) (by decide +kernel)
  have hfound : discoverBy Sample.readBack Sample.mixedTree [] (utf8 "in") "c" = .ok fixtures := by
    simp only [discoverBy, Category.all, List.mapM_cons, ofCategory, hnames]
    decide +kernel
  obtain ⟨-, -, hsuite⟩ :=
    @discovery_exact Unit Sample.config Sample.mixedTree [] Sample.readBack Sample.enumerates_readBack
  obtain ⟨-, -, names, suite, -, -, hbuilt, -, hlabels, -⟩ := hsuite fixtures hfound
  exact ⟨Sample.enumerates_readBack, by decide +kernel, hfound, suite, hbuilt,
    hlabels.trans (by decide +kernel)⟩

end Fixture

/-! ## Labels that are the same, and a file that is not seen -/

/-- What a path leads to that is too long is not seen. -/
theorem Tree.isFileAt_of_long {t : Tree} {cwd : Location} {path : Path}
    (h : pathLimit ≤ path.length) : t.isFileAt cwd path = false := by
  have hrefused (place : Place) : t.resolve cwd path true ≠ .ok place := fun hplace =>
    absurd (resolve_eq_ok.mp hplace).1.2.2 (Nat.not_lt.mpr h)
  unfold isFileAt stat
  cases hplace : t.resolve cwd path true with
  | error e => rfl
  | ok place => exact absurd hplace (hrefused place)

theorem Path.steps_slash {path : Path} (h : path ≠ []) : steps (slash :: path) = steps path := by
  have hparts : parts (slash :: path) = [] :: parts path :=
    List.splitOn_append_cons_self_of_not_mem (List.not_mem_nil (a := slash)) path
  have hlast : endsWithSlash (slash :: path) = endsWithSlash path := by
    obtain ⟨c, rest, rfl⟩ := List.exists_cons_of_ne_nil h
    rw [endsWithSlash, endsWithSlash, List.getLast?_cons_cons]
  simp [steps, hparts, hlast]

/-- Slashes in front of a path count once, as long as there are not too many. -/
theorem Tree.resolve_slashes {t : Tree} {cwd : Location} {path : Path} {follow : Bool} {n : Nat}
    (hpath : path ≠ []) (hn : n + 1 + path.length < pathLimit) :
    t.resolve cwd (List.replicate (n + 1) Path.slash ++ path) follow =
      t.resolve cwd (Path.slash :: path) follow := by
  have hsteps : ∀ k, Path.steps (List.replicate k Path.slash ++ path) = Path.steps path := by
    intro k
    induction k with
    | zero => rfl
    | succ k ih => rw [List.replicate_succ, List.cons_append, Path.steps_slash (by simp [hpath]), ih]
  have hnul : (List.replicate (n + 1) Path.slash ++ path).contains 0 =
      (Path.slash :: path).contains 0 := by
    simp [List.contains_eq_mem, Path.slash]
  have hlong : ¬ pathLimit ≤ (List.replicate (n + 1) Path.slash ++ path).length := by
    simp only [List.length_append, List.length_replicate]
    omega
  have hshort : ¬ pathLimit ≤ (Path.slash :: path).length := by
    simp only [List.length_cons]
    omega
  unfold resolve
  rw [hnul, if_neg hlong, if_neg hshort, hsteps, Path.steps_slash hpath]
  simp [List.replicate_succ, Path.isAbsolute]

namespace Sample

/-- Two names that differ in a byte that stands in no text. -/
def twins : List Path := [utf8 "a" ++ 0xFE :: utf8 ".c", utf8 "a" ++ 0xFF :: utf8 ".c"]

def twinTree : Tree where
  entries := [(spot "in", .dir ⟨0o755, .present, 1⟩),
    (spot "in/good_no_fix", .dir ⟨0o755, .present, 2⟩)] ++
    twins.map fun name => (spot "in/good_no_fix" ++ [name], .file [] ⟨0o644, .present, 3⟩)
  nodup := by decide

theorem discover_twinTree : Fixture.discover twinTree [] (utf8 "in") "c" =
    .ok (Fixture.named (utf8 "in") .goodNoFix twins) := by
  have hnames : Fixture.listFilesBy (Fixture.readerOf twinTree []) twinTree []
      (Fixture.dirOf (utf8 "in") .goodNoFix) "c" =
        .ok (twins.map (Path.join (Fixture.dirOf (utf8 "in") .goodNoFix))) :=
    Fixture.listFilesBy_of_sorted twins twins (by decide +kernel) (by decide +kernel)
      (by decide +kernel)
  simp only [Fixture.discover, Fixture.discoverBy, Category.all, List.mapM_cons,
    Fixture.ofCategory, hnames]
  decide +kernel

/-- A file in a directory. -/
def plainTree : Tree where
  entries := [(spot "good_no_fix", .dir ⟨0o755, .present, 1⟩),
    (spot "good_no_fix/ab.c", .file [] ⟨0o644, .present, 2⟩)]
  nodup := by decide

/-- The root, written so that the directories in it can be reached and the file cannot. -/
def slashes : Path := List.replicate (4079 + 1) Path.slash

theorem dirOf_slashes (category : Category) :
    Fixture.dirOf slashes category = slashes ++ utf8 category.dirName := by
  have hlast : Path.endsWithSlash slashes = true := by
    rw [Path.endsWithSlash, slashes, List.replicate_succ', List.getLast?_concat]
    rfl
  rw [Fixture.dirOf, Path.join, hlast, Bool.or_true, if_pos rfl]

theorem listing_slashes (category : Category) :
    plainTree.listing [] (Fixture.dirOf slashes category) =
      plainTree.listing [] (Path.slash :: utf8 category.dirName) := by
  have hname : utf8 category.dirName ≠ [] ∧ (utf8 category.dirName).length ≤ 15 := by
    cases category <;> decide
  have hshort : 4079 + 1 + (utf8 category.dirName).length < Tree.pathLimit := by
    change _ < 4096
    omega
  rw [dirOf_slashes, Tree.listing, slashes, Tree.resolve_slashes hname.1 hshort]
  rfl

theorem isFileAt_slashes : plainTree.isFileAt []
    (Path.join (Fixture.dirOf slashes .goodNoFix) (utf8 "ab.c")) = false := by
  have hroot : slashes.length = 4080 := List.length_replicate
  have hjoin : slashes.length ≤ (Path.join slashes []).length := by
    unfold Path.join
    split <;> simp
  have hname : (utf8 Category.goodNoFix.dirName ++ Path.slash :: utf8 "ab.c").length = 16 := by
    decide
  refine Tree.isFileAt_of_long ?_
  change 4096 ≤ (Fixture.pathOf slashes .goodNoFix (utf8 "ab.c")).length
  rw [Fixture.pathOf_eq, List.length_append]
  omega

theorem listFilesBy_slashes (category : Category) :
    Fixture.listFilesBy (Fixture.readerOf plainTree []) plainTree []
      (Fixture.dirOf slashes category) "c" = .ok [] := by
  cases category with
  | goodNoFix =>
    have hread := Fixture.readerOf_eq_ok_iff.mpr
      ⟨[utf8 "ab.c"], (listing_slashes .goodNoFix).trans (by decide +kernel), rfl⟩
    exact Fixture.listFilesBy_of_sorted _ [] hread (by simp [isFileAt_slashes]) .nil
  | goodCanFix | badWithFix | badWithoutFix =>
    refine Fixture.listFilesBy_of_missing (Fixture.readerOf_of_error ?_)
    exact (listing_slashes _).trans (by decide +kernel)

end Sample

/-- Two fixtures whose cases have one label, and a regular file in the directory of a category
that is not found, because its path is too long. -/
theorem Fixture.alike_labels_and_unseen_file :
    (discover Sample.twinTree [] (utf8 "in") "c" =
        .ok (named (utf8 "in") .goodNoFix Sample.twins) ∧ Sample.twins.Nodup ∧
      ∃ suite : Suite Unit, Conformance.suite Sample.config [] Sample.twinTree = .ok suite ∧
        suite.cases.map (·.label) =
          ["[in/good_no_fix/a\uFFFD.c]", "[in/good_no_fix/a\uFFFD.c]"]) ∧
    Sample.plainTree.listing [] (dirOf Sample.slashes .goodNoFix) = .ok [utf8 "ab.c"] ∧
    Sample.plainTree.get? (Sample.spot "good_no_fix/ab.c") =
      some (.file [] ⟨0o644, .present, 2⟩) ∧
    discover Sample.plainTree [] Sample.slashes "c" = .ok [] := by
  have hsuite := @Conformance.suiteBy_eq Unit (readerOf Sample.twinTree []) Sample.config []
    Sample.twinTree
  rw [← discover, show discover Sample.twinTree [] Sample.config.inputDir Sample.config.extension =
    _ from Sample.discover_twinTree] at hsuite
  refine ⟨⟨Sample.discover_twinTree, by decide, _, hsuite, by decide +kernel⟩, ?_, rfl, ?_⟩
  · exact (Sample.listing_slashes .goodNoFix).trans (by decide +kernel)
  · simp only [discover, discoverBy, Category.all, List.mapM_cons, ofCategory,
      Sample.listFilesBy_slashes]
    rfl

end Assay

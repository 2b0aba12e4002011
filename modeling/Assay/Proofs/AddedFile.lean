import Assay.Host.Files

/-! # A file that is added and removed again

A path at which nothing stands may still lead to a vacant place in a directory.
When a regular file is put there, the path leads to that file and, since no
earlier step of its way was vacant, by the same way as before
(`Tree.walk_added`).  So the file is seen under its path, and removing it by
that path gives the old tree back (`Tree.AddsFile.unlink`).  A path at which
nothing stands cannot be removed (`Tree.Vacant.unlink`).
-/

namespace Assay

theorem Path.withoutSlashes_eq {path : Path} (h : endsWithSlash path = false) :
    withoutSlashes path = path := by
  have hstem : (path.reverse.dropWhile (· == slash)).reverse = path := by
    cases hrev : path.reverse with
    | nil => simpa using hrev
    | cons c cs =>
      have hc : (c == slash) = false := by
        simpa [endsWithSlash, List.getLast?_eq_head?_reverse, hrev] using h
      rw [List.dropWhile_cons_of_neg (by simp [hc]), ← hrev, List.reverse_reverse]
  unfold withoutSlashes
  simp only [hstem]
  split
  · rename_i hroot
    obtain ⟨hempty, habsolute⟩ : path = [] ∧ path.head? = some slash := by
      simpa [isAbsolute] using hroot
    rw [hempty] at habsolute
    cases habsolute
  · rfl

namespace Tree

variable {t t' : Tree} {cwd dir loc : Location} {path : Path}

/-! ## Erasing an entry -/

theorem get?_erase_self (h : loc ≠ []) : (t.erase loc).get? loc = none := by
  rw [get?, if_neg h, List.lookup_eq_none_iff]
  intro x hx
  have hne : x.1 ≠ loc := by simpa using (List.mem_filter.mp hx).2
  simpa using Ne.symm hne

theorem get?_erase_of_ne {l : Location} (h : l ≠ loc) : (t.erase loc).get? l = t.get? l := by
  have hlookup : ∀ xs : List (Location × Entry),
      (xs.filter fun x => x.1 ≠ loc).lookup l = xs.lookup l := by
    intro xs
    induction xs with
    | nil => rfl
    | cons x xs ih =>
      by_cases hx : x.1 = loc
      · rw [List.filter_cons_of_neg (by simp [hx]), ih, List.lookup_cons,
          beq_false_of_ne (hx ▸ h)]
      · rw [List.filter_cons_of_pos (by simp [hx]), List.lookup_cons, List.lookup_cons, ih]
  unfold get?
  rw [erase, hlookup]

/-- What stands elsewhere when an entry has been erased stood there before. -/
theorem get?_of_erase {l : Location} {e : Entry} (hloc : loc ≠ [])
    (h : (t.erase loc).get? l = some e) : t.get? l = some e := by
  by_cases hl : l = loc
  · rw [hl, get?_erase_self hloc] at h
    cases h
  · rwa [get?_erase_of_ne hl] at h

/-! ## The way to a new file -/

/-- A way that ends at a vacant place leads to the file that is put there, whether
links at its end are followed or not. -/
theorem walkSteps_added {follow : Bool} {steps : List Path} {data : List UInt8} {a : Attributes}
    {onLink onLink' : Location → Path → List Path → Except IoError Place}
    (hkept : ∀ l e, t.get? l = some e → t'.get? l = some e)
    (hfile : t'.get? loc = some (.file data a))
    (hlink : ∀ dir target rest, onLink dir target rest = .ok ⟨loc, none⟩ →
      onLink' dir target rest = .ok ⟨loc, some (.file data a)⟩)
    (h : t.walkSteps false onLink dir steps = .ok ⟨loc, none⟩) :
    t'.walkSteps follow onLink' dir steps = .ok ⟨loc, some (.file data a)⟩ := by
  fun_induction walkSteps t false onLink dir steps with
  | case1 dir =>
    obtain ⟨rfl, -⟩ := Place.mk.inj (Except.ok.inj h)
    rw [walkSteps, hfile]
  | case2 dir rest ih => rw [walkSteps, if_pos rfl, ih h]
  | case3 dir rest hdot ih => rw [walkSteps, if_neg hdot, if_pos rfl, ih h]
  | case5 dir name rest hdot hup hlong here hnone hend =>
    -- the vacant place itself
    obtain ⟨rfl, -⟩ := Place.mk.inj (Except.ok.inj h)
    simp only [walkSteps, hdot, hup, hlong, if_false, hfile, here, hend, if_true]
  | case7 dir name rest hdot hup hlong here a' hdir ih =>
    have hdir' : t'.get? (dir ++ [name]) = some (.dir a') := hkept _ _ hdir
    simp only [walkSteps, hdot, hup, hlong, if_false, hdir']
    exact ih h
  | case9 dir name rest hdot hup hlong here target a' hlinked hmore =>
    -- a link on the way: one at the end would not have been followed
    have hrest : rest.isEmpty = false := by simpa using hmore
    have hlinked' : t'.get? (dir ++ [name]) = some (.link target a') := hkept _ _ hlinked
    simp only [walkSteps, hdot, hup, hlong, if_false, hlinked', hrest, Bool.false_and,
      Bool.false_eq_true]
    exact hlink dir target rest h
  | case4 | case6 | case8 | case10 | case11 => simp at h

theorem walk_added {follow : Bool} {links : Nat} {steps : List Path} {data : List UInt8}
    {a : Attributes} (hkept : ∀ l e, t.get? l = some e → t'.get? l = some e)
    (hfile : t'.get? loc = some (.file data a))
    (h : t.walk false links dir steps = .ok ⟨loc, none⟩) :
    t'.walk follow links dir steps = .ok ⟨loc, some (.file data a)⟩ := by
  induction links generalizing dir steps with
  | zero =>
    refine walkSteps_added hkept hfile ?_ h
    intro _ _ _ hlink
    cases hlink
  | succ links ih => exact walkSteps_added hkept hfile (fun _ _ _ hlink => ih hlink) h

/-- A path leads somewhere if its bytes are acceptable and its steps can be
gone. -/
theorem resolve_eq_ok {follow : Bool} {place : Place} :
    t.resolve cwd path follow = .ok place ↔
      (path.contains 0 = false ∧ path.isEmpty = false ∧ path.length < pathLimit) ∧
      t.walk follow linkLimit (if Path.isAbsolute path then [] else cwd) (Path.steps path) =
        .ok place := by
  unfold resolve
  split
  · simp_all
  · split
    · simp_all
    · split
      · rename_i hlong
        simp [Nat.not_lt.mpr hlong]
      · rename_i hnul hempty hlong
        simp_all

/-! ## Paths without an entry -/

/-- Nothing stands at `path`, not even a link. -/
def Vacant (t : Tree) (cwd : Location) (path : Path) : Prop :=
  ∀ e, t.lstat cwd path ≠ .ok e

/-- `t'` is `t` with one entry more: a regular file where `path` leads.  A path
that ends with a slash names no file. -/
def AddsFile (t : Tree) (cwd : Location) (path : Path) (t' : Tree) : Prop :=
  ∃ loc data a, t.resolve cwd path false = .ok ⟨loc, none⟩ ∧ Path.endsWithSlash path = false ∧
    t'.get? loc = some (.file data a) ∧ t'.erase loc = t

/-- What is removed by a path is the entry that it names.  That is no directory, and the
path does not end with a slash. -/
theorem unlink_eq_ok (h : t.unlink cwd path = .ok t') : Path.endsWithSlash path = false ∧
    ∃ loc e, t.resolve cwd path false = .ok ⟨loc, some e⟩ ∧ e.isDir = false ∧
      t' = t.erase loc := by
  unfold unlink at h
  cases hway : t.resolve cwd (Path.withoutSlashes path) false with
  | error e =>
    rw [hway] at h
    cases h
  | ok place =>
    obtain ⟨loc, entry⟩ := place
    rw [hway] at h
    simp only [bind, Except.bind] at h
    split at h
    · cases h
    · cases h
    · rename_i e hdir
      split at h
      · cases h
      · rename_i hslash
        have hslash : Path.endsWithSlash path = false := by simpa using hslash
        rw [Path.withoutSlashes_eq hslash] at hway
        cases h
        refine ⟨hslash, loc, e, hway, ?_, rfl⟩
        cases e with
        | dir a => exact absurd rfl (hdir a)
        | _ => rfl

/-- Only what stands at a path can be removed by it. -/
theorem lstat_of_unlink (h : t.unlink cwd path = .ok t') : ∃ e, t.lstat cwd path = .ok e := by
  obtain ⟨-, loc, e, hway, -⟩ := unlink_eq_ok h
  refine ⟨e, ?_⟩
  rw [lstat, hway]
  rfl

/-- A path at which nothing stands cannot be removed. -/
theorem Vacant.unlink (h : t.Vacant cwd path) : ∃ e, t.unlink cwd path = .error e := by
  cases hremoved : t.unlink cwd path with
  | error e => exact ⟨e, rfl⟩
  | ok t' =>
    obtain ⟨e, he⟩ := lstat_of_unlink hremoved
    exact absurd he (h e)

/-- The path of an added file leads to it. -/
theorem AddsFile.resolve (h : t.AddsFile cwd path t') :
    ∃ loc data a, Path.endsWithSlash path = false ∧ t'.erase loc = t ∧
      ∀ follow, t'.resolve cwd path follow = .ok ⟨loc, some (.file data a)⟩ := by
  obtain ⟨loc, data, a, hway, hslash, hfile, herase⟩ := h
  have hloc : loc ≠ [] := by
    rintro rfl
    cases hfile
  have hkept : ∀ l e, t.get? l = some e → t'.get? l = some e := by
    intro l e he
    rw [← herase] at he
    exact get?_of_erase hloc he
  refine ⟨loc, data, a, hslash, herase, fun follow => ?_⟩
  obtain ⟨htext, hwalk⟩ := resolve_eq_ok.mp hway
  exact resolve_eq_ok.mpr ⟨htext, walk_added hkept hfile hwalk⟩

theorem AddsFile.pathExists (h : t.AddsFile cwd path t') : t'.pathExists cwd path = true := by
  obtain ⟨loc, data, a, -, -, hway⟩ := h.resolve
  rw [Tree.pathExists, stat, hway]
  rfl

/-- Removing an added file gives the old tree back. -/
theorem AddsFile.unlink (h : t.AddsFile cwd path t') : t'.unlink cwd path = .ok t := by
  obtain ⟨loc, data, a, hslash, herase, hway⟩ := h.resolve
  rw [Tree.unlink, Path.withoutSlashes_eq hslash, hway, ← herase]
  simp only [bind, Except.bind, hslash]
  rfl

end Tree
end Assay

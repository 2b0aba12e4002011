import Assay.Proofs.AddedFile
import Assay.Proofs.Utf8
import Mathlib.Data.List.DropRight

/-! # Names and suffixes

A file name with a suffix behind a dot has the last part of that suffix as its
extension (`Path.extension?_suffixed`), and two names with different suffixes are
equal only if one of the suffixes ends with the other (`Path.suffixed_inj`).

The entry that a path names, a link at its end not followed, has the last name of
the path as its own, by whatever way the path leads there (`Tree.resolve_fileName`).
So paths with different last names never name the same entry.
-/

namespace Assay

open Text (utf8)

namespace Path

/-! ## What follows the last separator -/

/-- The bytes behind the last `sep`; all of them if there is none. -/
def lastField (sep : UInt8) (path : Path) : Path := path.rtakeWhile (· != sep)

variable {sep : UInt8} {path : Path}

theorem notMem_lastField (path : Path) : sep ∉ lastField sep path := fun h => by
  have hne := List.mem_rtakeWhile_imp h
  simp at hne

/-- A path is its last field, or that stands behind a separator. -/
theorem lastField_split (sep : UInt8) (path : Path) :
    path = lastField sep path ∨ ∃ front, path = front ++ sep :: lastField sep path := by
  have hsplit : path.rdropWhile (· != sep) ++ lastField sep path = path :=
    List.rdropWhile_append_rtakeWhile
  rcases List.eq_nil_or_concat (path.rdropWhile (· != sep)) with hnil | ⟨front, c, hfront⟩
  · rw [hnil, List.nil_append] at hsplit
    exact .inl hsplit.symm
  · have hlast := List.rdropWhile_last_not (· != sep) path (by simp [hfront])
    obtain rfl : c = sep := by simpa [hfront] using hlast
    rw [hfront] at hsplit
    exact .inr ⟨front, by simpa using hsplit.symm⟩

theorem lastField_concat (path : Path) (c : UInt8) :
    lastField sep (path ++ [c]) = if c = sep then [] else lastField sep path ++ [c] := by
  rw [lastField, List.rtakeWhile_concat]
  by_cases hc : c = sep <;> simp [hc, lastField]

theorem lastField_append_sep (front back : Path) :
    lastField sep (front ++ sep :: back) = lastField sep back := by
  induction back using List.reverseRecOn with
  | nil => rw [lastField_concat, if_pos rfl, lastField, List.rtakeWhile_nil]
  | append_singleton back c ih =>
    rw [← List.cons_append, ← List.append_assoc, lastField_concat, lastField_concat, ih]

theorem lastField_append_of_notMem (front : Path) {back : Path} (h : sep ∉ back) :
    lastField sep (front ++ back) = lastField sep front ++ back := by
  induction back using List.reverseRecOn with
  | nil => simp
  | append_singleton back c ih =>
    have hc : c ≠ sep := fun heq => h (by simp [heq])
    have hback : sep ∉ back := fun hmem => h (by simp [hmem])
    rw [← List.append_assoc, lastField_concat, if_neg hc, ih hback, List.append_assoc]

/-! ## Extensions -/

/-- What follows the last dot. -/
def lastPart (name : Path) : Path := lastField dot name

theorem lastPart_suffixed (stem : Path) (suffix : String) :
    lastPart (stem.suffixed suffix) = lastPart (utf8 suffix) := lastField_append_sep ..

theorem lastPart_of_notMem {name : Path} (h : dot ∉ name) : lastPart name = name :=
  lastField_append_of_notMem [] h

/-- The extension of a name is what follows its last dot, and something stands before
that. -/
theorem extension?_eq_some_iff {name e : Path} :
    extension? name = some e ↔
      ∃ stem, stem ≠ [] ∧ name = stem ++ dot :: e ∧ dot ∉ e ∧ name ≠ above := by
  constructor
  · intro h
    unfold extension? at h
    cases hrest : name.reverse.dropWhile (· != dot) with
    | nil => simp [hrest] at h
    | cons c rest =>
      have hsplit := List.takeWhile_append_dropWhile (p := (· != dot)) (l := name.reverse)
      simp only [hrest] at h hsplit
      split at h
      · cases h
      · rename_i hstem
        obtain rfl : lastField dot name = e := Option.some.inj h
        have hname : name = rest.reverse ++ c :: lastField dot name := by
          have hrev := congrArg List.reverse hsplit
          simpa [lastField, List.rtakeWhile] using hrev.symm
        have hdot : c = dot := by
          have hnot := List.head_dropWhile_not (l := name.reverse) (· != dot) (by simp [hrest])
          simpa [hrest] using hnot
        simp only [Bool.or_eq_true, List.isEmpty_iff, beq_iff_eq, not_or] at hstem
        exact ⟨rest.reverse, by simpa using hstem.1, hdot ▸ hname, notMem_lastField _, hstem.2⟩
  · rintro ⟨stem, hstem, rfl, hdot, hdots⟩
    have hall : ∀ c ∈ e.reverse, (c != dot) = true := by
      intro c hc
      have hne : c ≠ dot := fun heq => hdot (heq ▸ List.mem_reverse.mp hc)
      simpa using hne
    have hrev : (stem ++ dot :: e).reverse = e.reverse ++ dot :: stem.reverse := by simp
    unfold extension?
    simp only [hrev, List.takeWhile_append_of_pos hall, List.dropWhile_append_of_pos hall]
    simp [hstem, hdots]

theorem extension?_suffixed {stem : Path} {suffix : String} (hstem : stem ≠ [])
    (hsuffix : suffix ≠ "") : extension? (stem.suffixed suffix) = some (lastPart (utf8 suffix)) := by
  have hdots : stem.suffixed suffix ≠ above := by
    intro heq
    have hlen := congrArg List.length heq
    have hstem' := List.length_pos_iff.mpr hstem
    have hsuffix' := List.length_pos_iff.mpr (mt Text.utf8_eq_nil_iff.mp hsuffix)
    simp only [suffixed, above, List.length_append, List.length_cons, List.length_nil] at hlen
    omega
  rw [extension?_eq_some_iff]
  rcases lastField_split dot (utf8 suffix) with hall | ⟨front, hfront⟩
  · exact ⟨stem, hstem, by rw [suffixed, lastPart, ← hall], notMem_lastField _, hdots⟩
  · refine ⟨stem ++ dot :: front, by simp, ?_, notMem_lastField _, hdots⟩
    rw [suffixed, List.append_assoc, List.cons_append, lastPart, ← hfront]

/-- A name with a suffix behind has as its extension the last part of the suffix. -/
theorem extension?_suffixed_iff {stem : Path} {suffix : String} {e : Path} (hstem : stem ≠ [])
    (he : e ≠ []) : extension? (stem.suffixed suffix) = some e ↔ lastPart (utf8 suffix) = e := by
  constructor
  · intro h
    obtain ⟨stem', -, hname, hdot, -⟩ := extension?_eq_some_iff.mp h
    rw [← lastPart_suffixed stem, hname, lastPart, lastField_append_sep]
    exact lastPart_of_notMem hdot
  · rintro rfl
    apply extension?_suffixed hstem
    rintro rfl
    exact he rfl

/-- Two byte strings with others behind a dot: either they agree, or one of those ends with
the other. -/
theorem append_dot_inj {x y a b : Path} (h : x ++ dot :: a = y ++ dot :: b) :
    x = y ∧ a = b ∨ (∃ z, a = z ++ dot :: b ∧ y = x ++ dot :: z) ∨
      ∃ z, b = z ++ dot :: a ∧ x = y ++ dot :: z := by
  -- `z` is what the longer of the two stems has more; if anything, it begins with the dot
  rcases List.append_eq_append_iff.mp h with ⟨z, hy, ha⟩ | ⟨z, hx, hb⟩
  · cases z with
    | nil =>
      obtain ⟨-, rfl⟩ := List.cons.inj ha
      exact .inl ⟨by simpa using hy.symm, rfl⟩
    | cons c z =>
      obtain ⟨rfl, htail⟩ := List.cons.inj ha
      exact .inr (.inl ⟨z, htail, hy⟩)
  · cases z with
    | nil =>
      obtain ⟨-, rfl⟩ := List.cons.inj hb
      exact .inl ⟨by simpa using hx, rfl⟩
    | cons c z =>
      obtain ⟨rfl, htail⟩ := List.cons.inj hb
      exact .inr (.inr ⟨z, htail, hx⟩)

/-! ## Texts of paths -/

theorem suffixed_eq_append (path : Path) (suffix : String) :
    path.suffixed suffix = path ++ utf8 ("." ++ suffix) := by
  rw [suffixed, Text.utf8_append]
  rfl

theorem isText_suffixed {path : Path} {suffix : String} :
    Text.IsText (path.suffixed suffix) ↔ Text.IsText path := by
  rw [suffixed_eq_append, Text.isText_append_utf8]

/-- Two names with suffixes: either they agree, or one of the suffixes ends with the
other. -/
theorem suffixed_inj {x y : Path} {a b : String} (h : x.suffixed a = y.suffixed b) :
    x = y ∧ a = b ∨ (∃ z, a = z ++ "." ++ b ∧ y = x.suffixed z) ∨
      ∃ z, b = z ++ "." ++ a ∧ x = y.suffixed z := by
  -- what a text has before the dot of another is a text
  have hfront {a b : String} {z : Path} (hz : utf8 a = z ++ dot :: utf8 b) :
      ∃ text, z = utf8 text ∧ a = text ++ "." ++ b := by
    obtain ⟨text, rfl⟩ : Text.IsText z := isText_suffixed.mp ⟨a, hz.symm⟩
    refine ⟨text, rfl, Text.utf8_injective ?_⟩
    rw [hz, Text.utf8_append, Text.utf8_append, List.append_assoc]
    rfl
  rcases append_dot_inj h with ⟨rfl, hsame⟩ | ⟨z, hz, rfl⟩ | ⟨z, hz, rfl⟩
  · exact .inl ⟨rfl, Text.utf8_injective hsame⟩
  · obtain ⟨text, rfl, htext⟩ := hfront hz
    exact .inr (.inl ⟨text, htext, rfl⟩)
  · obtain ⟨text, rfl, htext⟩ := hfront hz
    exact .inr (.inr ⟨text, htext, rfl⟩)

theorem suffixed_suffixed (path : Path) (a b : String) :
    (path.suffixed a).suffixed b = path.suffixed (a ++ "." ++ b) := by
  simp only [suffixed_eq_append, List.append_assoc, ← Text.utf8_append, String.append_assoc]

/-! ## Last names -/

/-- What follows the last slash of a path. -/
def fileName (path : Path) : Path := lastField slash path

theorem fileName_suffixed (stem : Path) {suffix : String} (h : slash ∉ utf8 suffix) :
    fileName (stem.suffixed suffix) = (fileName stem).suffixed suffix := by
  have hslash : slash ∉ dot :: utf8 suffix := by simpa [slash, dot] using h
  exact lastField_append_of_notMem stem hslash

/-- The name is none of the three that lead elsewhere. -/
def Ordinary (name : Path) : Prop := name ≠ [] ∧ name ≠ self ∧ name ≠ above

theorem ordinary_suffixed {stem : Path} {suffix : String} (hsuffix : suffix ≠ "")
    (h : stem = [] → utf8 suffix ≠ self) : Ordinary (stem.suffixed suffix) := by
  have hsuffix' := mt Text.utf8_eq_nil_iff.mp hsuffix
  refine ⟨by simp [suffixed], fun heq => ?_, fun heq => ?_⟩
  · cases stem <;> simp_all [suffixed, self]
  · cases stem with
    | nil => simp_all [suffixed, self, above]
    | cons c cs => cases cs <;> simp_all [suffixed, above]

theorem endsWithSlash_of_fileName (h : fileName path ≠ []) : endsWithSlash path = false := by
  rcases List.eq_nil_or_concat path with rfl | ⟨front, c, rfl⟩
  · rfl
  · have hc : c ≠ slash := by
      rintro rfl
      simp [fileName, lastField_concat] at h
    simpa [endsWithSlash] using hc

/-- A path with a last name goes through it in the end. -/
theorem steps_of_fileName (h : fileName path ≠ []) :
    ∃ earlier, steps path = earlier ++ [fileName path] := by
  have hlast : (lastField slash path).splitOn slash = [lastField slash path] :=
    List.splitOn_eq_singleton (notMem_lastField _)
  have hparts : ∃ earlier, parts path = earlier ++ [fileName path] := by
    rcases lastField_split slash path with hall | ⟨front, hfront⟩
    · rw [← hall] at hlast
      exact ⟨[], by rw [parts, hlast, fileName, ← hall]; rfl⟩
    · refine ⟨front.splitOn slash, ?_⟩
      calc path.splitOn slash = (front ++ slash :: lastField slash path).splitOn slash :=
            congrArg _ hfront
        _ = front.splitOn slash ++ (lastField slash path).splitOn slash :=
            List.splitOn_append_cons_self _ _
        _ = front.splitOn slash ++ [lastField slash path] := by rw [hlast]
  obtain ⟨earlier, hparts⟩ := hparts
  refine ⟨earlier.filter fun p => !p.isEmpty, ?_⟩
  simp [steps, endsWithSlash_of_fileName h, hparts, h]

end Path

/-! ## Named entries -/

namespace Tree

variable {t : Tree} {cwd dir loc : Location} {entry : Option Entry} {name : Path}

/-- A way whose last step is a name ends at that name, if a link there is not
followed. -/
theorem walkSteps_last {onLink : Location → Path → List Path → Except IoError Place}
    (hdot : name ≠ Path.self) (hup : name ≠ Path.above)
    (hlink : ∀ dir target earlier, onLink dir target (earlier ++ [name]) = .ok ⟨loc, entry⟩ →
      loc.getLast? = some name)
    {earlier : List Path}
    (h : t.walkSteps false onLink dir (earlier ++ [name]) = .ok ⟨loc, entry⟩) :
    loc.getLast? = some name := by
  induction earlier generalizing dir with
  | nil =>
    have hplace {entry' : Option Entry}
        (h : (.ok ⟨dir ++ [name], entry'⟩ : Except IoError Place) = .ok ⟨loc, entry⟩) :
        loc.getLast? = some name := by
      obtain ⟨rfl, -⟩ := Place.mk.inj (Except.ok.inj h)
      simp
    simp only [List.nil_append, walkSteps, hdot, hup, if_false, List.isEmpty_nil, if_true,
      Bool.not_false, Bool.and_self] at h
    split at h
    · cases h
    · split at h <;> exact hplace h
  | cons step earlier ih =>
    have hmore : (earlier ++ [name]).isEmpty = false := by simp
    simp only [List.cons_append, walkSteps, hmore, Bool.false_and, Bool.false_eq_true, if_false] at h
    split at h
    · exact ih h
    · split at h
      · exact ih h
      · split at h
        · cases h
        · split at h
          · cases h
          · exact ih h
          · exact hlink _ _ _ h
          · cases h

theorem walk_last {links : Nat} (hdot : name ≠ Path.self) (hup : name ≠ Path.above) {earlier : List Path}
    (h : t.walk false links dir (earlier ++ [name]) = .ok ⟨loc, entry⟩) :
    loc.getLast? = some name := by
  induction links generalizing dir earlier with
  | zero => exact walkSteps_last hdot hup (fun _ _ _ hlink => by cases hlink) h
  | succ links ih =>
    refine walkSteps_last hdot hup (fun dir target rest hlink => ?_) h
    rw [← List.append_assoc] at hlink
    exact ih hlink

/-- **The entry that a path names has its last name.** -/
theorem resolve_fileName {path : Path} (hname : Path.Ordinary (Path.fileName path))
    (h : t.resolve cwd path false = .ok ⟨loc, entry⟩) :
    loc.getLast? = some (Path.fileName path) := by
  obtain ⟨hname, hdot, hup⟩ := hname
  obtain ⟨earlier, hsteps⟩ := Path.steps_of_fileName hname
  obtain ⟨-, hwalk⟩ := resolve_eq_ok.mp h
  rw [hsteps] at hwalk
  exact walk_last hdot hup hwalk

end Tree

end Assay

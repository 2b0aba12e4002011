import Assay.Proofs.AddedFile
import Mathlib.Data.List.DropRight
import Mathlib.Data.List.Induction

/-! # What is at a path when it has been removed

A file is removed by its path, and the path may lead to it through links and
directories, perhaps through the very entry that is removed.  Whichever way it was, the
same path names nothing afterwards (`Tree.unlink_vacant`).  If there was nothing to
remove, the path names nothing either, also if it ends with slashes
(`Tree.vacant_of_unlink`).

Whether something is at a path may be asked in two ways.  They differ only where the
path names a link (`Tree.resolve_follow`), and so a link that leads nowhere is the one
thing that is there and is not seen (`Tree.vacant_of_unseen`).
-/

namespace Assay

/-! ## Slashes at the end -/

namespace Path

/-- A path is what remains without the slashes at its end, and those slashes; or it is
the root. -/
theorem withoutSlashes_cases (path : Path) : withoutSlashes path = [slash] ∨
    ∃ slashes, path = withoutSlashes path ++ slashes ∧
      (∀ c ∈ slashes, c = slash) ∧ (withoutSlashes path = [] → path = []) := by
  have hslashes : ∀ c ∈ path.rtakeWhile (· == slash), c = slash :=
    fun c hc => by simpa using List.mem_rtakeWhile_imp hc
  have hsplit := List.rdropWhile_append_rtakeWhile (l := path) (p := (· == slash))
  unfold List.rdropWhile at hsplit
  simp only [withoutSlashes]
  split
  · exact .inl rfl
  · rename_i hroot
    refine .inr ⟨_, hsplit.symm, hslashes, fun hnil => ?_⟩
    -- with nothing in front, the first slash would make the path the root
    rw [hnil, List.nil_append] at hsplit
    rw [hsplit] at hslashes
    rw [hnil] at hroot
    cases path with
    | nil => rfl
    | cons c path =>
      obtain rfl : c = slash := hslashes c (by simp)
      exact absurd (by simp [isAbsolute]) hroot

/-- Slashes at the end add no names to a path. -/
theorem parts_append_slashes (path : Path) {slashes : Path} (h : ∀ c ∈ slashes, c = slash) :
    ((parts (path ++ slashes)).filter fun p => !p.isEmpty) =
      (parts path).filter fun p => !p.isEmpty := by
  induction slashes using List.reverseRecOn with
  | nil => rw [List.append_nil]
  | append_singleton slashes c ih =>
    obtain rfl : c = slash := h c (by simp)
    have hsplit : parts (path ++ (slashes ++ [slash])) = parts (path ++ slashes) ++ [[]] := by
      rw [parts, ← List.append_assoc, List.splitOn_append_cons_self, List.splitOn_nil, parts]
    rw [hsplit, List.filter_append, ih fun c hc => h c (by simp [hc])]
    simp

/-- With slashes at its end a path goes at most one step further. -/
theorem steps_withoutSlashes {path : Path} (h : withoutSlashes path ≠ [slash]) :
    steps path = steps (withoutSlashes path) ∨
      steps path = steps (withoutSlashes path) ++ [self] := by
  obtain ⟨slashes, hpath, hslashes, -⟩ := (withoutSlashes_cases path).resolve_left h
  have hnames : ((parts path).filter fun p => !p.isEmpty) =
      (parts (withoutSlashes path)).filter fun p => !p.isEmpty := by
    have hparts := parts_append_slashes (withoutSlashes path) hslashes
    rwa [← hpath] at hparts
  cases hslash : endsWithSlash path with
  | false => exact .inl (by rw [withoutSlashes_eq hslash])
  | true =>
    simp only [steps, hnames, hslash, Bool.true_and]
    split
    · split
      · exact .inl rfl
      · exact .inr rfl
    · rename_i hnone
      rw [if_neg (by simp [hnone])]
      exact .inl rfl

end Path

namespace Tree

variable {t t' : Tree} {cwd dir loc : Location} {path : Path}

/-! ## The end of a way -/

/-- A question about an entry is answered if the way leads to one. -/
theorem entry_eq_ok {way : Except IoError Place} {e : Entry} :
    (do match (← way).entry with
        | some e => return e
        | none => throw .notFound) = (.ok e : Except IoError Entry) ↔
      ∃ loc, way = .ok ⟨loc, some e⟩ := by
  cases way with
  | error err => refine iff_of_false (fun h => ?_) (fun ⟨_, h⟩ => ?_) <;> cases h
  | ok place =>
    obtain ⟨loc, entry⟩ := place
    cases entry with
    | none => refine iff_of_false (fun h => ?_) (fun ⟨_, h⟩ => ?_) <;> cases h
    | some e' =>
      refine ⟨fun h => ?_, fun ⟨_, h⟩ => ?_⟩
      · cases h
        exact ⟨loc, rfl⟩
      · cases h
        rfl

theorem stat_eq_ok {e : Entry} :
    t.stat cwd path = .ok e ↔ ∃ loc, t.resolve cwd path true = .ok ⟨loc, some e⟩ :=
  entry_eq_ok

theorem lstat_eq_ok {e : Entry} :
    t.lstat cwd path = .ok e ↔ ∃ loc, t.resolve cwd path false = .ok ⟨loc, some e⟩ :=
  entry_eq_ok

/-- A way ends at the entry that stands there. -/
theorem walkSteps_entry {follow : Bool} {steps : List Path} {entry : Option Entry}
    {onLink : Location → Path → List Path → Except IoError Place}
    (hlink : ∀ dir target rest, onLink dir target rest = .ok ⟨loc, entry⟩ → t.get? loc = entry)
    (h : t.walkSteps follow onLink dir steps = .ok ⟨loc, entry⟩) : t.get? loc = entry := by
  fun_induction walkSteps t follow onLink dir steps with
  | case1 dir =>
    cases h
    rfl
  | case2 dir rest ih | case3 dir rest hdot ih => exact ih h
  | case5 dir name rest hdot hup hlong here hstands
  | case8 dir name rest hdot hup hlong here _ _ hstands
  | case10 dir name rest hdot hup hlong here _ _ _ hstands =>
    obtain ⟨rfl, rfl⟩ := Place.mk.inj (Except.ok.inj h)
    exact hstands
  | case7 dir name rest hdot hup hlong here a hdir ih => exact ih h
  | case9 dir name rest hdot hup hlong here target a hlinked hmore => exact hlink _ _ _ h
  | case4 | case6 | case11 => cases h

theorem walk_entry {follow : Bool} {links : Nat} {steps : List Path} {entry : Option Entry}
    (h : t.walk follow links dir steps = .ok ⟨loc, entry⟩) : t.get? loc = entry := by
  induction links generalizing dir steps with
  | zero => exact walkSteps_entry (fun _ _ _ hlink => by cases hlink) h
  | succ links ih => exact walkSteps_entry (fun _ _ _ hlink => ih hlink) h

/-! ## One step -/

section Step

variable {follow : Bool} {name : Path} {rest : List Path}
variable {onLink : Location → Path → List Path → Except IoError Place}
variable (hdot : ¬name = Path.self) (hup : ¬name = Path.above)

include hdot hup

theorem walkSteps_long (hlong : nameLimit < name.length) :
    t.walkSteps follow onLink dir (name :: rest) = .error .nameTooLong := by
  simp only [walkSteps, hdot, hup, hlong, if_false, if_true]

/-- A step to a place where nothing stands is the last of a way or leads nowhere. -/
theorem walkSteps_vacant {place : Place} (hnone : t.get? (dir ++ [name]) = none)
    (h : t.walkSteps follow onLink dir (name :: rest) = .ok place) : place.entry = none := by
  simp only [walkSteps, hdot, hup, if_false, hnone] at h
  split at h
  · cases h
  · split at h
    · cases h
      rfl
    · cases h

variable (hlong : ¬nameLimit < name.length)

include hlong

theorem walkSteps_none (hnone : t.get? (dir ++ [name]) = none) :
    t.walkSteps follow onLink dir (name :: rest) =
      if rest.isEmpty then .ok ⟨dir ++ [name], none⟩ else .error .notFound := by
  simp only [walkSteps, hdot, hup, hlong, if_false, hnone]

theorem walkSteps_dir {a : Attributes} (hdir : t.get? (dir ++ [name]) = some (.dir a)) :
    t.walkSteps follow onLink dir (name :: rest) =
      t.walkSteps follow onLink (dir ++ [name]) rest := by
  simp only [walkSteps, hdot, hup, hlong, if_false, hdir]

theorem walkSteps_link {target : Path} {a : Attributes}
    (hlinked : t.get? (dir ++ [name]) = some (.link target a)) :
    t.walkSteps follow onLink dir (name :: rest) =
      if rest.isEmpty && !follow then .ok ⟨dir ++ [name], some (.link target a)⟩
      else onLink dir target rest := by
  simp only [walkSteps, hdot, hup, hlong, if_false, hlinked]

theorem walkSteps_solid {e : Entry} (hdir : ∀ a, e = .dir a → False)
    (hlink : ∀ target a, e = .link target a → False) (hentry : t.get? (dir ++ [name]) = some e) :
    t.walkSteps follow onLink dir (name :: rest) =
      if rest.isEmpty then .ok ⟨dir ++ [name], some e⟩ else .error .notDirectory := by
  cases e with
  | dir a => exact (hdir a rfl).elim
  | link target a => exact (hlink target a rfl).elim
  | file | special => simp only [walkSteps, hdot, hup, hlong, if_false, hentry]

end Step

/-! ## Ways over an erased entry -/

/-- A way that led to an entry leads to none when the entry has been erased: it ends
there, or is cut off there before. -/
theorem walkSteps_erased {onLink onLink' : Location → Path → List Path → Except IoError Place}
    {steps : List Path} {entry : Option Entry} {place : Place} (hloc : loc ≠ [])
    (hlink : ∀ dir target rest place, onLink dir target rest = .ok ⟨loc, entry⟩ →
      onLink' dir target rest = .ok place → place.entry = none)
    (h : t.walkSteps false onLink dir steps = .ok ⟨loc, entry⟩)
    (h' : (t.erase loc).walkSteps false onLink' dir steps = .ok place) : place.entry = none := by
  fun_induction walkSteps t false onLink dir steps with
  | case1 dir =>
    obtain ⟨rfl, -⟩ := Place.mk.inj (Except.ok.inj h)
    rw [walkSteps, get?_erase_self hloc] at h'
    cases h'
    rfl
  | case2 dir rest ih =>
    rw [walkSteps, if_pos rfl] at h'
    exact ih h h'
  | case3 dir rest hdot ih =>
    rw [walkSteps, if_neg hdot, if_pos rfl] at h'
    exact ih h h'
  | case5 dir name rest hdot hup hlong here | case8 dir name rest hdot hup hlong here
  | case10 dir name rest hdot hup hlong here =>
    -- the way ended here
    obtain ⟨rfl, -⟩ := Place.mk.inj (Except.ok.inj h)
    exact walkSteps_vacant hdot hup (get?_erase_self hloc) h'
  | case7 dir name rest hdot hup hlong here a hdir ih =>
    by_cases hhere : dir ++ [name] = loc
    · exact walkSteps_vacant hdot hup (hhere ▸ get?_erase_self (hhere ▸ hloc)) h'
    · rw [walkSteps_dir hdot hup hlong ((get?_erase_of_ne hhere).trans hdir)] at h'
      exact ih h h'
  | case9 dir name rest hdot hup hlong here target a hlinked hmore =>
    by_cases hhere : dir ++ [name] = loc
    · exact walkSteps_vacant hdot hup (hhere ▸ get?_erase_self (hhere ▸ hloc)) h'
    · rw [walkSteps_link hdot hup hlong ((get?_erase_of_ne hhere).trans hlinked),
        if_neg hmore] at h'
      exact hlink dir target rest place h h'
  | case4 | case6 | case11 => cases h

theorem walk_erased {links : Nat} {steps : List Path} {entry : Option Entry} {place : Place}
    (hloc : loc ≠ []) (h : t.walk false links dir steps = .ok ⟨loc, entry⟩)
    (h' : (t.erase loc).walk false links dir steps = .ok place) : place.entry = none := by
  induction links generalizing dir steps place with
  | zero => exact walkSteps_erased hloc (fun _ _ _ _ hlink => by cases hlink) h h'
  | succ links ih =>
    exact walkSteps_erased hloc (fun _ _ _ _ hlink hlink' => ih hlink hlink') h h'

/-- **A path that has been removed names nothing.** -/
theorem unlink_vacant (h : t.unlink cwd path = .ok t') : t'.Vacant cwd path := by
  obtain ⟨-, loc, e, hway, hdir, rfl⟩ := unlink_eq_ok h
  intro e' he'
  obtain ⟨loc', hway'⟩ := lstat_eq_ok.mp he'
  obtain ⟨-, hwalk⟩ := resolve_eq_ok.mp hway
  obtain ⟨-, hwalk'⟩ := resolve_eq_ok.mp hway'
  have hloc : loc ≠ [] := by
    rintro rfl
    cases walk_entry hwalk
    cases hdir
  cases walk_erased hloc hwalk hwalk'

/-! ## Paths that end with slashes -/

/-- If a way with one step more, into what it leads to, ends at an entry, so does the way
itself. -/
theorem walkSteps_dot {onLink onLink' : Location → Path → List Path → Except IoError Place}
    {steps : List Path} {e : Entry}
    (hlink : ∀ dir target rest loc e, onLink' dir target (rest ++ [Path.self]) = .ok ⟨loc, some e⟩ →
      ∃ loc e, onLink dir target rest = .ok ⟨loc, some e⟩)
    (h : t.walkSteps false onLink' dir (steps ++ [Path.self]) = .ok ⟨loc, some e⟩) :
    ∃ loc e, t.walkSteps false onLink dir steps = .ok ⟨loc, some e⟩ := by
  fun_induction walkSteps t false onLink dir steps with
  | case1 dir => exact ⟨loc, e, h⟩
  | case2 dir rest ih =>
    rw [List.cons_append, walkSteps, if_pos rfl] at h
    exact ih h
  | case3 dir rest hdot ih =>
    rw [List.cons_append, walkSteps, if_neg hdot, if_pos rfl] at h
    exact ih h
  | case4 dir name rest hdot hup hlong =>
    rw [List.cons_append, walkSteps_long hdot hup hlong] at h
    cases h
  | case5 dir name rest hdot hup hlong here hnone | case6 dir name rest hdot hup hlong here hnone =>
    cases walkSteps_vacant hdot hup hnone h
  | case7 dir name rest hdot hup hlong here a hdir ih =>
    rw [List.cons_append, walkSteps_dir hdot hup hlong hdir] at h
    exact ih h
  | case8 | case10 => exact ⟨_, _, rfl⟩
  | case9 dir name rest hdot hup hlong here target a hlinked hmore =>
    rw [List.cons_append, walkSteps_link hdot hup hlong hlinked, if_neg (by simp)] at h
    exact hlink _ _ _ _ _ h
  | case11 dir name rest hdot hup hlong here e hdir hlinked hentry hend =>
    rw [List.cons_append, walkSteps_solid hdot hup hlong hdir hlinked hentry, if_neg (by simp)] at h
    cases h

theorem walk_dot {links : Nat} {steps : List Path} {e : Entry}
    (h : t.walk false links dir (steps ++ [Path.self]) = .ok ⟨loc, some e⟩) :
    ∃ loc e, t.walk false links dir steps = .ok ⟨loc, some e⟩ := by
  induction links generalizing dir steps loc e with
  | zero => exact walkSteps_dot (fun _ _ _ _ _ hlink => by cases hlink) h
  | succ links ih =>
    refine walkSteps_dot (fun dir target rest loc e hlink => ?_) h
    rw [← List.append_assoc] at hlink
    exact ih hlink

/-- An entry is found without the slashes at the end of a path if it is with them. -/
theorem resolve_withoutSlashes {e : Entry}
    (h : t.resolve cwd path false = .ok ⟨loc, some e⟩) :
    ∃ loc e, t.resolve cwd (Path.withoutSlashes path) false = .ok ⟨loc, some e⟩ := by
  by_cases hroot : Path.withoutSlashes path = [Path.slash]
  · exact ⟨[], root, by rw [hroot]; rfl⟩
  · obtain ⟨⟨hnul, hempty, hsize⟩, hwalk⟩ := resolve_eq_ok.mp h
    obtain ⟨slashes, hpath, -, hnonempty⟩ := (Path.withoutSlashes_cases path).resolve_left hroot
    have hstem : Path.withoutSlashes path ≠ [] := by
      intro hstem
      simp [hnonempty hstem] at hempty
    have habsolute : Path.isAbsolute path = Path.isAbsolute (Path.withoutSlashes path) := by
      have hhead := congrArg List.head? hpath
      rw [List.head?_append_of_ne_nil _ hstem] at hhead
      rw [Path.isAbsolute, Path.isAbsolute, hhead]
    have hbytes : (Path.withoutSlashes path).contains 0 = false ∧
        (Path.withoutSlashes path).isEmpty = false ∧
        (Path.withoutSlashes path).length < pathLimit := by
      have hlength := congrArg List.length hpath
      rw [List.length_append] at hlength
      rw [hpath] at hnul
      refine ⟨?_, by simpa using hstem, by omega⟩
      simp only [List.contains_eq_mem, List.mem_append, decide_eq_false_iff_not, not_or] at hnul ⊢
      exact hnul.1
    rw [habsolute] at hwalk
    rcases Path.steps_withoutSlashes hroot with hsteps | hsteps
    · rw [hsteps] at hwalk
      exact ⟨loc, e, resolve_eq_ok.mpr ⟨hbytes, hwalk⟩⟩
    · rw [hsteps] at hwalk
      obtain ⟨loc', e', hwalk'⟩ := walk_dot hwalk
      exact ⟨loc', e', resolve_eq_ok.mpr ⟨hbytes, hwalk'⟩⟩

/-- An entry that is there is not reported as missing. -/
theorem unlink_ne_notFound {e : Entry}
    (h : t.resolve cwd (Path.withoutSlashes path) false = .ok ⟨loc, some e⟩) :
    t.unlink cwd path ≠ .error .notFound := by
  rw [unlink, h]
  simp only [bind, Except.bind]
  cases e with
  | dir a =>
    intro hmissing
    cases hmissing
  | file | link | special =>
    dsimp only
    split
    · intro hmissing
      cases hmissing
    · intro hmissing
      cases hmissing

/-- **A path with nothing to remove names nothing.** -/
theorem vacant_of_unlink (h : t.unlink cwd path = .error .notFound) : t.Vacant cwd path := by
  intro e he
  obtain ⟨loc, hway⟩ := lstat_eq_ok.mp he
  obtain ⟨loc', e', hway'⟩ := resolve_withoutSlashes hway
  exact unlink_ne_notFound hway' h

/-! ## Links at the end -/

/-- Whether a link at the end is followed makes a difference only if there is one. -/
theorem walkSteps_follow {onLink onLink' : Location → Path → List Path → Except IoError Place}
    {steps : List Path}
    (hlink : ∀ dir target rest,
      (∃ loc far a, onLink dir target rest = .ok ⟨loc, some (.link far a)⟩) ∨
        onLink' dir target rest = onLink dir target rest) :
    (∃ loc far a, t.walkSteps false onLink dir steps = .ok ⟨loc, some (.link far a)⟩) ∨
      t.walkSteps true onLink' dir steps = t.walkSteps false onLink dir steps := by
  fun_induction walkSteps t false onLink dir steps with
  | case1 dir => exact .inr rfl
  | case2 dir rest ih =>
    rw [walkSteps, if_pos rfl]
    exact ih
  | case3 dir rest hdot ih =>
    rw [walkSteps, if_neg hdot, if_pos rfl]
    exact ih
  | case4 dir name rest hdot hup hlong => exact .inr (walkSteps_long hdot hup hlong)
  | case5 dir name rest hdot hup hlong here hnone hend
  | case6 dir name rest hdot hup hlong here hnone hend =>
    rw [walkSteps_none hdot hup hlong hnone]
    simp [hend, here]
  | case7 dir name rest hdot hup hlong here a hdir ih =>
    rw [walkSteps_dir hdot hup hlong hdir]
    exact ih
  | case8 => exact .inl ⟨_, _, _, rfl⟩
  | case9 dir name rest hdot hup hlong here target a hlinked hmore =>
    rw [walkSteps_link hdot hup hlong hlinked, if_neg (by simp)]
    exact hlink dir target rest
  | case10 dir name rest hdot hup hlong here e hdir hlinked hentry hend
  | case11 dir name rest hdot hup hlong here e hdir hlinked hentry hend =>
    rw [walkSteps_solid hdot hup hlong hdir hlinked hentry]
    simp [hend, here]

theorem walk_follow (links : Nat) (dir : Location) (steps : List Path) :
    (∃ loc far a, t.walk false links dir steps = .ok ⟨loc, some (.link far a)⟩) ∨
      t.walk true links dir steps = t.walk false links dir steps := by
  induction links generalizing dir steps with
  | zero => exact walkSteps_follow fun _ _ _ => .inr rfl
  | succ links ih => exact walkSteps_follow fun dir target rest => ih _ _

/-- **Following a link at the end makes a difference only if a path names a link.** -/
theorem resolve_follow (t : Tree) (cwd : Location) (path : Path) :
    (∃ loc far a, t.resolve cwd path false = .ok ⟨loc, some (.link far a)⟩) ∨
      t.resolve cwd path true = t.resolve cwd path false := by
  unfold resolve
  split
  · exact .inr rfl
  · split
    · exact .inr rfl
    · split
      · exact .inr rfl
      · exact walk_follow ..

theorem pathExists_iff : t.pathExists cwd path = true ↔ ∃ e, t.stat cwd path = .ok e := by
  unfold pathExists
  cases t.stat cwd path with
  | error err => simp
  | ok e => simp

/-- What stands at a path and is no link is seen there. -/
theorem pathExists_of_lstat {e : Entry} (h : t.lstat cwd path = .ok e) (hlink : e.isLink = false) :
    t.pathExists cwd path = true := by
  obtain ⟨loc, hway⟩ := lstat_eq_ok.mp h
  rcases resolve_follow t cwd path with ⟨loc', far, a, hlinked⟩ | hsame
  · cases hway.symm.trans hlinked
    cases hlink
  · exact pathExists_iff.mpr ⟨e, stat_eq_ok.mpr ⟨loc, hsame.trans hway⟩⟩

/-- Nothing is seen at a path that names nothing. -/
theorem Vacant.pathExists (h : t.Vacant cwd path) : t.pathExists cwd path = false := by
  rw [Bool.eq_false_iff]
  intro hseen
  obtain ⟨e, he⟩ := pathExists_iff.mp hseen
  obtain ⟨loc, hway⟩ := stat_eq_ok.mp he
  rcases resolve_follow t cwd path with ⟨loc', far, a, hlinked⟩ | hsame
  · exact h _ (lstat_eq_ok.mpr ⟨loc', hlinked⟩)
  · exact h e (lstat_eq_ok.mpr ⟨loc, hsame.symm.trans hway⟩)

/-- The path names a link that leads nowhere. -/
def Dangling (t : Tree) (cwd : Location) (path : Path) : Prop :=
  (∃ far a, t.lstat cwd path = .ok (.link far a)) ∧ t.pathExists cwd path = false

theorem Dangling.not_vacant (h : t.Dangling cwd path) : ¬t.Vacant cwd path := by
  obtain ⟨⟨far, a, hlink⟩, -⟩ := h
  exact fun hvacant => hvacant _ hlink

/-- **A link that leads nowhere is the one thing that is there and is not seen.** -/
theorem vacant_of_unseen (hdangling : ¬t.Dangling cwd path)
    (hunseen : t.pathExists cwd path = false) : t.Vacant cwd path := by
  intro e he
  cases hlink : e.isLink with
  | false =>
    rw [pathExists_of_lstat he hlink] at hunseen
    cases hunseen
  | true =>
    cases e with
    | link far a => exact hdangling ⟨⟨far, a, he⟩, hunseen⟩
    | _ => cases hlink

end Tree
end Assay

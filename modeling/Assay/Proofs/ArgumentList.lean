import Assay.Proofs.ArgumentReading
import Assay.Proofs.Utf8
import Mathlib.Data.List.Nodup

/-! # Command lines in any order

The options of a command line are kept in a record with a field for each, and an option that
is there already is refused.  `Reflects` compares such a record with the list of options
that it comes from, by what it holds for each setting and each switch.  Every option that
fits to those before it can be taken (`Reflects.take`), and in the end the record depends on
what was given to each setting alone (`Reflects.unique`), that is, not on the order
(`Options.Admissible.parse_listed`).

The configuration then has each value in the field of its setting
(`Options.fieldOf_toConfig`).
-/

namespace Assay.Cli

open Text (utf8)

/-! ## Taking items into options -/

/-- The setting can be given the value. -/
def Setting.Accepts : Setting → String → Prop
  | .tool, value | .inputDir, value => value ≠ ""
  | .matchReturn, value => ∃ n : Int, IsCode n ∧ value = toString n
  | .format, value => ∃ f : ReportFormat, value = f.key
  | _, _ => True

namespace Options

variable {o o' : Options}

/-- The second options are the first with one more value for a setting. -/
structure Gains (o o' : Options) (s : Setting) (value : String) : Prop where
  values : o'.values s = o.values s ++ [value]
  others : ∀ t, t ≠ s → o'.values t = o.values t
  raised : ∀ t, o'.raised t = o.raised t

theorem assign_gains (o : Options) {s : Setting} {value : String} (h : s.Accepts value)
    (hfresh : s = .toolFlag ∨ o.values s = []) :
    ∃ o', o.assign s value = .ok o' ∧ o.Gains o' s value := by
  have happend : s ≠ .toolFlag → [value] = o.values s ++ [value] := by
    intro hs
    rw [hfresh.resolve_left hs, List.nil_append]
  cases s with
  | toolFlag => exact ⟨_, rfl, rfl, by rintro ⟨⟩ ht <;> trivial, by rintro ⟨⟩ <;> rfl⟩
  | tool | inputDir =>
    have hne : ¬ value.isEmpty = true := fun hempty => h (String.isEmpty_iff.mp hempty)
    exact ⟨_, if_neg hne, happend nofun, by rintro ⟨⟩ ht <;> trivial, by rintro ⟨⟩ <;> rfl⟩
  | matchReturn =>
    obtain ⟨n, hn, rfl⟩ := h
    have hassign : o.assign .matchReturn (toString n) = .ok { o with matchReturn := n } := by
      simp only [assign, readCode_toString hn]
    exact ⟨_, hassign, happend nofun, by rintro ⟨⟩ ht <;> trivial, by rintro ⟨⟩ <;> rfl⟩
  | format =>
    obtain ⟨f, rfl⟩ := h
    have hassign : o.assign .format f.key = .ok { o with format := some f } := by cases f <;> rfl
    exact ⟨_, hassign, happend nofun, by rintro ⟨⟩ ht <;> trivial, by rintro ⟨⟩ <;> rfl⟩
  | _ => exact ⟨_, rfl, happend nofun, by rintro ⟨⟩ ht <;> trivial, by rintro ⟨⟩ <;> rfl⟩

/-- A setting without a value is not refused as given before, nor is `--tool-flag`. -/
theorem has_eq_false {s : Setting} (h : s = .toolFlag ∨ o.values s = []) : o.has s = false := by
  rcases h with rfl | h
  · rfl
  · cases s <;> simp_all [has, values]

theorem raise_spec (o : Options) {s : Switch} (hask : s ≠ .help ∧ s ≠ .version)
    (h : o.raised s = false) :
    ∃ o', o.raise s = .ok o' ∧ (∀ t, o'.values t = o.values t) ∧
      ∀ t, o'.raised t = (o.raised t || t = s) := by
  cases s with
  | help => exact absurd rfl hask.1
  | version => exact absurd rfl hask.2
  | _ =>
    refine ⟨_, if_neg (by simpa [raised] using h), ?_, ?_⟩
    · rintro ⟨⟩ <;> rfl
    · rintro ⟨⟩ <;> simp [raised]

/-- Options with the same values and switches are the same. -/
theorem ext_of_values (hvalues : ∀ s, o.values s = o'.values s)
    (hraised : ∀ s, o.raised s = o'.raised s) : o = o' := by
  have htext {a b : Option String} (h : a.toList = b.toList) : a = b := by
    cases a <;> cases b <;> simp_all
  have hcode : o.matchReturn = o'.matchReturn := by
    exact Option.map_injective toString_injective (htext (hvalues .matchReturn))
  have hformat : o.format = o'.format := by
    refine Option.map_injective ?_ (htext (hvalues .format))
    intro a b h
    cases a <;> cases b <;> simp_all [ReportFormat.key]
  cases o
  cases o'
  simp only [Options.mk.injEq]
  exact ⟨htext (hvalues .tool), htext (hvalues .inputDir), htext (hvalues .extension),
    htext (hvalues .artifactSuffix), htext (hvalues .referenceSuffix), hvalues .toolFlag, htext (hvalues .traceVar),
    htext (hvalues .diffTool), htext (hvalues .matchCommand), hcode, htext (hvalues .matchStdout),
    htext (hvalues .matchStderr), hformat, hraised .verbose, hraised .exitFirst, hraised .noColor⟩

end Options

/-! ## Options and the items they come from -/

/-- The options hold exactly what the items give. -/
structure Reflects (o : Options) (items : List Item) : Prop where
  values : ∀ s, o.values s = items.filterMap (Item.value? s)
  raised : ∀ s, o.raised s = decide (Item.switch s ∈ items)

/-- Items that can be given together: values are accepted, no switch asks for a text only, and
nothing but `--tool-flag` is given twice. -/
structure Consistent (items : List Item) : Prop where
  accepts : ∀ s value, .setting s value ∈ items → s.Accepts value
  runs : ∀ s, .switch s ∈ items → s ≠ .help ∧ s ≠ .version
  valueOnce : ∀ s, s ≠ .toolFlag → (items.filterMap (Item.value? s)).length ≤ 1
  switchOnce : ∀ s, items.count (.switch s) ≤ 1

theorem reflects_nil : Reflects {} [] := ⟨by rintro ⟨⟩ <;> rfl, by rintro ⟨⟩ <;> rfl⟩

/-- One step: an item that fits to those before it is taken. -/
theorem Reflects.take {o : Options} {done rest : List Item} {item : Item} (h : Reflects o done)
    (hitems : Consistent (done ++ item :: rest)) :
    ∃ o', o.take item = .ok o' ∧ Reflects o' (done ++ [item]) := by
  have hmem : item ∈ done ++ item :: rest := by simp
  cases item with
  | setting s value =>
    have hfresh : s = .toolFlag ∨ o.values s = [] := by
      by_cases hs : s = .toolFlag
      · exact .inl hs
      · -- a value among those before would be a second one
        have honce := hitems.valueOnce s hs
        rw [List.filterMap_append, List.filterMap_cons_some (Item.value?_self s value),
          List.length_append, List.length_cons] at honce
        right
        rw [h.values, ← List.length_eq_zero_iff]
        omega
    obtain ⟨o', hassign, hgains⟩ := o.assign_gains (hitems.accepts s value hmem) hfresh
    refine ⟨o', ?_, ?_, ?_⟩
    · rw [Options.take, Options.set, Options.has_eq_false hfresh]
      exact hassign
    · intro t
      rw [List.filterMap_append, ← h.values]
      by_cases ht : t = s
      · subst ht
        rw [hgains.values, List.filterMap_cons_some (Item.value?_self t value), List.filterMap_nil]
      · rw [hgains.others t ht, List.filterMap_cons_none (Item.value?_other (Ne.symm ht) value),
          List.filterMap_nil, List.append_nil]
    · intro t
      rw [hgains.raised, h.raised]
      simp
  | switch s =>
    have hfresh : o.raised s = false := by
      have honce := hitems.switchOnce s
      rw [List.count_append, List.count_cons_self] at honce
      rw [h.raised, decide_eq_false_iff_not, ← List.count_eq_zero]
      omega
    obtain ⟨o', hraise, hvalues, hraised⟩ := o.raise_spec (hitems.runs s hmem) hfresh
    refine ⟨o', hraise, ?_, ?_⟩
    · intro t
      rw [hvalues, h.values]
      simp [Item.value?]
    · intro t
      rw [hraised, h.raised]
      simp

/-- All steps: items that can be given together are taken, in the order they stand. -/
theorem Reflects.foldlM {rest : List Item} {o : Options} {done : List Item} (h : Reflects o done)
    (hitems : Consistent (done ++ rest)) :
    ∃ o', rest.foldlM Options.take o = .ok o' ∧ Reflects o' (done ++ rest) := by
  induction rest generalizing o done with
  | nil => exact ⟨o, rfl, by simpa using h⟩
  | cons item rest ih =>
    obtain ⟨mid, htake, hmid⟩ := h.take hitems
    rw [List.append_cons] at hitems ⊢
    obtain ⟨o', hrest, hdone⟩ := ih hmid hitems
    refine ⟨o', ?_, hdone⟩
    rw [List.foldlM_cons, htake]
    exact hrest

theorem Reflects.unique {o o' : Options} {items : List Item} (h : Reflects o items)
    (h' : Reflects o' items) : o = o' := by
  refine Options.ext_of_values (fun s => ?_) fun s => ?_
  · rw [h.values, h'.values]
  · rw [h.raised, h'.raised]

namespace Options

variable {o : Options}

theorem filterMap_map_setting (s t : Setting) (vs : List String) :
    (vs.map (Item.setting t)).filterMap (Item.value? s) = if t = s then vs else [] := by
  rw [List.filterMap_map]
  by_cases h : t = s
  · subst h
    have hself : Item.value? t ∘ Item.setting t = some := funext (Item.value?_self t)
    rw [hself, List.filterMap_some, if_pos rfl]
  · have hnone : Item.value? s ∘ Item.setting t = fun _ => none := funext (Item.value?_other h)
    rw [hnone, if_neg h]
    simp

/-- Among all that was given, the values of a setting are found. -/
theorem filterMap_items (o : Options) (s : Setting) :
    o.items.filterMap (Item.value? s) = o.values s := by
  have hswitches (switches : List Switch) :
      (switches.map Item.switch).filterMap (Item.value? s) = [] := by simp [Item.value?]
  rw [items, List.filterMap_append, hswitches, List.append_nil, List.filterMap_flatMap]
  simp only [filterMap_map_setting]
  cases s <;> simp [Setting.all]

theorem switch_mem_items {s : Switch} : .switch s ∈ o.items ↔ o.raised s = true := by
  have hall : s ∈ Switch.all := by cases s <;> decide
  simp [items, hall]

theorem count_switch_items (o : Options) (s : Switch) : o.items.count (.switch s) ≤ 1 := by
  have hsettings : (Setting.all.flatMap fun t => (o.values t).map (Item.setting t)).count (.switch s) =
      0 := by
    rw [List.count_eq_zero]
    simp
  have hswitches : ((Switch.all.filter o.raised).map Item.switch).Nodup :=
    List.Nodup.map (fun _ _ h => Item.switch.inj h) (List.Nodup.filter _ (by decide))
  rw [items, List.count_append, hsettings, Nat.zero_add]
  exact List.nodup_iff_count_le_one.mp hswitches _

/-- What a setting holds can be given to it. -/
theorem Admissible.accepts (h : o.Admissible) {s : Setting} {value : String}
    (hvalue : value ∈ o.values s) : s.Accepts value := by
  cases s with
  | tool =>
    rintro rfl
    exact h.tool (by simpa [values] using hvalue)
  | inputDir =>
    rintro rfl
    exact h.inputDir (by simpa [values] using hvalue)
  | matchReturn =>
    obtain ⟨n, hn, rfl⟩ : ∃ n, o.matchReturn = some n ∧ toString n = value := by
      simpa [values] using hvalue
    exact ⟨n, h.matchReturn n hn, rfl⟩
  | format =>
    obtain ⟨f, -, rfl⟩ : ∃ f, o.format = some f ∧ f.key = value := by simpa [values] using hvalue
    exact ⟨f, rfl⟩
  | _ => trivial

theorem length_values (o : Options) {s : Setting} (h : s ≠ .toolFlag) : (o.values s).length ≤ 1 := by
  cases s with
  | toolFlag => exact absurd rfl h
  | _ => exact Option.length_toList_le

variable {items : List Item}

theorem Admissible.consistent (h : o.Admissible) (hperm : items.Perm o.items) : Consistent items where
  accepts s value hmem := by
    refine h.accepts ?_
    rw [← o.filterMap_items s]
    exact List.mem_filterMap.mpr ⟨_, hperm.mem_iff.mp hmem, Item.value?_self s value⟩
  runs s hmem := by
    have hraised := switch_mem_items.mp (hperm.mem_iff.mp hmem)
    constructor <;> rintro rfl <;> cases hraised
  valueOnce s hs := by
    rw [(hperm.filterMap _).length_eq, o.filterMap_items s]
    exact o.length_values hs
  switchOnce s := by
    rw [hperm.count_eq]
    exact o.count_switch_items s

/-- In whatever order they stand, the items are those of the options. -/
theorem reflects_of_perm (hperm : items.Perm o.items)
    (hflags : items.filterMap (Item.value? .toolFlag) = o.toolFlags) : Reflects o items where
  values s := by
    by_cases hs : s = .toolFlag
    · rw [hs, hflags]
      rfl
    · -- a setting that is given once at most has only one order
      have hvalues := hperm.filterMap (Item.value? s)
      rw [o.filterMap_items s] at hvalues
      have hlength := o.length_values hs
      rcases hgiven : o.values s with _ | ⟨value, _ | ⟨_, _⟩⟩
      · rw [hgiven] at hvalues
        exact hvalues.eq_nil.symm
      · rw [hgiven] at hvalues
        exact (List.perm_singleton.mp hvalues).symm
      · simp [hgiven] at hlength
  raised s := by
    rw [Bool.eq_iff_iff, decide_eq_true_iff, hperm.mem_iff, switch_mem_items]

/-- Items that stand for admissible options are taken as these, in whatever order. -/
theorem Admissible.foldlM_take (h : o.Admissible) (hperm : items.Perm o.items)
    (hflags : items.filterMap (Item.value? .toolFlag) = o.toolFlags) :
    items.foldlM take {} = .ok o := by
  obtain ⟨o', hfold, hreflects⟩ := reflects_nil.foldlM (h.consistent hperm)
  rw [hfold, hreflects.unique (reflects_of_perm hperm hflags)]

/-- **A command line is read as the options that it lists.** -/
theorem Admissible.parse_listed (h : o.Admissible) {argv : List String} (hlisted : o.Listed argv) :
    parse argv = .ok o := by
  obtain ⟨items, hperm, hflags, hwritten⟩ := hlisted
  refine parse_of_written hwritten (fun value hmem => ?_) (h.foldlM_take hperm hflags)
  obtain ⟨n, -, rfl⟩ := (h.consistent hperm).accepts _ _ hmem
  exact ⟨n, rfl⟩

end Options

/-! ## The configuration -/

/-- What a configuration holds in the field of a setting, as the bytes that are written for
it. -/
def Setting.fieldOf (c : Config) : Setting → List Text.Bytes
  | .tool => [c.toolPath]
  | .inputDir => [c.inputDir]
  | .extension => [utf8 c.extension]
  | .artifactSuffix => [utf8 c.layout.artifactSuffix]
  | .referenceSuffix => [utf8 c.layout.referenceSuffix]
  | .toolFlag => c.toolFlags.map utf8
  | .traceVar => [utf8 c.traceVar]
  | .diffTool => [utf8 c.diffProgram]
  | .matchCommand => c.policy.command.toList.map utf8
  | .matchReturn => (c.policy.returnCode.map toString).toList.map utf8
  | .matchStdout => c.policy.stdout.toList.map utf8
  | .matchStderr => c.policy.stderr.toList.map utf8
  | .format => [utf8 c.format.key]

/-- Every field has the value that was given for it, or else its default. -/
theorem Options.fieldOf_toConfig (o : Options) (terminal : Bool) (s : Setting) :
    s.fieldOf (o.toConfig terminal) =
      if o.values s = [] then s.fieldOf {} else (o.values s).map utf8 := by
  have hpath (x : Option String) (d : Path) :
      [(x.map utf8).getD d] = if x.toList = [] then [d] else x.toList.map utf8 := by
    cases x <;> rfl
  have hdefault (x : Option String) (d : String) :
      [utf8 (x.getD d)] = if x.toList = [] then [utf8 d] else x.toList.map utf8 := by
    cases x <;> rfl
  have hnone (x : Option String) :
      x.toList.map utf8 = if x.toList = [] then [] else x.toList.map utf8 := by
    cases x <;> rfl
  cases s with
  | tool | inputDir => exact hpath _ _
  | toolFlag =>
    change List.map utf8 (if o.toolFlags.isEmpty then _ else _) = if o.toolFlags = [] then _ else _
    simp only [List.isEmpty_iff, apply_ite (List.map utf8)]
    rfl
  | matchCommand | matchReturn | matchStdout | matchStderr => exact hnone _
  | format =>
    change [utf8 (o.format.getD .console).key] = if (o.format.map _).toList = [] then _ else
      (o.format.map _).toList.map utf8
    cases o.format <;> rfl
  | _ => exact hdefault _ _

/-- **Command lines give back their options, in any order.**  Options are given: any of the
settings and switches, with any values, but for empty paths and return codes of more than 32
bits, and any list of values for `--tool-flag`.  They are listed by arguments, each option
once, in any order that keeps the one of those values, and written in any of its ways: with
its second name, with the value behind an equals sign or, where it can stand apart, as an
argument of its own.  Then the arguments are read as these options.  In the configuration
every setting that was given has its value in its own field, all others have the default, and
the switches are on that were given.  So arguments that list the same options are read
alike. -/
theorem arguments_read_back (o : Options) (ho : o.Admissible) (argv : List String)
    (hargv : o.Listed argv) :
    parse argv = .ok o ∧
    (∀ terminal, let c := o.toConfig terminal
      (∀ s : Setting,
        s.fieldOf c = if o.values s = [] then s.fieldOf {} else (o.values s).map utf8) ∧
      c.verbose = o.verbose ∧ c.stopOnFail = o.exitFirst ∧ c.color = (!o.noColor && terminal)) ∧
    ∀ other, o.Listed other → parse other = parse argv := by
  have hparse := ho.parse_listed hargv
  refine ⟨hparse, fun terminal => ⟨o.fieldOf_toConfig terminal, rfl, rfl, rfl⟩, ?_⟩
  intro other hother
  rw [ho.parse_listed hother, hparse]

/-- Values that look like options, the second name of the tool, the least return code, an
empty pattern, and two flags with another option between them. -/
theorem arguments_read_back_sample :
    let o : Options :=
      { tool := some "-v", toolFlags := ["--", "--tool=x"], matchReturn := some (-2147483648),
        matchStdout := some "", format := some .json, verbose := true }
    let argv := ["-v", "--tool-flag", "--", "--match-return", "-2147483648", "--format=json",
      "--tool-flag=--tool=x", "--rewriter=-v", "--match-stdout="]
    o.Admissible ∧ o.Listed argv ∧ parse argv = .ok o ∧
      (o.toConfig false).toolFlags = ["--", "--tool=x"] ∧
      (o.toConfig false).extension = "cpp" := by
  intro o argv
  have ho : o.Admissible := by
    refine ⟨by decide, by decide, ?_⟩
    rintro n ⟨⟩
    exact ⟨by decide, by decide⟩
  have hargv : o.Listed argv := by
    refine ⟨[.switch .verbose, .setting .toolFlag "--", .setting .matchReturn "-2147483648",
      .setting .format "json", .setting .toolFlag "--tool=x", .setting .tool "-v",
      .setting .matchStdout ""], by decide, by decide, ?_⟩
    have hverbose := @Item.Spelled.letter .verbose 'v' rfl
    have hflag := @Item.Spelled.apart .toolFlag "tool-flag" "--" (by decide) (.inl rfl)
    have hcode := @Item.Spelled.apart .matchReturn "match-return" "-2147483648" (by decide)
      (.inr (.inl rfl))
    have hformat := @Item.Spelled.joined .format "format" "json" (by decide)
    have hnext := @Item.Spelled.joined .toolFlag "tool-flag" "--tool=x" (by decide)
    have htool := @Item.Spelled.joined .tool "rewriter" "-v" (by decide)
    have hstdout := @Item.Spelled.joined .matchStdout "match-stdout" "" (by decide)
    exact .cons hverbose (.cons hflag (.cons hcode (.cons hformat (.cons hnext (.cons htool
      (.cons hstdout .nil))))))
  obtain ⟨hparse, hconfig, -⟩ := arguments_read_back o ho argv hargv
  obtain ⟨hfields, -, -, -⟩ := hconfig false
  refine ⟨ho, hargv, hparse, ?_, ?_⟩
  · exact List.map_injective_iff.mpr Text.utf8_injective (hfields .toolFlag)
  · exact Text.utf8_injective (List.singleton_injective (hfields .extension))

end Assay.Cli

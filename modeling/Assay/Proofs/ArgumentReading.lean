import Assay.Proofs.CodeText

/-! # Reading options one by one

An option can be written in several ways: with the value of a setting behind an equals sign
or as the next argument, with either of two names, or as a letter.  `Item.Spelled` has all
of them.  The arguments are read from left to right, and a value that stood apart is only
looked at when the next option begins; `Reading.Ready` says what has been read between two
options, whether the last value is still to be looked at or not.

From one such point the next is reached by the arguments of any one option, however it is
written and whatever its value looks like (`Reading.Ready.spelled`).  So a command line is
read as the options that it was written from, taken one after the other
(`parse_of_written`).
-/

namespace Assay.Cli

/-! ## What stands on a command line -/

/-- An option as it is given: a setting with its value, or a switch. -/
inductive Item where
  | setting (s : Setting) (value : String)
  | switch (s : Switch)
  deriving DecidableEq

/-- A value may be an argument of its own if it does not begin with a hyphen, and for the
settings that take such values in any case. -/
def Setting.StandsApart (s : Setting) (value : String) : Prop :=
  s = .toolFlag ∨ s = .matchReturn ∨ value.toList.head? ≠ some '-'

namespace Item

/-- The arguments that an item can be written as. -/
inductive Spelled : Item → List String → Prop
  | joined {s : Setting} {name value : String} : name ∈ (Argument.setting s).names →
      Spelled (.setting s value) ["--" ++ name ++ "=" ++ value]
  | apart {s : Setting} {name value : String} : name ∈ (Argument.setting s).names →
      s.StandsApart value → Spelled (.setting s value) ["--" ++ name, value]
  | named (s : Switch) : Spelled (.switch s) ["--" ++ s.name]
  | letter {s : Switch} {c : Char} : s.letter? = some c → Spelled (.switch s) ["-" ++ c.toString]

/-- The value that the item gives to a setting. -/
def value? (s : Setting) : Item → Option String
  | setting t value => if t = s then some value else none
  | switch _ => none

theorem value?_self (s : Setting) (value : String) : value? s (setting s value) = some value :=
  if_pos rfl

theorem value?_other {s t : Setting} (h : t ≠ s) (value : String) : value? s (setting t value) = none :=
  if_neg h

end Item

/-- Items one after the other, each written in some way. -/
inductive Written : List Item → List String → Prop
  | nil : Written [] []
  | cons {item : Item} {items : List Item} {words rest : List String} :
      item.Spelled words → Written items rest → Written (item :: items) (words ++ rest)

namespace Options

/-- The values that were given to a setting, as they are written. -/
def values (o : Options) : Setting → List String
  | .tool => o.tool.toList
  | .inputDir => o.inputDir.toList
  | .extension => o.extension.toList
  | .artifactSuffix => o.artifactSuffix.toList
  | .referenceSuffix => o.referenceSuffix.toList
  | .toolFlag => o.toolFlags
  | .traceVar => o.traceVar.toList
  | .diffTool => o.diffTool.toList
  | .matchCommand => o.matchCommand.toList
  | .matchReturn => (o.matchReturn.map toString).toList
  | .matchStdout => o.matchStdout.toList
  | .matchStderr => o.matchStderr.toList
  | .format => (o.format.map ReportFormat.key).toList

/-- The switch was given. -/
def raised (o : Options) : Switch → Bool
  | .verbose => o.verbose
  | .exitFirst => o.exitFirst
  | .noColor => o.noColor
  | .help | .version => false

/-- All that was given, in one order. -/
def items (o : Options) : List Item :=
  Setting.all.flatMap (fun s => (o.values s).map (Item.setting s)) ++
    (Switch.all.filter o.raised).map Item.switch

/-- **The arguments list the options in some order.**  Every option that was given stands
there once, and the values of `--tool-flag` keep their order. -/
def Listed (o : Options) (argv : List String) : Prop :=
  ∃ items : List Item, items.Perm o.items ∧
    items.filterMap (Item.value? .toolFlag) = o.toolFlags ∧ Written items argv

/-- The values can be given: paths are not empty, and the return code has 32 bits. -/
structure Admissible (o : Options) : Prop where
  tool : o.tool ≠ some ""
  inputDir : o.inputDir ≠ some ""
  matchReturn : ∀ n ∈ o.matchReturn, IsCode n

/-- Take an item into the options. -/
def take (o : Options) : Item → Except Refusal Options
  | .setting s value => o.set s value
  | .switch s => o.raise s

end Options

/-! ## Names -/

theorem Setting.find?_name {s : Setting} {name : String} (h : name ∈ (Argument.setting s).names) :
    Setting.find? name = some s := by
  have hall : ∀ s ∈ Setting.all, ∀ name ∈ (Argument.setting s).names, Setting.find? name = some s := by
    decide
  exact hall s (by cases s <;> decide) name h

theorem Setting.notMem_name {s : Setting} {name : String} (h : name ∈ (Argument.setting s).names) :
    '=' ∉ name.toList := by
  have hall : ∀ s ∈ Setting.all, ∀ name ∈ (Argument.setting s).names, '=' ∉ name.toList := by decide
  exact hall s (by cases s <;> decide) name h

theorem Setting.name_ne_empty {s : Setting} {name : String} (h : name ∈ (Argument.setting s).names) :
    name ≠ "" := by
  rintro rfl
  revert h
  cases s <;> decide

theorem Switch.find?_name (s : Switch) :
    Setting.find? s.name = none ∧ Switch.find? s.name = some s := by
  cases s <;> decide

theorem Switch.name_plain (s : Switch) : '=' ∉ s.name.toList ∧ s.name ≠ "" := by
  cases s <;> decide

theorem Switch.ofLetter?_letter {s : Switch} {c : Char} (h : s.letter? = some c) :
    Switch.ofLetter? c = some s ∧ c ≠ '-' := by
  cases s <;> cases h <;> decide

/-! ## Values that stand apart -/

namespace Setting

/-- The setting takes the next argument: it takes anything, or that begins with no hyphen, or
it takes negative numbers and that is one. -/
def Takes (s : Setting) (value : String) : Prop :=
  s.takesAnything = true ∨ value.toList.head? ≠ some '-' ∨ s.takesNegative = true ∧
    ∃ c rest, value.toList = '-' :: c :: rest ∧ c ≠ '-' ∧ looksNumeric (c :: rest) = true

/-- A return code is taken, whether it begins with a hyphen or not. -/
theorem takes_code (n : Int) : matchReturn.Takes (toString n) := by
  obtain ⟨d, ds, hd, hdigits⟩ := exists_toDigits n.natAbs
  have hminus : d ≠ '-' := fun heq => absurd (heq ▸ hdigits d List.mem_cons_self) (by decide)
  rw [Takes, toList_toString, hd]
  split
  · exact .inr (.inl (by simpa using hminus))
  · exact .inr (.inr ⟨rfl, d, ds, rfl, hminus, looksNumeric_of_digits hdigits⟩)

theorem StandsApart.takes {s : Setting} {value : String} (h : s.StandsApart value)
    (hcode : s = .matchReturn → ∃ n : Int, value = toString n) : s.Takes value := by
  rcases h with rfl | rfl | hhead
  · exact .inl rfl
  · obtain ⟨n, rfl⟩ := hcode rfl
    exact takes_code n
  · exact .inr (.inl hhead)

end Setting

namespace Reading

/-! ## Reading one item -/

/-- Between two items: what has been read so far amounts to the options `o`. -/
structure Ready (r : Reading) (o : Options) : Prop where
  closed : r.closed = false
  waiting : r.waiting? = none
  close : ∃ given, r.close = .ok { options := o, given }

theorem ready_start : Ready {} {} := ⟨rfl, rfl, [], rfl⟩

variable {r : Reading} {o : Options}

/-- An argument with two hyphens, when no value is waited for. -/
theorem Ready.step_dashes (h : r.Ready o) {argument : String} {name : List Char}
    (hargument : argument.toList = '-' :: '-' :: name) : r.step argument = step.dashes r name := by
  rw [step, h.closed, h.waiting, hargument]
  rfl

theorem ne_equals_of_notMem {name : String} (h : '=' ∉ name.toList) :
    ∀ c ∈ name.toList, (c != '=') = true := by
  intro c hc
  have hne : c ≠ '=' := fun heq => h (heq ▸ hc)
  simp [hne]

/-- The name ends at the first equals sign, and all that follows it is the value. -/
theorem Ready.step_joined (h : r.Ready o) {name : String} (hname : '=' ∉ name.toList)
    (value : String) : r.step ("--" ++ name ++ "=" ++ value) = r.long name (some value) := by
  have hargument : ("--" ++ name ++ "=" ++ value).toList =
      '-' :: '-' :: (name.toList ++ '=' :: value.toList) := by simp
  have hkey : (name.toList ++ '=' :: value.toList).takeWhile (· != '=') = name.toList := by
    rw [List.takeWhile_append_of_pos (ne_equals_of_notMem hname)]
    simp
  rw [h.step_dashes hargument, step.dashes, if_neg (by simp)]
  dsimp only
  rw [hkey, List.drop_left]
  dsimp only
  rw [String.ofList_toList, String.ofList_toList]

theorem Ready.step_named (h : r.Ready o) {name : String} (hname : '=' ∉ name.toList)
    (hne : name ≠ "") : r.step ("--" ++ name) = r.long name none := by
  have hargument : ("--" ++ name).toList = '-' :: '-' :: name.toList := by simp
  have hkey : name.toList.takeWhile (· != '=') = name.toList :=
    List.takeWhile_eq_self_iff.mpr (ne_equals_of_notMem hname)
  rw [h.step_dashes hargument, step.dashes, if_neg (by simpa using hne)]
  dsimp only
  rw [hkey, List.drop_length, String.ofList_toList]

theorem long_setting {s : Setting} {name : String} (h : name ∈ (Argument.setting s).names)
    (value : String) : r.long name (some value) = r.close >>= (Reading.set · s value) := by
  unfold long
  rw [Setting.find?_name h]

theorem long_open {s : Setting} {name : String} (h : name ∈ (Argument.setting s).names) :
    r.long name none = do return { ← r.close with current := some (s, none) } := by
  unfold long
  rw [Setting.find?_name h]

/-- To note an option leaves all but the notes as it is. -/
theorem mark_eq (r : Reading) (a : Argument) : ∃ given, r.mark a = { r with given } := by
  unfold mark
  split
  · exact ⟨r.given, rfl⟩
  · exact ⟨_, rfl⟩

/-- The value of a setting is taken into the options. -/
theorem set_eq_ok {s : Setting} {value : String} {o' : Options}
    (h : r.options.set s value = .ok o') :
    ∃ given, r.set s value = .ok { r with options := o', given } := by
  obtain ⟨given, hmark⟩ := r.mark_eq (.setting s)
  refine ⟨given, ?_⟩
  rw [Reading.set, h, hmark]
  rfl

theorem Ready.switch (h : r.Ready o) {s : Switch} {o' : Options} (hraise : o.raise s = .ok o') :
    ∃ r', r.switch s = .ok r' ∧ r'.Ready o' := by
  obtain ⟨given, hclose⟩ := h.close
  obtain ⟨given', hmark⟩ := mark_eq { options := o, given } (.switch s)
  refine ⟨{ options := o', given := given' }, ?_, rfl, rfl, given', rfl⟩
  rw [Reading.switch, hclose]
  change (do return { mark { options := o, given } (.switch s) with options := ← o.raise s }) = _
  rw [hraise, hmark]
  rfl

theorem step_value {s : Setting} {value : String} (hclosed : r.closed = false)
    (hwaiting : r.waiting? = some s) (htakes : s.Takes value) :
    r.step value = .ok (r.take s value) := by
  unfold Setting.Takes at htakes
  rw [step, hclosed, hwaiting, if_neg Bool.false_ne_true]
  -- the argument begins with two hyphens, with one and something else, or with none
  split <;> grind

/-- A setting whose value stands behind an equals sign. -/
theorem Ready.joined (h : r.Ready o) {s : Setting} {name value : String}
    (hname : name ∈ (Argument.setting s).names) {o' : Options} (hset : o.set s value = .ok o') :
    ∃ r', r.step ("--" ++ name ++ "=" ++ value) = .ok r' ∧ r'.Ready o' := by
  obtain ⟨given, hclose⟩ := h.close
  obtain ⟨given', hread⟩ := set_eq_ok (r := { options := o, given }) hset
  refine ⟨{ options := o', given := given' }, ?_, rfl, rfl, given', rfl⟩
  rw [h.step_joined (Setting.notMem_name hname), long_setting hname, hclose]
  exact hread

/-- A setting whose value is the next argument. -/
theorem Ready.apart (h : r.Ready o) {s : Setting} {name value : String}
    (hname : name ∈ (Argument.setting s).names) (hapart : s.StandsApart value)
    (hcode : s = .matchReturn → ∃ n : Int, value = toString n) {o' : Options}
    (hset : o.set s value = .ok o') :
    ∃ r', ["--" ++ name, value].foldlM step r = .ok r' ∧ r'.Ready o' := by
  obtain ⟨given, hclose⟩ := h.close
  have hopen : r.step ("--" ++ name) = .ok { options := o, given, current := some (s, none) } := by
    rw [h.step_named (Setting.notMem_name hname) (Setting.name_ne_empty hname), long_open hname, hclose]
    rfl
  have hvalue := step_value (r := { options := o, given, current := some (s, none) }) rfl rfl
    (hapart.takes hcode)
  -- the value has been taken, but it is looked at only when the setting is closed
  obtain ⟨given', hread⟩ :=
    set_eq_ok (r := { options := o, given, current := some (s, some value) }) hset
  refine ⟨{ options := o, given, current := some (s, some value) }, ?_, rfl, rfl, given', ?_⟩
  · rw [List.foldlM_cons, hopen]
    change (step _ value >>= pure) = _
    rw [hvalue]
    rfl
  · rw [Reading.close]
    dsimp only
    rw [hread]
    rfl

/-- **One item:** however it is written, its arguments are read as that item. -/
theorem Ready.spelled (h : r.Ready o) {item : Item} {words : List String}
    (hspelled : item.Spelled words)
    (hcode : ∀ value, item = .setting .matchReturn value → ∃ n : Int, value = toString n)
    {o' : Options} (htake : o.take item = .ok o') :
    ∃ r', words.foldlM step r = .ok r' ∧ r'.Ready o' := by
  cases hspelled with
  | joined hname =>
    obtain ⟨r', hstep, hready⟩ := h.joined hname htake
    exact ⟨r', by rw [List.foldlM_cons, hstep]; rfl, hready⟩
  | apart hname hapart =>
    refine h.apart hname hapart ?_ htake
    rintro rfl
    exact hcode _ rfl
  | named s =>
    obtain ⟨r', hswitch, hready⟩ := h.switch htake
    obtain ⟨hsetting, hname⟩ := s.find?_name
    obtain ⟨hequals, hne⟩ := s.name_plain
    refine ⟨r', ?_, hready⟩
    rw [List.foldlM_cons, h.step_named hequals hne]
    unfold long
    rw [hsetting, hname]
    dsimp only
    rw [hswitch]
    rfl
  | @letter s c hletter =>
    obtain ⟨r', hswitch, hready⟩ := h.switch htake
    obtain ⟨hfind, hminus⟩ := Switch.ofLetter?_letter hletter
    have hletters : r.step ("-" ++ c.toString) = r.letters [c] := by
      rw [step, h.closed, h.waiting, if_neg Bool.false_ne_true]
      have hargument : ("-" ++ c.toString).toList = ['-', c] := by simp
      rw [hargument]
      split <;> grind
    refine ⟨r', ?_, hready⟩
    rw [List.foldlM_cons, hletters, letters, hfind]
    dsimp only
    rw [hswitch]
    rfl

/-- **All items:** the arguments are read as the items that they were written from. -/
theorem Ready.written {items : List Item} {argv : List String} (hwritten : Written items argv)
    (hcode : ∀ value, .setting .matchReturn value ∈ items → ∃ n : Int, value = toString n)
    {r : Reading} {o o' : Options} (h : r.Ready o) (hfold : items.foldlM Options.take o = .ok o') :
    ∃ r', argv.foldlM step r = .ok r' ∧ r'.Ready o' := by
  induction hwritten generalizing r o with
  | nil =>
    cases hfold
    exact ⟨r, rfl, h⟩
  | @cons item items words rest hspelled _ ih =>
    rw [List.foldlM_cons] at hfold
    cases htake : o.take item with
    | error e =>
      rw [htake] at hfold
      cases hfold
    | ok mid =>
      rw [htake] at hfold
      obtain ⟨r₁, hread, hready⟩ := h.spelled hspelled
        (fun value heq => hcode value (heq ▸ List.mem_cons_self)) htake
      obtain ⟨r₂, hrest, hdone⟩ :=
        ih (fun value hmem => hcode value (List.mem_cons_of_mem item hmem)) hready hfold
      refine ⟨r₂, ?_, hdone⟩
      rw [List.foldlM_append, hread]
      exact hrest

end Reading

/-- **A command line is read as its items, taken one after the other.** -/
theorem parse_of_written {items : List Item} {argv : List String} (hwritten : Written items argv)
    (hcode : ∀ value, .setting .matchReturn value ∈ items → ∃ n : Int, value = toString n)
    {o : Options} (hfold : items.foldlM Options.take {} = .ok o) : parse argv = .ok o := by
  obtain ⟨r, hread, hready⟩ := Reading.ready_start.written hwritten hcode hfold
  obtain ⟨given, hclose⟩ := hready.close
  rw [parse, hread]
  change (do return (← r.close).options) = _
  rw [hclose]
  rfl

end Assay.Cli

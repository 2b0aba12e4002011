import Assay.Proofs.JsonText

/-! # Reading JSON texts

`Json.read` is a reader of JSON texts.  It takes one character after the other and
keeps a stack of the brackets that are open, so a text is read in parts exactly as
it is read in one go.  Every text of the grammar is read as the document it is a
text of (`Reader.reads_of_written`).
-/

namespace Assay.Json

/-! ## The reader -/

namespace Reader

/-- Inside a text: `chars` have been read, and the next character stands for
itself, comes after a backslash, or is one of four digits; after the first half
of a pair the second has to follow. -/
inductive TextState where
  | ready (chars : List Char)
  | escape (chars : List Char)
  | code (chars : List Char) (high : Option Nat) (digits : List Char)
  | half (chars : List Char) (high : Nat)
  | halfEscape (chars : List Char) (high : Nat)

namespace TextState

/-- The four digits after `\u` have been read. -/
def resolve (chars : List Char) : Option Nat → Nat → Option TextState
  | none, n =>
    if isHigh n then some (.half chars n)
    else if isLow n then none
    else some (.ready (chars ++ [Char.ofNat n]))
  | some high, n => if isLow n then some (.ready (chars ++ [Char.ofNat (joined high n)])) else none

def step : TextState → Char → Option TextState
  | .ready chars, c =>
    if c = '\\' then some (.escape chars)
    else if c.toNat < 0x20 ∨ c = '"' then none
    else some (.ready (chars ++ [c]))
  | .escape chars, c =>
    if c = 'u' then some (.code chars none [])
    else (escaped? c).map fun x => .ready (chars ++ [x])
  | .code chars high ds, c =>
    if ds.length < 3 then some (.code chars high (ds ++ [c]))
    else (hexNumber? (ds ++ [c])).bind (resolve chars high)
  | .half chars high, c => if c = '\\' then some (.halfEscape chars high) else none
  | .halfEscape chars high, c => if c = 'u' then some (.code chars (some high) []) else none

/-- The text, if this character ends it. -/
def close? : TextState → Char → Option String
  | .ready chars, c => if c = '"' then some (String.ofList chars) else none
  | _, _ => none

end TextState

/-- The part of a number that was read last. -/
inductive Part where
  | sign | zero | whole | point | fraction | mark | markSign | exponent

namespace Part

/-- The exponent begins. -/
def isMark (c : Char) : Bool := c == 'e' || c == 'E'

def next : Part → Char → Option Part
  | .sign, c => if c = '0' then some .zero else if c.isDigit then some .whole else none
  | .zero, c => if c = '.' then some .point else if isMark c then some .mark else none
  | .whole, c =>
    if c.isDigit then some .whole
    else if c = '.' then some .point else if isMark c then some .mark else none
  | .point, c => if c.isDigit then some .fraction else none
  | .fraction, c => if c.isDigit then some .fraction else if isMark c then some .mark else none
  | .mark, c =>
    if c = '+' ∨ c = '-' then some .markSign else if c.isDigit then some .exponent else none
  | .markSign, c => if c.isDigit then some .exponent else none
  | .exponent, c => if c.isDigit then some .exponent else none

/-- The number may end here. -/
def isEnd : Part → Bool
  | .zero | .whole | .fraction | .exponent => true
  | _ => false

end Part

/-- An array or object that is open, with what it holds so far; in an object, the
value of `name` is being read. -/
inductive Frame where
  | array (items : List Json)
  | object (fields : List (String × Json)) (name : String)

/-- What is being read.  Where `fresh` holds, the array or object has just been
opened and may be closed at once. -/
inductive Mode where
  | value (fresh : Bool)
  | name (fields : List (String × Json)) (fresh : Bool)
  | nameText (fields : List (String × Json)) (t : TextState)
  | colon (fields : List (String × Json)) (name : String)
  | text (t : TextState)
  | word (rest : List Char) (j : Json)
  | number (token : List Char) (part : Part)
  | done (j : Json)

structure State where
  mode : Mode
  stack : List Frame

namespace State

/-- The first character of a value. -/
def begin (stack : List Frame) (c : Char) : Option State :=
  if c = '"' then some ⟨.text (.ready []), stack⟩
  else if c = '[' then some ⟨.value true, .array [] :: stack⟩
  else if c = '\x7b' then some ⟨.name [] true, stack⟩
  else if c = 'n' then some ⟨.word ['u', 'l', 'l'] .null, stack⟩
  else if c = 't' then some ⟨.word ['r', 'u', 'e'] (.bool true), stack⟩
  else if c = 'f' then some ⟨.word ['a', 'l', 's', 'e'] (.bool false), stack⟩
  else if c = '-' then some ⟨.number [c] .sign, stack⟩
  else (Part.next .sign c).map fun part => ⟨.number [c] part, stack⟩

/-- A character behind a value. -/
def proceed (j : Json) (stack : List Frame) (c : Char) : Option State :=
  if isSpace c then some ⟨.done j, stack⟩
  else match stack with
    | .array items :: rest =>
      if c = ',' then some ⟨.value false, .array (items ++ [j]) :: rest⟩
      else if c = ']' then some ⟨.done (.array (items ++ [j])), rest⟩
      else none
    | .object fields name :: rest =>
      if c = ',' then some ⟨.name (fields ++ [(name, j)]) false, rest⟩
      else if c = '\x7d' then some ⟨.done (.object (fields ++ [(name, j)])), rest⟩
      else none
    | [] => none

/-- Read one character. -/
def step (s : State) (c : Char) : Option State :=
  match s.mode with
  | .value fresh =>
    if isSpace c then some s
    else if c = ']' then
      match fresh, s.stack with
      | true, .array items :: rest => some ⟨.done (.array items), rest⟩
      | _, _ => none
    else begin s.stack c
  | .name fields fresh =>
    if isSpace c then some s
    else if c = '"' then some ⟨.nameText fields (.ready []), s.stack⟩
    else if c = '\x7d' ∧ fresh = true then some ⟨.done (.object fields), s.stack⟩
    else none
  | .nameText fields t =>
    match t.close? c with
    | some name => some ⟨.colon fields name, s.stack⟩
    | none => (t.step c).map fun t => ⟨.nameText fields t, s.stack⟩
  | .colon fields name =>
    if isSpace c then some s
    else if c = ':' then some ⟨.value false, .object fields name :: s.stack⟩
    else none
  | .text t =>
    match t.close? c with
    | some content => some ⟨.done (.text content), s.stack⟩
    | none => (t.step c).map fun t => ⟨.text t, s.stack⟩
  | .word rest j =>
    match rest with
    | [x] => if c = x then some ⟨.done j, s.stack⟩ else none
    | x :: xs => if c = x then some ⟨.word xs j, s.stack⟩ else none
    | [] => none
  | .number token part =>
    match part.next c with
    | some part => some ⟨.number (token ++ [c]) part, s.stack⟩
    | none => if part.isEnd then proceed (.number (String.ofList token)) s.stack c else none
  | .done j => proceed j s.stack c

/-- Read characters. -/
def run (s : State) (cs : List Char) : Option State := cs.foldlM step s

/-- The document, if the text may end here. -/
def finish (s : State) : Option Json :=
  match s with
  | ⟨.done j, []⟩ => some j
  | ⟨.number token part, []⟩ => if part.isEnd then some (.number (String.ofList token)) else none
  | _ => none

end State

/-! ### Reading in parts -/

namespace State

variable {s s' : State} {c : Char} {cs ds : List Char}

theorem run_cons (h : s.step c = some s') : s.run (c :: cs) = s'.run cs := by
  rw [run, List.foldlM_cons, h]
  rfl

theorem run_append (h : s.run cs = some s') : s.run (cs ++ ds) = s'.run ds := by
  rw [run, List.foldlM_append, ← run, h]
  rfl

/-- A state that white space does not change is kept by any amount of it. -/
theorem run_space (hs : ∀ c, isSpace c = true → s.step c = some s) (hcs : Space cs) :
    s.run cs = some s := by
  induction cs with
  | nil => rfl
  | cons c cs ih =>
    rw [run_cons (hs c (hcs c List.mem_cons_self))]
    exact ih fun d hd => hcs d (List.mem_cons_of_mem c hd)

theorem step_value_space (fresh : Bool) (stack : List Frame) (c : Char) (hc : isSpace c = true) :
    step ⟨.value fresh, stack⟩ c = some ⟨.value fresh, stack⟩ := by
  simp [step, hc]

theorem step_name_space (fields : List (String × Json)) (fresh : Bool) (stack : List Frame)
    (c : Char) (hc : isSpace c = true) :
    step ⟨.name fields fresh, stack⟩ c = some ⟨.name fields fresh, stack⟩ := by
  simp [step, hc]

theorem step_colon_space (fields : List (String × Json)) (name : String) (stack : List Frame)
    (c : Char) (hc : isSpace c = true) :
    step ⟨.colon fields name, stack⟩ c = some ⟨.colon fields name, stack⟩ := by
  simp [step, hc]

theorem step_done_space (j : Json) (stack : List Frame) (c : Char) (hc : isSpace c = true) :
    step ⟨.done j, stack⟩ c = some ⟨.done j, stack⟩ := by
  simp [step, proceed, hc]

end State

/-! ### Texts -/

namespace TextState

/-- Four digits are read. -/
theorem foldlM_code (chars : List Char) (high : Option Nat) (h₁ h₂ h₃ h₄ : Char) {n : Nat}
    (hn : hexNumber? [h₁, h₂, h₃, h₄] = some n) :
    [h₁, h₂, h₃, h₄].foldlM step (.code chars high []) = resolve chars high n := by
  simp [step, hn]

/-- A character is read, however it is written. -/
theorem foldlM_spelled {c : Char} {cs : List Char} (h : Spelled c cs) (chars : List Char) :
    cs.foldlM step (.ready chars) = some (.ready (chars ++ [c])) := by
  cases h with
  | plain hc hquote hslash =>
    have hlow : ¬ c.toNat < 0x20 := Nat.not_lt.mpr hc
    simp [step, hquote, hslash, hlow]
  | @letter l hl =>
    have hu : l ≠ 'u' := by
      rintro rfl
      cases hl
    simp [step, hu, hl]
  | @code h₁ h₂ h₃ h₄ hcode =>
    -- the number of a character is never half of a pair
    have hvalid : c.toNat < 0xD800 ∨ 0xDFFF < c.toNat ∧ c.toNat < 0x110000 := c.valid
    have hhigh : isHigh c.toNat = false := by
      rw [isHigh, Bool.and_eq_false_imp]
      simp
      omega
    have hlow : isLow c.toNat = false := by
      rw [isLow, Bool.and_eq_false_imp]
      simp
      omega
    have hdigits := foldlM_code chars none h₁ h₂ h₃ h₄ hcode
    simp only [resolve, hhigh, hlow, Bool.false_eq_true, if_false, Char.ofNat_toNat] at hdigits
    exact hdigits
  | @pair h₁ h₂ h₃ h₄ l₁ l₂ l₃ l₄ high low hhigh hh hlow hl hc =>
    have hfirst := foldlM_code chars none h₁ h₂ h₃ h₄ hhigh
    have hsecond := foldlM_code chars (some high) l₁ l₂ l₃ l₄ hlow
    simp only [resolve, hh, if_true] at hfirst
    simp only [resolve, hl, if_true, ← hc, Char.ofNat_toNat] at hsecond
    have hparts : ['\\', 'u', h₁, h₂, h₃, h₄, '\\', 'u', l₁, l₂, l₃, l₄] =
        ['\\', 'u'] ++ [h₁, h₂, h₃, h₄] ++ ['\\', 'u'] ++ [l₁, l₂, l₃, l₄] := rfl
    rw [hparts, List.foldlM_append, List.foldlM_append, List.foldlM_append]
    change ((([h₁, h₂, h₃, h₄].foldlM step (.code chars none [])).bind fun t =>
      ['\\', 'u'].foldlM step t).bind fun t => [l₁, l₂, l₃, l₄].foldlM step t) = _
    rw [hfirst]
    exact hsecond

/-- A text is read, however it is written. -/
theorem foldlM_spelling {t cs : List Char} (h : Spelling t cs) (chars : List Char) :
    cs.foldlM step (.ready chars) = some (.ready (chars ++ t)) := by
  induction h generalizing chars with
  | nil => simp
  | @cons c t cs ds hc _ ih =>
    rw [List.foldlM_append, foldlM_spelled hc]
    have hrest := ih (chars ++ [c])
    rwa [List.append_assoc] at hrest

/-- A character that is part of a text does not end it. -/
theorem close?_of_step {t t' : TextState} {c : Char} (h : t.step c = some t') :
    t.close? c = none := by
  cases t with
  | ready chars =>
    rw [close?, if_neg]
    rintro rfl
    simp [step] at h
  | _ => rfl

end TextState

/-! ### Numbers -/

namespace Part

/-- A part that consists of digits goes on with them. -/
theorem foldlM_digits {p : Part} (hp : ∀ d : Char, d.isDigit = true → p.next d = some p)
    {ds : List Char} (hds : Digits ds) : ds.foldlM next p = some p := by
  induction ds with
  | nil => rfl
  | cons d ds ih =>
    rw [List.foldlM_cons, hp d (hds d List.mem_cons_self)]
    exact ih fun x hx => hds x (List.mem_cons_of_mem d hx)

theorem foldlM_whole {cs : List Char} (h : Whole cs) :
    ∃ p, (p = zero ∨ p = whole) ∧ cs.foldlM next sign = some p := by
  cases h with
  | zero => exact ⟨.zero, .inl rfl, rfl⟩
  | @digits d ds hd hzero hds =>
    have hnext : next .sign d = some .whole := by simp [next, hd, hzero]
    rw [List.foldlM_cons, hnext]
    exact ⟨.whole, .inr rfl, foldlM_digits (fun x hx => by simp [next, hx]) hds⟩

theorem foldlM_fraction {p : Part} (hp : p = zero ∨ p = whole) {cs : List Char}
    (h : Fraction cs) :
    ∃ p', (p' = zero ∨ p' = whole ∨ p' = fraction) ∧ cs.foldlM next p = some p' := by
  cases h with
  | none => exact ⟨p, hp.elim .inl fun h => .inr (.inl h), rfl⟩
  | @digits d ds hds =>
    have hpoint : next p '.' = some .point := by rcases hp with rfl | rfl <;> rfl
    have hnext : next .point d = some .fraction := by simp [next, hds d List.mem_cons_self]
    rw [List.foldlM_cons, hpoint]
    refine ⟨.fraction, .inr (.inr rfl), ?_⟩
    change (d :: ds).foldlM next .point = _
    rw [List.foldlM_cons, hnext]
    exact foldlM_digits (fun x hx => by simp [next, hx]) fun x hx => hds x (List.mem_cons_of_mem d hx)

theorem foldlM_exponent {p : Part} (hp : p = zero ∨ p = whole ∨ p = fraction) {cs : List Char}
    (h : Exponent cs) : ∃ p', p'.isEnd = true ∧ cs.foldlM next p = some p' := by
  cases h with
  | none => exact ⟨p, by rcases hp with rfl | rfl | rfl <;> rfl, rfl⟩
  | @digits e d sign ds he hsign hds =>
    have hmark : next p e = some .mark := by
      rcases hp with rfl | rfl | rfl <;> rcases he with rfl | rfl <;> rfl
    have hd := hds d List.mem_cons_self
    have hrest : ds.foldlM next .exponent = some .exponent :=
      foldlM_digits (fun x hx => by simp [next, hx]) fun x hx => hds x (List.mem_cons_of_mem d hx)
    have hdigits : ∀ q, q = .mark ∨ q = .markSign →
        (d :: ds).foldlM next q = some .exponent := by
      intro q hq
      have hsigns : ¬ (d = '+' ∨ d = '-') := by
        rintro (rfl | rfl) <;> cases hd
      have hnext : next q d = some .exponent := by
        rcases hq with rfl | rfl <;> simp [next, hd, hsigns]
      rw [List.foldlM_cons, hnext]
      exact hrest
    refine ⟨.exponent, rfl, ?_⟩
    rw [List.cons_append, List.foldlM_cons, hmark]
    change (sign ++ d :: ds).foldlM next .mark = _
    rcases hsign with rfl | rfl | rfl
    · exact hdigits .mark (.inl rfl)
    · exact hdigits .markSign (.inr rfl)
    · exact hdigits .markSign (.inr rfl)

theorem foldlM_unsigned {cs : List Char} (h : Unsigned cs) :
    ∃ p, p.isEnd = true ∧ cs.foldlM next sign = some p := by
  cases h with
  | @parts whole fraction exponent hwhole hfraction hexponent =>
    obtain ⟨p₁, hp₁, hrun₁⟩ := foldlM_whole hwhole
    obtain ⟨p₂, hp₂, hrun₂⟩ := foldlM_fraction hp₁ hfraction
    obtain ⟨p₃, hend, hrun₃⟩ := foldlM_exponent hp₂ hexponent
    refine ⟨p₃, hend, ?_⟩
    rw [List.foldlM_append, List.foldlM_append, hrun₁]
    change (fraction.foldlM next p₁).bind _ = _
    rw [hrun₂]
    exact hrun₃

end Part

namespace State

variable {stack : List Frame}

/-- Characters of a text are read inside it, wherever the text stands. -/
theorem run_text {wrap : TextState → Mode}
    (hwrap : ∀ t c t', t.step c = some t' → step ⟨wrap t, stack⟩ c = some ⟨wrap t', stack⟩)
    {cs : List Char} {t t' : TextState} (h : cs.foldlM TextState.step t = some t') :
    run ⟨wrap t, stack⟩ cs = some ⟨wrap t', stack⟩ := by
  induction cs generalizing t with
  | nil =>
    cases h
    rfl
  | cons c cs ih =>
    rw [List.foldlM_cons] at h
    obtain ⟨mid, hmid, hrest⟩ := Option.bind_eq_some_iff.mp h
    rw [run_cons (hwrap t c mid hmid)]
    exact ih hrest

theorem step_text (stack : List Frame) (t : TextState) (c : Char) (t' : TextState)
    (h : t.step c = some t') : step ⟨.text t, stack⟩ c = some ⟨.text t', stack⟩ := by
  simp [step, TextState.close?_of_step h, h]

theorem step_nameText (fields : List (String × Json)) (stack : List Frame) (t : TextState)
    (c : Char) (t' : TextState) (h : t.step c = some t') :
    step ⟨.nameText fields t, stack⟩ c = some ⟨.nameText fields t', stack⟩ := by
  simp [step, TextState.close?_of_step h, h]

/-- Characters of a number are read inside it. -/
theorem run_number (stack : List Frame) (token : List Char) {cs : List Char} {p p' : Part}
    (h : cs.foldlM Part.next p = some p') :
    run ⟨.number token p, stack⟩ cs = some ⟨.number (token ++ cs) p', stack⟩ := by
  induction cs generalizing token p with
  | nil =>
    cases h
    simp [run]
  | cons c cs ih =>
    rw [List.foldlM_cons] at h
    obtain ⟨mid, hmid, hrest⟩ := Option.bind_eq_some_iff.mp h
    have hstep : step ⟨.number token p, stack⟩ c = some ⟨.number (token ++ [c]) mid, stack⟩ := by
      simp [step, hmid]
    rw [run_cons hstep, ih (token ++ [c]) hrest, List.append_assoc]
    rfl

/-- A number that has no sign begins with a digit. -/
theorem step_value_digit {d : Char} (hd : d.isDigit = true) (fresh : Bool) :
    step ⟨.value fresh, stack⟩ d = step ⟨.number [] .sign, stack⟩ d := by
  have hne : ∀ c : Char, c.isDigit = false → d ≠ c := by
    rintro c hc rfl
    rw [hd] at hc
    cases hc
  have hspace : isSpace d = false := by
    simp [isSpace, hne ' ' rfl, hne '\n' rfl, hne '\r' rfl, hne '\t' rfl]
  have hpart : ∃ p, Part.next .sign d = some p := by
    by_cases hzero : d = '0' <;> simp [Part.next, hd, hzero]
  obtain ⟨p, hpart⟩ := hpart
  simp [step, begin, hspace, hpart, hne ']' rfl, hne '"' rfl, hne '[' rfl, hne '\x7b' rfl,
    hne 'n' rfl, hne 't' rfl, hne 'f' rfl, hne '-' rfl]

theorem run_numeral {cs : List Char} (h : Numeral cs) (fresh : Bool) :
    ∃ part, part.isEnd = true ∧ run ⟨.value fresh, stack⟩ cs = some ⟨.number cs part, stack⟩ := by
  cases h with
  | unsigned h =>
    obtain ⟨d, ds, hd, rfl⟩ := h.exists_digit
    obtain ⟨part, hend, hparts⟩ := Part.foldlM_unsigned h
    refine ⟨part, hend, ?_⟩
    have hrun := run_number stack [] hparts
    rw [run, List.foldlM_cons] at hrun ⊢
    rw [step_value_digit hd]
    exact hrun
  | negative h =>
    obtain ⟨part, hend, hparts⟩ := Part.foldlM_unsigned h
    refine ⟨part, hend, ?_⟩
    have hminus : step ⟨.value fresh, stack⟩ '-' = some ⟨.number ['-'] .sign, stack⟩ := rfl
    rw [run_cons hminus]
    exact run_number stack ['-'] hparts

/-! ### Whole texts -/

/-- A value has been read.  The end of a number is seen only behind it. -/
inductive Holds (j : Json) (stack : List Frame) : State → Prop
  | done : Holds j stack ⟨.done j, stack⟩
  | number {token : List Char} {part : Part} : part.isEnd = true →
      j = .number (String.ofList token) → Holds j stack ⟨.number token part, stack⟩

/-- A character that stands behind a value and not in it. -/
def isDelimiter (c : Char) : Bool := isSpace c || c == ',' || c == ']' || c == '\x7d'

theorem Holds.step {j : Json} {s : State} (h : Holds j stack s) {c : Char}
    (hc : isDelimiter c = true) : s.step c = proceed j stack c := by
  cases h with
  | done => rfl
  | @number token part hend hj =>
    subst hj
    have hchars : c = ' ' ∨ c = '\n' ∨ c = '\r' ∨ c = '\t' ∨ c = ',' ∨ c = ']' ∨ c = '\x7d' := by
      simpa [isDelimiter, isSpace, or_assoc] using hc
    have hnext : part.next c = none := by
      rcases hchars with rfl | rfl | rfl | rfl | rfl | rfl | rfl <;> cases part <;> rfl
    simp [State.step, hnext, hend]

theorem Holds.finish {j : Json} {s : State} (h : Holds j [] s) : s.finish = some j := by
  cases h with
  | done => rfl
  | number hend hj => simp [State.finish, hend, hj]

/-- White space behind a value. -/
theorem Holds.run_space {j : Json} {s : State} (h : Holds j stack s) {ws : List Char}
    (hws : Space ws) : ∃ s', s.run ws = some s' ∧ Holds j stack s' := by
  cases ws with
  | nil => exact ⟨s, rfl, h⟩
  | cons c ws =>
    have hc := hws c List.mem_cons_self
    have hstep : s.step c = some ⟨.done j, stack⟩ := by
      rw [h.step (by simp [isDelimiter, hc])]
      simp [proceed, hc]
    refine ⟨⟨.done j, stack⟩, ?_, .done⟩
    rw [run_cons hstep]
    exact State.run_space (step_done_space j stack) fun x hx => hws x (List.mem_cons_of_mem c hx)

end State

open State

/-- What the reader makes of a phrase, wherever it stands.  Lists of elements and
members are read up to the bracket that closes them. -/
def Reads : Phrase → List Char → Prop
  | .value j, cs | .element j, cs => ∀ fresh stack, ∃ s,
      run ⟨.value fresh, stack⟩ cs = some s ∧ Holds j stack s
  | .elements js, cs => ∀ fresh items stack, ∃ s,
      run ⟨.value fresh, .array items :: stack⟩ cs = some s ∧
        s.step ']' = some ⟨.done (.array (items ++ js)), stack⟩
  | .member name j, cs => ∀ fresh fields stack, ∃ s,
      run ⟨.name fields fresh, stack⟩ cs = some s ∧ Holds j (.object fields name :: stack) s
  | .members more, cs => ∀ fresh fields stack, ∃ s,
      run ⟨.name fields fresh, stack⟩ cs = some s ∧
        s.step '\x7d' = some ⟨.done (.object (fields ++ more)), stack⟩

/-- **Every phrase of the grammar is read as what it stands for.** -/
theorem reads_of_written {phrase : Phrase} {cs : List Char} (h : Written phrase cs) :
    Reads phrase cs := by
  induction h with
  | null => exact fun fresh stack => ⟨_, rfl, .done⟩
  | bool b => cases b <;> exact fun fresh stack => ⟨_, rfl, .done⟩
  | number hcs =>
    intro fresh stack
    obtain ⟨part, hend, hrun⟩ := run_numeral hcs fresh
    exact ⟨_, hrun, .number hend rfl⟩
  | @text t cs ht =>
    intro fresh stack
    refine ⟨⟨.done (.text (String.ofList t)), stack⟩, ?_, .done⟩
    have hquote : step ⟨.value fresh, stack⟩ '"' = some ⟨.text (.ready []), stack⟩ := rfl
    have hchars := run_text (step_text stack) (TextState.foldlM_spelling ht [])
    rw [List.cons_append, run_cons hquote, run_append hchars]
    rfl
  | @emptyArray ws hws =>
    intro fresh stack
    refine ⟨⟨.done (.array []), stack⟩, ?_, .done⟩
    have hopen : step ⟨.value fresh, stack⟩ '[' = some ⟨.value true, .array [] :: stack⟩ := rfl
    rw [List.cons_append, run_cons hopen, run_append (run_space (step_value_space true _) hws)]
    rfl
  | array _ ih =>
    intro fresh stack
    obtain ⟨s, hrun, hclose⟩ := ih true [] stack
    have hopen : step ⟨.value fresh, stack⟩ '[' = some ⟨.value true, .array [] :: stack⟩ := rfl
    refine ⟨_, ?_, .done⟩
    rw [List.cons_append, run_cons hopen, run_append hrun, run_cons hclose]
    rfl
  | @emptyObject ws hws =>
    intro fresh stack
    refine ⟨⟨.done (.object []), stack⟩, ?_, .done⟩
    have hopen : step ⟨.value fresh, stack⟩ '\x7b' = some ⟨.name [] true, stack⟩ := rfl
    rw [List.cons_append, run_cons hopen, run_append (run_space (step_name_space [] true _) hws)]
    rfl
  | object _ ih =>
    intro fresh stack
    obtain ⟨s, hrun, hclose⟩ := ih true [] stack
    have hopen : step ⟨.value fresh, stack⟩ '\x7b' = some ⟨.name [] true, stack⟩ := rfl
    refine ⟨_, ?_, .done⟩
    rw [List.cons_append, run_cons hopen, run_append hrun, run_cons hclose]
    rfl
  | element hbefore _ hafter ih =>
    intro fresh stack
    obtain ⟨s, hrun, hholds⟩ := ih fresh stack
    obtain ⟨s', hspace, hholds⟩ := hholds.run_space hafter
    refine ⟨s', ?_, hholds⟩
    rw [List.append_assoc, run_append (run_space (step_value_space fresh stack) hbefore),
      run_append hrun, hspace]
  | lastElement _ ih =>
    intro fresh items stack
    obtain ⟨s, hrun, hholds⟩ := ih fresh (.array items :: stack)
    exact ⟨s, hrun, hholds.step rfl⟩
  | @elements j js cs ds _ _ ih ihs =>
    intro fresh items stack
    obtain ⟨s, hrun, hholds⟩ := ih fresh (.array items :: stack)
    obtain ⟨s', hruns, hclose⟩ := ihs false (items ++ [j]) stack
    have hcomma : s.step ',' = some ⟨.value false, .array (items ++ [j]) :: stack⟩ :=
      hholds.step rfl
    refine ⟨s', ?_, ?_⟩
    · rw [run_append hrun, run_cons hcomma, hruns]
    · rwa [List.append_assoc] at hclose
  | @member name before key after cs j hbefore hname hafter _ ih =>
    intro fresh fields stack
    obtain ⟨s, hrun, hholds⟩ := ih false (.object fields (String.ofList name) :: stack)
    refine ⟨s, ?_, hholds⟩
    have hquote : step ⟨.name fields fresh, stack⟩ '"' =
        some ⟨.nameText fields (.ready []), stack⟩ := rfl
    have hkey := run_text (step_nameText fields stack) (TextState.foldlM_spelling hname [])
    have hend : step ⟨.nameText fields (.ready name), stack⟩ '"' =
        some ⟨.colon fields (String.ofList name), stack⟩ := rfl
    have hcolon : step ⟨.colon fields (String.ofList name), stack⟩ ':' =
        some ⟨.value false, .object fields (String.ofList name) :: stack⟩ := rfl
    rw [List.nil_append] at hkey
    simp only [List.append_assoc, List.cons_append]
    rw [run_append (run_space (step_name_space fields fresh stack) hbefore), run_cons hquote,
      run_append hkey, run_cons hend,
      run_append (run_space (step_colon_space fields _ stack) hafter), run_cons hcolon, hrun]
  | lastMember _ ih =>
    intro fresh fields stack
    obtain ⟨s, hrun, hholds⟩ := ih fresh fields stack
    exact ⟨s, hrun, hholds.step rfl⟩
  | @members name j more cs ds _ _ ih ihs =>
    intro fresh fields stack
    obtain ⟨s, hrun, hholds⟩ := ih fresh fields stack
    obtain ⟨s', hruns, hclose⟩ := ihs false (fields ++ [(name, j)]) stack
    have hcomma : s.step ',' = some ⟨.name (fields ++ [(name, j)]) false, stack⟩ :=
      hholds.step rfl
    refine ⟨s', ?_, ?_⟩
    · rw [run_append hrun, run_cons hcomma, hruns]
    · rwa [List.append_assoc] at hclose

end Reader

open Reader in
/-- The document that a text is a text of. -/
def read (text : String) : Option Json :=
  ((⟨.value false, []⟩ : State).run text.toList).bind State.finish

end Assay.Json

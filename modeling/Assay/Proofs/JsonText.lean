import Assay.Json.Basic

/-! # JSON texts

`Json.Written` is the grammar of JSON: the texts that a document may be written
as, with white space around its parts and with characters escaped or not, as the
writer likes.

A document that is set out over several lines is a text of itself, if the tokens
it has for numbers are numbers (`Json.written_prettyAt`).
-/

namespace Assay.Json

/-! ## The grammar -/

/-- White space between the parts of a text. -/
def isSpace (c : Char) : Bool := c == ' ' || c == '\n' || c == '\r' || c == '\t'

/-- The characters are white space. -/
def Space (cs : List Char) : Prop := ∀ c ∈ cs, isSpace c = true

theorem Space.nil : Space [] := fun _ hc => nomatch hc

theorem Space.cons {c : Char} {ws : List Char} (hc : isSpace c = true) (h : Space ws) :
    Space (c :: ws) :=
  fun x hx => (List.mem_cons.mp hx).elim (· ▸ hc) (h x)

theorem Space.append {ws ws' : List Char} (h : Space ws) (h' : Space ws') : Space (ws ++ ws') :=
  fun c hc => (List.mem_append.mp hc).elim (h c) (h' c)

/-- The characters are decimal digits. -/
def Digits (cs : List Char) : Prop := ∀ c ∈ cs, c.isDigit = true

theorem Digits.nil : Digits [] := fun _ hc => nomatch hc

theorem Digits.cons {d : Char} {ds : List Char} (hd : d.isDigit = true) (hds : Digits ds) :
    Digits (d :: ds) :=
  fun c hc => (List.mem_cons.mp hc).elim (· ▸ hd) (hds c)

theorem Digits.append {cs ds : List Char} (hcs : Digits cs) (hds : Digits ds) :
    Digits (cs ++ ds) :=
  fun c hc => (List.mem_append.mp hc).elim (hcs c) (hds c)

/-- The whole part of a number: no zero stands before another digit. -/
inductive Whole : List Char → Prop
  | zero : Whole ['0']
  | digits {d : Char} {ds : List Char} : d.isDigit = true → d ≠ '0' → Digits ds → Whole (d :: ds)

/-- The fraction of a number, if it has one. -/
inductive Fraction : List Char → Prop
  | none : Fraction []
  | digits {d : Char} {ds : List Char} : Digits (d :: ds) → Fraction ('.' :: d :: ds)

/-- The exponent of a number, if it has one. -/
inductive Exponent : List Char → Prop
  | none : Exponent []
  | digits {e d : Char} {sign ds : List Char} : e = 'e' ∨ e = 'E' →
      sign = [] ∨ sign = ['+'] ∨ sign = ['-'] → Digits (d :: ds) → Exponent (e :: sign ++ d :: ds)

/-- A number without a sign. -/
inductive Unsigned : List Char → Prop
  | parts {whole fraction exponent : List Char} : Whole whole → Fraction fraction →
      Exponent exponent → Unsigned (whole ++ fraction ++ exponent)

/-- A number. -/
inductive Numeral : List Char → Prop
  | unsigned {cs : List Char} : Unsigned cs → Numeral cs
  | negative {cs : List Char} : Unsigned cs → Numeral ('-' :: cs)

theorem Whole.exists_digit {cs : List Char} (h : Whole cs) :
    ∃ d ds, cs = d :: ds ∧ Digits (d :: ds) := by
  cases h with
  | zero => exact ⟨'0', [], rfl, .cons rfl .nil⟩
  | @digits d ds hd _ hds => exact ⟨d, ds, rfl, .cons hd hds⟩

theorem Unsigned.exists_digit {cs : List Char} (h : Unsigned cs) :
    ∃ d ds, d.isDigit = true ∧ cs = d :: ds := by
  cases h with
  | parts hwhole _ _ =>
    obtain ⟨d, ds, rfl, hds⟩ := hwhole.exists_digit
    exact ⟨d, _, hds d List.mem_cons_self, rfl⟩

/-- The value of a hexadecimal digit. -/
def hexValue? (c : Char) : Option Nat :=
  if c.isDigit then some (c.toNat - 48)
  else if 'a' ≤ c ∧ c ≤ 'f' then some (c.toNat - 87)
  else if 'A' ≤ c ∧ c ≤ 'F' then some (c.toNat - 55)
  else none

/-- The value of hexadecimal digits. -/
def hexNumber? (ds : List Char) : Option Nat :=
  ds.foldlM (fun n d => (hexValue? d).map (n * 16 + ·)) 0

/-- The character that a letter after a backslash stands for. -/
def escaped? (letter : Char) : Option Char :=
  if letter = '"' then some '"' else if letter = '\\' then some '\\'
  else if letter = '/' then some '/' else if letter = 'b' then some '\x08'
  else if letter = 'f' then some '\x0c' else if letter = 'n' then some '\n'
  else if letter = 'r' then some '\r' else if letter = 't' then some '\t'
  else none

/-- A number that is the first half of a pair. -/
def isHigh (n : Nat) : Bool := 0xD800 ≤ n && n < 0xDC00

/-- A number that is the second half of a pair. -/
def isLow (n : Nat) : Bool := 0xDC00 ≤ n && n < 0xE000

/-- The character number that two halves stand for. -/
def joined (high low : Nat) : Nat := 0x10000 + (high - 0xD800) * 0x400 + (low - 0xDC00)

/-- The ways to write one character of a text. -/
inductive Spelled : Char → List Char → Prop
  | plain {c : Char} : 0x20 ≤ c.toNat → c ≠ '"' → c ≠ '\\' → Spelled c [c]
  | letter {c l : Char} : escaped? l = some c → Spelled c ['\\', l]
  | code {c h₁ h₂ h₃ h₄ : Char} : hexNumber? [h₁, h₂, h₃, h₄] = some c.toNat →
      Spelled c ['\\', 'u', h₁, h₂, h₃, h₄]
  | pair {c h₁ h₂ h₃ h₄ l₁ l₂ l₃ l₄ : Char} {high low : Nat} :
      hexNumber? [h₁, h₂, h₃, h₄] = some high → isHigh high = true →
      hexNumber? [l₁, l₂, l₃, l₄] = some low → isLow low = true → c.toNat = joined high low →
      Spelled c ['\\', 'u', h₁, h₂, h₃, h₄, '\\', 'u', l₁, l₂, l₃, l₄]

/-- The ways to write a text, without its quotes. -/
inductive Spelling : List Char → List Char → Prop
  | nil : Spelling [] []
  | cons {c : Char} {s cs ds : List Char} : Spelled c cs → Spelling s ds → Spelling (c :: s) (cs ++ ds)

/-- The words of the two truth values. -/
def word : Bool → List Char
  | .true => ['t', 'r', 'u', 'e']
  | .false => ['f', 'a', 'l', 's', 'e']

/-- The parts of a text that stand for something. -/
inductive Phrase where
  | value (j : Json)
  /-- A value with white space around it. -/
  | element (j : Json)
  | elements (js : List Json)
  | member (name : String) (j : Json)
  | members (fields : List (String × Json))

/-- **The grammar of JSON.** -/
inductive Written : Phrase → List Char → Prop
  | null : Written (.value .null) ['n', 'u', 'l', 'l']
  | bool (b : Bool) : Written (.value (.bool b)) (word b)
  | number {cs : List Char} : Numeral cs → Written (.value (.number (String.ofList cs))) cs
  | text {s cs : List Char} : Spelling s cs →
      Written (.value (.text (String.ofList s))) ('"' :: cs ++ ['"'])
  | emptyArray {ws : List Char} : Space ws → Written (.value (.array [])) ('[' :: ws ++ [']'])
  | array {js : List Json} {cs : List Char} : Written (.elements js) cs →
      Written (.value (.array js)) ('[' :: cs ++ [']'])
  | emptyObject {ws : List Char} : Space ws →
      Written (.value (.object [])) ('\x7b' :: ws ++ ['\x7d'])
  | object {fields : List (String × Json)} {cs : List Char} : Written (.members fields) cs →
      Written (.value (.object fields)) ('\x7b' :: cs ++ ['\x7d'])
  | element {j : Json} {before cs after : List Char} : Space before → Written (.value j) cs →
      Space after → Written (.element j) (before ++ cs ++ after)
  | lastElement {j : Json} {cs : List Char} : Written (.element j) cs → Written (.elements [j]) cs
  | elements {j : Json} {js : List Json} {cs ds : List Char} : Written (.element j) cs →
      Written (.elements js) ds → Written (.elements (j :: js)) (cs ++ ',' :: ds)
  | member {name before key after cs : List Char} {j : Json} : Space before → Spelling name key →
      Space after → Written (.element j) cs →
      Written (.member (String.ofList name) j) (before ++ '"' :: key ++ '"' :: after ++ ':' :: cs)
  | lastMember {name : String} {j : Json} {cs : List Char} : Written (.member name j) cs →
      Written (.members [(name, j)]) cs
  | members {name : String} {j : Json} {fields : List (String × Json)} {cs ds : List Char} :
      Written (.member name j) cs → Written (.members fields) ds →
      Written (.members ((name, j) :: fields)) (cs ++ ',' :: ds)

/-! ## Documents as they are set out -/

/-- Every number of the document is a JSON number. -/
inductive Sound : Json → Prop
  | null : Sound .null
  | bool (b : Bool) : Sound (.bool b)
  | number {token : String} : Numeral token.toList → Sound (.number token)
  | text (s : String) : Sound (.text s)
  | array {items : List Json} : (∀ j ∈ items, Sound j) → Sound (.array items)
  | object {fields : List (String × Json)} : (∀ f ∈ fields, Sound f.2) → Sound (.object fields)

theorem spelled_escapeChar (c : Char) : Spelled c (escapeChar c) := by
  unfold escapeChar
  -- the seven characters with a letter of their own
  iterate 7
    split
    · rename_i h
      subst h
      exact .letter rfl
  split
  · rename_i h
    refine .code ?_
    have hdigits : ∀ n < 0x20,
        hexNumber? ['0', '0', hexDigit (n / 16), hexDigit (n % 16)] = some n := by decide
    exact hdigits c.toNat h
  · rename_i hquote hslash _ _ _ _ _ h
    exact .plain (Nat.not_lt.mp h) hquote hslash

theorem spelling_escape (cs : List Char) : Spelling cs (cs.flatMap escapeChar) := by
  induction cs with
  | nil => exact .nil
  | cons c cs ih => exact .cons (spelled_escapeChar c) ih

theorem written_escape (s : String) : Written (.value (.text s)) (escape s).toList := by
  have h := Written.text (spelling_escape s.toList)
  rw [String.ofList_toList] at h
  simpa [escape] using h

theorem prettyItems_eq (indent : String) (items : List Json) :
    prettyItems indent items = items.map (prettyAt indent) := by
  induction items with
  | nil => rfl
  | cons j js ih => rw [prettyItems, ih, List.map_cons]

theorem prettyFields_eq (indent : String) (fields : List (String × Json)) :
    prettyFields indent fields =
      fields.map fun f => escape f.1 ++ ": " ++ f.2.prettyAt indent := by
  induction fields with
  | nil => rfl
  | cons f fields ih =>
    obtain ⟨name, j⟩ := f
    rw [prettyFields, ih, List.map_cons]

/-- Pieces on lines of their own, with commas between them, are a list: of elements
or of members. -/
theorem written_lines {α : Type} (one : α → Phrase) (many : List α → Phrase)
    (hlast : ∀ x cs, Written (one x) cs → Written (many [x]) cs)
    (hmore : ∀ x xs cs ds, Written (one x) cs → Written (many xs) ds →
      Written (many (x :: xs)) (cs ++ ',' :: ds))
    {piece : α → String} {ending : String} {xs : List α} (hne : xs ≠ [])
    (hone : ∀ x ∈ xs, ∀ after, after = "" ∨ after = ending →
      Written (one x) ("\n" ++ piece x ++ after).toList) :
    Written (many xs) ("\n" ++ ",\n".intercalate (xs.map piece) ++ ending).toList := by
  induction xs with
  | nil => exact absurd rfl hne
  | cons x xs ih =>
    cases xs with
    | nil => simpa using hlast x _ (hone x List.mem_cons_self ending (.inr rfl))
    | cons y ys =>
      have hx := hone x List.mem_cons_self "" (.inl rfl)
      have hxs := ih (List.cons_ne_nil y ys) fun z hz => hone z (List.mem_cons_of_mem x hz)
      have h := hmore x (y :: ys) _ _ hx hxs
      simpa [String.intercalate_cons_cons] using h

/-- The lines between two brackets. -/
theorem toList_block {opening closing indent : String} {pieces : List String}
    (hne : pieces ≠ []) :
    (block opening closing indent pieces).toList = opening.toList ++
      ("\n" ++ ",\n".intercalate (pieces.map fun p => indent ++ "  " ++ p) ++
        ("\n" ++ indent)).toList ++ closing.toList := by
  simp [block, hne]

/-- **A document that is set out is a text of itself.** -/
theorem written_prettyAt {j : Json} (h : Sound j) {indent : String} (hindent : Space indent.toList) :
    Written (.value j) (j.prettyAt indent).toList := by
  have hline : Space ['\n'] := .cons rfl .nil
  have hblank : Space [' '] := .cons rfl .nil
  induction h generalizing indent with
  | null => simpa [prettyAt] using Written.null
  | bool b =>
    cases b with
    | false => simpa [prettyAt, word] using Written.bool false
    | true => simpa [prettyAt, word] using Written.bool true
  | number htoken =>
    have h := Written.number htoken
    rwa [String.ofList_toList] at h
  | text s => exact written_escape s
  | @array items _ ih =>
    rw [prettyAt, prettyItems_eq]
    by_cases hne : items = []
    · subst hne
      simpa [block] using Written.emptyArray .nil
    have hinner : Space (indent ++ "  ").toList := by
      simpa using hindent.append (hblank.append hblank)
    rw [toList_block (by simpa using hne), List.map_map]
    refine Written.array (written_lines .element .elements (fun _ _ => .lastElement)
      (fun _ _ _ _ => .elements) hne fun j hj after hafter => ?_)
    have hspace : Space after.toList := by
      rcases hafter with rfl | rfl
      · exact .nil
      · simpa using hline.append hindent
    simpa using Written.element (hline.append hinner) (ih j hj hinner) hspace
  | @object fields _ ih =>
    rw [prettyAt, prettyFields_eq]
    by_cases hne : fields = []
    · subst hne
      simpa [block] using Written.emptyObject .nil
    have hinner : Space (indent ++ "  ").toList := by
      simpa using hindent.append (hblank.append hblank)
    rw [toList_block (by simpa using hne), List.map_map]
    refine Written.object (written_lines (fun f => .member f.1 f.2) .members
      (fun _ _ => .lastMember) (fun _ _ _ _ => .members) hne fun f hf after hafter => ?_)
    have hspace : Space after.toList := by
      rcases hafter with rfl | rfl
      · exact .nil
      · simpa using hline.append hindent
    have hvalue := Written.element hblank (ih f hf hinner) hspace
    have hmember := Written.member (hline.append hinner) (spelling_escape f.1.toList) .nil hvalue
    rw [String.ofList_toList] at hmember
    simpa [escape] using hmember

theorem written_pretty {j : Json} (h : Sound j) : Written (.value j) j.pretty.toList := by
  have hindent : Space "".toList := by
    rw [String.toList_empty]
    exact .nil
  exact written_prettyAt h hindent

end Assay.Json

import Assay.Proofs.JsonReader
import Mathlib.Data.List.Basic

/-! # What the JSON reader accepts

From every state of the reader, what may still follow is described in terms of the
grammar: for a number, for a text, behind a value, and in all.  One character read
adds one character in front of what may follow, so a text that is read to its end
is a text of the grammar.  With `Reader.reads_of_written`, the reader and the
grammar agree (`Json.read_eq_some_iff`), so no text has two readings.
-/

namespace Assay.Json

namespace Reader

/-! ## Numbers -/

/-- What may follow inside a number. -/
def Part.Follows : Part → List Char → Prop
  | .sign, cs => Unsigned cs
  | .zero, cs => ∃ f e, cs = f ++ e ∧ Fraction f ∧ Exponent e
  | .whole, cs => ∃ ds f e, cs = ds ++ f ++ e ∧ Digits ds ∧ Fraction f ∧ Exponent e
  | .point, cs => ∃ d ds e, cs = d :: ds ++ e ∧ Digits (d :: ds) ∧ Exponent e
  | .fraction, cs => ∃ ds e, cs = ds ++ e ∧ Digits ds ∧ Exponent e
  | .mark, cs => ∃ sign d ds, cs = sign ++ d :: ds ∧
      (sign = [] ∨ sign = ['+'] ∨ sign = ['-']) ∧ Digits (d :: ds)
  | .markSign, cs => ∃ d ds, cs = d :: ds ∧ Digits (d :: ds)
  | .exponent, cs => Digits cs

namespace Part

theorem Follows.nil {p : Part} (h : p.isEnd = true) : p.Follows [] := by
  cases p with
  | zero => exact ⟨[], [], rfl, .none, .none⟩
  | whole => exact ⟨[], [], [], rfl, Digits.nil, .none, .none⟩
  | fraction => exact ⟨[], [], rfl, Digits.nil, .none⟩
  | exponent => exact Digits.nil
  | _ => cases h

/-- An exponent, from its mark on. -/
theorem exponent_of_mark {e : Char} (he : isMark e = true) {cs : List Char}
    (h : Follows .mark cs) : Exponent (e :: cs) := by
  obtain ⟨sign, d, ds, rfl, hsign, hds⟩ := h
  refine .digits ?_ hsign hds
  simpa [isMark] using he

/-- A fraction and what follows it, from its point on. -/
theorem fraction_of_point {cs : List Char} (h : Follows .point cs) :
    ∃ f e, '.' :: cs = f ++ e ∧ Fraction f ∧ Exponent e := by
  obtain ⟨d, ds, e, rfl, hds, he⟩ := h
  exact ⟨'.' :: d :: ds, e, rfl, .digits hds, he⟩

theorem Follows.cons {p p' : Part} {c : Char} {cs : List Char} (hstep : p.next c = some p')
    (h : p'.Follows cs) : p.Follows (c :: cs) := by
  cases p with
  | sign =>
    simp only [next] at hstep
    split at hstep
    · rename_i hc
      cases hstep
      obtain ⟨f, e, rfl, hf, he⟩ := h
      exact hc ▸ .parts .zero hf he
    · split at hstep
      · rename_i hzero hc
        cases hstep
        obtain ⟨ds, f, e, rfl, hds, hf, he⟩ := h
        exact .parts (.digits hc hzero hds) hf he
      · cases hstep
  | zero =>
    simp only [next] at hstep
    split at hstep
    · rename_i hc
      cases hstep
      exact hc ▸ fraction_of_point h
    · split at hstep
      · rename_i hc
        cases hstep
        exact ⟨[], c :: cs, rfl, .none, exponent_of_mark hc h⟩
      · cases hstep
  | whole =>
    simp only [next] at hstep
    split at hstep
    · rename_i hc
      cases hstep
      obtain ⟨ds, f, e, rfl, hds, hf, he⟩ := h
      exact ⟨c :: ds, f, e, rfl, Digits.cons hc hds, hf, he⟩
    · split at hstep
      · rename_i hc
        cases hstep
        obtain ⟨f, e, heq, hf, he⟩ := fraction_of_point h
        exact ⟨[], f, e, hc ▸ heq, Digits.nil, hf, he⟩
      · split at hstep
        · rename_i hc
          cases hstep
          exact ⟨[], [], c :: cs, rfl, Digits.nil, .none, exponent_of_mark hc h⟩
        · cases hstep
  | point =>
    simp only [next] at hstep
    split at hstep
    · rename_i hc
      cases hstep
      obtain ⟨ds, e, rfl, hds, he⟩ := h
      exact ⟨c, ds, e, rfl, Digits.cons hc hds, he⟩
    · cases hstep
  | fraction =>
    simp only [next] at hstep
    split at hstep
    · rename_i hc
      cases hstep
      obtain ⟨ds, e, rfl, hds, he⟩ := h
      exact ⟨c :: ds, e, rfl, Digits.cons hc hds, he⟩
    · split at hstep
      · rename_i hc
        cases hstep
        exact ⟨[], c :: cs, rfl, Digits.nil, exponent_of_mark hc h⟩
      · cases hstep
  | mark =>
    simp only [next] at hstep
    split at hstep
    · rename_i hc
      cases hstep
      obtain ⟨d, ds, rfl, hds⟩ := h
      exact ⟨[c], d, ds, rfl, .inr (by simpa using hc), hds⟩
    · split at hstep
      · rename_i hc
        cases hstep
        exact ⟨[], c, cs, rfl, .inl rfl, Digits.cons hc h⟩
      · cases hstep
  | markSign =>
    simp only [next] at hstep
    split at hstep
    · rename_i hc
      cases hstep
      exact ⟨c, cs, rfl, Digits.cons hc h⟩
    · cases hstep
  | exponent =>
    simp only [next] at hstep
    split at hstep
    · rename_i hc
      cases hstep
      exact Digits.cons hc h
    · cases hstep

end Part

/-! ## Texts -/

theorem hexValue?_lt {c : Char} {n : Nat} (h : hexValue? c = some n) : n < 16 := by
  unfold hexValue? at h
  have hdigit : c.isDigit = true → c.toNat - 48 < 16 := fun hc => by
    rw [Char.isDigit, Bool.and_eq_true, decide_eq_true_eq, decide_eq_true_eq] at hc
    have hle : c.toNat ≤ 57 := hc.2
    omega
  have hlower : c ≤ 'f' → c.toNat - 87 < 16 := fun hc => by
    have hle : c.toNat ≤ 102 := hc
    omega
  have hupper : c ≤ 'F' → c.toNat - 55 < 16 := fun hc => by
    have hle : c.toNat ≤ 70 := hc
    omega
  split at h
  · rename_i hc
    cases h
    exact hdigit hc
  · split at h
    · rename_i hc
      cases h
      exact hlower hc.2
    · split at h
      · rename_i hc
        cases h
        exact hupper hc.2
      · cases h

theorem hexNumber?_lt {h₁ h₂ h₃ h₄ : Char} {n : Nat}
    (h : hexNumber? [h₁, h₂, h₃, h₄] = some n) : n < 0x10000 := by
  simp only [hexNumber?, List.foldlM_cons, List.foldlM_nil, Option.bind_eq_bind,
    Option.bind_eq_some_iff, Option.map_eq_some_iff, Option.pure_def, Option.some.injEq] at h
  obtain ⟨_, ⟨a, ha, rfl⟩, _, ⟨b, hb, rfl⟩, _, ⟨c, hc, rfl⟩, _, ⟨d, hd, rfl⟩, rfl⟩ := h
  have := hexValue?_lt ha
  have := hexValue?_lt hb
  have := hexValue?_lt hc
  have := hexValue?_lt hd
  omega

theorem toNat_ofNat {n : Nat} (h : n.isValidChar) : (Char.ofNat n).toNat = n := by
  rw [Char.ofNat, dif_pos h]
  rfl

namespace TextState

/-- How the first half of a pair has been written, if there is one. -/
def Half : Option Nat → List Char → Prop
  | none, cs => cs = []
  | some high, cs => ∃ h₁ h₂ h₃ h₄, cs = ['\\', 'u', h₁, h₂, h₃, h₄] ∧
      hexNumber? [h₁, h₂, h₃, h₄] = some high ∧ isHigh high = true

/-- Behind `chars` a character has `begun`; with that, `cs` makes up the text `t`. -/
def Completes (chars begun cs t : List Char) : Prop :=
  ∃ c more ds s, cs = more ++ ds ∧ Spelled c (begun ++ more) ∧ Spelling s ds ∧ t = chars ++ c :: s

/-- What may follow inside a text, and the text that it makes up. -/
def Follows : TextState → List Char → List Char → Prop
  | .ready chars, cs, t => ∃ s, Spelling s cs ∧ t = chars ++ s
  | .escape chars, cs, t => Completes chars ['\\'] cs t
  | .code chars high ds, cs, t => ds.length ≤ 3 → ∀ half, Half high half →
      Completes chars (half ++ '\\' :: 'u' :: ds) cs t
  | .half chars high, cs, t => ∀ half, Half (some high) half → Completes chars half cs t
  | .halfEscape chars high, cs, t => ∀ half, Half (some high) half →
      Completes chars (half ++ ['\\']) cs t

variable {chars begun cs t : List Char} {c : Char}

theorem Completes.cons (h : Completes chars (begun ++ [c]) cs t) :
    Completes chars begun (c :: cs) t := by
  obtain ⟨x, more, ds, s, rfl, hx, hs, rfl⟩ := h
  exact ⟨x, c :: more, ds, s, rfl, by simpa using hx, hs, rfl⟩

/-- The last character of a spelling. -/
theorem Completes.last {x : Char} (hx : Spelled x (begun ++ [c]))
    (h : Follows (.ready (chars ++ [x])) cs t) : Completes chars begun (c :: cs) t := by
  obtain ⟨s, hs, rfl⟩ := h
  exact ⟨x, [c], cs, s, rfl, hx, hs, by simp⟩

/-- The last of four digits. -/
theorem Completes.resolve {high : Option Nat} {half : List Char} (hhalf : Half high half)
    {h₁ h₂ h₃ : Char} {n : Nat} (hn : hexNumber? [h₁, h₂, h₃, c] = some n) {st : TextState}
    (hst : resolve chars high n = some st) (h : st.Follows cs t) :
    Completes chars (half ++ ['\\', 'u', h₁, h₂, h₃]) (c :: cs) t := by
  cases high with
  | none =>
    cases hhalf
    simp only [TextState.resolve] at hst
    split at hst
    · rename_i hhigh
      cases hst
      exact (h _ ⟨h₁, h₂, h₃, c, rfl, hn, hhigh⟩).cons
    · split at hst
      · cases hst
      · rename_i hhigh hlow
        cases hst
        refine .last ?_ h
        -- neither half of a pair, so a character of its own
        have hvalid : n.isValidChar := by
          have hlt := hexNumber?_lt hn
          simp only [isHigh, isLow, Bool.and_eq_true, decide_eq_true_eq] at hhigh hlow
          have hrange : n < 0xD800 ∨ 0xDFFF < n ∧ n < 0x110000 := by omega
          exact hrange
        refine .code ?_
        rw [hn, toNat_ofNat hvalid]
  | some high =>
    obtain ⟨k₁, k₂, k₃, k₄, rfl, hhigh, hhigh'⟩ := hhalf
    simp only [TextState.resolve] at hst
    split at hst
    · rename_i hlow
      cases hst
      refine .last ?_ h
      have hvalid : (joined high n).isValidChar := by
        simp only [isHigh, isLow, Bool.and_eq_true, decide_eq_true_eq] at hhigh' hlow
        have hrange : joined high n < 0xD800 ∨ 0xDFFF < joined high n ∧ joined high n < 0x110000 := by
          unfold joined
          omega
        exact hrange
      refine .pair hhigh hhigh' hn hlow ?_
      exact toNat_ofNat hvalid
    · cases hst

/-- A text that ends is complete. -/
theorem close?_eq_some {st : TextState} {content : String} (h : st.close? c = some content) :
    c = '"' ∧ ∃ chars, content = String.ofList chars ∧ st.Follows [] chars := by
  cases st with
  | ready chars =>
    simp only [close?] at h
    split at h
    · rename_i hc
      cases h
      exact ⟨hc, chars, rfl, [], .nil, by simp⟩
    · cases h
  | _ => cases h

theorem Follows.cons {st st' : TextState} (hstep : st.step c = some st') (h : st'.Follows cs t) :
    st.Follows (c :: cs) t := by
  cases st with
  | ready chars =>
    simp only [step] at hstep
    split at hstep
    · rename_i hc
      cases hstep
      obtain ⟨x, more, ds, s, rfl, hx, hs, rfl⟩ := h
      exact ⟨x :: s, hc ▸ .cons hx hs, rfl⟩
    · split at hstep
      · cases hstep
      · rename_i hslash hplain
        cases hstep
        obtain ⟨s, hs, rfl⟩ := h
        rw [not_or, Nat.not_lt] at hplain
        exact ⟨c :: s, .cons (.plain hplain.1 hplain.2 hslash) hs, by simp⟩
  | escape chars =>
    simp only [step] at hstep
    split at hstep
    · rename_i hc
      cases hstep
      exact Completes.cons (hc ▸ h (Nat.zero_le 3) [] rfl)
    · obtain ⟨x, hx, rfl⟩ := Option.map_eq_some_iff.mp hstep
      exact .last (.letter hx) h
  | code chars high ds =>
    intro hlength half hhalf
    simp only [step] at hstep
    split at hstep
    · rename_i hlt
      cases hstep
      have hnext := h (by simpa using Nat.succ_le_of_lt hlt) half hhalf
      exact .cons (by simpa using hnext)
    · obtain ⟨n, hn, hst⟩ := Option.bind_eq_some_iff.mp hstep
      obtain ⟨h₁, h₂, h₃, rfl⟩ := List.length_eq_three.mp (show ds.length = 3 by omega)
      exact .resolve hhalf hn hst h
  | half chars high =>
    intro half hhalf
    simp only [step] at hstep
    split at hstep
    · rename_i hc
      cases hstep
      exact .cons (hc ▸ h half hhalf)
    · cases hstep
  | halfEscape chars high =>
    intro half hhalf
    simp only [step] at hstep
    split at hstep
    · rename_i hc
      cases hstep
      have hnext := h (Nat.zero_le 3) half hhalf
      exact .cons (by simpa [hc] using hnext)
    · cases hstep

end TextState

/-! ## Open brackets -/

namespace State

/-- What may follow a value inside the brackets that are open, and the document
that it makes up. -/
inductive Closes : List Frame → Json → List Char → Json → Prop
  | nil {j : Json} {ws : List Char} : Space ws → Closes [] j ws j
  | lastItem {items : List Json} {stack : List Frame} {j d : Json} {ws cs : List Char} :
      Space ws → Closes stack (.array (items ++ [j])) cs d →
      Closes (.array items :: stack) j (ws ++ ']' :: cs) d
  | items {items js : List Json} {stack : List Frame} {j d : Json} {ws ds cs : List Char} :
      Space ws → Written (.elements js) ds → Closes stack (.array (items ++ j :: js)) cs d →
      Closes (.array items :: stack) j (ws ++ ',' :: ds ++ ']' :: cs) d
  | lastField {fields : List (String × Json)} {name : String} {stack : List Frame} {j d : Json}
      {ws cs : List Char} : Space ws → Closes stack (.object (fields ++ [(name, j)])) cs d →
      Closes (.object fields name :: stack) j (ws ++ '\x7d' :: cs) d
  | fields {fields more : List (String × Json)} {name : String} {stack : List Frame} {j d : Json}
      {ws ds cs : List Char} : Space ws → Written (.members more) ds →
      Closes stack (.object (fields ++ (name, j) :: more)) cs d →
      Closes (.object fields name :: stack) j (ws ++ ',' :: ds ++ '\x7d' :: cs) d

/-- What may follow from a state of the reader, and the document that it makes
up. -/
inductive Completes : State → List Char → Json → Prop
  | value {fresh : Bool} {stack : List Frame} {j d : Json} {ws v cs : List Char} : Space ws →
      Written (.value j) v → Closes stack j cs d →
      Completes ⟨.value fresh, stack⟩ (ws ++ v ++ cs) d
  | emptyArray {items : List Json} {stack : List Frame} {d : Json} {ws cs : List Char} :
      Space ws → Closes stack (.array items) cs d →
      Completes ⟨.value true, .array items :: stack⟩ (ws ++ ']' :: cs) d
  | member {fields : List (String × Json)} {fresh : Bool} {stack : List Frame} {name : String}
      {j d : Json} {m cs : List Char} : Written (.member name j) m →
      Closes (.object fields name :: stack) j cs d →
      Completes ⟨.name fields fresh, stack⟩ (m ++ cs) d
  | emptyObject {fields : List (String × Json)} {stack : List Frame} {d : Json}
      {ws cs : List Char} : Space ws → Closes stack (.object fields) cs d →
      Completes ⟨.name fields true, stack⟩ (ws ++ '\x7d' :: cs) d
  | nameText {fields : List (String × Json)} {t : TextState} {stack : List Frame} {d : Json}
      {key name cs : List Char} : t.Follows key name →
      Completes ⟨.colon fields (String.ofList name), stack⟩ cs d →
      Completes ⟨.nameText fields t, stack⟩ (key ++ '"' :: cs) d
  | colon {fields : List (String × Json)} {name : String} {stack : List Frame} {d : Json}
      {ws cs : List Char} : Space ws →
      Completes ⟨.value false, .object fields name :: stack⟩ cs d →
      Completes ⟨.colon fields name, stack⟩ (ws ++ ':' :: cs) d
  | text {t : TextState} {stack : List Frame} {d : Json} {content s cs : List Char} :
      t.Follows s content → Closes stack (.text (String.ofList content)) cs d →
      Completes ⟨.text t, stack⟩ (s ++ '"' :: cs) d
  | word {rest : List Char} {j : Json} {stack : List Frame} {d : Json} {cs : List Char} :
      Closes stack j cs d → Completes ⟨.word rest j, stack⟩ (rest ++ cs) d
  | number {token more : List Char} {part : Part} {stack : List Frame} {d : Json}
      {cs : List Char} : part.Follows more →
      Closes stack (.number (String.ofList (token ++ more))) cs d →
      Completes ⟨.number token part, stack⟩ (more ++ cs) d
  | done {j : Json} {stack : List Frame} {d : Json} {cs : List Char} :
      Closes stack j cs d → Completes ⟨.done j, stack⟩ cs d

variable {stack : List Frame} {c : Char} {ws cs : List Char} {d j : Json}

theorem Closes.space (hc : isSpace c = true) (h : Closes stack j cs d) :
    Closes stack j (c :: cs) d := by
  cases h with
  | nil hws => exact .nil (Space.cons hc hws)
  | lastItem hws h => exact .lastItem (Space.cons hc hws) h
  | items hws hds h => exact .items (Space.cons hc hws) hds h
  | lastField hws h => exact .lastField (Space.cons hc hws) h
  | fields hws hds h => exact .fields (Space.cons hc hws) hds h

/-- White space behind a member belongs to it. -/
theorem written_member_space {name : String} {m : List Char} (hm : Written (.member name j) m)
    (hws : Space ws) : Written (.member name j) (m ++ ws) := by
  cases hm with
  | member hbefore hkey hafter hvalue =>
    cases hvalue with
    | element hbefore' hv hafter' =>
      have h := Written.member hbefore hkey hafter (.element hbefore' hv (hafter'.append hws))
      simpa using h

theorem written_space_member {name : String} {m : List Char} (hc : isSpace c = true)
    (hm : Written (.member name j) m) : Written (.member name j) (c :: m) := by
  cases hm with
  | member hbefore hkey hafter hvalue =>
    exact .member (Space.cons hc hbefore) hkey hafter hvalue

/-- The elements of an array up to its end, from one of them on. -/
theorem Closes.elements {items : List Json} {before v : List Char} (hbefore : Space before)
    (hv : Written (.value j) v) (h : Closes (.array items :: stack) j cs d) :
    ∃ js ds rest, before ++ v ++ cs = ds ++ ']' :: rest ∧ Written (.elements (j :: js)) ds ∧
      Closes stack (.array (items ++ j :: js)) rest d := by
  cases h with
  | @lastItem _ _ _ _ ws rest hws h =>
    exact ⟨[], before ++ v ++ ws, rest, by simp, .lastElement (.element hbefore hv hws), h⟩
  | @items _ js _ _ _ ws ds rest hws hds h =>
    exact ⟨js, before ++ v ++ ws ++ ',' :: ds, rest, by simp,
      .elements (.element hbefore hv hws) hds, h⟩

/-- The members of an object up to its end, from one of them on. -/
theorem Closes.members {fields : List (String × Json)} {name : String} {m : List Char}
    (hm : Written (.member name j) m) (h : Closes (.object fields name :: stack) j cs d) :
    ∃ more ds rest, m ++ cs = ds ++ '\x7d' :: rest ∧ Written (.members ((name, j) :: more)) ds ∧
      Closes stack (.object (fields ++ (name, j) :: more)) rest d := by
  cases h with
  | @lastField _ _ _ _ _ ws rest hws h =>
    exact ⟨[], m ++ ws, rest, by simp, .lastMember (written_member_space hm hws), h⟩
  | @fields _ more _ _ _ _ ws ds rest hws hds h =>
    exact ⟨more, m ++ ws ++ ',' :: ds, rest, by simp,
      .members (written_member_space hm hws) hds, h⟩

/-- A character behind a value. -/
theorem Closes.cons {s : State} (hstep : proceed j stack c = some s) (h : Completes s cs d) :
    Closes stack j (c :: cs) d := by
  unfold proceed at hstep
  -- white space, then by the innermost open bracket: a comma goes on in it, its other half ends it
  split at hstep
  · rename_i hc
    cases hstep
    cases h with
    | done h => exact h.space hc
  · split at hstep
    · rename_i items rest
      split at hstep
      · rename_i hc
        cases hstep
        cases h with
        | value hws hv h =>
          obtain ⟨js, ds, rest, heq, hds, h⟩ := h.elements hws hv
          have hitems := Closes.items Space.nil hds (by simpa using h)
          rw [heq, hc]
          simpa using hitems
      · split at hstep
        · rename_i hc
          cases hstep
          cases h with
          | done h => exact hc ▸ Closes.lastItem Space.nil h
        · cases hstep
    · rename_i fields name rest
      split at hstep
      · rename_i hc
        cases hstep
        cases h with
        | member hm h =>
          obtain ⟨more, ds, rest, heq, hds, h⟩ := h.members hm
          have hfields := Closes.fields Space.nil hds (by simpa using h)
          rw [heq, hc]
          simpa using hfields
      · split at hstep
        · rename_i hc
          cases hstep
          cases h with
          | done h => exact hc ▸ Closes.lastField Space.nil h
        · cases hstep
    · cases hstep

/-- A value that stands at once. -/
theorem Completes.of_written {fresh : Bool} {v : List Char} (hv : Written (.value j) v)
    (h : Closes stack j cs d) : Completes ⟨.value fresh, stack⟩ (v ++ cs) d :=
  .value Space.nil hv h

/-- A value from its first character on. -/
theorem Completes.begin {s : State} {fresh : Bool} (hstep : begin stack c = some s)
    (h : Completes s cs d) : Completes ⟨.value fresh, stack⟩ (c :: cs) d := by
  rw [State.begin] at hstep
  split at hstep
  · rename_i hc
    cases hstep
    cases h with
    | text ht h =>
      obtain ⟨content, hcontent, rfl⟩ := ht
      simpa [hc] using Completes.of_written (.text hcontent) h
  split at hstep
  · rename_i hc
    cases hstep
    cases h with
    | value hws hv h =>
      obtain ⟨js, ds, rest, heq, hds, h⟩ := h.elements hws hv
      rw [heq, hc]
      simpa using Completes.of_written (.array hds) h
    | emptyArray hws h => simpa [hc] using Completes.of_written (.emptyArray hws) h
  split at hstep
  · rename_i hc
    cases hstep
    cases h with
    | member hm h =>
      obtain ⟨more, ds, rest, heq, hds, h⟩ := h.members hm
      rw [heq, hc]
      simpa using Completes.of_written (.object hds) h
    | emptyObject hws h => simpa [hc] using Completes.of_written (.emptyObject hws) h
  split at hstep
  · rename_i hc
    cases hstep
    cases h with
    | word h => exact hc ▸ Completes.of_written .null h
  split at hstep
  · rename_i hc
    cases hstep
    cases h with
    | word h => exact hc ▸ Completes.of_written (.bool true) h
  split at hstep
  · rename_i hc
    cases hstep
    cases h with
    | word h => exact hc ▸ Completes.of_written (.bool false) h
  split at hstep
  · rename_i hc
    cases hstep
    cases h with
    | number hmore h => exact hc ▸ Completes.of_written (.number (.negative hmore)) (hc ▸ h)
  · obtain ⟨part, hpart, rfl⟩ := Option.map_eq_some_iff.mp hstep
    cases h with
    | number hmore h =>
      exact Completes.of_written (.number (.unsigned (Part.Follows.cons hpart hmore))) h

/-- A member from the quote before its name on. -/
theorem Completes.name {fields : List (String × Json)} {fresh : Bool}
    (h : Completes ⟨.nameText fields (.ready []), stack⟩ cs d) :
    Completes ⟨.name fields fresh, stack⟩ ('"' :: cs) d := by
  cases h with
  | nameText hkey h =>
    cases h with
    | colon hafter h =>
      cases h with
      | value hbefore hv h =>
        obtain ⟨name, hkey, rfl⟩ := hkey
        have hmember := Written.member Space.nil hkey hafter (.element hbefore hv Space.nil)
        simpa using Completes.member hmember h

/-- **One character read** adds that character in front of what may follow. -/
theorem Completes.cons {s s' : State} (hstep : s.step c = some s') (h : Completes s' cs d) :
    Completes s (c :: cs) d := by
  obtain ⟨mode, stack⟩ := s
  cases mode with
  | value fresh =>
    simp only [step] at hstep
    split at hstep
    · rename_i hc
      cases hstep
      cases h with
      | value hws hv h => exact .value (Space.cons hc hws) hv h
      | emptyArray hws h => exact .emptyArray (Space.cons hc hws) h
    · split at hstep
      · rename_i hc
        split at hstep
        · cases hstep
          cases h with
          | done h => exact hc ▸ .emptyArray Space.nil h
        · cases hstep
      · exact h.begin hstep
  | name fields fresh =>
    simp only [step] at hstep
    split at hstep
    · rename_i hc
      cases hstep
      cases h with
      | member hm h => exact .member (written_space_member hc hm) h
      | emptyObject hws h => exact .emptyObject (Space.cons hc hws) h
    · split at hstep
      · rename_i hc
        cases hstep
        exact hc ▸ h.name
      · split at hstep
        · rename_i hc
          cases hstep
          cases h with
          | done h =>
            obtain ⟨rfl, rfl⟩ := hc
            exact .emptyObject Space.nil h
        · cases hstep
  | nameText fields t =>
    simp only [step] at hstep
    split at hstep
    · rename_i name hclose
      cases hstep
      obtain ⟨rfl, chars, rfl, hchars⟩ := TextState.close?_eq_some hclose
      exact .nameText hchars h
    · obtain ⟨t', ht, rfl⟩ := Option.map_eq_some_iff.mp hstep
      cases h with
      | nameText hkey h => exact .nameText (hkey.cons ht) h
  | colon fields name =>
    simp only [step] at hstep
    split at hstep
    · rename_i hc
      cases hstep
      cases h with
      | colon hws h => exact .colon (Space.cons hc hws) h
    · split at hstep
      · rename_i hc
        cases hstep
        exact hc ▸ .colon Space.nil h
      · cases hstep
  | text t =>
    simp only [step] at hstep
    split at hstep
    · rename_i content hclose
      cases hstep
      obtain ⟨rfl, chars, rfl, hchars⟩ := TextState.close?_eq_some hclose
      cases h with
      | done h => exact .text hchars h
    · obtain ⟨t', ht, rfl⟩ := Option.map_eq_some_iff.mp hstep
      cases h with
      | text hs h => exact .text (hs.cons ht) h
  | word rest j =>
    simp only [step] at hstep
    split at hstep
    · split at hstep
      · rename_i hc
        cases hstep
        cases h with
        | done h => exact hc ▸ .word h
      · cases hstep
    · split at hstep
      · rename_i hc
        cases hstep
        cases h with
        | word h => exact hc ▸ .word h
      · cases hstep
    · cases hstep
  | number token part =>
    simp only [step] at hstep
    split at hstep
    · rename_i next hnext
      cases hstep
      cases h with
      | number hmore h => exact .number (hmore.cons hnext) (by simpa using h)
    · split at hstep
      · rename_i hend
        exact .number (.nil hend) (by simpa using Closes.cons hstep h)
      · cases hstep
  | done j => exact .done (.cons hstep h)

theorem Completes.nil {s : State} (h : s.finish = some d) : Completes s [] d := by
  unfold finish at h
  split at h
  · cases h
    exact .done (.nil Space.nil)
  · split at h
    · rename_i token part hend
      cases h
      have hnumber : Closes [] (.number (String.ofList (token ++ []))) [] _ := .nil Space.nil
      exact .number (.nil hend) (by simpa using hnumber)
    · cases h
  · cases h

/-- What has been read to its end is a text of the grammar, from the state on in
which it was begun. -/
theorem Completes.of_run {s s' : State} (hrun : s.run cs = some s') (h : s'.finish = some d) :
    Completes s cs d := by
  -- from the end of the text to its start: each character goes in front of what follows it
  induction cs generalizing s with
  | nil =>
    cases hrun
    exact .nil h
  | cons c cs ih =>
    rw [run, List.foldlM_cons] at hrun
    obtain ⟨mid, hstep, hrest⟩ := Option.bind_eq_some_iff.mp hrun
    exact .cons hstep (ih hrest)

end State

end Reader

open Reader State in
/-- **The reader reads the texts of the grammar**, each as the document that it is a
text of, and no others. -/
theorem read_eq_some_iff {text : String} {j : Json} :
    read text = some j ↔ Written (.element j) text.toList := by
  constructor
  · intro h
    obtain ⟨s, hrun, hfinish⟩ := Option.bind_eq_some_iff.mp h
    have hcompletes := Completes.of_run hrun hfinish
    generalize text.toList = cs at hcompletes ⊢
    cases hcompletes with
    | value hbefore hv hclose =>
      cases hclose with
      | nil hafter => exact .element hbefore hv hafter
  · intro h
    obtain ⟨s, hrun, hholds⟩ := reads_of_written h false []
    rw [read, hrun]
    exact hholds.finish

end Assay.Json

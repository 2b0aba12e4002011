import Assay.Text.Utf8
import Mathlib.Algebra.Order.Ring.Nat
import Mathlib.Data.List.Basic

/-! # Bytes of texts

A number is encoded by a first byte, which says how many follow, and by bytes of six
bits each (`encode_eq_sequence`).  Three facts about the decoder rest on this form.

* It reads a character from its encoding (`lossyFrom_encode`), so a text is got back from
  its bytes (`lossy_utf8`), and bytes from the text they are shown as exactly if they are
  those of a text (`utf8_lossy_eq_iff`).
* The first byte of a character is no byte that could be taken for the continuation of
  something else, so nothing before it swallows it (`lossyFrom_append_encode`).
* Every character it gives, replacements apart, comes from its encoding: a byte string
  falls into pieces, each an encoding or a scrap (`exists_pieces`).

All use one description of its states: the numbers that a
state still allows are those of characters whose encoding begins with the bytes read
(`Begun`).
-/

namespace Assay.Text

open String (utf8EncodeChar)

variable {m n v w : Nat}

/-! ## Encoding -/

/-- The last `n` bytes of the encoding of the number `v`: six bits in each. -/
def trailing : (n v : Nat) → Bytes
  | 0, _ => []
  | n + 1, v => UInt8.ofNat (v / 64 ^ n % 64 + 0x80) :: trailing n v

/-- The least first byte of encodings with `n` further bytes. -/
def marker : Nat → Nat
  | 0 => 0
  | 1 => 0xC0
  | 2 => 0xE0
  | 3 => 0xF0
  | _ => 0xF8

/-- The encoding of the number `v` with `n` bytes after the first. -/
def sequence (n v : Nat) : Bytes := UInt8.ofNat (marker n + v / 64 ^ n) :: trailing n v

/-- The number `v` is encoded with `n` bytes after the first; fewer are not enough. -/
inductive Takes (v : Nat) : Nat → Prop
  | zero : v < 0x80 → Takes v 0
  | one : 0x80 ≤ v → v < 0x800 → Takes v 1
  | two : 0x800 ≤ v → v < 0x10000 → Takes v 2
  | three : 0x10000 ≤ v → v < 0x110000 → Takes v 3

theorem takes_one_iff : Takes v 1 ↔ 0x80 ≤ v ∧ v < 0x800 :=
  ⟨fun h => by cases h; omega, fun h => .one h.1 h.2⟩

theorem takes_two_iff : Takes v 2 ↔ 0x800 ≤ v ∧ v < 0x10000 :=
  ⟨fun h => by cases h; omega, fun h => .two h.1 h.2⟩

theorem takes_three_iff : Takes v 3 ↔ 0x10000 ≤ v ∧ v < 0x110000 :=
  ⟨fun h => by cases h; omega, fun h => .three h.1 h.2⟩

/-- The numbers of characters leave out the surrogates. -/
theorem toNat_range (c : Char) : c.toNat < 0xD800 ∨ 0xDFFF < c.toNat ∧ c.toNat < 0x110000 :=
  c.valid

theorem encode_eq_sequence (c : Char) :
    ∃ n, Takes c.toNat n ∧ utf8EncodeChar c = sequence n c.toNat := by
  have hrange := toNat_range c
  unfold utf8EncodeChar
  rw [Char.toNat] at hrange ⊢
  generalize c.val.toNat = v at hrange
  dsimp only
  split
  · exact ⟨0, .zero (by omega), by simp [sequence, marker, trailing]⟩
  · split
    · have hfirst : v / 64 % 32 + 192 = 0xC0 + v / 64 := by omega
      exact ⟨1, .one (by omega) (by omega), by simp [sequence, marker, trailing, hfirst]⟩
    · split
      · have hfirst : v / 4096 % 16 + 224 = 0xE0 + v / 4096 := by omega
        exact ⟨2, .two (by omega) (by omega), by simp [sequence, marker, trailing, hfirst]⟩
      · have hfirst : v / 262144 % 8 + 240 = 0xF0 + v / 262144 := by omega
        exact ⟨3, .three (by omega) (by omega), by simp [sequence, marker, trailing, hfirst]⟩

namespace Takes

theorem mono (hv : Takes v m) (hw : Takes w n) (h : v ≤ w) : m ≤ n := by
  cases hv <;> cases hw <;> omega

theorem unique (h : Takes v m) (h' : Takes v n) : m = n :=
  le_antisymm (h.mono h' le_rfl) (h'.mono h le_rfl)

/-- The encoding of the character with a given number. -/
theorem encode_ofNat (h : Takes v n) (hvalid : v.isValidChar) :
    utf8EncodeChar (Char.ofNat v) = sequence n v := by
  have hnumber : (Char.ofNat v).toNat = v := by
    rw [Char.ofNat, dif_pos hvalid]
    rfl
  obtain ⟨m, hm, hbytes⟩ := encode_eq_sequence (Char.ofNat v)
  rw [hnumber] at hm hbytes
  rw [hbytes, hm.unique h]

/-- The first byte lies between its marker and the next. -/
theorem first_lt (h : Takes v n) : marker n + v / 64 ^ n < marker (n + 1) := by
  cases h <;> simp only [marker] <;> omega

theorem toNat_first (h : Takes v n) :
    (UInt8.ofNat (marker n + v / 64 ^ n)).toNat = marker n + v / 64 ^ n := by
  rw [UInt8.toNat_ofNat']
  apply Nat.mod_eq_of_lt
  cases h <;> simp only [marker] <;> omega

/-- No first byte could be one of those that follow. -/
theorem first_apart (h : Takes v n) :
    marker n + v / 64 ^ n < 0x80 ∨ 0xC2 ≤ marker n + v / 64 ^ n ∧ marker n + v / 64 ^ n ≤ 0xF4 := by
  cases h <;> simp only [marker] <;> omega

end Takes

theorem marker_mono (h : m ≤ n) : marker m ≤ marker n := by
  refine monotone_nat_of_le_succ (fun k => ?_) h
  rcases k with _ | _ | _ | _ | k <;> simp [marker]

theorem toNat_continuation (x : Nat) : (UInt8.ofNat (x % 64 + 0x80)).toNat = x % 64 + 0x80 := by
  rw [UInt8.toNat_ofNat']
  omega

/-! ## States of the decoder -/

/-- The number `v` can come of what has been read: it has the bits that were read, and
its next byte lies within the bounds. -/
structure Partial.Allows (p : Partial) (v : Nat) : Prop where
  value : v / 64 ^ p.due = p.value
  low : p.low ≤ v / 64 ^ (p.due - 1) % 64 + 0x80
  high : v / 64 ^ (p.due - 1) % 64 + 0x80 ≤ p.high

/-- **What the first byte of a sequence announces**: how many follow, with bounds on the
next one that leave exactly the characters that take so many. -/
structure Announces (b : UInt8) (p : Partial) : Prop where
  due : 0 < p.due
  first : b.toNat = marker p.due + p.value
  below : b.toNat < marker (p.due + 1)
  low : 0x80 ≤ p.low
  high : p.high ≤ 0xBF
  allows : ∀ v, v / 64 ^ p.due = p.value →
    (p.Allows v ↔ (v < 0xD800 ∨ 0xDFFF < v ∧ v < 0x110000) ∧ Takes v p.due)

theorem announces_of {b : UInt8} {low high value : Nat}
    (hb : 0 < n ∧ b.toNat = marker n + value ∧ b.toNat < marker (n + 1) ∧ 0x80 ≤ low ∧ high ≤ 0xBF)
    (hsecond : ∀ v, v / 64 ^ n = value →
      (low ≤ v / 64 ^ (n - 1) % 64 + 0x80 ∧ v / 64 ^ (n - 1) % 64 + 0x80 ≤ high ↔
        (v < 0xD800 ∨ 0xDFFF < v ∧ v < 0x110000) ∧ Takes v n)) :
    ∃ p, (([], some ⟨n, low, high, value⟩) : List Char × Option Partial) = ([], some p) ∧
      Announces b p := by
  obtain ⟨hn, hfirst, hbelow, hlow, hhigh⟩ := hb
  refine ⟨_, rfl, hn, hfirst, hbelow, hlow, hhigh, fun v hv => ?_⟩
  rw [← hsecond v hv]
  exact ⟨fun h => ⟨h.low, h.high⟩, fun h => ⟨hv, h.1, h.2⟩⟩

theorem openSequence_ascii {b : UInt8} (h : b.toNat < 0x80) :
    openSequence b = ([Char.ofNat b.toNat], none) := if_pos h

/-- A first byte is a character, belongs to no encoding, or announces a sequence. -/
theorem openSequence_cases (b : UInt8) :
    b.toNat < 0x80 ∧ openSequence b = ([Char.ofNat b.toNat], none) ∨
    (0x80 ≤ b.toNat ∧ b.toNat < 0xC2 ∨ 0xF4 < b.toNat) ∧ openSequence b = ([replacement], none) ∨
    ∃ p, openSequence b = ([], some p) ∧ Announces b p := by
  unfold openSequence
  dsimp only
  split
  · exact .inl ⟨by omega, rfl⟩
  split
  · exact .inr (.inl ⟨by omega, rfl⟩)
  split
  · exact .inr (.inr (announces_of (by simp only [marker]; omega) fun v hv => by
      rw [takes_one_iff]; omega))
  -- with two bytes after the first, the first kind leaves out overlong forms and the second
  -- one the surrogates
  split
  · exact .inr (.inr (announces_of (by simp only [marker]; omega) fun v hv => by
      rw [takes_two_iff]; omega))
  split
  · exact .inr (.inr (announces_of (by simp only [marker]; omega) fun v hv => by
      rw [takes_two_iff]; omega))
  split
  · exact .inr (.inr (announces_of (by simp only [marker]; omega) fun v hv => by
      rw [takes_two_iff]; omega))
  -- with three bytes, the first kind leaves out overlong forms and the last one what is
  -- larger than any character
  split
  · exact .inr (.inr (announces_of (by simp only [marker]; omega) fun v hv => by
      rw [takes_three_iff]; omega))
  split
  · exact .inr (.inr (announces_of (by simp only [marker]; omega) fun v hv => by
      rw [takes_three_iff]; omega))
  split
  · exact .inr (.inr (announces_of (by simp only [marker]; omega) fun v hv => by
      rw [takes_three_iff]; omega))
  · exact .inr (.inl ⟨by omega, rfl⟩)

/-- **The state of the decoder after the bytes `seen`**: what it still allows are numbers
of characters whose encoding begins with these bytes. -/
structure Begun (seen : Bytes) (p : Partial) : Prop where
  due : 0 < p.due
  low : 0x80 ≤ p.low
  high : p.high ≤ 0xBF
  encodes : ∀ v, p.Allows v →
    v.isValidChar ∧ ∃ n, Takes v n ∧ sequence n v = seen ++ trailing p.due v

variable {seen bs : Bytes} {p : Partial} {b : UInt8}

theorem Announces.begun (h : Announces b p) : Begun [b] p := by
  refine ⟨h.due, h.low, h.high, fun v hv => ?_⟩
  obtain ⟨hvalid, htakes⟩ := (h.allows v hv.value).mp hv
  refine ⟨hvalid, p.due, htakes, ?_⟩
  rw [sequence, hv.value, ← h.first, UInt8.ofNat_toNat]
  rfl

/-- What is still allowed after one more byte was allowed before, with this byte next. -/
theorem Begun.next (h : Begun seen p) (hmore : 1 < p.due) (hb : p.low ≤ b.toNat ∧ b.toNat ≤ p.high) :
    Begun (seen ++ [b]) ⟨p.due - 1, 0x80, 0xBF, p.value * 64 + (b.toNat - 0x80)⟩ := by
  obtain ⟨d, hd⟩ : ∃ d, p.due = d + 2 := ⟨p.due - 2, by omega⟩
  have hlow := h.low
  have hhigh := h.high
  refine ⟨Nat.sub_pos_of_lt hmore, le_rfl, le_rfl, fun v hv => ?_⟩
  have hvalue := hv.value
  simp only [hd, Nat.add_one_sub_one] at hvalue ⊢
  have hbyte : v / 64 ^ (d + 1) % 64 + 0x80 = b.toNat := by omega
  have hallows : p.Allows v := by
    refine ⟨?_, ?_, ?_⟩
    · rw [hd, Nat.pow_succ, ← Nat.div_div_eq_div_mul]
      omega
    · rw [hd]
      exact hb.1.trans_eq hbyte.symm
    · rw [hd]
      exact hbyte.trans_le hb.2
  obtain ⟨hvalid, n, hn, hsequence⟩ := h.encodes v hallows
  refine ⟨hvalid, n, hn, ?_⟩
  rw [hsequence, hd, trailing, hbyte, UInt8.ofNat_toNat, List.append_assoc]
  rfl

/-- The last byte completes the encoding of a character. -/
theorem Begun.last (h : Begun seen p) (hlast : p.due ≤ 1) (hb : p.low ≤ b.toNat ∧ b.toNat ≤ p.high) :
    utf8EncodeChar (Char.ofNat (p.value * 64 + (b.toNat - 0x80))) = seen ++ [b] := by
  have hd : p.due = 1 := le_antisymm hlast h.due
  have hlow := h.low
  have hhigh := h.high
  generalize hv : p.value * 64 + (b.toNat - 0x80) = v
  have hbyte : v % 64 + 0x80 = b.toNat := by omega
  have hallows : p.Allows v := by
    refine ⟨?_, ?_, ?_⟩
    · rw [hd]
      omega
    · simpa [hd, hbyte] using hb.1
    · simpa [hd, hbyte] using hb.2
  obtain ⟨hvalid, n, hn, hsequence⟩ := h.encodes v hallows
  rw [hn.encode_ofNat hvalid, hsequence, hd]
  simp [trailing, hbyte]

/-! ## Reading -/

/-- A byte outside the bounds ends the sequence, and is read afresh. -/
theorem lossyFrom_refused (h : ¬ (p.low ≤ b.toNat ∧ b.toNat ≤ p.high)) :
    lossyFrom (some p) (b :: bs) = replacement :: lossyFrom none (b :: bs) := by
  simp only [lossyFrom, Partial.advance, h, if_false, List.cons_append]

theorem lossyFrom_next (hmore : 1 < p.due) (h : p.low ≤ b.toNat ∧ b.toNat ≤ p.high) :
    lossyFrom (some p) (b :: bs) =
      lossyFrom (some ⟨p.due - 1, 0x80, 0xBF, p.value * 64 + (b.toNat - 0x80)⟩) bs := by
  simp only [lossyFrom, Partial.advance, h, and_self, if_true, Nat.not_le.mpr hmore, if_false,
    List.nil_append]

theorem lossyFrom_last (hlast : p.due ≤ 1) (h : p.low ≤ b.toNat ∧ b.toNat ≤ p.high) :
    lossyFrom (some p) (b :: bs) =
      Char.ofNat (p.value * 64 + (b.toNat - 0x80)) :: lossyFrom none bs := by
  simp only [lossyFrom, Partial.advance, h, and_self, if_true, hlast, List.cons_append,
    List.nil_append]

/-- The bytes that are due lead to the number that they come from. -/
theorem Partial.Allows.lossyFrom_trailing (hdue : 0 < p.due) (h : p.Allows v) (bs : Bytes) :
    lossyFrom (some p) (trailing p.due v ++ bs) = Char.ofNat v :: lossyFrom none bs := by
  obtain ⟨d, hd⟩ : ∃ d, p.due = d + 1 := ⟨p.due - 1, by omega⟩
  obtain ⟨hvalue, hlow, hhigh⟩ := h
  induction d generalizing p with
  | zero =>
    simp only [hd, Nat.zero_add, Nat.pow_one, Nat.sub_self, Nat.pow_zero, Nat.div_one]
      at hvalue hlow hhigh
    have hnumber : p.value * 64 + (v % 64 + 0x80 - 0x80) = v := by omega
    rw [hd]
    simp only [trailing, List.cons_append, List.nil_append, Nat.pow_zero, Nat.div_one]
    rw [lossyFrom_last hd.le (by rw [toNat_continuation]; exact ⟨hlow, hhigh⟩),
      toNat_continuation, hnumber]
  | succ d ih =>
    rw [hd] at hvalue hlow hhigh
    have hd' : p.due - 1 = d + 1 := by omega
    have hbits : p.value * 64 + (v / 64 ^ (d + 1) % 64 + 0x80 - 0x80) = v / 64 ^ (d + 1) := by
      rw [Nat.pow_succ, ← Nat.div_div_eq_div_mul] at hvalue
      omega
    rw [hd, trailing, List.cons_append,
      lossyFrom_next (by omega) (by rw [toNat_continuation]; exact ⟨hlow, hhigh⟩),
      toNat_continuation, hd', hbits]
    refine ih (Nat.succ_pos d) rfl rfl ?_ ?_
    · exact Nat.le_add_left _ _
    · dsimp only
      omega

/-- The first byte of an encoding announces the rest of it. -/
theorem Takes.announces (h : Takes v n) (hn : 0 < n)
    (hvalid : v < 0xD800 ∨ 0xDFFF < v ∧ v < 0x110000) :
    ∃ p, openSequence (UInt8.ofNat (marker n + v / 64 ^ n)) = ([], some p) ∧ p.due = n ∧
      p.Allows v := by
  have hb := h.toNat_first
  have hbelow := h.first_lt
  have hapart := h.first_apart
  have hmarker : 0xC0 ≤ marker n := marker_mono (m := 1) hn
  generalize hx : v / 64 ^ n = x at hb hbelow hapart
  rcases openSequence_cases (UInt8.ofNat (marker n + x)) with
    ⟨hascii, -⟩ | ⟨hstray, -⟩ | ⟨p, hp, hannounces⟩
  · omega
  · omega
  · have hfirst := hannounces.first
    have hbelow' := hannounces.below
    rw [hb] at hfirst hbelow'
    -- the markers leave room for one number of bytes only
    have hdue : p.due = n := by
      rcases Nat.lt_trichotomy p.due n with hlt | heq | hgt
      · have hle : marker (p.due + 1) ≤ marker n := marker_mono hlt
        omega
      · exact heq
      · have hle : marker (n + 1) ≤ marker p.due := marker_mono hgt
        omega
    subst hdue
    have hvalue : v / 64 ^ p.due = p.value := by omega
    exact ⟨p, hp, rfl, (hannounces.allows v hvalue).mpr ⟨hvalid, h⟩⟩

/-- **A character is read from its encoding.** -/
theorem lossyFrom_encode (c : Char) (bs : Bytes) :
    lossyFrom none (utf8EncodeChar c ++ bs) = c :: lossyFrom none bs := by
  obtain ⟨n, hn, hbytes⟩ := encode_eq_sequence c
  rw [hbytes, sequence, List.cons_append, lossyFrom]
  rcases Nat.eq_zero_or_pos n with rfl | hpos
  · have hb := hn.toNat_first
    cases hn with
    | zero hascii =>
      rw [openSequence_ascii (by rw [hb]; simpa [marker] using hascii), hb]
      simp [marker, trailing]
  · obtain ⟨p, hp, rfl, hallows⟩ := hn.announces hpos (toNat_range c)
    rw [hp, List.nil_append, hallows.lossyFrom_trailing hpos, Char.ofNat_toNat]

theorem lossyFrom_flatMap_encode (cs : List Char) (bs : Bytes) :
    lossyFrom none (cs.flatMap utf8EncodeChar ++ bs) = cs ++ lossyFrom none bs := by
  induction cs with
  | nil => rfl
  | cons c cs ih => rw [List.flatMap_cons, List.append_assoc, lossyFrom_encode, ih, List.cons_append]

/-- Decoding takes encoding back. -/
theorem lossy_utf8 (s : String) : lossy (utf8 s) = s := by
  have h := lossyFrom_flatMap_encode s.toList []
  rw [List.append_nil] at h
  rw [lossy, utf8, h]
  simp [lossyFrom]

theorem utf8_injective : Function.Injective utf8 := Function.LeftInverse.injective lossy_utf8

/-! ## In the middle of a sequence -/

/-- The bounds on the next byte keep to bytes that begin no encoding. -/
def Partial.Proper (p : Partial) : Prop := 0x80 ≤ p.low ∧ p.high ≤ 0xBF

theorem proper_openSequence (b : UInt8) : ∀ p ∈ (openSequence b).2, p.Proper := by
  intro p hp
  rcases openSequence_cases b with ⟨-, hopen⟩ | ⟨-, hopen⟩ | ⟨q, hopen, hq⟩
  · simp [hopen] at hp
  · simp [hopen] at hp
  · obtain rfl : q = p := by simpa [hopen] using hp
    exact ⟨hq.low, hq.high⟩

theorem proper_advance (q : Partial) (b : UInt8) : ∀ p ∈ (q.advance b).2, p.Proper := by
  intro p hp
  unfold Partial.advance at hp
  dsimp only at hp
  split at hp
  · split at hp
    · cases hp
    · obtain rfl : _ = p := Option.some.inj hp
      exact ⟨le_rfl, le_rfl⟩
  · exact proper_openSequence b p hp

/-- A character is read from its encoding in the middle of a sequence too, which it ends. -/
theorem lossyFrom_some_encode {p : Partial} (hp : p.Proper) (c : Char) (bs : Bytes) :
    lossyFrom (some p) (utf8EncodeChar c ++ bs) =
      replacement :: lossyFrom none (utf8EncodeChar c ++ bs) := by
  obtain ⟨n, hn, hbytes⟩ := encode_eq_sequence c
  have hapart := hn.first_apart
  have hfirst := hn.toNat_first
  obtain ⟨hlow, hhigh⟩ := hp
  rw [hbytes, sequence, List.cons_append]
  refine lossyFrom_refused fun h => ?_
  rw [hfirst] at h
  omega

/-- **An encoding is read as its character, whatever stands before it**: what stands
there is read as if it were at the end. -/
theorem lossyFrom_append_encode {state : Option Partial} (hstate : ∀ p ∈ state, p.Proper)
    (before : Bytes) (c : Char) (behind : Bytes) :
    lossyFrom state (before ++ (utf8EncodeChar c ++ behind)) =
      lossyFrom state before ++ c :: lossyFrom none behind := by
  induction before generalizing state with
  | nil =>
    cases state with
    | none => exact lossyFrom_encode c behind
    | some p =>
      rw [List.nil_append, lossyFrom_some_encode (hstate p rfl), lossyFrom_encode]
      rfl
  | cons b before ih =>
    rw [List.cons_append]
    cases state with
    | none =>
      rw [lossyFrom, lossyFrom, ih (proper_openSequence b), List.append_assoc]
    | some p =>
      rw [lossyFrom, lossyFrom, ih (proper_advance p b), List.append_assoc]

/-- A text between other bytes is decoded by itself, and so is what stands before and
behind it. -/
theorem lossy_append_utf8_append {s : String} (hs : s ≠ "") (before behind : Bytes) :
    lossy (before ++ (utf8 s ++ behind)) = lossy before ++ (s ++ lossy behind) := by
  rcases hlist : s.toList with _ | ⟨c, cs⟩
  · exact absurd (by simpa using hlist) hs
  · apply String.toList_inj.mp
    rw [lossy, utf8, hlist, List.flatMap_cons, List.append_assoc,
      lossyFrom_append_encode (by simp), lossyFrom_flatMap_encode]
    simp [lossy, hlist]

theorem lossy_append_utf8 (bs : Bytes) (s : String) : lossy (bs ++ utf8 s) = lossy bs ++ s := by
  by_cases hs : s = ""
  · simp [hs, utf8]
  · have h := lossy_append_utf8_append hs bs []
    simpa [lossy, lossyFrom] using h

/-! ## Bytes of texts -/

/-- The bytes are those of a text. -/
def IsText (bs : Bytes) : Prop := ∃ s, bs = utf8 s

/-- Decoding loses nothing exactly if the bytes are those of a text. -/
theorem utf8_lossy_eq_iff {bs : Bytes} : utf8 (lossy bs) = bs ↔ IsText bs := by
  constructor
  · intro h
    exact ⟨lossy bs, h.symm⟩
  · rintro ⟨s, rfl⟩
    rw [lossy_utf8]

/-- Texts are told apart by what they are shown as. -/
theorem IsText.lossy_inj {bs bs' : Bytes} (h : IsText bs) (h' : IsText bs') :
    lossy bs = lossy bs' ↔ bs = bs' := by
  refine ⟨fun heq => ?_, congrArg lossy⟩
  rw [← utf8_lossy_eq_iff.mpr h, heq, utf8_lossy_eq_iff.mpr h']

theorem isText_append_utf8 {bs : Bytes} {s : String} : IsText (bs ++ utf8 s) ↔ IsText bs := by
  rw [← utf8_lossy_eq_iff, lossy_append_utf8, utf8_append, List.append_cancel_right_eq,
    utf8_lossy_eq_iff]

/-! ## Pieces -/

/-- A piece of a byte string as the decoder sees it. -/
inductive Piece where
  /-- The encoding of a character. -/
  | whole (c : Char)
  /-- Bytes that are no encoding and stand in for nothing. -/
  | scrap (bytes : Bytes)

namespace Piece

def bytes : Piece → Bytes
  | whole c => utf8EncodeChar c
  | scrap bs => bs

/-- The character that is given for a piece. -/
def shown : Piece → Char
  | whole c => c
  | scrap _ => replacement

end Piece

/-- Inside a sequence, the bytes read so far belong to the first piece. -/
theorem exists_pieces_from (bs : Bytes) :
    (∃ ps : List Piece, ps.flatMap Piece.bytes = bs ∧ ps.map Piece.shown = lossyFrom none bs) ∧
    ∀ seen p, Begun seen p → ∃ ps : List Piece, ps.flatMap Piece.bytes = seen ++ bs ∧
      ps.map Piece.shown = lossyFrom (some p) bs := by
  induction bs with
  | nil => exact ⟨⟨[], rfl, rfl⟩, fun seen p _ => ⟨[.scrap seen], rfl, rfl⟩⟩
  | cons b bs ih =>
    obtain ⟨⟨rest, hbytes, hshown⟩, hbegun⟩ := ih
    have hfresh : ∃ ps : List Piece, ps.flatMap Piece.bytes = b :: bs ∧
        ps.map Piece.shown = lossyFrom none (b :: bs) := by
      rcases openSequence_cases b with ⟨hascii, hopen⟩ | ⟨-, hopen⟩ | ⟨p, hopen, hannounces⟩
      · refine ⟨.whole (Char.ofNat b.toNat) :: rest, ?_, ?_⟩
        · have hone := (Takes.zero hascii).encode_ofNat (.inl (by omega))
          simp [Piece.bytes, hone, sequence, marker, trailing, hbytes]
        · simp [Piece.shown, hshown, lossyFrom, hopen]
      · refine ⟨.scrap [b] :: rest, ?_, ?_⟩
        · simp [Piece.bytes, hbytes]
        · simp [Piece.shown, hshown, lossyFrom, hopen]
      · obtain ⟨ps, hps, hps'⟩ := hbegun [b] p hannounces.begun
        exact ⟨ps, hps, by simp [hps', lossyFrom, hopen]⟩
    refine ⟨hfresh, fun seen p hp => ?_⟩
    by_cases hb : p.low ≤ b.toNat ∧ b.toNat ≤ p.high
    · rcases Nat.lt_or_ge 1 p.due with hmore | hlast
      · obtain ⟨ps, hps, hps'⟩ := hbegun _ _ (hp.next hmore hb)
        exact ⟨ps, by simpa using hps, by rw [hps', lossyFrom_next hmore hb]⟩
      · refine ⟨.whole (Char.ofNat (p.value * 64 + (b.toNat - 0x80))) :: rest, ?_, ?_⟩
        · rw [List.flatMap_cons, Piece.bytes, hp.last hlast hb, hbytes, List.append_assoc]
          rfl
        · rw [List.map_cons, hshown, lossyFrom_last hlast hb, Piece.shown]
    · obtain ⟨ps, hps, hps'⟩ := hfresh
      refine ⟨.scrap seen :: ps, ?_, ?_⟩
      · rw [List.flatMap_cons, hps, Piece.bytes]
      · rw [List.map_cons, hps', lossyFrom_refused hb, Piece.shown]

/-- **What the decoder gives are the characters of pieces that make up the bytes.** -/
theorem exists_pieces (bs : Bytes) :
    ∃ ps : List Piece, ps.flatMap Piece.bytes = bs ∧ ps.map Piece.shown = lossyFrom none bs :=
  (exists_pieces_from bs).1

end Assay.Text

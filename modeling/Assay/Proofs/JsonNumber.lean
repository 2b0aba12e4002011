import Assay.Proofs.JsonText
import Assay.Tool.Invocation

/-! # The numbers of a report

Counts, return codes and durations are written as numbers of the JSON grammar.
For a duration this rests on the search for the shortest decimal: the numbers it
tries round to a double above zero, so they are above zero themselves, and their
first digit stays when the zeros at their end are dropped
(`Magnitude.shortest_proper`).  Both ways to set such digits out, around a point or
before an exponent, then give a number (`Decimal.unsigned_write`).
-/

namespace Assay

open Json (Digits Whole Fraction Exponent Unsigned Numeral)

/-! ## Natural numbers and integers -/

namespace Json

theorem digits_toDigits (n : Nat) : Digits (Nat.toDigits 10 n) :=
  fun _ hc => Nat.isDigit_of_mem_toDigits (by decide) (by decide) hc

/-- The digits of a positive number do not begin with a zero. -/
theorem toDigits_of_pos {n : Nat} (hn : 0 < n) :
    ∃ d ds, Nat.toDigits 10 n = d :: ds ∧ d.isDigit = true ∧ d ≠ '0' ∧ Digits ds := by
  induction n using Nat.strongRecOn with
  | ind n ih =>
    by_cases hlt : n < 10
    · have hdigit : ∀ k < 10, 0 < k → (Nat.digitChar k).isDigit = true ∧ Nat.digitChar k ≠ '0' := by
        decide
      obtain ⟨hd, hzero⟩ := hdigit n hlt hn
      exact ⟨_, [], Nat.toDigits_of_lt_base hlt, hd, hzero, .nil⟩
    · have hle : 10 ≤ n := Nat.not_lt.mp hlt
      obtain ⟨d, ds, heq, hd, hzero, hds⟩ := ih (n / 10) (by omega) (by omega)
      have hsplit : Nat.toDigits 10 n = d :: (ds ++ [Nat.digitChar (n % 10)]) := by
        rw [Nat.toDigits_of_base_le (by decide) hle, heq, List.cons_append]
      have hlast : (Nat.digitChar (n % 10)).isDigit = true :=
        digits_toDigits n _ (by simp [hsplit])
      exact ⟨d, _, hsplit, hd, hzero, hds.append (.cons hlast .nil)⟩

theorem whole_repr (n : Nat) : Whole (Nat.repr n).toList := by
  rw [Nat.repr_eq_ofList_toDigits, String.toList_ofList]
  rcases Nat.eq_zero_or_pos n with rfl | hn
  · exact .zero
  · obtain ⟨d, ds, heq, hd, hzero, hds⟩ := toDigits_of_pos hn
    exact heq ▸ .digits hd hzero hds

theorem sound_nat (n : Nat) : Sound (nat n) := by
  have h := Unsigned.parts (whole_repr n) .none .none
  exact .number (.unsigned (by simpa using h))

theorem sound_int (n : Int) : Sound (int n) := by
  rw [int]
  split
  · have h := Numeral.negative (.parts (whole_repr n.natAbs) .none .none)
    exact .number (by simpa using h)
  · exact sound_nat n.natAbs

/-- The token of an integer is its usual text. -/
theorem int_eq (n : Int) : int n = .number n.repr := by
  cases n with
  | ofNat n => simp [int, Int.repr]
  | negSucc n => simp [int, Int.repr, Int.negSucc_lt_zero]

end Json

/-! ## Doubles -/

namespace Number

/-- The digits begin with a zero only if they are the zero that stands for
nothing. -/
inductive Decimal.Proper : Decimal → Prop
  | zero : Proper ⟨['0'], 0⟩
  | digits {d : Char} {ds : List Char} {e : Int} : d.isDigit = true → d ≠ '0' → Digits ds →
      Proper ⟨d :: ds, e⟩

namespace Magnitude

/-- Zeros at the end are dropped from digits that begin with another one. -/
theorem dropZeros_cons {d : Char} (hd : d ≠ '0') (ds : List Char) :
    ((d :: ds).reverse.dropWhile (· == '0')).reverse =
      d :: (ds.reverse.dropWhile (· == '0')).reverse := by
  have hlast : [d].dropWhile (· == '0') = [d] := by simp [hd]
  rw [List.reverse_cons, List.dropWhile_append, hlast]
  split
  · rename_i hnone
    rw [List.isEmpty_iff] at hnone
    simp [hnone]
  · simp

theorem proper_of_pos {c : Nat} (hc : 0 < c) (e : Int) :
    Decimal.Proper ⟨((Nat.toDigits 10 c).reverse.dropWhile (· == '0')).reverse, e⟩ := by
  obtain ⟨d, ds, heq, hd, hzero, hds⟩ := Json.toDigits_of_pos hc
  rw [heq, dropZeros_cons hzero]
  refine .digits hd hzero fun x hx => hds x ?_
  exact List.mem_reverse.mp ((List.dropWhile_sublist _).subset (List.mem_reverse.mp hx))

/-- A decimal that reads back as a double above zero is above zero. -/
theorem readBack?_proper {m : Magnitude} (hm : m.significand ≠ 0) {evenTies : Bool} {e : Int}
    {count : Nat} {d : Decimal} (h : m.readBack? evenTies e count = some d) : d.Proper := by
  unfold readBack? at h
  extract_lets value high low place scale unit inside below above toBelow toAbove nearer pick at h
  obtain ⟨c, hpick, rfl⟩ := Option.map_eq_some_iff.mp h
  refine proper_of_pos ?_ _
  have hpow : 0 < Nat.pow 2 m.shift := Nat.pow_pos (by decide)
  have hvalue : 4 * Nat.pow 2 m.shift ≤ value :=
    Nat.mul_le_mul_left 4 (Nat.le_mul_of_pos_left _ (Nat.pos_of_ne_zero hm))
  have hlow : 0 < low := by
    simp only [low]
    split <;> omega
  have hscale : 0 < low * scale := Nat.mul_pos hlow (Nat.pow_pos (by decide))
  -- zero lies below the interval, whether its ends belong to it or not
  have hzero : inside 0 = false := by
    have hends : ¬ low * scale ≤ 0 := Nat.not_le.mpr hscale
    have hopen : ¬ low * scale < 0 := Nat.not_lt_zero _
    simp only [inside, Nat.zero_mul]
    split <;> simp only [hends, hopen, decide_false, Bool.false_and]
  simp only [pick] at hpick
  split at hpick
  · rename_i hinside
    cases hpick
    refine Nat.pos_of_ne_zero fun hbelow => ?_
    simp [hbelow, hzero] at hinside
  · split at hpick
    · cases hpick
      exact Nat.succ_pos below
    · cases hpick

theorem shortest_proper (m : Magnitude) (evenTies : Bool) : (m.shortest evenTies).Proper := by
  simp only [shortest]
  split
  · exact .zero
  · rename_i hm
    cases hfound : (List.range 17).findSome? fun n =>
        m.readBack? evenTies (floorLog10 m.units unitsPerOne) (n + 1) with
    | none => exact .zero
    | some d =>
      obtain ⟨n, _, hn⟩ := List.exists_of_findSome?_eq_some hfound
      exact readBack?_proper hm hn

end Magnitude

namespace Decimal

theorem digits_zeros (n : Nat) : Digits (List.replicate n '0') := fun c hc => by
  rw [List.eq_of_mem_replicate hc]
  rfl

theorem fraction_of_digits {cs : List Char} (hcs : Digits cs) (hne : cs ≠ []) :
    Fraction ('.' :: cs) := by
  obtain ⟨d, ds, rfl⟩ := List.exists_cons_of_ne_nil hne
  exact .digits hcs

theorem exponent_repr (n : Nat) {sign : List Char} (hsign : sign = [] ∨ sign = ['+'] ∨ sign = ['-']) :
    Exponent ('e' :: sign ++ (Nat.repr n).toList) := by
  obtain ⟨d, ds, heq, hds⟩ := (Json.whole_repr n).exists_digit
  exact heq ▸ .digits (.inl rfl) hsign hds

theorem unsigned_positional {d : Decimal} (h : d.Proper) : Unsigned d.positional.toList := by
  cases h with
  | zero => exact .parts .zero (.digits (digits_zeros 1)) .none
  | @digits d ds e hd hzero hds =>
    have hall : Digits (d :: ds) := .cons hd hds
    simp only [positional]
    split
    · have hfraction := (digits_zeros (e.natAbs - 1)).append hall
      have h := Unsigned.parts .zero (fraction_of_digits hfraction (by simp)) .none
      simpa using h
    · split
      · have hwhole := hds.append (digits_zeros (e.toNat + 1 - (d :: ds).length))
        have h := Unsigned.parts (.digits hd hzero hwhole) (.digits (digits_zeros 1)) .none
        simpa using h
      · -- the point falls among the digits, behind the first
        rename_i hlong
        have hwhole : Digits (ds.take e.toNat) := fun c hc => hds c (List.mem_of_mem_take hc)
        have hrest : Digits (ds.drop e.toNat) := fun c hc => hds c (List.mem_of_mem_drop hc)
        have hne : ds.drop e.toNat ≠ [] := by
          simp only [List.length_cons] at hlong
          simp only [ne_eq, List.drop_eq_nil_iff]
          omega
        have h := Unsigned.parts (.digits hd hzero hwhole) (fraction_of_digits hrest hne) .none
        simpa using h

theorem unsigned_scientific {d : Decimal} (h : d.Proper) (plus : Bool) :
    Unsigned (d.scientific plus).toList := by
  have hmark (e : Int) : Exponent (((if e < 0 then "e-" else if plus then "e+" else "e") ++
      Nat.repr e.natAbs).toList) := by
    rw [String.toList_append]
    split
    · exact exponent_repr _ (.inr (.inr rfl))
    · split
      · exact exponent_repr _ (.inr (.inl rfl))
      · exact exponent_repr _ (.inl rfl)
  cases h with
  | zero =>
    have h := Unsigned.parts .zero .none (hmark 0)
    simpa [scientific] using h
  | @digits d ds e hd hzero hds =>
    cases ds with
    | nil =>
      have h := Unsigned.parts (.digits hd hzero hds) .none (hmark e)
      simpa [scientific] using h
    | cons x xs =>
      have h := Unsigned.parts (.digits hd hzero .nil) (.digits hds) (hmark e)
      simpa [scientific] using h

/-- **Proper digits are written as a number**, in every style. -/
theorem unsigned_write {d : Decimal} (h : d.Proper) (style : Style) :
    Unsigned (d.write style).toList := by
  rw [write]
  split
  · exact unsigned_positional h
  · exact unsigned_scientific h style.plus

end Decimal

/-- A finite double is written as a number. -/
theorem Binary64.numeral_write (style : Style) (negative : Bool) (m : Magnitude) :
    Numeral ((finite negative m).write style).toList := by
  have h := Decimal.unsigned_write (m.shortest_proper style.evenTies) style
  cases negative with
  | false => simpa [write] using Numeral.unsigned h
  | true => simpa [write] using Numeral.negative h

theorem Binary64.sound_toJson (style : Style) (x : Binary64) : (x.toJson style).Sound := by
  cases x with
  | nan => exact .null
  | infinite negative => exact .null
  | finite negative m => exact .number (numeral_write style negative m)

end Number

end Assay

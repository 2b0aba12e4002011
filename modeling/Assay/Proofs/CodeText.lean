import Assay.Cli.Parser
import Mathlib.Data.List.TakeWhile

/-! # Return codes as texts

A number can be got back from its usual text (`Cli.valueOf_toString`).

A return code on the command line is read digit by digit into a number of 64 bits, which
then must have 32.  The usual text of a number of 32 bits goes through all of that and gives
the number back (`Cli.readCode_toString`).  If it begins with a hyphen, it is recognised as a
negative number (`Cli.looksNumeric_of_digits`), so it can stand as an argument of its own.
-/

namespace Assay.Cli

/-- The number `n`, below zero if `negative`. -/
def signed (negative : Bool) (n : Nat) : Int := if negative then -n else n

theorem le_ofDigitChars (ds : List Char) (n : Nat) : n ≤ Nat.ofDigitChars 10 ds n := by
  induction ds generalizing n with
  | nil => simp
  | cons c ds ih =>
    rw [Nat.ofDigitChars_cons]
    have hnext := ih (10 * n + (c.toNat - '0'.toNat))
    omega

/-- One digit: the number read so far goes on, as long as it stays within 64 bits. -/
theorem readDigits_cons {negative : Bool} {c : Char} (hc : c.isDigit = true) {n : Nat}
    (hn : 10 * n + (c.toNat - '0'.toNat) ≤ 9223372036854775807) (ds : List Char) :
    readDigits negative (signed negative n) (c :: ds) =
      readDigits negative (signed negative (10 * n + (c.toNat - '0'.toNat))) ds := by
  obtain ⟨hlow, hhigh⟩ := Char.isDigit_iff_toNat.mp hc
  have hnext : (if negative then signed negative n * 10 - ((c.toNat : Int) - '0'.toNat)
      else signed negative n * 10 + ((c.toNat : Int) - '0'.toNat)) =
        signed negative (10 * n + (c.toNat - '0'.toNat)) := by
    cases negative <;> simp [signed] at hlow hhigh ⊢ <;> omega
  have hmin : ¬ signed negative (10 * n + (c.toNat - '0'.toNat)) < int64Min := by
    cases negative <;> simp [signed, int64Min] at hlow hhigh hn ⊢ <;> omega
  have hmax : ¬ int64Max < signed negative (10 * n + (c.toNat - '0'.toNat)) := by
    cases negative <;> simp [signed, int64Max] at hlow hhigh hn ⊢ <;> omega
  rw [readDigits, if_pos hc]
  dsimp only
  rw [hnext, if_neg hmin, if_neg hmax]

/-- All digits. -/
theorem readDigits_eq {negative : Bool} {ds : List Char} (hds : ∀ c ∈ ds, c.isDigit = true) {n : Nat}
    (hn : Nat.ofDigitChars 10 ds n ≤ 9223372036854775807) :
    readDigits negative (signed negative n) ds =
      .ok (signed negative (Nat.ofDigitChars 10 ds n)) := by
  induction ds generalizing n with
  | nil => simp [readDigits]
  | cons c ds ih =>
    rw [Nat.ofDigitChars_cons] at hn ⊢
    have hnext := (le_ofDigitChars ds _).trans hn
    rw [readDigits_cons (hds c List.mem_cons_self) hnext,
      ih (fun d hd => hds d (List.mem_cons_of_mem c hd)) hn]

/-- A number is written by digits, the first of which is there. -/
theorem exists_toDigits (n : Nat) : ∃ d ds, Nat.toDigits 10 n = d :: ds ∧
    ∀ c ∈ d :: ds, c.isDigit = true := by
  obtain ⟨d, ds, hd⟩ := List.exists_cons_of_ne_nil (Nat.toDigits_ne_nil (b := 10) (n := n))
  refine ⟨d, ds, hd, fun c hc => ?_⟩
  rw [← hd] at hc
  exact Nat.isDigit_of_mem_toDigits (by decide) (by decide) hc

theorem readDigits_toDigits {negative : Bool} {n : Nat} (hn : n ≤ 9223372036854775807) :
    readDigits negative 0 (Nat.toDigits 10 n) = .ok (signed negative n) := by
  have hdigits : ∀ c ∈ Nat.toDigits 10 n, c.isDigit = true :=
    fun _ => Nat.isDigit_of_mem_toDigits (by decide) (by decide)
  have hread : readDigits negative (signed negative 0) (Nat.toDigits 10 n) = _ :=
    readDigits_eq hdigits (by simpa using hn)
  simpa [signed] using hread

/-- A number of 32 bits. -/
def IsCode (n : Int) : Prop := -2147483648 ≤ n ∧ n ≤ 2147483647

/-- The usual text of a number: its digits, behind a hyphen if it is below zero. -/
theorem toList_toString (n : Int) : (toString n).toList =
    if 0 ≤ n then Nat.toDigits 10 n.natAbs else '-' :: Nat.toDigits 10 n.natAbs := by
  rw [Int.toString_eq_repr, Int.repr_eq_if]
  split
  · rw [show n.natAbs = n.toNat by omega, Nat.toList_repr]
  · rw [show n.natAbs = (-n).toNat by omega, String.toList_append, Nat.toList_repr]
    rfl

/-- The number with these digits, below zero behind a hyphen. -/
def valueOf : List Char → Int
  | '-' :: ds => signed true (Nat.ofDigitChars 10 ds 0)
  | ds => signed false (Nat.ofDigitChars 10 ds 0)

/-- A number is got back from its usual text. -/
theorem valueOf_toString (n : Int) : valueOf (toString n).toList = n := by
  obtain ⟨d, ds, hd, hdigits⟩ := exists_toDigits n.natAbs
  have hminus : d ≠ '-' := fun heq => absurd (heq ▸ hdigits d List.mem_cons_self) (by decide)
  have hvalue : Nat.ofDigitChars 10 (d :: ds) 0 = n.natAbs := by
    rw [← hd]
    exact Nat.ofDigitChars_toDigits (by decide) (by decide)
  rw [toList_toString, hd]
  split
  · have hcases : valueOf (d :: ds) = signed false (Nat.ofDigitChars 10 (d :: ds) 0) := by
      unfold valueOf
      split
      · simp_all
      · rfl
    rw [hcases, hvalue]
    exact Int.natAbs_of_nonneg ‹_›
  · change signed true (Nat.ofDigitChars 10 (d :: ds) 0) = n
    rw [hvalue, signed, if_pos rfl]
    omega

theorem toString_injective : Function.Injective (toString : Int → String) := by
  intro m n h
  rw [← valueOf_toString m, h, valueOf_toString]

/-- **A return code is read from its text.** -/
theorem readCode_toString {n : Int} (hn : IsCode n) : readCode (toString n) = .ok n := by
  have hrange : ¬ (n < -2147483648 || 2147483647 < n) = true := by
    simp only [Bool.or_eq_true, decide_eq_true_eq]
    exact fun h => h.elim (Int.not_lt.mpr hn.1) (Int.not_lt.mpr hn.2)
  obtain ⟨d, ds, hd, hdigits⟩ := exists_toDigits n.natAbs
  have hread (negative : Bool) : readDigits negative 0 (d :: ds) = .ok (signed negative n.natAbs) := by
    obtain ⟨hlow, hhigh⟩ := hn
    exact hd ▸ readDigits_toDigits (by omega)
  have hdigit := hdigits d List.mem_cons_self
  have hplus : d ≠ '+' := fun heq => absurd (heq ▸ hdigit) (by decide)
  have hminus : d ≠ '-' := fun heq => absurd (heq ▸ hdigit) (by decide)
  have htext := toList_toString n
  rw [hd] at htext
  unfold readCode
  by_cases hsign : 0 ≤ n
  · have hvalue : signed false n.natAbs = n := Int.natAbs_of_nonneg hsign
    rw [if_pos hsign] at htext
    rw [htext]
    split
    case h_6 =>
      rw [hread, hvalue]
      exact if_neg hrange
    all_goals simp_all
  · have hvalue : signed true n.natAbs = n := by
      simp only [signed, if_true]
      omega
    rw [if_neg hsign] at htext
    rw [htext]
    split
    case h_5 digits _ heq =>
      obtain rfl : d :: ds = digits := List.tail_eq_of_cons_eq heq
      rw [hread, hvalue]
      exact if_neg hrange
    all_goals simp_all

/-- Digits behind a hyphen are a negative number. -/
theorem looksNumeric_of_digits {ds : List Char} (hds : ∀ c ∈ ds, c.isDigit = true) :
    looksNumeric ds = true := by
  have hmantissa : (ds.takeWhile fun c => c != 'e' && c != 'E') = ds := by
    rw [List.takeWhile_eq_self_iff]
    intro c hc
    have hsmall : c ≠ 'e' := fun heq => absurd (heq ▸ hds c hc) (by decide)
    have hlarge : c ≠ 'E' := fun heq => absurd (heq ▸ hds c hc) (by decide)
    simp [hsmall, hlarge]
  have hwhole : ds.takeWhile (· != '.') = ds := by
    rw [List.takeWhile_eq_self_iff]
    intro c hc
    have hpoint : c ≠ '.' := fun heq => absurd (heq ▸ hds c hc) (by decide)
    simp [hpoint]
  have hall : ds.all Char.isDigit = true := List.all_eq_true.mpr hds
  simp [looksNumeric, hmantissa, hwhole, hall]

end Assay.Cli

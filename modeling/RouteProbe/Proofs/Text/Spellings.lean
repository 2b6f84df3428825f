import Mathlib.Data.List.Forall2
import Mathlib.Data.Nat.Digits.Defs
import RouteProbe.Proofs.Text.LetterCase

/-! # What spells a word and a number

A word is spelled by its letters in either case, and by nothing else (`Text.lowercaseAscii_eq_iff`);
a number by its decimal digits, which are got back from their characters one by one.
-/

namespace RouteProbe

namespace Text

theorem toLower_of_high {c : Char} (high : 128 ≤ c.toNat) : c.toLower = c := by
  refine dif_neg fun capital => ?_
  have upper : c.toNat ≤ 90 := UInt32.le_iff_toNat_le.mp capital.2
  omega

theorem toUpper_of_high {c : Char} (high : 128 ≤ c.toNat) : c.toUpper = c := by
  refine dif_neg fun small => ?_
  have upper : c.toNat ≤ 122 := UInt32.le_iff_toNat_le.mp small.2
  omega

theorem toLower_eq_iff {c letter : Char} (small : letter.toLower = letter) :
    c.toLower = letter ↔ c = letter ∨ c = letter.toUpper := by
  constructor
  · rintro rfl
    have codes : ∀ c : Char, c.toNat < 128 → c = c.toLower ∨ c = c.toLower.toUpper :=
      forall_of_codes (by decide +kernel)
    by_cases low : c.toNat < 128
    · exact codes c low
    · exact .inl (toLower_of_high (by omega)).symm
  · rintro (rfl | rfl)
    · exact small
    · have codes : ∀ c : Char, c.toNat < 128 → c.toLower = c → c.toUpper.toLower = c :=
        forall_of_codes (by decide +kernel)
      by_cases low : letter.toNat < 128
      · exact codes letter low small
      · rw [toUpper_of_high (by omega), small]

/-- Whether a text is a word, any of whose letters a to z may be written as capitals. -/
def SpellsWord (text word : String) : Prop :=
  List.Forall₂ (fun written letter => written = letter ∨ written = letter.toUpper) text.toList
    word.toList

theorem map_toLower_eq_iff {letters word : List Char} (small : word.map Char.toLower = word) :
    letters.map Char.toLower = word ↔
      List.Forall₂ (fun written letter => written = letter ∨ written = letter.toUpper) letters word := by
  induction letters generalizing word with
  | nil => cases word <;> simp
  | cons c rest ih =>
    cases word with
    | nil => simp
    | cons letter word =>
      obtain ⟨first, later⟩ := List.cons.inj small
      rw [List.map_cons, List.cons.injEq, List.forall₂_cons, ih later, toLower_eq_iff first]

theorem lowercaseAscii_eq_iff {text word : String} (small : lowercaseAscii word = word) :
    lowercaseAscii text = word ↔ SpellsWord text word := by
  rw [lowercaseAscii, ← String.toList_inj, String.toList_ofList] at small ⊢
  rw [map_toLower_eq_iff small, SpellsWord]

end Text

/-- The number of a digit is got back from its character. -/
theorem toNat_digitChar_sub {digit : Nat} (decimal : digit < 10) :
    (Nat.digitChar digit).toNat - '0'.toNat = digit := by
  have code := Nat.toNat_digitChar_of_lt_ten decimal
  change _ - 48 = _
  omega

/-- A digit is got back from its number. -/
theorem digitChar_toNat_sub {c : Char} (digit : c.isDigit = true) :
    c.toNat - '0'.toNat < 10 ∧ Nat.digitChar (c.toNat - '0'.toNat) = c := by
  obtain ⟨lower, upper⟩ := Char.isDigit_iff_toNat.mp digit
  change 48 ≤ c.toNat at lower
  change c.toNat ≤ 57 at upper
  change c.toNat - 48 < 10 ∧ Nat.digitChar (c.toNat - 48) = c
  refine ⟨by omega, Char.toNat_inj.mp ?_⟩
  rw [Nat.toNat_digitChar_of_lt_ten (by omega)]
  omega

theorem toNat_of_mem_toDigits {number : Nat} {c : Char} (member : c ∈ Nat.toDigits 10 number) :
    48 ≤ c.toNat ∧ c.toNat ≤ 57 :=
  Char.isDigit_iff_toNat.mp (Nat.isDigit_of_mem_toDigits (by omega) (by omega) member)

/-- Whether a text spells a number: in decimal digits, one or more, with or without a plus sign in
front of them. -/
def SpellsNumber (text : String) (number : Nat) : Prop :=
  ∃ (sign : String) (digits : List Nat), (sign = "" ∨ sign = "+") ∧ digits ≠ [] ∧
    (∀ digit ∈ digits, digit < 10) ∧ text = sign ++ String.ofList (digits.map Nat.digitChar) ∧
    number = Nat.ofDigits 10 digits.reverse

end RouteProbe

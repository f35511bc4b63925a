import Mathlib.Data.List.Basic
import Mathlib.Data.List.Induction
import TapeMeasure.Decimal.Basic

/- Decimal texts of numbers. The texts of positive numbers are the numerals, which are the groups of
   digits without a zero in front, and there is one numeral for every positive number. -/
set_option autoImplicit false

namespace TapeMeasure.Decimal

theorem digits_group (n : Nat) : Text.DigitGroup (digits n) := by
  refine ⟨Nat.toDigits_ne_nil, ?_⟩
  intro c member
  exact Nat.isDigit_of_mem_toDigits (by decide) (by decide) member

theorem text_natural {n : Int} (natural : 0 ≤ n) : text n = digits n.toNat := by
  obtain ⟨k, rfl⟩ := Int.eq_ofNat_of_zero_le natural
  rfl

theorem text_group {n : Int} (natural : 0 ≤ n) : Text.DigitGroup (text n) := by
  rw [text_natural natural]
  exact digits_group n.toNat

theorem value_text {n : Int} (natural : 0 ≤ n) : (value (text n) : Int) = n := by
  rw [text_natural natural, value_digits]
  exact Int.toNat_of_nonneg natural

theorem text_readable {n : Int} (natural : 0 ≤ n) : Readable (text n) ↔ Writable n := by
  obtain ⟨k, rfl⟩ := Int.eq_ofNat_of_zero_le natural
  exact Iff.rfl

theorem small_writable {n : Int} (natural : 0 ≤ n) (small : n < 100) : Writable n := by
  apply Nat.le_trans _ (show 2 ≤ maxDigits by decide)
  apply (length_digits_le (by decide)).mpr
  rw [show Nat.pow 10 2 = 100 from rfl]
  omega

-- A positive number without zeros in front.
def Numeral (group : Text) : Prop := Text.DigitGroup group ∧ group.head? ≠ some '0'

instance (group : Text) : Decidable (Numeral group) :=
  inferInstanceAs (Decidable (_ ∧ _))

theorem digits_single {n : Nat} (few : n < 10) : digits n = [n.digitChar] :=
  Nat.toDigits_of_lt_base few

theorem digits_step {n : Nat} (many : 10 ≤ n) :
    digits n = digits (n / 10) ++ [(n % 10).digitChar] :=
  Nat.toDigits_of_base_le (by decide) many

theorem digits_numeral {n : Nat} (positive : 0 < n) : Numeral (digits n) := by
  refine ⟨digits_group n, ?_⟩
  induction n using Nat.strongRecOn with
  | ind n ih =>
      by_cases few : n < 10
      · rw [digits_single few]
        intro zero
        have nothing := Nat.digitChar_eq_zero.mp (Option.some.inj zero)
        omega
      · have front := ih (n / 10) (by omega) (by omega)
        rw [digits_step (by omega), List.head?_append_of_ne_nil _ (digits_group (n / 10)).1]
        exact front

theorem text_numeral {n : Int} (positive : 0 < n) : Numeral (text n) := by
  rw [text_natural (Int.le_of_lt positive)]
  exact digits_numeral (by omega)

theorem digit_char_code {c : Char} (digit : c.isDigit = true) :
    c.toNat - '0'.toNat < 10 ∧ (c.toNat - '0'.toNat).digitChar = c := by
  have codes : 48 ≤ c.toNat ∧ c.toNat ≤ 57 := by
    simpa [Char.isDigit, UInt32.le_iff_toNat_le] using digit
  have zero : '0'.toNat = 48 := rfl
  refine ⟨by omega, ?_⟩
  apply Char.toNat_inj.mp
  rw [Nat.toNat_digitChar_of_lt_ten (by omega)]
  omega

theorem value_append (front : Text) (c : Char) :
    value (front ++ [c]) = 10 * value front + (c.toNat - '0'.toNat) := by
  rw [value, Nat.ofDigitChars_append]
  rfl

theorem value_positive {group : Text} (shown : digits (value group) = group)
    (leading : group.head? ≠ some '0') : 0 < value group := by
  apply Nat.pos_of_ne_zero
  intro zero
  rw [zero] at shown
  rw [← shown] at leading
  exact leading rfl

-- The induction is on the last digit, which is the one that the digits of a number end with.
theorem digits_value {group : Text} (numeral : Numeral group) : digits (value group) = group := by
  induction group using List.reverseRecOn with
  | nil => exact absurd rfl numeral.1.1
  | append_singleton front c ih =>
      obtain ⟨⟨-, digit⟩, leading⟩ := numeral
      rw [List.forall_mem_append, List.forall_mem_singleton] at digit
      obtain ⟨below, same⟩ := digit_char_code digit.2
      rw [value_append]
      by_cases empty : front = []
      · rw [empty]
        have nothing : value [] = 0 := rfl
        rw [nothing, Nat.mul_zero, Nat.zero_add, digits_single below, same]
        rfl
      · rw [List.head?_append_of_ne_nil _ empty] at leading
        have shown := ih ⟨⟨empty, digit.1⟩, leading⟩
        have positive := value_positive shown leading
        rw [digits_step (by omega)]
        have quotient : (10 * value front + (c.toNat - '0'.toNat)) / 10 = value front := by omega
        have rest : (10 * value front + (c.toNat - '0'.toNat)) % 10 = c.toNat - '0'.toNat := by
          omega
        rw [quotient, rest, shown, same]

theorem numeral_positive {group : Text} (numeral : Numeral group) : 0 < value group :=
  value_positive (digits_value numeral) numeral.2

theorem numeral_text {group : Text} (numeral : Numeral group) : text (value group) = group :=
  digits_value numeral

theorem numeral_writable {group : Text} (numeral : Numeral group) :
    Writable (value group) ↔ Readable group := by
  rw [← text_readable (Int.natCast_nonneg _), numeral_text numeral]

theorem numeral_small_readable {group : Text} (numeral : Numeral group)
    (small : value group < 100) : Readable group :=
  (numeral_writable numeral).mp (small_writable (Int.natCast_nonneg _) (Int.ofNat_lt.mpr small))

end TapeMeasure.Decimal

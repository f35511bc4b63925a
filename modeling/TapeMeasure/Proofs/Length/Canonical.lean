import Mathlib.Data.Nat.GCD.Basic
import TapeMeasure.Length.Render
import TapeMeasure.Proofs.Decimal.Numeral
import TapeMeasure.Proofs.Token.Reading

/- The notation of lengths, described without the way in which lengths are written: eight shapes,
   put together from feet, inches and a fraction of an inch. A normal length is written in one of
   them, if it can be written at all, and each of their texts is the written form of a length. -/
set_option autoImplicit false

namespace TapeMeasure

namespace Fraction

-- A proper fraction in lowest terms, of halves, quarters, eighths or sixteenths.
structure Reduced (fraction : Fraction) : Prop where
  numerator : Decimal.Numeral fraction.numerator
  denominator : Decimal.Numeral fraction.denominator
  scale : Decimal.value fraction.denominator ∈ [2, 4, 8, 16]
  proper : Decimal.value fraction.numerator < Decimal.value fraction.denominator
  lowest : (Decimal.value fraction.numerator).Coprime (Decimal.value fraction.denominator)

instance (fraction : Fraction) : Decidable fraction.Reduced :=
  decidable_of_iff
    (Decimal.Numeral fraction.numerator ∧ Decimal.Numeral fraction.denominator ∧
      Decimal.value fraction.denominator ∈ [2, 4, 8, 16] ∧
      Decimal.value fraction.numerator < Decimal.value fraction.denominator ∧
      (Decimal.value fraction.numerator).Coprime (Decimal.value fraction.denominator))
    ⟨fun ⟨top, bottom, scale, proper, lowest⟩ => ⟨top, bottom, scale, proper, lowest⟩,
      fun reduced => ⟨reduced.numerator, reduced.denominator, reduced.scale, reduced.proper,
        reduced.lowest⟩⟩

-- Exact for a reduced fraction, whose denominator divides sixteen.
def sixteenths (fraction : Fraction) : Nat :=
  16 * Decimal.value fraction.numerator / Decimal.value fraction.denominator

theorem reduced_scale {fraction : Fraction} (reduced : fraction.Reduced) :
    Decimal.value fraction.denominator ≤ 16 := by
  have all : ∀ d ∈ [2, 4, 8, 16], d ≤ 16 := by decide
  exact all _ reduced.scale

end Fraction

namespace Length

-- The three shapes without feet, each with the sixteenths that it stands for.
inductive BelowFoot : Text → Int → Prop where
  | inches {inches : Text} (numeral : Decimal.Numeral inches) (few : Decimal.value inches ≤ 11) :
      BelowFoot (inches ++ ['"']) (16 * Decimal.value inches)
  | mixed {inches : Text} {fraction : Fraction} (numeral : Decimal.Numeral inches)
      (few : Decimal.value inches ≤ 11) (reduced : fraction.Reduced) :
      BelowFoot (inches ++ '-' :: fraction.spelling)
        (16 * Decimal.value inches + fraction.sixteenths)
  | fraction {fraction : Fraction} (reduced : fraction.Reduced) :
      BelowFoot fraction.spelling fraction.sixteenths

-- Zero has a text of its own; in every other shape, each part that is there is positive.
inductive Canonical : Text → Int → Prop where
  | zero : Canonical ['0', '"'] 0
  | feet {feet : Text} (numeral : Decimal.Numeral feet) (readable : Decimal.Readable feet) :
      Canonical (feet ++ ['\'']) (192 * Decimal.value feet)
  | below {text : Text} {sixteenths : Int} (part : BelowFoot text sixteenths) :
      Canonical text sixteenths
  | both {feet text : Text} {sixteenths : Int} (numeral : Decimal.Numeral feet)
      (readable : Decimal.Readable feet) (part : BelowFoot text sixteenths) :
      Canonical (feet ++ '\'' :: ' ' :: text) (192 * Decimal.value feet + sixteenths)

theorem inches_natural (length : Length) : 0 ≤ length.inches := Int.emod_nonneg _ (by decide)

theorem inches_below_foot (length : Length) : length.inches < 12 :=
  Int.emod_lt_of_pos _ (by decide)

theorem fraction_read : ∀ k : Fin 16, k.val ≠ 0 →
    (Fraction.read ((fractionText k.val).toList ++ ['"'])).any (fun (fraction, rest) =>
      rest = [] ∧ fraction.Reduced ∧ fraction.sixteenths = k.val) = true := by
  decide

theorem fraction_reduced {sixteenths : Int} (positive : 0 < sixteenths)
    (below : sixteenths ≤ 15) :
    ∃ fraction : Fraction, (fractionText sixteenths).toList ++ ['"'] = fraction.spelling ∧
      fraction.Reduced ∧ (fraction.sixteenths : Int) = sixteenths := by
  obtain ⟨k, rfl⟩ := Int.eq_ofNat_of_zero_le (Int.le_of_lt positive)
  have seen := fraction_read ⟨k, by omega⟩ (by simp only; omega)
  cases found : Fraction.read ((fractionText k).toList ++ ['"']) with
  | none =>
      rw [found] at seen
      exact absurd seen nofun
  | some cut =>
      obtain ⟨fraction, rest⟩ := cut
      rw [found] at seen
      obtain ⟨rfl, reduced, same⟩ := of_decide_eq_true seen
      obtain ⟨spelled, -⟩ := Fraction.read_iff.mp found
      rw [List.append_nil] at spelled
      exact ⟨fraction, spelled, reduced, congrArg Int.ofNat same⟩

theorem reduced_shown : ∀ d ∈ [2, 4, 8, 16], ∀ n < d, n ≠ 0 → n.Coprime d →
    (fractionText (16 * n / d : Nat)).toList ++ ['"'] =
        Decimal.digits n ++ '/' :: Decimal.digits d ++ ['"'] ∧
      0 < 16 * n / d ∧ 16 * n / d ≤ 15 := by
  decide

-- The table of fractions shows every reduced one as it is spelled.
theorem fraction_text_reduced {fraction : Fraction} (reduced : fraction.Reduced) :
    (fractionText fraction.sixteenths).toList ++ ['"'] = fraction.spelling ∧
      0 < fraction.sixteenths ∧ fraction.sixteenths ≤ 15 := by
  have positive := Decimal.numeral_positive reduced.numerator
  have shown := reduced_shown _ reduced.scale _ reduced.proper (by omega) reduced.lowest
  rw [Decimal.digits_value reduced.numerator, Decimal.digits_value reduced.denominator] at shown
  rw [Fraction.spelling]
  exact shown

theorem fraction_text_not_empty {sixteenths : Int} (positive : 0 < sixteenths)
    (below : sixteenths ≤ 15) : (fractionText sixteenths).toList ≠ [] := by
  obtain ⟨fraction, spelled, -⟩ := fraction_reduced positive below
  intro empty
  rw [empty] at spelled
  have lengths := congrArg List.length spelled
  simp [Fraction.spelling] at lengths
  omega

theorem inch_text_whole {length : Length} (someInches : length.inches ≠ 0)
    (whole : length.numerator16 = 0) : length.inchText = Decimal.text length.inches := by
  have written := (Decimal.text_group (inches_natural length)).1
  simp [inchText, someInches, written, whole, fractionText]

theorem inch_text_mixed {length : Length} (someInches : length.inches ≠ 0)
    (positive : 0 < length.numerator16) (below : length.numerator16 ≤ 15) :
    length.inchText =
      Decimal.text length.inches ++ '-' :: (fractionText length.numerator16).toList := by
  have written := (Decimal.text_group (inches_natural length)).1
  simp [inchText, someInches, written, fraction_text_not_empty positive below]

theorem inch_text_without_inches {length : Length} (none : length.inches = 0) :
    length.inchText = (fractionText length.numerator16).toList := by
  simp [inchText, none]

theorem total_split (length : Length) :
    length.totalSixteenths = 192 * length.feet + (16 * length.inches + length.numerator16) := by
  simp only [totalSixteenths, feet, inches, splitFeet]
  omega

theorem render_writable {length : Length} (short : Decimal.Writable length.feet) :
    length.render =
      some (joinFeet (if length.feet = 0 then [] else Decimal.text length.feet) length.inchText) := by
  unfold render
  split
  · rfl
  · rw [Decimal.write, if_pos short]
    rfl

theorem feet_natural {length : Length} (normal : length.Normal) : 0 ≤ length.feet := by
  obtain ⟨whole, -, -⟩ := normal
  exact Int.ediv_nonneg whole (by decide)

theorem join_below {inch : Text} (written : inch ≠ []) : joinFeet [] inch = inch ++ ['"'] := by
  cases inch with
  | nil => exact absurd rfl written
  | cons c rest => rfl

theorem join_feet_only {feet : Text} (written : feet ≠ []) : joinFeet feet [] = feet ++ ['\''] := by
  cases feet with
  | nil => exact absurd rfl written
  | cons c rest => rfl

theorem join_both {feet inch : Text} (first : feet ≠ []) (second : inch ≠ []) :
    joinFeet feet inch = feet ++ '\'' :: ' ' :: inch ++ ['"'] := by
  cases feet with
  | nil => exact absurd rfl first
  | cons c rest =>
      cases inch with
      | nil => exact absurd rfl second
      | cons d tail => rfl

theorem render_succeeds_iff (length : Length) :
    (∃ written, length.render = some written) ↔ Decimal.Writable length.feet := by
  constructor
  · rintro ⟨written, rendered⟩
    unfold render at rendered
    split at rendered
    · rename_i none
      rw [none]
      decide
    · obtain ⟨digits, found, -⟩ := Option.map_eq_some_iff.mp rendered
      exact (Decimal.write_eq_some found).1
  · exact fun short => ⟨_, render_writable short⟩

theorem made_of_parts (feet : Nat) {inches sixteenths : Nat} (few : inches ≤ 11)
    (small : sixteenths ≤ 15) :
    ∃ length : Length, length.Normal ∧ length.feet = feet ∧ length.inches = inches ∧
      length.numerator16 = sixteenths := by
  refine ⟨⟨12 * feet + inches, sixteenths⟩, ?_, ?_, ?_, rfl⟩
  · simp only [Normal]
    omega
  · simp only [Length.feet, splitFeet]
    omega
  · simp only [Length.inches, splitFeet]
    omega

-- With any number of feet in front, the part below a foot is written as it stands.
theorem below_foot_text {text : Text} {sixteenths : Int} (part : BelowFoot text sixteenths)
    (feet : Nat) :
    ∃ length : Length, length.Normal ∧ length.feet = feet ∧ length.inchText ≠ [] ∧
      length.inchText ++ ['"'] = text ∧ 16 * length.inches + length.numerator16 = sixteenths := by
  cases part with
  | inches numeral few =>
      obtain ⟨length, normal, sameFeet, sameInches, whole⟩ :=
        made_of_parts feet few (Nat.zero_le 15)
      have positive := Decimal.numeral_positive numeral
      have written := inch_text_whole (show length.inches ≠ 0 by omega) whole
      rw [sameInches, Decimal.numeral_text numeral] at written
      refine ⟨length, normal, sameFeet, ?_, ?_, ?_⟩
      · rw [written]
        exact numeral.1.1
      · rw [written]
      · rw [sameInches, whole]
        simp
  | mixed numeral few reduced =>
      obtain ⟨shown, some, small⟩ := fraction_text_reduced reduced
      obtain ⟨length, normal, sameFeet, sameInches, same⟩ := made_of_parts feet few small
      have positive := Decimal.numeral_positive numeral
      have written :=
        inch_text_mixed (show length.inches ≠ 0 by omega) (by omega) normal.2.2
      rw [sameInches, Decimal.numeral_text numeral, same] at written
      refine ⟨length, normal, sameFeet, ?_, ?_, ?_⟩
      · rw [written]
        simp
      · rw [written, List.append_assoc, List.cons_append, shown]
      · rw [sameInches, same]
  | fraction reduced =>
      obtain ⟨shown, some, small⟩ := fraction_text_reduced reduced
      obtain ⟨length, normal, sameFeet, noInches, same⟩ :=
        made_of_parts feet (Nat.zero_le 11) small
      have written := inch_text_without_inches noInches
      have notEmpty := fraction_text_not_empty (show 0 < length.numerator16 by omega) normal.2.2
      refine ⟨length, normal, sameFeet, ?_, ?_, ?_⟩
      · rw [written]
        exact notEmpty
      · rw [written, same, shown]
      · rw [noInches, same]
        simp

theorem canonical_rendered {text : Text} {sixteenths : Int} (canonical : Canonical text sixteenths) :
    ∃ length : Length, length.Normal ∧ Decimal.Writable length.feet ∧
      length.render = some text ∧ length.totalSixteenths = sixteenths := by
  cases canonical with
  | zero => exact ⟨⟨0, 0⟩, by decide, by decide, by decide, by decide⟩
  | feet numeral readable =>
      obtain ⟨length, normal, sameFeet, noInches, whole⟩ :=
        made_of_parts (Decimal.value _) (Nat.zero_le 11) (Nat.zero_le 15)
      have positive := Decimal.numeral_positive numeral
      have short := (Decimal.numeral_writable numeral).mpr readable
      rw [← sameFeet] at short
      refine ⟨length, normal, short, ?_, ?_⟩
      · rw [render_writable short, sameFeet, if_neg (by omega), Decimal.numeral_text numeral,
          inch_text_without_inches noInches, whole]
        exact congrArg some (join_feet_only numeral.1.1)
      · rw [total_split, sameFeet, noInches, whole]
        simp
  | below part =>
      obtain ⟨length, normal, noFeet, written, same, total⟩ := below_foot_text part 0
      have short : Decimal.Writable length.feet := by
        rw [noFeet]
        decide
      refine ⟨length, normal, short, ?_, ?_⟩
      · rw [render_writable short, noFeet, if_pos Int.natCast_zero, join_below written, same]
      · rw [total_split, noFeet, total]
        simp
  | both numeral readable part =>
      obtain ⟨length, normal, sameFeet, written, same, total⟩ :=
        below_foot_text part (Decimal.value _)
      have positive := Decimal.numeral_positive numeral
      have short := (Decimal.numeral_writable numeral).mpr readable
      rw [← sameFeet] at short
      refine ⟨length, normal, short, ?_, ?_⟩
      · rw [render_writable short, sameFeet, if_neg (by omega), Decimal.numeral_text numeral,
          join_both numeral.1.1 written, List.append_assoc, List.cons_append, List.cons_append, same]
      · rw [total_split, sameFeet, total]

theorem below_foot_written {length : Length} (normal : length.Normal)
    (part : length.inches ≠ 0 ∨ length.numerator16 ≠ 0) :
    length.inchText ≠ [] ∧
      BelowFoot (length.inchText ++ ['"']) (16 * length.inches + length.numerator16) := by
  obtain ⟨-, natural, small⟩ := normal
  have value := Decimal.value_text (inches_natural length)
  have below := inches_below_foot length
  have first := inches_natural length
  by_cases noInches : length.inches = 0
  · have rest : 0 < length.numerator16 := by omega
    obtain ⟨fraction, spelled, reduced, same⟩ := fraction_reduced rest small
    have shape := BelowFoot.fraction reduced
    rw [same] at shape
    rw [inch_text_without_inches noInches, spelled, noInches, Int.mul_zero, Int.zero_add]
    exact ⟨fraction_text_not_empty rest small, shape⟩
  · have numeral := Decimal.text_numeral (show 0 < length.inches by omega)
    by_cases whole : length.numerator16 = 0
    · have shape := BelowFoot.inches numeral (by omega)
      rw [value] at shape
      rw [inch_text_whole noInches whole, whole, Int.add_zero]
      exact ⟨numeral.1.1, shape⟩
    · have rest : 0 < length.numerator16 := by omega
      obtain ⟨fraction, spelled, reduced, same⟩ := fraction_reduced rest small
      have shape := BelowFoot.mixed numeral (by omega) reduced
      rw [value, same] at shape
      rw [inch_text_mixed noInches rest small, List.append_assoc, List.cons_append, spelled]
      exact ⟨by simp, shape⟩

theorem render_canonical {length : Length} (normal : length.Normal)
    (short : Decimal.Writable length.feet) :
    ∃ text, length.render = some text ∧ Canonical text length.totalSixteenths := by
  have natural := feet_natural normal
  have value := Decimal.value_text natural
  have readable := (Decimal.text_readable natural).mpr short
  refine ⟨_, render_writable short, ?_⟩
  rw [total_split]
  by_cases part : length.inches ≠ 0 ∨ length.numerator16 ≠ 0
  · obtain ⟨written, below⟩ := below_foot_written normal part
    by_cases noFeet : length.feet = 0
    · rw [if_pos noFeet, join_below written, noFeet, Int.mul_zero, Int.zero_add]
      exact .below below
    · have numeral := Decimal.text_numeral (show 0 < length.feet by omega)
      have shape := Canonical.both numeral readable below
      rw [value] at shape
      rw [if_neg noFeet, join_both numeral.1.1 written, List.append_assoc]
      exact shape
  · obtain ⟨noInches, whole⟩ : length.inches = 0 ∧ length.numerator16 = 0 := by omega
    have nothing : length.inchText = [] := by
      rw [inch_text_without_inches noInches, whole]
      rfl
    rw [nothing, noInches, whole, Int.mul_zero, Int.add_zero, Int.add_zero]
    by_cases noFeet : length.feet = 0
    · rw [if_pos noFeet, noFeet]
      exact .zero
    · have numeral := Decimal.text_numeral (show 0 < length.feet by omega)
      have shape := Canonical.feet numeral readable
      rw [value] at shape
      rw [if_neg noFeet, join_feet_only numeral.1.1]
      exact shape

end Length

end TapeMeasure

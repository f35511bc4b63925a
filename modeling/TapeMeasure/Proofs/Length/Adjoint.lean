import TapeMeasure.Length.Make

/- Fractions of an inch in sixteenths, by what they reach. Up to an inch, so many sixteenths are
   kept of a fraction exactly if they are no more than it; whatever is the same under this
   comparison is the same number of sixteenths. The order and the scaling of fractions follow from
   that alone. -/
set_option autoImplicit false

namespace TapeMeasure.Length

section Reached

variable {numerator denominator sixteenths : Nat}

theorem quantise_capped (numerator denominator : Nat) : quantise numerator denominator ≤ 16 :=
  Nat.min_le_right _ _

theorem le_quantise_iff (positive : 0 < denominator) (capped : sixteenths ≤ 16) :
    sixteenths ≤ quantise numerator denominator ↔
      sixteenths * denominator ≤ 16 * numerator := by
  rw [quantise, Nat.le_min, and_iff_left capped, Nat.le_div_iff_mul_le positive, Nat.mul_comm 16]

-- Fractions compare as the sixteenths that they reach.
theorem quantise_le_quantise {other base : Nat} (first : 0 < denominator) (second : 0 < base)
    (reached : ∀ j, j * denominator ≤ 16 * numerator → j * base ≤ 16 * other) :
    quantise numerator denominator ≤ quantise other base := by
  have capped := quantise_capped numerator denominator
  rw [le_quantise_iff second capped]
  apply reached
  exact (le_quantise_iff first capped).mp (Nat.le_refl _)

theorem quantise_monotone {more : Nat} (positive : 0 < denominator) (grows : numerator ≤ more) :
    quantise numerator denominator ≤ quantise more denominator := by
  apply quantise_le_quantise positive positive
  intro j reached
  exact Nat.le_trans reached (Nat.mul_le_mul_left 16 grows)

theorem quantise_antitone {larger : Nat} (positive : 0 < denominator)
    (grows : denominator ≤ larger) :
    quantise numerator larger ≤ quantise numerator denominator := by
  apply quantise_le_quantise (Nat.lt_of_lt_of_le positive grows) positive
  intro j reached
  exact Nat.le_trans (Nat.mul_le_mul_left j grows) reached

theorem quantise_scaled {scale : Nat} (positive : 0 < denominator) (nonzero : 0 < scale) :
    quantise (scale * numerator) (scale * denominator) = quantise numerator denominator := by
  have cancels (j : Nat) :
      j * (scale * denominator) ≤ 16 * (scale * numerator) ↔ j * denominator ≤ 16 * numerator := by
    rw [Nat.mul_left_comm, Nat.mul_left_comm 16]
    exact Nat.mul_le_mul_left_iff nonzero
  have scaled : 0 < scale * denominator := Nat.mul_pos nonzero positive
  apply Nat.le_antisymm
  · exact quantise_le_quantise scaled positive fun j => (cancels j).mp
  · exact quantise_le_quantise positive scaled fun j => (cancels j).mpr

theorem quantise_whole (positive : 0 < denominator) (capped : sixteenths ≤ 16)
    (same : sixteenths * denominator = 16 * numerator) :
    quantise numerator denominator = sixteenths := by
  apply Nat.le_antisymm
  · have reached := (le_quantise_iff positive (quantise_capped numerator denominator)).mp
      (Nat.le_refl _)
    rw [← same] at reached
    exact Nat.le_of_mul_le_mul_right reached positive
  · exact (le_quantise_iff positive capped).mpr (Nat.le_of_eq same)

theorem sixteenths_of_int (positive : 0 < denominator) :
    sixteenthsOf (.int numerator) (.int denominator) = .ok (quantise numerator denominator) := by
  rw [sixteenthsOf, require_natural_int (Int.natCast_nonneg _),
    require_natural_int (Int.natCast_nonneg _)]
  exact if_neg (Nat.ne_of_gt positive)

end Reached

theorem sixteenths_adjoint {n d : Nat} (positive : 0 < d) :
    sixteenthsOf (.int n) (.int d) = .ok (quantise n d) ∧
      quantise n d ≤ 16 ∧
      (∀ j ≤ 16, j ≤ quantise n d ↔ j * d ≤ 16 * n) ∧
      (∀ more, n ≤ more → quantise n d ≤ quantise more d) ∧
      (∀ larger, d ≤ larger → quantise n larger ≤ quantise n d) ∧
      (∀ scale, 0 < scale → quantise (scale * n) (scale * d) = quantise n d) ∧
      (∀ k ≤ 16, k * d = 16 * n → quantise n d = k) ∧
      ∀ whole : Nat, ∃ length, ofParts (.int whole) (.int (quantise n d)) = .ok length ∧
        0 ≤ length.numerator16 ∧ length.numerator16 ≤ 15 ∧
        length.totalSixteenths = 16 * whole + quantise n d := by
  refine ⟨sixteenths_of_int positive, quantise_capped n d, ?_, ?_, ?_, ?_, ?_, ?_⟩
  · exact fun j capped => le_quantise_iff positive capped
  · exact fun more grows => quantise_monotone positive grows
  · exact fun larger grows => quantise_antitone positive grows
  · exact fun scale nonzero => quantise_scaled positive nonzero
  · exact fun k capped same => quantise_whole positive capped same
  · intro whole
    have natural : (0 : Int) ≤ whole := Int.natCast_nonneg whole
    have sixteenths : (0 : Int) ≤ quantise n d := Int.natCast_nonneg _
    obtain ⟨-, low, high⟩ := carried_normal whole (quantise n d) natural sixteenths
    have total := total_carried whole (quantise n d)
    rw [Int.mul_comm] at total
    exact ⟨_, of_parts_int natural sixteenths, low, high, total⟩

-- Three sixteenths and a half: the half is not kept.
theorem seven_thirty_seconds_adjoint :
    sixteenthsOf (.int 7) (.int 32) = .ok 3 ∧
      (∀ j ≤ 16, j ≤ 3 ↔ j * 32 ≤ 16 * 7) ∧
      ∃ length, ofParts (.int 2) (.int 3) = .ok length ∧ length.totalSixteenths = 35 := by
  obtain ⟨kept, -, adjoint, -, -, -, -, carries⟩ := @sixteenths_adjoint 7 32 (by decide)
  obtain ⟨length, made, -, -, total⟩ := carries 2
  exact ⟨kept, adjoint, length, made, total⟩

end TapeMeasure.Length

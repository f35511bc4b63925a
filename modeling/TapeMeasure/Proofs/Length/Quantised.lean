import Mathlib.Data.Rat.Floor
import TapeMeasure.Length.Basic

/- Fractions of an inch in sixteenths. What is kept of a fraction is the fraction itself, or one if
   it is more, in sixteenths and rounded down. So at most a sixteenth of a fraction up to an inch
   is lost, and nothing only if it is a number of sixteenths. -/
set_option autoImplicit false

namespace TapeMeasure.Length

theorem quantise_floor (numerator denominator : Nat) :
    (quantise numerator denominator : Int) = ⌊16 * min (numerator / denominator : ℚ) 1⌋ := by
  have scaled : (16 * (numerator / denominator) : ℚ) = (numerator * 16 : Nat) / denominator := by
    rw [Nat.cast_mul, mul_comm, div_mul_eq_mul_div]
    rfl
  calc (quantise numerator denominator : Int)
      = min ((numerator * 16 / denominator : Nat) : Int) 16 := Nat.cast_min _ _
    _ = min ⌊(16 * (numerator / denominator) : ℚ)⌋ ⌊(16 : ℚ)⌋ := by
        rw [scaled, Rat.floor_natCast_div_natCast, Int.floor_ofNat, Int.natCast_ediv]
    _ = ⌊min (16 * (numerator / denominator) : ℚ) 16⌋ := (Int.floor_mono.map_min).symm
    _ = ⌊16 * min (numerator / denominator : ℚ) 1⌋ := by
        rw [mul_min_of_nonneg _ _ (by decide), mul_one]

theorem quantise_le (numerator denominator : Nat) :
    (quantise numerator denominator : ℚ) ≤ 16 * (numerator / denominator) := by
  have below : ((quantise numerator denominator : Int) : ℚ) ≤
      16 * min (numerator / denominator : ℚ) 1 := by
    rw [quantise_floor]
    exact Int.floor_le _
  exact below.trans (mul_le_mul_of_nonneg_left (min_le_left _ _) (by decide))

-- Up to an inch only the rounding counts.
theorem lt_quantise {numerator denominator : Nat} (proper : numerator ≤ denominator) :
    (16 * (numerator / denominator) : ℚ) < quantise numerator denominator + 1 := by
  have whole : (numerator / denominator : ℚ) ≤ 1 :=
    div_le_one_of_le₀ (Nat.cast_le.mpr proper) (Nat.cast_nonneg _)
  have above := Int.lt_floor_add_one (16 * min (numerator / denominator : ℚ) 1)
  rw [← quantise_floor, min_eq_left whole] at above
  exact above

theorem quantise_exact_iff {numerator denominator : Nat} (nonzero : denominator ≠ 0) :
    (quantise numerator denominator : ℚ) = 16 * (numerator / denominator) ↔
      numerator ≤ denominator ∧ denominator ∣ 16 * numerator := by
  have cleared : (quantise numerator denominator : ℚ) = 16 * (numerator / denominator) ↔
      quantise numerator denominator * denominator = 16 * numerator := by
    have positive : (denominator : ℚ) ≠ 0 := Nat.cast_ne_zero.mpr nonzero
    rw [← mul_div_assoc, eq_div_iff positive]
    exact_mod_cast Iff.rfl
  rw [cleared]
  constructor
  · intro same
    have capped : quantise numerator denominator ≤ 16 := Nat.min_le_right _ _
    have scaled := Nat.mul_le_mul_right denominator capped
    exact ⟨by omega, Dvd.intro_left _ same⟩
  · intro ⟨proper, exact⟩
    have uncapped : 16 * numerator / denominator ≤ 16 :=
      Nat.div_le_of_le_mul (by rw [Nat.mul_comm denominator]; exact Nat.mul_le_mul_left 16 proper)
    rw [quantise, Nat.mul_comm numerator, Nat.min_eq_left uncapped]
    exact Nat.div_mul_cancel exact

end TapeMeasure.Length

import TapeMeasure.Proofs.Length.Quantised
import TapeMeasure.Proofs.Token.Worth

/- Literals as exact numbers of inches. The total of a literal is its exact value, with one inch at
   most for the fraction, in sixteenths and rounded down. Only the fraction can lose anything. -/
set_option autoImplicit false

namespace TapeMeasure

namespace Fraction

def ratio (fraction : Fraction) : ℚ :=
  Decimal.value fraction.numerator / Decimal.value fraction.denominator

-- No more than an inch.
def Proper (fraction : Fraction) : Prop :=
  Decimal.value fraction.numerator ≤ Decimal.value fraction.denominator

-- A number of sixteenths.
def OnMark (fraction : Fraction) : Prop :=
  Decimal.value fraction.denominator ∣ 16 * Decimal.value fraction.numerator

def quantised (fraction : Fraction) : Nat :=
  Length.quantise (Decimal.value fraction.numerator) (Decimal.value fraction.denominator)

-- What the sixteenths fall short of, in inches.
def loss (fraction : Fraction) : ℚ := fraction.ratio - fraction.quantised / 16

theorem loss_not_negative (fraction : Fraction) : 0 ≤ fraction.loss := by
  have below := Length.quantise_le (Decimal.value fraction.numerator)
    (Decimal.value fraction.denominator)
  rw [loss, sub_nonneg, div_le_iff₀' (by decide)]
  exact below

theorem loss_small {fraction : Fraction} (proper : fraction.Proper) : fraction.loss < 1 / 16 := by
  have above := Length.lt_quantise proper
  rw [loss, sub_lt_iff_lt_add', ← add_div, lt_div_iff₀' (by decide)]
  exact above

theorem loss_zero_iff {fraction : Fraction}
    (nonzero : Decimal.value fraction.denominator ≠ 0) :
    fraction.loss = 0 ↔ fraction.Proper ∧ fraction.OnMark := by
  rw [loss, sub_eq_zero, eq_div_iff (by decide), mul_comm, eq_comm]
  exact Length.quantise_exact_iff nonzero

end Fraction

namespace Literal

-- The inches outside of the fraction. Parts that are missing count as zero.
def plain (literal : Literal) : Nat :=
  12 * Decimal.value (literal.feet?.getD []) + Decimal.value (literal.inches?.getD [])

def exact (literal : Literal) : ℚ := literal.plain + literal.fraction?.elim 0 Fraction.ratio

-- The exact value with one inch at most for the fraction.
def capped (literal : Literal) : ℚ :=
  literal.plain + literal.fraction?.elim 0 fun fraction => min fraction.ratio 1

theorem total_quantised (literal : Literal) :
    literal.total = 16 * literal.plain + literal.fraction?.elim 0 Fraction.quantised := by
  unfold total
  cases literal.fraction? with
  | none => rfl
  | some fraction =>
      rw [Option.elim_some, Fraction.quantised, Length.quantise, Nat.mul_comm _ 16]
      rfl

theorem total_floor (literal : Literal) : (literal.total : Int) = ⌊16 * literal.capped⌋ := by
  have rest : ((literal.fraction?.elim 0 Fraction.quantised : Nat) : Int) =
      ⌊16 * literal.fraction?.elim 0 fun fraction => min fraction.ratio 1⌋ := by
    cases literal.fraction? with
    | none =>
        rw [Option.elim_none, Option.elim_none, mul_zero, Int.floor_zero]
        rfl
    | some fraction => exact Length.quantise_floor _ _
  have scaled : 16 * literal.capped = ((16 * literal.plain : Nat) : ℚ) +
      16 * literal.fraction?.elim 0 fun fraction => min fraction.ratio 1 := by
    rw [capped, mul_add, Nat.cast_mul]
    rfl
  rw [scaled, Int.floor_natCast_add, ← rest, total_quantised, Int.natCast_add]

theorem exact_loss (literal : Literal) :
    literal.exact = literal.total / 16 + literal.fraction?.elim 0 Fraction.loss := by
  have rest : literal.fraction?.elim 0 Fraction.ratio =
      ((literal.fraction?.elim 0 Fraction.quantised : Nat) : ℚ) / 16 +
        literal.fraction?.elim 0 Fraction.loss := by
    cases literal.fraction? with
    | none => simp
    | some fraction => exact (add_sub_cancel _ _).symm
  rw [total_quantised, exact, rest]
  push_cast
  ring

end Literal

end TapeMeasure

import Mathlib.Data.Set.Function
import TapeMeasure.Proofs.Expr.Summation
import TapeMeasure.Proofs.Length.Made

/- Lengths under addition. A normal length is known by its total in sixteenths, and every number that
   is not negative is the total of one; the sum of two is the length of the sum of their totals. So
   addition has the laws of addition of whole numbers, however many sixteenths are carried. -/
set_option autoImplicit false

namespace TapeMeasure.Length

section Normal

variable {a b c sum : Length}

theorem carried_total_normal {total : Int} (natural : 0 ≤ total) :
    (carried 0 total).Normal ∧ (carried 0 total).totalSixteenths = total := by
  refine ⟨carried_normal 0 total (Int.le_refl 0) natural, ?_⟩
  rw [total_carried, Int.zero_mul, Int.zero_add]

theorem total_bijection :
    Set.BijOn totalSixteenths {length | length.Normal} {total | 0 ≤ total} := by
  refine ⟨?_, ?_, ?_⟩
  · intro length normal
    exact total_not_negative normal
  · intro a first b second same
    exact normal_of_total a b first second same
  · intro total natural
    exact ⟨carried 0 total, carried_total_normal natural⟩

-- The length that is made of parts is the one normal length with their total.
theorem of_parts_total {wholeInches numerator16 : Int} (whole : 0 ≤ wholeInches)
    (sixteenths : 0 ≤ numerator16) (length : Length) :
    ofParts (.int wholeInches) (.int numerator16) = .ok length ↔
      length.Normal ∧ length.totalSixteenths = wholeInches * 16 + numerator16 := by
  rw [of_parts_int whole sixteenths, Except.ok.injEq]
  have normal := carried_normal wholeInches numerator16 whole sixteenths
  have total := total_carried wholeInches numerator16
  constructor
  · rintro rfl
    exact ⟨normal, total⟩
  · intro ⟨other, same⟩
    exact normal_of_total _ _ normal other (total.trans same.symm)

theorem add_total (first : a.Normal) (second : b.Normal) (sum : Length) :
    a.add b = .ok sum ↔
      sum.Normal ∧ sum.totalSixteenths = a.totalSixteenths + b.totalSixteenths := by
  obtain ⟨aWhole, aSixteenths, -⟩ := first
  obtain ⟨bWhole, bSixteenths, -⟩ := second
  have made := of_parts_total (Int.add_nonneg aWhole bWhole)
    (Int.add_nonneg aSixteenths bSixteenths) sum
  rw [add, made]
  apply and_congr_right
  intro _
  unfold totalSixteenths
  omega

theorem normal_sum (first : a.Normal) (second : b.Normal) :
    ∃ sum, a.add b = .ok sum ∧ sum.Normal ∧
      sum.totalSixteenths = a.totalSixteenths + b.totalSixteenths := by
  have added := add_normal first second
  exact ⟨_, added, (add_total first second _).mp added⟩

-- Also of lengths that are not normal, and whether there is a sum or not.
theorem add_commutes (a b : Length) : a.add b = b.add a := by
  rw [add, add, Int.add_comm a.wholeInches, Int.add_comm a.numerator16]

theorem add_associates (first : a.Normal) (second : b.Normal) (third : c.Normal) :
    ((a.add b).bind fun sum => sum.add c) = (b.add c).bind fun sum => a.add sum := by
  obtain ⟨left, leftAdded, leftNormal, leftTotal⟩ := normal_sum first second
  obtain ⟨right, rightAdded, rightNormal, rightTotal⟩ := normal_sum second third
  obtain ⟨all, added, normal, total⟩ := normal_sum leftNormal third
  have other : a.add right = .ok all := by
    rw [add_total first rightNormal]
    refine ⟨normal, ?_⟩
    rw [total, leftTotal, rightTotal, Int.add_assoc]
  rw [leftAdded, rightAdded]
  exact added.trans other.symm

theorem zero_normal : Normal ⟨0, 0⟩ := by decide

theorem add_zero_length (normal : a.Normal) : a.add ⟨0, 0⟩ = .ok a := by
  rw [add_total normal zero_normal]
  exact ⟨normal, (Int.add_zero _).symm⟩

theorem add_cancels (first : a.Normal) (second : b.Normal) (third : c.Normal)
    (same : a.add b = a.add c) : b = c := by
  obtain ⟨sum, added, normal, total⟩ := normal_sum first second
  rw [added] at same
  have other := ((add_total first third sum).mp same.symm).2
  apply normal_of_total b c second third
  omega

theorem of_own_parts (normal : a.Normal) :
    ofParts (.int a.wholeInches) (.int a.numerator16) = .ok a := by
  rw [of_parts_total normal.1 normal.2.1]
  exact ⟨normal, rfl⟩

end Normal

theorem addition_exact :
    (Set.BijOn totalSixteenths {length | length.Normal} {total | 0 ≤ total} ∧
      totalSixteenths ⟨0, 0⟩ = 0) ∧
    (∀ a b : Length, a + b = a.add b ∧ a.add b = b.add a) ∧
    (∀ a b : Length, a.Normal → b.Normal →
      ∃ sum, a.add b = .ok sum ∧ sum.Normal ∧
        sum.totalSixteenths = a.totalSixteenths + b.totalSixteenths) ∧
    (∀ wholeInches numerator16 : Int, 0 ≤ wholeInches → 0 ≤ numerator16 →
      ∃ made, ofParts (.int wholeInches) (.int numerator16) = .ok made ∧
        ∀ length : Length, length = made ↔
          length.Normal ∧ length.totalSixteenths = 16 * wholeInches + numerator16) ∧
    (∀ a b c : Length, a.Normal → b.Normal → c.Normal →
      ((a.add b).bind fun sum => sum.add c) = (b.add c).bind fun sum => a.add sum) ∧
    (∀ a : Length, a.Normal → a.add ⟨0, 0⟩ = .ok a ∧ add ⟨0, 0⟩ a = .ok a ∧
      ofParts (.int a.wholeInches) (.int a.numerator16) = .ok a) ∧
    ∀ a b c : Length, a.Normal → b.Normal → c.Normal →
      (a.add b = a.add c → b = c) ∧ (b.add a = c.add a → b = c) := by
  refine ⟨⟨total_bijection, rfl⟩, ?_, ?_, ?_, ?_, ?_, ?_⟩
  · exact fun a b => ⟨rfl, add_commutes a b⟩
  · exact fun a b first second => normal_sum first second
  · intro wholeInches numerator16 whole sixteenths
    refine ⟨_, of_parts_int whole sixteenths, fun length => ?_⟩
    rw [Int.mul_comm, ← of_parts_total whole sixteenths, of_parts_int whole sixteenths,
      Except.ok.injEq, eq_comm]
  · exact fun a b c first second third => add_associates first second third
  · intro a normal
    refine ⟨add_zero_length normal, ?_, of_own_parts normal⟩
    rw [add_commutes]
    exact add_zero_length normal
  · intro a b c first second third
    refine ⟨add_cancels first second third, fun same => ?_⟩
    rw [add_commutes b, add_commutes c] at same
    exact add_cancels first second third same

-- Fifteen sixteenths three times: the first sum leaves fourteen, and the second carries again.
theorem fifteen_sixteenths_thrice :
    ((add ⟨0, 15⟩ ⟨0, 15⟩).bind fun sum => sum.add ⟨7, 15⟩) = .ok ⟨9, 13⟩ ∧
      ((add ⟨0, 15⟩ ⟨7, 15⟩).bind fun sum => add ⟨0, 15⟩ sum) = .ok ⟨9, 13⟩ := by
  obtain ⟨-, -, -, -, associates, -⟩ := addition_exact
  have same := associates ⟨0, 15⟩ ⟨0, 15⟩ ⟨7, 15⟩ (by decide) (by decide) (by decide)
  have left : ((add ⟨0, 15⟩ ⟨0, 15⟩).bind fun sum => sum.add ⟨7, 15⟩) = .ok ⟨9, 13⟩ := rfl
  exact ⟨left, same.symm.trans left⟩

end TapeMeasure.Length

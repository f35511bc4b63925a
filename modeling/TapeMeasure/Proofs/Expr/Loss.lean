import Mathlib.Algebra.Order.BigOperators.Group.List
import TapeMeasure.Proofs.Expr.Grammar
import TapeMeasure.Proofs.Token.Exact

/- What a measure falls short of the exact sum of its literals. Every literal is rounded before it
   is added, and a sum loses nothing itself, so all that is lost is the losses of the fractions. -/
set_option autoImplicit false

namespace TapeMeasure

namespace Fraction

def losses (fractions : List Fraction) : ℚ := (fractions.map loss).sum

theorem losses_cons (fraction : Fraction) (rest : List Fraction) :
    losses (fraction :: rest) = fraction.loss + losses rest := List.sum_cons

theorem losses_not_negative (fractions : List Fraction) : 0 ≤ losses fractions := by
  apply List.sum_nonneg
  intro lost member
  obtain ⟨fraction, -, rfl⟩ := List.mem_map.mp member
  exact fraction.loss_not_negative

theorem losses_le {fractions : List Fraction} (proper : ∀ fraction ∈ fractions, fraction.Proper) :
    losses fractions ≤ fractions.length / 16 := by
  have small : ∀ lost ∈ fractions.map loss, lost ≤ 1 / 16 := by
    intro lost member
    obtain ⟨fraction, inside, rfl⟩ := List.mem_map.mp member
    exact (loss_small (proper fraction inside)).le
  have bound := List.sum_le_card_nsmul (fractions.map loss) (1 / 16) small
  rw [List.length_map, nsmul_eq_mul, mul_one_div] at bound
  exact bound

theorem losses_lt {fractions : List Fraction} (some : 1 ≤ fractions.length)
    (proper : ∀ fraction ∈ fractions, fraction.Proper) :
    losses fractions < fractions.length / 16 := by
  cases fractions with
  | nil => exact absurd some (by decide)
  | cons fraction rest =>
      obtain ⟨first, others⟩ := List.forall_mem_cons.mp proper
      have both := add_lt_add_of_lt_of_le (loss_small first) (losses_le others)
      rw [losses_cons, List.length_cons, Nat.cast_succ, add_comm (rest.length : ℚ), add_div]
      exact both

theorem losses_zero_iff {fractions : List Fraction}
    (nonzero : ∀ fraction ∈ fractions, Decimal.value fraction.denominator ≠ 0) :
    losses fractions = 0 ↔ ∀ fraction ∈ fractions, fraction.Proper ∧ fraction.OnMark := by
  induction fractions with
  | nil => exact ⟨fun _ => nofun, fun _ => rfl⟩
  | cons fraction rest ih =>
      obtain ⟨first, others⟩ := List.forall_mem_cons.mp nonzero
      rw [losses_cons, add_eq_zero_iff_of_nonneg fraction.loss_not_negative
        (losses_not_negative rest), loss_zero_iff first, ih others, List.forall_mem_cons]

end Fraction

namespace Literal

def fractions (found : List Literal) : List Fraction := found.filterMap fraction?

theorem fractions_nonzero {found : List Literal} (valued : ∀ read ∈ found, read.HasValue) :
    ∀ fraction ∈ fractions found, Decimal.value fraction.denominator ≠ 0 := by
  intro fraction member
  obtain ⟨read, inside, same⟩ := List.mem_filterMap.mp member
  exact (valued read inside).nonzero fraction same

theorem exact_sum (found : List Literal) :
    (found.map exact).sum = (found.map total).sum / 16 + Fraction.losses (fractions found) := by
  induction found with
  | nil => simp [fractions, Fraction.losses]
  | cons read rest ih =>
      have losses : Fraction.losses (fractions (read :: rest)) =
          read.fraction?.elim 0 Fraction.loss + Fraction.losses (fractions rest) := by
        unfold fractions
        cases part : read.fraction? with
        | none => rw [List.filterMap_cons_none part, Option.elim_none, zero_add]
        | some fraction =>
            rw [List.filterMap_cons_some part, Fraction.losses_cons, Option.elim_some]
      rw [List.map_cons, List.sum_cons, ih, exact_loss, losses, List.map_cons, List.sum_cons]
      push_cast
      ring

end Literal

theorem derives_valued {separator : Separator} {phrase : Phrase} {depth : Nat} {text : Text}
    {found : List Literal} (derived : Derives separator phrase depth text found) :
    ∀ read ∈ found, read.HasValue := by
  induction derived with
  | literal depth valid valued => exact List.forall_mem_singleton.mpr valued
  | group inner ih => exact ih
  | single front only back ih => exact ih
  | plus front lhs gapLeft gapRight rhs back left right =>
      exact List.forall_mem_append.mpr ⟨left, right⟩

theorem measure_total {separator : Separator} {text : Text} {length : Length}
    {found : List Literal} (measured : measure separator text = .ok length)
    (derived : Derives separator .sum Nesting.maxDepth text found) :
    length.totalSixteenths = ((found.map Literal.total).sum : Nat) := by
  have summed := (measure_iff_derives separator text _).mpr ⟨found, derived, rfl⟩
  rw [measured] at summed
  rw [Except.ok.inj summed, total_of_worth]

theorem exact_sum_shortfall {separator : Separator} {text : Text} {length : Length}
    {found : List Literal} (measured : measure separator text = .ok length)
    (derived : Derives separator .sum Nesting.maxDepth text found) :
    (found.map Literal.exact).sum =
      length.totalSixteenths / 16 + Fraction.losses (Literal.fractions found) := by
  rw [Literal.exact_sum, measure_total measured derived, Int.cast_natCast]

theorem measure_loss {separator : Separator} {text : Text} {length : Length}
    (measured : measure separator text = .ok length) :
    (∃ found, Derives separator .sum 32 text found) ∧
      ∀ found, Derives separator .sum 32 text found →
        (length.totalSixteenths / 16 : ℚ) ≤ (found.map Literal.exact).sum ∧
        ((∀ fraction ∈ Literal.fractions found, fraction.Proper) →
          (1 ≤ (Literal.fractions found).length →
            (found.map Literal.exact).sum - length.totalSixteenths / 16 <
              ((Literal.fractions found).length / 16 : ℚ)) ∧
          ((Literal.fractions found).length = 0 →
            (found.map Literal.exact).sum = length.totalSixteenths / 16)) ∧
        ((found.map Literal.exact).sum = length.totalSixteenths / 16 ↔
          ∀ fraction ∈ Literal.fractions found, fraction.Proper ∧ fraction.OnMark) := by
  constructor
  · obtain ⟨found, derived, -⟩ := (measure_iff_derives separator text length).mp measured
    exact ⟨found, derived⟩
  · intro found derived
    have nonzero := Literal.fractions_nonzero (derives_valued derived)
    rw [exact_sum_shortfall measured derived, add_sub_cancel_left, add_eq_left]
    refine ⟨le_add_of_nonneg_right (Fraction.losses_not_negative _), ?_,
      Fraction.losses_zero_iff nonzero⟩
    intro proper
    refine ⟨fun some => Fraction.losses_lt some proper, ?_⟩
    intro none
    rw [List.length_eq_zero_iff.mp none]
    rfl

theorem two_thirds_fall_short :
    ∃ length, measure .optional "1/3\"+1/3\"".toList = .ok length ∧
      (length.totalSixteenths / 16 : ℚ) ≤ 2 / 3 ∧
      (2 / 3 - length.totalSixteenths / 16 : ℚ) < 2 / 16 ∧
      (2 / 3 : ℚ) ≠ length.totalSixteenths / 16 := by
  have valid : Literal.WellFormed .optional (.fractionOnly ⟨['1'], ['3']⟩) :=
    ⟨by decide, by decide⟩
  have valued : Literal.HasValue (.fractionOnly ⟨['1'], ['3']⟩) := by
    refine ⟨by decide, ?_⟩
    rintro fraction ⟨⟩
    decide
  have third := Derives.literal 32 valid valued
  have none := Text.empty_blank
  have derived := Derives.plus none third none none third none
  have measured := (measure_iff_derives _ _ _).mpr ⟨_, derived, rfl⟩
  obtain ⟨-, every⟩ := measure_loss measured
  obtain ⟨below, near, same⟩ := every _ derived
  have sum : (List.map Literal.exact
      ([.fractionOnly ⟨['1'], ['3']⟩] ++ [.fractionOnly ⟨['1'], ['3']⟩])).sum = 2 / 3 := by
    decide +kernel
  have proper : Fraction.Proper ⟨['1'], ['3']⟩ := show 1 ≤ 3 by decide
  have offMark : ¬ Fraction.OnMark ⟨['1'], ['3']⟩ := show ¬ 3 ∣ 16 by decide
  have all := List.forall_mem_cons.mpr ⟨proper, List.forall_mem_singleton.mpr proper⟩
  rw [sum] at below near same
  refine ⟨_, measured, below, ?_, ?_⟩
  · exact (near all).1 (by decide)
  · intro exact
    exact offMark (same.mp exact _ List.mem_cons_self).2

end TapeMeasure

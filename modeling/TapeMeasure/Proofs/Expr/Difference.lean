import TapeMeasure.Proofs.Expr.DigitLimit
import TapeMeasure.Proofs.Expr.Outcome
import TapeMeasure.Proofs.Length.Made

/- Where numbers become too long. Evaluation goes from the left to the right and stops at the first
   failure. A number too long to write is met at two places only: at a difference that is reached
   with the values of both its sides, and where the value of the text is written. The checks on the
   way to a value never fail, so nothing is ever said of the parts of a length. -/
set_option autoImplicit false

namespace TapeMeasure

namespace Length

-- The feet have more digits than can be written.
def Overlong (length : Length) : Prop := 10 ^ 4300 ≤ length.wholeInches / 12

theorem overlong_digits (length : Length) :
    length.Overlong ↔ (Nat.pow 10 Decimal.maxDigits : Nat) ≤ length.feet := by
  have limit : ((Nat.pow 10 Decimal.maxDigits : Nat) : Int) = 10 ^ 4300 := by
    rw [Nat.pow_eq, Int.natCast_pow]
    rfl
  rw [limit]
  rfl

theorem overlong_not_rendered {length : Length} (long : length.Overlong) :
    length.render = none := by
  rw [overlong_digits] at long
  rw [render_none_iff, Decimal.writable_iff]
  omega

theorem overlong_iff {length : Length} (normal : length.Normal) :
    length.Overlong ↔ ¬ Decimal.Writable length.feet := by
  have natural : 0 ≤ length.feet := Int.ediv_nonneg normal.1 (by decide)
  rw [overlong_digits, Decimal.writable_iff]
  omega

end Length

namespace Literal

-- The value of a literal by way of the checks that parts from elsewhere go through.
def checked (read : Literal) : Except (Fault LengthError) Length := do
  let sixteenths ←
    match read.fraction? with
    | some fraction =>
        Length.sixteenthsOf (.int (Decimal.value fraction.numerator))
          (.int (Decimal.value fraction.denominator))
    | none => .ok 0
  Length.ofParts (.int read.wholeInches) (.int sixteenths)

theorem resolve_checked {read : Literal} {value : Length} (resolved : read.resolve = .ok value) :
    read.checked = .ok value := by
  obtain ⟨valued, rfl⟩ := resolve_iff.mp resolved
  have made (sixteenths : Nat) : Length.ofParts (.int read.wholeInches) (.int sixteenths) =
      .ok (Length.carried read.wholeInches sixteenths) :=
    Length.of_parts_int (Int.natCast_nonneg _) (Int.natCast_nonneg _)
  rw [checked, worth, sixteenths]
  cases found : read.fraction? with
  | none => exact made 0
  | some fraction =>
      have nonzero := valued.nonzero fraction found
      simp only [Length.sixteenthsOf, Length.require_natural_int (Int.natCast_nonneg _), bind,
        Except.bind, Int.toNat_natCast, if_neg nonzero, pure, Except.pure]
      exact made _

end Literal

namespace Node

-- From the left to the right, the evaluation of the level gets to a difference with these values
-- on its two sides.
inductive Subtracts : List Node → Length → Length → Prop where
  | here {lhs operator rhs : Node} {left right : Length} (sign : operator.label.kind = .minus)
      (first : (runOperand lhs).result = .ok left) (second : (runOperand rhs).result = .ok right) :
      Subtracts [lhs, operator, rhs] left right
  | group (label : Label) {nodes : List Node} {left right : Length}
      (inner : Subtracts nodes left right) : Subtracts [.group label nodes] left right
  | left {lhs operator : Node} (rhs : Node) {left right : Length}
      (sign : operator.label.kind.isOperator = true) (first : Subtracts [lhs] left right) :
      Subtracts [lhs, operator, rhs] left right
  | right {lhs operator rhs : Node} {value left right : Length}
      (sign : operator.label.kind.isOperator = true) (first : (runOperand lhs).result = .ok value)
      (second : Subtracts [rhs] left right) : Subtracts [lhs, operator, rhs] left right

theorem sums_overlong {nodes : List Node} {values : List Length} (sums : Sums nodes values)
    (regular : RegularLevel nodes) : Unwritable values ↔ (Length.sum values).Overlong :=
  (Length.overlong_iff (Length.sum_normal (sums_normal sums regular))).symm

theorem unshown_subtracts {nodes : List Node} (unshown : Unshown nodes)
    (regular : RegularLevel nodes) :
    ∃ left right, Subtracts nodes left right ∧ (left.Overlong ∨ right.Overlong) := by
  induction unshown with
  | here sign first second long =>
      obtain ⟨lhs, -, rhs, -⟩ := regular
      have left := sums_result first ⟨lhs, trivial⟩
      have right := sums_result second ⟨rhs, trivial⟩
      rw [single_result] at left right
      rw [sums_overlong first ⟨lhs, trivial⟩, sums_overlong second ⟨rhs, trivial⟩] at long
      exact ⟨_, _, .here sign left right, long⟩
  | group label inner ih =>
      obtain ⟨left, right, reached, long⟩ := ih regular.1
      exact ⟨left, right, .group label reached, long⟩
  | left rhs sign first ih =>
      obtain ⟨left, right, reached, long⟩ := ih ⟨regular.1, trivial⟩
      exact ⟨left, right, .left rhs sign reached, long⟩
  | right sign first second ih =>
      obtain ⟨lhs, -, rhs, -⟩ := regular
      obtain ⟨left, right, reached, long⟩ := ih ⟨rhs, trivial⟩
      have value := sums_result first ⟨lhs, trivial⟩
      rw [single_result] at value
      exact ⟨left, right, .right sign value reached, long⟩

-- A difference that is reached ends the evaluation.
theorem subtracts_result {nodes : List Node} {left right : Length}
    (reached : Subtracts nodes left right) :
    ∃ operator, (runLevel nodes).result = .error (refusal left operator right) := by
  induction reached with
  | @here _ operator _ _ _ sign first second =>
      refine ⟨operator.label, ?_⟩
      rw [triple_result, if_pos (by rw [sign]; rfl), first, second]
      exact operate_minus sign
  | group label inner ih => exact ih
  | left rhs sign first ih =>
      obtain ⟨operator, failed⟩ := ih
      rw [single_result] at failed
      refine ⟨operator, ?_⟩
      rw [triple_result, if_pos sign, failed]
      rfl
  | right sign first second ih =>
      obtain ⟨operator, failed⟩ := ih
      rw [single_result] at failed
      refine ⟨operator, ?_⟩
      rw [triple_result, if_pos sign, first, failed]
      rfl

theorem refusal_of_overlong {left right : Length} (operator : Label)
    (long : left.Overlong ∨ right.Overlong) : refusal left operator right = .overlong := by
  unfold refusal
  cases long with
  | inl long => simp only [Length.overlong_not_rendered long]
  | inr long =>
      rw [Length.overlong_not_rendered long]
      cases left.render <;> rfl

-- The differences that cannot be shown, told by the sums of literals on their sides, are those that
-- the evaluation gets to with a value too long to be written.
theorem unshown_iff {nodes : List Node} (regular : RegularLevel nodes) :
    Unshown nodes ↔
      ∃ left right, Subtracts nodes left right ∧ (left.Overlong ∨ right.Overlong) := by
  constructor
  · exact fun unshown => unshown_subtracts unshown regular
  · intro ⟨left, right, reached, long⟩
    obtain ⟨operator, result⟩ := subtracts_result reached
    rw [refusal_of_overlong operator long] at result
    exact fails_overlong_iff.mp ((fails_iff regular).mp result)

end Node

-- The classes of the errors that the text of an expression can end with.
inductive ErrorClass.OfText : ErrorClass → Prop where
  | parse : OfText .parse
  | malformed : OfText .malformed
  | expectedOperator : OfText .expectedOperator
  | operatorNotImplemented : OfText .operatorNotImplemented
  | unsupportedArity (count : Nat) : OfText (.unsupportedArity count)
  | unknownNode : OfText .unknownNode

theorem measure_overlong_iff {separator : Separator} {text : Text} :
    measure separator text = .error .overlong ↔
      ∃ tokens left right, tokenize separator text = .ok tokens ∧
        Node.Subtracts (Node.ofTokens tokens) left right ∧ (left.Overlong ∨ right.Overlong) := by
  rw [← unshown_measure]
  constructor
  · intro ⟨tokens, scanned, unshown⟩
    obtain ⟨left, right, reached, long⟩ := (Node.unshown_iff (tokens_regular scanned)).mp unshown
    exact ⟨tokens, left, right, scanned, reached, long⟩
  · intro ⟨tokens, left, right, scanned, reached, long⟩
    have unshown := (Node.unshown_iff (tokens_regular scanned)).mpr ⟨left, right, reached, long⟩
    exact ⟨tokens, scanned, unshown⟩

theorem calculate_overlong_iff {separator : Separator} {text : Text} :
    calculate separator text = .error .overlong ↔
      measure separator text = .error .overlong ∨
        ∃ length, measure separator text = .ok length ∧ length.Overlong := by
  have written : (∃ length, measure separator text = .ok length ∧ length.Overlong) ↔
      ∃ length, measure separator text = .ok length ∧ ¬ Decimal.Writable length.feet := by
    apply exists_congr
    intro length
    apply and_congr_right
    intro measured
    exact Length.overlong_iff (measure_normal measured)
  rw [calculate_too_long, TooLong, unshown_measure, written]
  exact or_comm

theorem measure_error_class {separator : Separator} {text : Text} {cause : ExprError}
    (failed : measure separator text = .error (.error cause)) : cause.errorClass.OfText := by
  cases cause with
  | parse cause => exact .parse
  | eval cause =>
      cases cause with
      | expectedOperator found level => exact .expectedOperator
      | subtraction lhs operator rhs => exact .operatorNotImplemented
      | malformed level => exact .malformed
      | unsupportedArity level => exact .unsupportedArity level.length
      | unknownNode node => exact .unknownNode
      | length reason => exact absurd rfl (measure_own failed reason)

-- Writing a value adds no error of its own.
theorem calculate_error_measured {separator : Separator} {text : Text} {cause : ExprError}
    (failed : calculate separator text = .error (.error cause)) :
    measure separator text = .error (.error cause) := by
  unfold calculate at failed
  cases measured : measure separator text with
  | error fault => simpa [measured] using failed
  | ok length =>
      rw [measured] at failed
      cases rendered : length.render with
      | none => simp [rendered] at failed
      | some written => simp [rendered] at failed

theorem digit_limit_boundary (separator : Separator) (text : Text) :
    (measure separator text = .error .overlong ↔
      ∃ tokens left right, tokenize separator text = .ok tokens ∧
        Node.Subtracts (Node.ofTokens tokens) left right ∧ (left.Overlong ∨ right.Overlong)) ∧
      (∀ tokens, tokenize separator text = .ok tokens →
        (Node.Unshown (Node.ofTokens tokens) ↔
          ∃ left right, Node.Subtracts (Node.ofTokens tokens) left right ∧
            (left.Overlong ∨ right.Overlong))) ∧
      (calculate separator text = .error .overlong ↔
        measure separator text = .error .overlong ∨
          ∃ length, measure separator text = .ok length ∧ length.Overlong) ∧
      (∀ cause, measure separator text = .error (.error cause) → cause.errorClass.OfText) ∧
      (∀ cause, calculate separator text = .error (.error cause) → cause.errorClass.OfText) ∧
      ∀ read : Literal, ∀ value, read.resolve = .ok value → read.checked = .ok value := by
  refine ⟨measure_overlong_iff, ?_, calculate_overlong_iff, ?_, ?_, ?_⟩
  · exact fun tokens scanned => Node.unshown_iff (tokens_regular scanned)
  · exact fun cause failed => measure_error_class failed
  · exact fun cause failed => measure_error_class (calculate_error_measured failed)
  · exact fun read value resolved => Literal.resolve_checked resolved

-- Twelve inches more than the largest number of feet that can be read, and then an inch less.
theorem foot_beyond_subtracted {feet : Text} (group : Text.DigitGroup feet)
    (readable : Decimal.Readable feet) (largest : Decimal.value feet + 1 = 10 ^ Decimal.maxDigits)
    (separator : Separator) :
    ∃ tokens left right, tokenize separator (feet ++ "' 12\" - 1\"".toList) = .ok tokens ∧
      Node.Subtracts (Node.ofTokens tokens) left right ∧ left.Overlong := by
  have twelve : Text.DigitGroup ['1', '2'] := by decide
  have single : Text.DigitGroup ['1'] := by decide
  have long := Literal.feet_inches_means group readable (Literal.whole_means twelve (by decide))
  have one := Literal.whole_means single (by decide)
  have greedy : Piece.Greedy separator
      [.literal (.feetInches feet [' '] (.whole ['1', '2'])), .blanks [' '], .minus,
        .blanks [' '], .literal (.inchesOnly (.whole ['1']))] :=
    ⟨⟨long.wellFormed separator, long.valued⟩, trivial, ⟨nofun, Text.space_blank⟩, rfl, trivial,
      trivial, ⟨nofun, Text.space_blank⟩, rfl, ⟨one.wellFormed separator, one.valued⟩, trivial,
      trivial⟩
  refine ⟨_, _, _, Piece.tokenize_iff.mpr ⟨_, greedy, Nat.zero_le _, ?_, rfl⟩,
    .here rfl rfl rfl, ?_⟩
  · simp [Piece.spell, Piece.spelling, Literal.spelling, InchPart.spelling]
  · have inches : Decimal.value ['1', '2'] = 12 := by decide
    rw [Length.overlong_digits, Nat.pow_eq, ← largest]
    simp only [Length.feet, Length.splitFeet, Literal.worth, Length.carried, Literal.wholeInches,
      Literal.feet?, Literal.inches?, Literal.sixteenths, Literal.fraction?, InchPart.inches,
      InchPart.fraction?, Option.getD_some, inches]
    omega

theorem nines_and_a_foot_subtracted :
    ∃ tokens left right,
      tokenize .optional (List.replicate 4300 '9' ++ "' 12\" - 1\"".toList) = .ok tokens ∧
      Node.Subtracts (Node.ofTokens tokens) left right ∧ left.Overlong ∧
      measure .optional (List.replicate 4300 '9' ++ "' 12\" - 1\"".toList) =
        .error .overlong := by
  obtain ⟨tokens, left, right, scanned, reached, long⟩ :=
    foot_beyond_subtracted Decimal.nines_group Decimal.nines_readable
      (Decimal.value_nines Decimal.maxDigits) .optional
  have met := (digit_limit_boundary .optional _).1.mpr
    ⟨tokens, left, right, scanned, reached, Or.inl long⟩
  exact ⟨tokens, left, right, scanned, reached, long, met⟩

end TapeMeasure

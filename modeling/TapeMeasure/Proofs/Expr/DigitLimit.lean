import TapeMeasure.Proofs.Expr.ReadBack

/- Lengths that are too long to write. Only the digits of a text are checked against the limit, and
   a few feet or inches more make a length that is beyond it. Such a length is no answer, and no
   side of a difference either, because the error for a difference shows both sides. -/
set_option autoImplicit false

namespace TapeMeasure

namespace Length

theorem render_none_iff (length : Length) :
    length.render = none ↔ ¬ Decimal.Writable length.feet := by
  rw [← render_succeeds_iff]
  cases length.render <;> simp

end Length

namespace Node

def Unwritable (values : List Length) : Prop := ¬ Decimal.Writable (Length.sum values).feet

-- The first failure of the level, here or further inside, is a difference with a side that cannot
-- be written.
inductive Unshown : List Node → Prop where
  | here {lhs operator rhs : Node} {left right : List Length}
      (sign : operator.label.kind = .minus) (first : Sums [lhs] left) (second : Sums [rhs] right)
      (long : Unwritable left ∨ Unwritable right) : Unshown [lhs, operator, rhs]
  | group (label : Label) {nodes : List Node} (inner : Unshown nodes) :
      Unshown [.group label nodes]
  | left {lhs operator : Node} (rhs : Node) (sign : operator.label.kind.isOperator = true)
      (first : Unshown [lhs]) : Unshown [lhs, operator, rhs]
  | right {lhs operator rhs : Node} {left : List Length}
      (sign : operator.label.kind.isOperator = true) (first : Sums [lhs] left)
      (second : Unshown [rhs]) : Unshown [lhs, operator, rhs]

theorem refusal_overlong {left right : List Length} (operator : Label) :
    refusal (Length.sum left) operator (Length.sum right) = .overlong ↔
      Unwritable left ∨ Unwritable right := by
  unfold Unwritable refusal
  rw [← Length.render_none_iff, ← Length.render_none_iff]
  cases (Length.sum left).render <;> cases (Length.sum right).render <;> simp

theorem fails_overlong_iff {nodes : List Node} : Fails nodes .overlong ↔ Unshown nodes := by
  constructor
  · intro fails
    generalize same : Fault.overlong = fault at fails
    induction fails with
    | count notOne notThree => exact absurd same nofun
    | unknown label => exact absurd same nofun
    | group label inner ih => exact .group label (ih same)
    | operator rhs none => exact absurd same nofun
    | left rhs sign first ih => exact .left rhs sign (ih same)
    | right sign first second ih => exact .right sign first (ih same)
    | minus sign first second =>
        exact .here sign first second ((refusal_overlong _).mp same.symm)
  · intro unshown
    induction unshown with
    | here sign first second long =>
        have refused := Fails.minus sign first second
        rw [(refusal_overlong _).mpr long] at refused
        exact refused
    | group label inner ih => exact .group label ih
    | left rhs sign first ih => exact .left rhs sign ih
    | right sign first second ih => exact .right sign first ih

theorem refusal_own {lhs rhs : Length} {operator : Label} {cause : LengthError} :
    refusal lhs operator rhs ≠ .error (.length cause) := by
  unfold refusal
  cases lhs.render <;> cases rhs.render <;> exact nofun

-- Sums of normal lengths are checked, and they pass.
theorem fails_own {nodes : List Node} {fault : Fault EvalError} (fails : Fails nodes fault)
    (cause : LengthError) : fault ≠ .error (.length cause) := by
  induction fails with
  | @count nodes notOne notThree =>
      unfold wrongCount
      split <;> exact nofun
  | unknown label => exact nofun
  | group label inner ih => exact ih
  | operator rhs none => exact nofun
  | left rhs sign first ih => exact ih
  | right sign first second ih => exact ih
  | minus sign first second => exact refusal_own

end Node

-- An answer that callers are told of: a text, or an error of the scan or of the evaluation.
inductive Announced : Except (Fault ExprError) Text → Prop where
  | text (written : Text) : Announced (.ok written)
  | parse (cause : ParseError) : Announced (.error (.error (.parse cause)))
  | eval (cause : EvalError) (own : ∀ reason, cause ≠ .length reason) :
      Announced (.error (.error (.eval cause)))

-- The text has a length that is too long to write, or meets such a length in a difference.
def TooLong (separator : Separator) (text : Text) : Prop :=
  (∃ length, measure separator text = .ok length ∧ ¬ Decimal.Writable length.feet) ∨
    ∃ tokens, tokenize separator text = .ok tokens ∧ Node.Unshown (Node.ofTokens tokens)

theorem unshown_measure {separator : Separator} {text : Text} :
    (∃ tokens, tokenize separator text = .ok tokens ∧ Node.Unshown (Node.ofTokens tokens)) ↔
      measure separator text = .error .overlong := by
  constructor
  · rintro ⟨tokens, scanned, unshown⟩
    exact measure_of_fails scanned (Node.fails_overlong_iff.mpr unshown)
  · intro failed
    rcases measure_error_fails failed with ⟨cause, -, same⟩ | ⟨tokens, inner, scanned, fails, same⟩
    · exact absurd same nofun
    · cases inner with
      | error cause => exact absurd same nofun
      | overlong => exact ⟨tokens, scanned, Node.fails_overlong_iff.mp fails⟩

theorem calculate_too_long {separator : Separator} {text : Text} :
    calculate separator text = .error .overlong ↔ TooLong separator text := by
  rw [TooLong, unshown_measure, calculate]
  cases measured : measure separator text with
  | error fault => cases fault <;> simp
  | ok length =>
      have long := Length.render_none_iff length
      cases rendered : length.render with
      | none => simp [rendered, long.mp rendered]
      | some written =>
          rw [rendered] at long
          simpa [rendered] using long

theorem measure_own {separator : Separator} {text : Text} {cause : EvalError}
    (failed : measure separator text = .error (.error (.eval cause))) (reason : LengthError) :
    cause ≠ .length reason := by
  rcases measure_error_fails failed with ⟨parse, -, same⟩ | ⟨tokens, inner, scanned, fails, same⟩
  · exact absurd same nofun
  · cases inner with
    | overlong => exact absurd same nofun
    | error found =>
        simp only [Fault.map, Fault.error.injEq, ExprError.eval.injEq] at same
        rintro rfl
        exact Node.fails_own fails reason (congrArg Fault.error same.symm)

theorem calculate_announced {separator : Separator} {text : Text}
    (short : calculate separator text ≠ .error .overlong) :
    Announced (calculate separator text) := by
  unfold calculate at short ⊢
  cases measured : measure separator text with
  | error fault =>
      rw [measured] at short
      cases fault with
      | overlong => exact absurd rfl short
      | error cause =>
          cases cause with
          | parse cause => exact .parse cause
          | eval cause => exact .eval cause (measure_own measured)
  | ok length =>
      rw [measured] at short
      cases rendered : length.render with
      | none => simp [rendered] at short
      | some written =>
          simp only [rendered]
          exact .text written

theorem calculate_announced_iff (separator : Separator) (text : Text) :
    (Announced (calculate separator text) ↔ ¬ TooLong separator text) ∧
      (calculate separator text = .error .overlong ↔ TooLong separator text) := by
  refine ⟨?_, calculate_too_long⟩
  rw [← calculate_too_long]
  constructor
  · intro announced overlong
    rw [overlong] at announced
    exact absurd announced nofun
  · exact calculate_announced

namespace Decimal

theorem value_nines (count : Nat) : value (List.replicate count '9') + 1 = 10 ^ count := by
  have shifted (start : Nat) :
      Nat.ofDigitChars 10 (List.replicate count '9') start + 1 = 10 ^ count * (start + 1) := by
    induction count generalizing start with
    | zero => simp
    | succ less ih =>
        rw [List.replicate_succ, Nat.ofDigitChars_cons, ih, Nat.pow_succ, Nat.mul_assoc]
        apply congrArg
        rw [show '9'.toNat - '0'.toNat = 9 from rfl]
        omega
  have all := shifted 0
  rw [Nat.zero_add, Nat.mul_one] at all
  exact all

theorem nines_group : Text.DigitGroup (List.replicate maxDigits '9') := by
  constructor
  · rw [Ne, List.replicate_eq_nil_iff]
    decide
  · intro c member
    rw [(List.mem_replicate.mp member).2]
    rfl

theorem nines_readable : Readable (List.replicate maxDigits '9') :=
  Nat.le_of_eq List.length_replicate

end Decimal

-- Twelve inches make one foot more of the largest number of feet that can be read.
theorem foot_beyond_too_long {feet : Text} (group : Text.DigitGroup feet)
    (readable : Decimal.Readable feet) (largest : Decimal.value feet + 1 = 10 ^ Decimal.maxDigits)
    (separator : Separator) :
    calculate separator (feet ++ "' 12\"".toList) = .error .overlong := by
  have twelve : Text.DigitGroup ['1', '2'] := by decide
  have means := Literal.feet_inches_means group readable (Literal.whole_means twelve (by decide))
  have same : 192 * (Decimal.value feet : Int) + 16 * (Decimal.value ['1', '2'] : Int) =
      Length.totalSixteenths ⟨12 * (Decimal.value feet + 1 : Nat), 0⟩ := by
    have inches : Decimal.value ['1', '2'] = 12 := by decide
    simp only [Length.totalSixteenths, inches]
    omega
  have normal : Length.Normal ⟨12 * (Decimal.value feet + 1 : Nat), 0⟩ := by
    simp only [Length.Normal]
    omega
  have spelled : (Literal.feetInches feet [' '] (.whole ['1', '2'])).spelling =
      feet ++ "' 12\"".toList := by
    simp [Literal.spelling, InchPart.spelling]
  rw [same] at means
  have measured : measure separator _ = _ := measure_literal means normal
  rw [spelled] at measured
  refine calculate_too_long.mpr (Or.inl ⟨_, measured, ?_⟩)
  rw [Decimal.writable_iff, Nat.pow_eq, ← largest]
  simp only [Length.feet, Length.splitFeet]
  omega

theorem nines_and_a_foot_too_long :
    calculate .optional (List.replicate 4300 '9' ++ "' 12\"".toList) = .error .overlong :=
  foot_beyond_too_long Decimal.nines_group Decimal.nines_readable
    (Decimal.value_nines Decimal.maxDigits) .optional

end TapeMeasure

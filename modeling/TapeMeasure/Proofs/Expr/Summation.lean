import Mathlib.Algebra.Ring.Int.Defs
import Mathlib.Algebra.Ring.Nat
import TapeMeasure.Expr.Evaluate

/- The value of a level as a sum. A level has a value exactly if it is one operand, or two operands
   around a plus, and so on inside every group. Its value is then the normal length whose total is
   the sum of the totals of all literals, in whatever way they are nested. -/
set_option autoImplicit false

namespace TapeMeasure

namespace Length

-- The sum of lengths, with all sixteenths carried at once.
def sum (values : List Length) : Length := carried 0 (values.map totalSixteenths).sum

theorem sum_total (values : List Length) :
    (sum values).totalSixteenths = (values.map totalSixteenths).sum := by
  rw [sum, total_carried, Int.zero_mul, Int.zero_add]

theorem total_not_negative {value : Length} (normal : value.Normal) :
    0 ≤ value.totalSixteenths := by
  obtain ⟨whole, sixteenths, -⟩ := normal
  unfold totalSixteenths
  omega

theorem sum_normal {values : List Length} (normal : ∀ value ∈ values, value.Normal) :
    (sum values).Normal := by
  apply carried_normal 0 _ (Int.le_refl 0)
  induction values with
  | nil => exact Int.le_refl 0
  | cons value rest ih =>
      have first := total_not_negative (normal value (by simp))
      have others := ih fun other member => normal other (by simp [member])
      rw [List.map_cons, List.sum_cons]
      omega

theorem sum_single {value : Length} (normal : value.Normal) : sum [value] = value := by
  apply normal_of_total _ _ _ normal
  · rw [sum_total]
    simp
  · apply sum_normal
    intro other member
    rw [List.mem_singleton.mp member]
    exact normal

theorem add_sum {left right : List Length} (first : ∀ value ∈ left, value.Normal)
    (second : ∀ value ∈ right, value.Normal) :
    (sum left).add (sum right) = .ok (sum (left ++ right)) := by
  have leftNormal := sum_normal first
  have rightNormal := sum_normal second
  rw [add_normal leftNormal rightNormal]
  apply congrArg
  obtain ⟨leftWhole, leftSixteenths, -⟩ := leftNormal
  obtain ⟨rightWhole, rightSixteenths, -⟩ := rightNormal
  apply normal_of_total
  · exact carried_normal _ _ (by omega) (by omega)
  · apply sum_normal
    intro value member
    rcases List.mem_append.mp member with inLeft | inRight
    · exact first value inLeft
    · exact second value inRight
  · have both := sum_total (left ++ right)
    have one := sum_total left
    have other := sum_total right
    rw [List.map_append, List.sum_append] at both
    rw [total_carried, both, ← one, ← other]
    unfold totalSixteenths
    omega

end Length

namespace Run

theorem and_then_result (run : Run) (next : Length → Run) :
    (run.andThen next).result = run.result.bind fun value => (next value).result := by
  unfold andThen
  cases run.result <;> rfl

end Run

namespace Node

theorem single_result (node : Node) : (runLevel [node]).result = (runOperand node).result := rfl

theorem triple_result (lhs operator rhs : Node) :
    (runLevel [lhs, operator, rhs]).result =
      if operator.label.kind.isOperator then
        (runOperand lhs).result.bind fun left =>
          (runOperand rhs).result.bind fun right => operate left operator.label right
      else
        .error (.error
          (.expectedOperator operator.label [lhs.label, operator.label, rhs.label])) := by
  rw [runLevel, Run.enter]
  split
  · rw [Run.and_then_result]
    apply congrArg
    funext left
    rw [Run.and_then_result]
    rfl
  · rfl

-- The level adds up these values, which stand in it in this order.
inductive Sums : List Node → List Length → Prop where
  | literal (label : Label) (value : Length) : Sums [.literal label value] [value]
  | group (label : Label) {nodes : List Node} {values : List Length} (inner : Sums nodes values) :
      Sums [.group label nodes] values
  | plus {lhs operator rhs : Node} {left right : List Length} (first : Sums [lhs] left)
      (sign : operator.label.kind = .plus) (second : Sums [rhs] right) :
      Sums [lhs, operator, rhs] (left ++ right)

-- Every literal at any depth is a normal length.
mutual
def Regular : Node → Prop
  | .group _ nodes => RegularLevel nodes
  | .literal _ value => value.Normal
  | .other _ => True
def RegularLevel : List Node → Prop
  | [] => True
  | node :: rest => node.Regular ∧ RegularLevel rest
end

theorem sums_normal {nodes : List Node} {values : List Length} (sums : Sums nodes values)
    (regular : RegularLevel nodes) : ∀ value ∈ values, value.Normal := by
  induction sums with
  | literal label value =>
      intro other member
      rw [List.mem_singleton.mp member]
      exact regular.1
  | group label inner ih => exact ih regular.1
  | plus first sign second left right =>
      obtain ⟨lhs, -, rhs, -⟩ := regular
      intro value member
      rcases List.mem_append.mp member with inLeft | inRight
      · exact left ⟨lhs, trivial⟩ value inLeft
      · exact right ⟨rhs, trivial⟩ value inRight

theorem operate_plus {left right : List Length} {operator : Label}
    (first : ∀ value ∈ left, value.Normal) (second : ∀ value ∈ right, value.Normal)
    (sign : operator.kind = .plus) :
    operate (Length.sum left) operator (Length.sum right) = .ok (Length.sum (left ++ right)) := by
  rw [operate, if_pos sign, Length.add_sum first second]
  rfl

theorem sums_result {nodes : List Node} {values : List Length} (sums : Sums nodes values)
    (regular : RegularLevel nodes) : (runLevel nodes).result = .ok (Length.sum values) := by
  induction sums with
  | literal label value =>
      rw [Length.sum_single regular.1]
      rfl
  | group label inner ih => exact ih regular.1
  | @plus _ operator _ _ _ first sign second left right =>
      obtain ⟨lhs, -, rhs, -⟩ := regular
      have leftValue := left ⟨lhs, trivial⟩
      have rightValue := right ⟨rhs, trivial⟩
      rw [single_result] at leftValue rightValue
      have known : operator.label.kind.isOperator = true := by rw [sign]; rfl
      rw [triple_result, if_pos known, leftValue, rightValue]
      exact operate_plus (sums_normal first ⟨lhs, trivial⟩) (sums_normal second ⟨rhs, trivial⟩) sign

end Node

end TapeMeasure

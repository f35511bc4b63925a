import TapeMeasure.Proofs.Expr.Entered
import TapeMeasure.Proofs.Expr.Failure

/- Evaluation on a stack that has an end. It has room for so many levels inside one another, and the
   evaluation stops without a value or an error when it enters one more. It stops exactly if some
   level that it enters on an endless stack is deeper, and changes nothing if there is none. -/
set_option autoImplicit false

namespace TapeMeasure

namespace Node

-- The evaluation with room for so many levels. Its error is none when the stack is full.
mutual
def operandWithin (room : Nat) : Node → Except (Option (Fault EvalError)) Length
  | .group _ nodes => levelWithin room nodes
  | .literal _ value => .ok value
  | .other label => .error (some (.error (.unknownNode label)))
def levelWithin : Nat → List Node → Except (Option (Fault EvalError)) Length
  | 0, _ => .error none
  | room + 1, [operand] => operandWithin room operand
  | room + 1, [lhs, operator, rhs] =>
      if operator.label.kind.isOperator then
        (operandWithin room lhs).bind fun left =>
          (operandWithin room rhs).bind fun right =>
            (operate left operator.label right).mapError some
      else
        .error (some (.error
          (.expectedOperator operator.label [lhs.label, operator.label, rhs.label])))
  | _ + 1, nodes => .error (some (.error (wrongCount (nodes.map label))))
end

theorem wrong_count_within {nodes : List Node} (room : Nat) (notOne : nodes.length ≠ 1)
    (notThree : nodes.length ≠ 3) :
    levelWithin (room + 1) nodes = .error (some (.error (wrongCount (nodes.map label)))) := by
  rcases nodes with _ | ⟨first, _ | ⟨second, _ | ⟨third, _ | ⟨fourth, rest⟩⟩⟩⟩
  · rfl
  · exact absurd rfl notOne
  · rfl
  · exact absurd rfl notThree
  · rfl

theorem triple_within {operator : Node} (room : Nat) (lhs rhs : Node)
    (sign : operator.label.kind.isOperator = true) :
    levelWithin (room + 1) [lhs, operator, rhs] =
      (operandWithin room lhs).bind fun left =>
        (operandWithin room rhs).bind fun right =>
          (operate left operator.label right).mapError some := by
  rw [levelWithin, if_pos sign]

-- No level that an evaluation enters is deeper inside others than this.
def Fits (room : Nat) (nodes : List Node) : Prop :=
  ∀ depth inner, Enters nodes depth inner → depth ≤ room

theorem enters_cases {nodes inner : List Node} {depth : Nat}
    (entered : Enters nodes depth inner) :
    (depth = 1 ∧ inner = nodes) ∨
      ∃ first before, Opens nodes first ∧ Enters first before inner ∧ depth = before + 1 := by
  induction entered with
  | start => exact Or.inl ⟨rfl, rfl⟩
  | into outside opens ih =>
      rcases ih with ⟨rfl, rfl⟩ | ⟨first, before, begins, behind, rfl⟩
      · exact Or.inr ⟨_, 1, opens, .start, rfl⟩
      · exact Or.inr ⟨first, before + 1, begins, .into behind opens, rfl⟩

theorem not_fits_zero (nodes : List Node) : ¬ Fits 0 nodes :=
  fun fits => absurd (fits 1 nodes .start) (by decide)

theorem fits_succ {room : Nat} {nodes : List Node} :
    Fits (room + 1) nodes ↔ ∀ inner, Opens nodes inner → Fits room inner := by
  constructor
  · intro fits inner opens depth deeper entered
    have bound := fits (depth + 1) deeper (enters_behind opens entered)
    omega
  · intro inside depth inner entered
    rcases enters_cases entered with ⟨rfl, -⟩ | ⟨first, before, opens, behind, rfl⟩
    · omega
    · have bound := inside first opens before inner behind
      omega

theorem operand_within_fits {room : Nat} {node : Node}
    (inside : ∀ label nodes, node = .group label nodes →
      levelWithin room nodes = (runLevel nodes).result.mapError some) :
    operandWithin room node = (runOperand node).result.mapError some := by
  cases node with
  | group label nodes => exact inside label nodes rfl
  | literal label value => rfl
  | other label => rfl

-- Where the levels fit, the end of the stack makes no difference.
theorem level_within_fits {room : Nat} {nodes : List Node} (fits : Fits room nodes) :
    levelWithin room nodes = (runLevel nodes).result.mapError some := by
  induction room generalizing nodes with
  | zero => exact absurd fits (not_fits_zero nodes)
  | succ room ih =>
      have inside := fits_succ.mp fits
      induction nodes using count_cases with
      | single operand =>
          apply operand_within_fits
          rintro label nodes rfl
          exact ih (inside nodes (.only label nodes))
      | triple lhs operator rhs =>
          rw [triple_result]
          by_cases sign : operator.label.kind.isOperator = true
          · have left : operandWithin room lhs = (runOperand lhs).result.mapError some := by
              apply operand_within_fits
              rintro label nodes rfl
              exact ih (inside nodes (.left label nodes rhs sign))
            rw [triple_within room lhs rhs sign, if_pos sign, left]
            cases first : (runOperand lhs).result with
            | error fault => rfl
            | ok value =>
                have right : operandWithin room rhs = (runOperand rhs).result.mapError some := by
                  apply operand_within_fits
                  rintro label nodes rfl
                  exact ih (inside nodes (.right label nodes sign first))
                change (operandWithin room rhs).bind _ = Except.mapError some (Except.bind _ _)
                rw [right]
                cases (runOperand rhs).result <;> rfl
          · rw [levelWithin, if_neg sign, if_neg sign]
            rfl
      | other nodes notOne notThree =>
          rw [wrong_count_within room notOne notThree, wrong_count_result notOne notThree]
          rfl

end Node

def evaluateWithin (room : Nat) (tokens : List Token) :
    Except (Option (Fault EvalError)) Length := Node.levelWithin room (Node.ofTokens tokens)

theorem evaluate_within_fits {room : Nat} {tokens : List Token}
    (fits : Node.Fits room (Node.ofTokens tokens)) :
    evaluateWithin room tokens = (evaluate tokens).mapError some := Node.level_within_fits fits

-- An inch in brackets takes two levels.
example :
    evaluateWithin 2 [⟨⟨.paren, 0, []⟩, none, [⟨⟨.inches, 1, []⟩, some ⟨1, 0⟩, []⟩]⟩] =
        .ok ⟨1, 0⟩ ∧
      evaluateWithin 1 [⟨⟨.paren, 0, []⟩, none, [⟨⟨.inches, 1, []⟩, some ⟨1, 0⟩, []⟩]⟩] =
        .error none :=
  ⟨rfl, rfl⟩

end TapeMeasure

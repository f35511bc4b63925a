import TapeMeasure.Proofs.Expr.Summation

/- How a level fails. Every failure has one place: a level with a wrong number of nodes, a node
   in the middle that is no operator, an operand that is neither a literal nor a group, or a
   difference. What stands to the left of that place has a value, in every level around it. -/
set_option autoImplicit false

namespace TapeMeasure.Node

-- What comes of a difference: the error that shows both sides, if both can be written.
def refusal (lhs : Length) (operator : Label) (rhs : Length) : Fault EvalError :=
  match lhs.render, rhs.render with
  | some left, some right => .error (.subtraction left operator right)
  | _, _ => .overlong

inductive Fails : List Node → Fault EvalError → Prop where
  | count {nodes : List Node} (notOne : nodes.length ≠ 1) (notThree : nodes.length ≠ 3) :
      Fails nodes (.error (wrongCount (nodes.map label)))
  | unknown (label : Label) : Fails [.other label] (.error (.unknownNode label))
  | group (label : Label) {nodes : List Node} {fault : Fault EvalError}
      (inner : Fails nodes fault) : Fails [.group label nodes] fault
  | operator {lhs operator : Node} (rhs : Node) (none : operator.label.kind.isOperator = false) :
      Fails [lhs, operator, rhs]
        (.error (.expectedOperator operator.label [lhs.label, operator.label, rhs.label]))
  | left {lhs operator : Node} (rhs : Node) {fault : Fault EvalError}
      (sign : operator.label.kind.isOperator = true) (first : Fails [lhs] fault) :
      Fails [lhs, operator, rhs] fault
  | right {lhs operator rhs : Node} {left : List Length} {fault : Fault EvalError}
      (sign : operator.label.kind.isOperator = true) (first : Sums [lhs] left)
      (second : Fails [rhs] fault) : Fails [lhs, operator, rhs] fault
  | minus {lhs operator rhs : Node} {left right : List Length}
      (sign : operator.label.kind = .minus) (first : Sums [lhs] left)
      (second : Sums [rhs] right) :
      Fails [lhs, operator, rhs] (refusal (Length.sum left) operator.label (Length.sum right))

theorem two_nodes_fail {nodes : List Node} (two : nodes.length = 2) :
    Fails nodes (.error (.malformed (nodes.map label))) := by
  have fails : Fails nodes (.error (wrongCount (nodes.map label))) :=
    .count (by omega) (by omega)
  rw [wrongCount, List.length_map, if_pos (Or.inl two)] at fails
  exact fails

theorem operate_minus {lhs rhs : Length} {operator : Label} (sign : operator.kind = .minus) :
    operate lhs operator rhs = .error (refusal lhs operator rhs) := by
  have notPlus : operator.kind ≠ .plus := by
    rw [sign]
    exact nofun
  rw [operate, if_neg notPlus, refusal]
  cases lhs.render <;> cases rhs.render <;> rfl

theorem operator_cases {kind : Kind} (operator : kind.isOperator = true) :
    kind = .plus ∨ kind = .minus := by
  cases kind with
  | plus => exact Or.inl rfl
  | minus => exact Or.inr rfl
  | _ => exact absurd operator nofun

-- A level is told by its count: one operand, two around an operator, or a wrong number of nodes.
theorem count_cases {α : Type} {holds : List α → Prop} (single : ∀ operand, holds [operand])
    (triple : ∀ lhs operator rhs, holds [lhs, operator, rhs])
    (other : ∀ row : List α, row.length ≠ 1 → row.length ≠ 3 → holds row) (row : List α) :
    holds row := by
  rcases row with _ | ⟨first, _ | ⟨second, _ | ⟨third, _ | ⟨fourth, rest⟩⟩⟩⟩
  · exact other _ nofun nofun
  · exact single first
  · exact other _ nofun nofun
  · exact triple first second third
  · exact other _ (by simp) (by simp)

-- The whole run of a level that is neither one operand nor two around an operator.
theorem wrong_count_run {nodes : List Node} (notOne : nodes.length ≠ 1)
    (notThree : nodes.length ≠ 3) :
    runLevel nodes = .enter (nodes.map label) (.fail (wrongCount (nodes.map label))) := by
  rcases nodes with _ | ⟨first, _ | ⟨second, _ | ⟨third, _ | ⟨fourth, rest⟩⟩⟩⟩
  · rfl
  · exact absurd rfl notOne
  · rfl
  · exact absurd rfl notThree
  · rfl

theorem wrong_count_result {nodes : List Node} (notOne : nodes.length ≠ 1)
    (notThree : nodes.length ≠ 3) :
    (runLevel nodes).result = .error (.error (wrongCount (nodes.map label))) := by
  rw [wrong_count_run notOne notThree]
  rfl

theorem fails_result {nodes : List Node} {fault : Fault EvalError} (fails : Fails nodes fault)
    (regular : RegularLevel nodes) : (runLevel nodes).result = .error fault := by
  induction fails with
  | count notOne notThree => exact wrong_count_result notOne notThree
  | unknown label => rfl
  | group label inner ih => exact ih regular.1
  | operator rhs none =>
      have off : ¬ _ = true := Bool.eq_false_iff.mp none
      rw [triple_result, if_neg off]
  | left rhs sign first ih =>
      have failed := ih ⟨regular.1, trivial⟩
      rw [single_result] at failed
      rw [triple_result, if_pos sign, failed]
      rfl
  | right sign first second ih =>
      obtain ⟨lhs, -, rhs, -⟩ := regular
      have value := sums_result first ⟨lhs, trivial⟩
      have failed := ih ⟨rhs, trivial⟩
      rw [single_result] at value failed
      rw [triple_result, if_pos sign, value, failed]
      rfl
  | minus sign first second =>
      obtain ⟨lhs, -, rhs, -⟩ := regular
      have left := sums_result first ⟨lhs, trivial⟩
      have right := sums_result second ⟨rhs, trivial⟩
      rw [single_result] at left right
      rw [triple_result, if_pos (by rw [sign]; rfl), left, right]
      exact operate_minus sign

-- A level with a value adds up lengths, and every other level fails in one of the ways above.
mutual
theorem operand_outcome (node : Node) (regular : node.Regular) :
    (∃ values, Sums [node] values) ∨ ∃ fault, Fails [node] fault := by
  cases node with
  | group label nodes =>
      rcases level_outcome nodes regular with ⟨values, inner⟩ | ⟨fault, inner⟩
      · exact Or.inl ⟨values, .group label inner⟩
      · exact Or.inr ⟨fault, .group label inner⟩
  | literal label value => exact Or.inl ⟨[value], .literal label value⟩
  | other label => exact Or.inr ⟨_, .unknown label⟩
theorem level_outcome (nodes : List Node) (regular : RegularLevel nodes) :
    (∃ values, Sums nodes values) ∨ ∃ fault, Fails nodes fault := by
  rcases nodes with _ | ⟨lhs, _ | ⟨operator, _ | ⟨rhs, _ | ⟨fourth, rest⟩⟩⟩⟩
  · exact Or.inr ⟨_, .count nofun nofun⟩
  · exact operand_outcome lhs regular.1
  · exact Or.inr ⟨_, .count nofun nofun⟩
  · obtain ⟨first, -, second, -⟩ := regular
    cases sign : operator.label.kind.isOperator with
    | false => exact Or.inr ⟨_, .operator rhs sign⟩
    | true =>
        rcases operand_outcome lhs first with ⟨left, leftSums⟩ | ⟨fault, fails⟩
        · rcases operand_outcome rhs second with ⟨right, rightSums⟩ | ⟨fault, fails⟩
          · rcases operator_cases sign with plus | minus
            · exact Or.inl ⟨left ++ right, .plus leftSums plus rightSums⟩
            · exact Or.inr ⟨_, .minus minus leftSums rightSums⟩
          · exact Or.inr ⟨fault, .right sign leftSums fails⟩
        · exact Or.inr ⟨fault, .left rhs sign fails⟩
  · exact Or.inr ⟨_, .count (by simp) (by simp)⟩
end

theorem fails_iff {nodes : List Node} {fault : Fault EvalError} (regular : RegularLevel nodes) :
    (runLevel nodes).result = .error fault ↔ Fails nodes fault := by
  constructor
  · intro failed
    rcases level_outcome nodes regular with ⟨values, sums⟩ | ⟨other, fails⟩
    · rw [sums_result sums regular] at failed
      exact absurd failed nofun
    · rw [fails_result fails regular] at failed
      obtain rfl := Except.error.inj failed
      exact fails
  · exact fun fails => fails_result fails regular

end TapeMeasure.Node

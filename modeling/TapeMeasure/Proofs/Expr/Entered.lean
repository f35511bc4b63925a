import TapeMeasure.Expr.Evaluate

/- Which levels an evaluation enters. It begins with the level that it is of, and from a level it
   goes on into the groups that are operands of it, into the right one only if the left one has a
   value. Every level that is entered is reached by such steps, and its depth is their number. -/
set_option autoImplicit false

namespace TapeMeasure

namespace Run

theorem and_then_done_entered (run : Run) (next : Length → Except (Fault EvalError) Length) :
    (run.andThen fun value => done (next value)).entered = run.entered := by
  unfold andThen
  cases run.result with
  | error fault => rfl
  | ok value => exact List.append_nil run.entered

theorem and_then_entered (run : Run) (next : Length → Run) :
    (run.andThen next).entered =
      run.entered ++
        match run.result with
        | .ok value => (next value).entered
        | .error _ => [] := by
  unfold andThen
  cases run.result with
  | error fault => exact (List.append_nil run.entered).symm
  | ok value => rfl

end Run

namespace Node

-- The evaluation of the first level leads to the second, inside one of its groups.
inductive Opens : List Node → List Node → Prop where
  | only (label : Label) (nodes : List Node) : Opens [.group label nodes] nodes
  | left (label : Label) (nodes : List Node) {operator : Node} (rhs : Node)
      (sign : operator.label.kind.isOperator = true) :
      Opens [.group label nodes, operator, rhs] nodes
  | right {lhs operator : Node} {value : Length} (label : Label) (nodes : List Node)
      (sign : operator.label.kind.isOperator = true)
      (first : (runOperand lhs).result = .ok value) :
      Opens [lhs, operator, .group label nodes] nodes

-- The evaluation of the nodes enters this level as one of so many levels inside one another.
inductive Enters (nodes : List Node) : Nat → List Node → Prop where
  | start : Enters nodes 1 nodes
  | into {depth : Nat} {outer inner : List Node} (outside : Enters nodes depth outer)
      (opens : Opens outer inner) : Enters nodes (depth + 1) inner

theorem enters_behind {depth : Nat} {outer nodes inner : List Node} (opens : Opens outer nodes)
    (entered : Enters nodes depth inner) : Enters outer (depth + 1) inner := by
  induction entered with
  | start => exact .into .start opens
  | into outside deeper ih => exact .into ih deeper

theorem level_entered (nodes : List Node) : nodes.map label ∈ (runLevel nodes).entered := by
  rcases nodes with _ | ⟨lhs, _ | ⟨operator, _ | ⟨rhs, _ | ⟨fourth, rest⟩⟩⟩⟩
  all_goals exact List.mem_cons_self

-- The right side is entered behind the left one, if this has a value.
theorem triple_entered (lhs operator rhs : Node) :
    (runLevel [lhs, operator, rhs]).entered =
      [lhs.label, operator.label, rhs.label] ::
        if operator.label.kind.isOperator then
          (runOperand lhs).entered ++
            match (runOperand lhs).result with
            | .ok _ => (runOperand rhs).entered
            | .error _ => []
        else [] := by
  rw [runLevel, Run.enter]
  split
  · rw [Run.and_then_entered]
    simp only [Run.and_then_done_entered]
  · rfl

mutual
theorem operand_enters (node : Node) {level : Level} {outer : List Node}
    (entered : level ∈ (runOperand node).entered)
    (opens : ∀ label nodes, node = .group label nodes → Opens outer nodes) :
    ∃ depth inner, Enters outer depth inner ∧ level = inner.map label := by
  cases node with
  | group label nodes =>
      obtain ⟨depth, inner, enters, same⟩ := level_enters nodes entered
      exact ⟨depth + 1, inner, enters_behind (opens label nodes rfl) enters, same⟩
  | literal label value => exact absurd entered nofun
  | other label => exact absurd entered nofun
theorem level_enters (nodes : List Node) {level : Level}
    (entered : level ∈ (runLevel nodes).entered) :
    ∃ depth inner, Enters nodes depth inner ∧ level = inner.map label := by
  rcases nodes with _ | ⟨lhs, _ | ⟨operator, _ | ⟨rhs, _ | ⟨fourth, rest⟩⟩⟩⟩
  · exact ⟨1, _, .start, List.mem_singleton.mp entered⟩
  · cases List.mem_cons.mp entered with
    | inl same => exact ⟨1, _, .start, same⟩
    | inr inside =>
        apply operand_enters lhs inside
        rintro label nodes rfl
        exact .only label nodes
  · exact ⟨1, _, .start, List.mem_singleton.mp entered⟩
  · rw [triple_entered] at entered
    cases List.mem_cons.mp entered with
    | inl same => exact ⟨1, _, .start, same⟩
    | inr inside =>
        split at inside
        · rename_i sign
          cases List.mem_append.mp inside with
          | inl inLeft =>
              apply operand_enters lhs inLeft
              rintro label nodes rfl
              exact .left label nodes rhs sign
          | inr inRight =>
              split at inRight
              · rename_i value first
                apply operand_enters rhs inRight
                rintro label nodes rfl
                exact .right label nodes sign first
              · exact absurd inRight nofun
        · exact absurd inside nofun
  · exact ⟨1, _, .start, List.mem_singleton.mp entered⟩
end

theorem opens_entered {outer inner : List Node} (opens : Opens outer inner) {level : Level}
    (entered : level ∈ (runLevel inner).entered) : level ∈ (runLevel outer).entered := by
  cases opens with
  | only label nodes => exact List.mem_cons_of_mem _ entered
  | left label nodes rhs sign =>
      rw [triple_entered, if_pos sign]
      exact List.mem_cons_of_mem _ (List.mem_append_left _ entered)
  | right label nodes sign first =>
      rw [triple_entered, if_pos sign, first]
      exact List.mem_cons_of_mem _ (List.mem_append_right _ entered)

theorem entered_iff {nodes : List Node} {level : Level} :
    level ∈ (runLevel nodes).entered ↔
      ∃ depth inner, Enters nodes depth inner ∧ level = inner.map label := by
  constructor
  · exact level_enters nodes
  · rintro ⟨depth, inner, enters, rfl⟩
    have inside : ∀ level ∈ (runLevel inner).entered, level ∈ (runLevel nodes).entered := by
      induction enters with
      | start => exact fun level entered => entered
      | into outside opens ih => exact fun level entered => ih level (opens_entered opens entered)
    exact inside _ (level_entered inner)

end Node

end TapeMeasure

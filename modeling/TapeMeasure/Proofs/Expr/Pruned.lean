import TapeMeasure.Proofs.Expr.GoodLevel

/- What an evaluation looks at. It goes from level to level over the tokens as they are: it drops the
   blanks of a level, counts the rest, looks at the operator, and then goes into the left and the
   right side. So nothing but labels, the lengths of literals and the insides of brackets can make
   a difference, neither to a length nor to an error. -/
set_option autoImplicit false

namespace TapeMeasure

namespace Token

-- The value of a token as an operand.
def evaluated (token : Token) : Except (Fault EvalError) Length :=
  if token.label.kind = .paren then evaluate token.nodes
  else
    match token.literalValue with
    | some value => .ok value
    | none => .error (.error (.unknownNode token.label))

-- What comes of the tokens of a level once blanks are gone.
def reduced : List Token → Except (Fault EvalError) Length
  | [operand] => operand.evaluated
  | [lhs, operator, rhs] =>
      if operator.label.kind.isOperator then
        lhs.evaluated.bind fun left =>
          rhs.evaluated.bind fun right => Node.operate left operator.label right
      else
        .error (.error
          (.expectedOperator operator.label [lhs.label, operator.label, rhs.label]))
  | others => .error (.error (Node.wrongCount (others.map label)))

theorem reduced_wrong_count {solid : List Token} (notOne : solid.length ≠ 1)
    (notThree : solid.length ≠ 3) :
    reduced solid = .error (.error (Node.wrongCount (solid.map label))) := by
  rcases solid with _ | ⟨first, _ | ⟨second, _ | ⟨third, _ | ⟨fourth, rest⟩⟩⟩⟩
  · rfl
  · exact absurd rfl notOne
  · rfl
  · exact absurd rfl notThree
  · rfl

end Token

theorem operand_result (token : Token) :
    (Node.runOperand (Node.ofToken token)).result = token.evaluated := by
  rw [Node.of_token_eq, Token.evaluated, Token.literalValue]
  by_cases paren : token.label.kind = .paren
  · rw [if_pos paren, if_pos paren]
    rfl
  · rw [if_neg paren, if_neg paren]
    by_cases literal : token.label.kind.isValue = true
    · rw [if_pos literal, if_pos literal]
      cases token.value <;> rfl
    · rw [if_neg literal, if_neg literal]
      rfl

theorem level_result (solid : List Token) :
    (Node.runLevel (solid.map Node.ofToken)).result = Token.reduced solid := by
  induction solid using Node.count_cases with
  | single operand => exact operand_result operand
  | triple lhs operator rhs =>
      have whole := Node.triple_result (Node.ofToken lhs) (Node.ofToken operator) (Node.ofToken rhs)
      simp only [operand_result, Node.of_token_label] at whole
      exact whole
  | other row notOne notThree =>
      rw [Node.wrong_count_result (by rwa [List.length_map]) (by rwa [List.length_map]),
        Node.of_token_labels, Token.reduced_wrong_count notOne notThree]

-- The evaluation of a level in terms of its own tokens and of the levels inside them.
theorem evaluate_level (tokens : List Token) :
    evaluate tokens = Token.reduced (Token.solid tokens) := by
  rw [evaluate, Run.ofTokens, Node.of_tokens_solid, level_result]

namespace Token

-- The tokens with all gone that an evaluation does not look at.
mutual
def pruned : Token → Token
  | ⟨label, value, nodes⟩ =>
      ⟨label, if label.kind.isValue then value else none,
        if label.kind = .paren then prunedLevel nodes else []⟩
def prunedLevel : List Token → List Token
  | [] => []
  | token :: rest =>
      if token.label.kind = .whitespace then prunedLevel rest
      else pruned token :: prunedLevel rest
end

theorem pruned_eq (token : Token) :
    token.pruned =
      ⟨token.label, token.literalValue,
        if token.label.kind = .paren then prunedLevel token.nodes else []⟩ := by
  cases token
  rw [pruned]
  rfl

theorem pruned_label (token : Token) : token.pruned.label = token.label := by
  rw [pruned_eq]

theorem pruned_labels (tokens : List Token) :
    (tokens.map pruned).map label = tokens.map label := by
  rw [List.map_map]
  exact List.map_congr_left fun token _ => pruned_label token

theorem pruned_literal_value (token : Token) : token.pruned.literalValue = token.literalValue := by
  rw [pruned_eq, literalValue, literalValue]
  split <;> rfl

theorem pruned_level_solid (tokens : List Token) :
    solid (prunedLevel tokens) = (solid tokens).map pruned := by
  induction tokens with
  | nil => rfl
  | cons token rest ih =>
      rw [prunedLevel, solid_cons]
      by_cases blank : token.label.kind = .whitespace
      · rw [if_pos blank, if_pos blank, ih]
      · rw [if_neg blank, if_neg blank, solid_cons, pruned_label, if_neg blank, ih, List.map_cons]

theorem reduced_pruned {solid : List Token}
    (same : ∀ token ∈ solid, token.pruned.evaluated = token.evaluated) :
    reduced (solid.map pruned) = reduced solid := by
  induction solid using Node.count_cases with
  | single operand => exact same operand List.mem_cons_self
  | triple lhs operator rhs =>
      have left := same lhs (by simp)
      have right := same rhs (by simp)
      simp only [List.map_cons, List.map_nil, reduced, pruned_label, left, right]
  | other row notOne notThree =>
      rw [reduced_wrong_count (by rwa [List.length_map]) (by rwa [List.length_map]),
        reduced_wrong_count notOne notThree, pruned_labels]

theorem evaluate_pruned (tokens : List Token) : evaluate (prunedLevel tokens) = evaluate tokens := by
  induction tokens using level_induction with
  | step tokens inside =>
      have operands : ∀ token ∈ solid tokens, token.pruned.evaluated = token.evaluated := by
        intro token member
        rw [evaluated, evaluated, pruned_label, pruned_literal_value, pruned_eq]
        by_cases paren : token.label.kind = .paren
        · rw [if_pos paren, if_pos paren, if_pos paren, inside token member]
        · rw [if_neg paren, if_neg paren]
      rw [evaluate_level, evaluate_level tokens, pruned_level_solid, reduced_pruned operands]

end Token

theorem evaluate_of_pruned_level {first second : List Token}
    (same : Token.prunedLevel first = Token.prunedLevel second) :
    evaluate first = evaluate second := by
  rw [← Token.evaluate_pruned first, same, Token.evaluate_pruned]

-- Blanks in and outside of brackets, lengths of brackets and operators and tokens inside literals
-- leave no mark, here on the error of a difference.
theorem loose_parts_unseen :
    Token.prunedLevel
        [⟨⟨.paren, 0, ['(']⟩, none,
            [⟨⟨.whitespace, 1, [' ']⟩, none, []⟩, ⟨⟨.inches, 2, ['3']⟩, some ⟨3, 0⟩, []⟩]⟩,
          ⟨⟨.whitespace, 5, [' ']⟩, none, []⟩, ⟨⟨.minus, 6, ['-']⟩, none, []⟩,
          ⟨⟨.feet, 7, ['1']⟩, some ⟨12, 0⟩, []⟩] =
      Token.prunedLevel
        [⟨⟨.paren, 0, ['(']⟩, some ⟨7, 7⟩,
            [⟨⟨.inches, 2, ['3']⟩, some ⟨3, 0⟩, [⟨⟨.plus, 0, []⟩, none, []⟩]⟩]⟩,
          ⟨⟨.minus, 6, ['-']⟩, some ⟨1, 0⟩, [⟨⟨.minus, 0, []⟩, none, []⟩]⟩,
          ⟨⟨.feet, 7, ['1']⟩, some ⟨12, 0⟩, []⟩, ⟨⟨.whitespace, 9, []⟩, some ⟨2, 0⟩, []⟩] ∧
      evaluate
          [⟨⟨.paren, 0, ['(']⟩, none,
              [⟨⟨.whitespace, 1, [' ']⟩, none, []⟩, ⟨⟨.inches, 2, ['3']⟩, some ⟨3, 0⟩, []⟩]⟩,
            ⟨⟨.whitespace, 5, [' ']⟩, none, []⟩, ⟨⟨.minus, 6, ['-']⟩, none, []⟩,
            ⟨⟨.feet, 7, ['1']⟩, some ⟨12, 0⟩, []⟩] =
        evaluate
          [⟨⟨.paren, 0, ['(']⟩, some ⟨7, 7⟩,
              [⟨⟨.inches, 2, ['3']⟩, some ⟨3, 0⟩, [⟨⟨.plus, 0, []⟩, none, []⟩]⟩]⟩,
            ⟨⟨.minus, 6, ['-']⟩, some ⟨1, 0⟩, [⟨⟨.minus, 0, []⟩, none, []⟩]⟩,
            ⟨⟨.feet, 7, ['1']⟩, some ⟨12, 0⟩, []⟩, ⟨⟨.whitespace, 9, []⟩, some ⟨2, 0⟩, []⟩] ∧
      evaluate
          [⟨⟨.paren, 0, ['(']⟩, none,
              [⟨⟨.whitespace, 1, [' ']⟩, none, []⟩, ⟨⟨.inches, 2, ['3']⟩, some ⟨3, 0⟩, []⟩]⟩,
            ⟨⟨.whitespace, 5, [' ']⟩, none, []⟩, ⟨⟨.minus, 6, ['-']⟩, none, []⟩,
            ⟨⟨.feet, 7, ['1']⟩, some ⟨12, 0⟩, []⟩] =
        .error (.error
          (.subtraction ['3', '"'] ⟨.minus, 6, ['-']⟩ ['1', '\''])) :=
  ⟨rfl, evaluate_of_pruned_level rfl, by decide⟩

end TapeMeasure

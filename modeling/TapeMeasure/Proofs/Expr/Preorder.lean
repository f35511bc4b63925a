import TapeMeasure.Proofs.Expr.GoodLevel

/- The order in which an evaluation enters levels. It is that of the text: a level comes before the
   levels inside its brackets, and these come from left to right. An evaluation that fails leaves
   out some of the last of them, and one with a value leaves out none. -/
set_option autoImplicit false

namespace TapeMeasure

namespace Token

-- The levels inside the brackets of a token, from the outermost one on.
mutual
def innerLevels : Token → List Level
  | ⟨label, _, nodes⟩ =>
      if label.kind = .paren then (solid nodes).map Token.label :: levelsInside nodes else []
def levelsInside : List Token → List Level
  | [] => []
  | token :: rest => innerLevels token ++ levelsInside rest
end

-- The level of the tokens and all levels inside it, each before those in its own brackets.
def preorder (tokens : List Token) : List Level :=
  (solid tokens).map label :: levelsInside tokens

theorem inner_levels_group {token : Token} (paren : token.label.kind = .paren) :
    innerLevels token = preorder token.nodes := by
  cases token
  rw [innerLevels, if_pos paren]
  rfl

theorem inner_levels_other {token : Token} (notParen : token.label.kind ≠ .paren) :
    innerLevels token = [] := by
  cases token
  rw [innerLevels, if_neg notParen]

theorem levels_inside_solid (tokens : List Token) :
    levelsInside tokens = (solid tokens).flatMap innerLevels := by
  induction tokens with
  | nil => rfl
  | cons token rest ih =>
      rw [levelsInside, solid_cons, ih]
      by_cases blank : token.label.kind = .whitespace
      · have notParen : token.label.kind ≠ .paren := by
          rw [blank]
          exact nofun
        rw [if_pos blank, inner_levels_other notParen, List.nil_append]
      · rw [if_neg blank, List.flatMap_cons]

theorem operator_not_paren {kind : Kind} (operator : kind.isOperator = true) : kind ≠ .paren := by
  rintro rfl
  exact absurd operator nofun

end Token

namespace Run

-- The run enters these levels one after the other as far as it gets, and gets through all of them
-- if it gives a value.
structure Follows (run : Run) (levels : List Level) : Prop where
  begins : run.entered <+: levels
  whole : ∀ value, run.result = .ok value → run.entered = levels

theorem follows_done (result : Except (Fault EvalError) Length) : (done result).Follows [] :=
  ⟨List.prefix_rfl, fun _ _ => rfl⟩

theorem follows_fail (error : EvalError) (levels : List Level) : (fail error).Follows levels :=
  ⟨List.nil_prefix, nofun⟩

theorem follows_enter {run : Run} {levels : List Level} (level : Level)
    (follows : run.Follows levels) : (enter level run).Follows (level :: levels) :=
  ⟨List.cons_prefix_cons.mpr ⟨rfl, follows.begins⟩,
    fun value result => congrArg (level :: ·) (follows.whole value result)⟩

-- What comes behind a run is entered only behind all levels of that run.
theorem follows_and_then {run : Run} {next : Length → Run} {levels others : List Level}
    (first : run.Follows levels) (second : ∀ value, (next value).Follows others) :
    (run.andThen next).Follows (levels ++ others) := by
  have entered := and_then_entered run next
  have result := and_then_result run next
  cases found : run.result with
  | error fault =>
      rw [found] at entered result
      rw [List.append_nil] at entered
      constructor
      case begins =>
        rw [entered]
        exact first.begins.trans (List.prefix_append levels others)
      case whole =>
        intro value given
        rw [result] at given
        exact absurd given nofun
  | ok left =>
      rw [found] at entered result
      have all := first.whole left found
      constructor
      case begins =>
        rw [entered, all]
        exact (List.prefix_append_right_inj levels).mpr (second left).begins
      case whole =>
        intro value given
        rw [result] at given
        rw [entered, all]
        exact congrArg (levels ++ ·) ((second left).whole value given)

end Run

namespace Node

theorem single_follows {operand : Node} {levels : List Level}
    (inside : (runOperand operand).Follows levels) :
    (runLevel [operand]).Follows ([operand.label] :: levels) :=
  Run.follows_enter [operand.label] inside

-- Only a node that is no operator has levels inside it that would be left out.
theorem triple_follows {lhs operator rhs : Node} {left middle right : List Level}
    (first : (runOperand lhs).Follows left)
    (sign : operator.label.kind.isOperator = true → middle = [])
    (second : (runOperand rhs).Follows right) :
    (runLevel [lhs, operator, rhs]).Follows
      ([lhs.label, operator.label, rhs.label] :: (left ++ (middle ++ right))) := by
  rw [runLevel]
  apply Run.follows_enter
  split
  · rename_i known
    rw [sign known, List.nil_append, ← List.append_nil right]
    exact Run.follows_and_then first fun _ =>
      Run.follows_and_then second fun _ => Run.follows_done _
  · exact Run.follows_fail _ _

theorem operand_follows {token : Token}
    (inside : (runLevel (ofTokens token.nodes)).Follows (Token.preorder token.nodes)) :
    (runOperand (ofToken token)).Follows (Token.innerLevels token) := by
  rw [of_token_eq]
  by_cases paren : token.label.kind = .paren
  · rw [if_pos paren, Token.inner_levels_group paren]
    exact inside
  · rw [if_neg paren, Token.inner_levels_other paren]
    split
    · split
      · exact Run.follows_done _
      · exact Run.follows_fail _ _
    · exact Run.follows_fail _ _

theorem solid_follows {solid : List Token}
    (operands : ∀ token ∈ solid, (runOperand (ofToken token)).Follows (Token.innerLevels token)) :
    (runLevel (solid.map ofToken)).Follows
      (solid.map Token.label :: solid.flatMap Token.innerLevels) := by
  induction solid using count_cases with
  | single operand =>
      have whole := single_follows (operands operand List.mem_cons_self)
      rw [of_token_label] at whole
      rw [List.flatMap_singleton]
      exact whole
  | triple lhs operator rhs =>
      have sign (known : (ofToken operator).label.kind.isOperator = true) :
          Token.innerLevels operator = [] := by
        rw [of_token_label] at known
        exact Token.inner_levels_other (Token.operator_not_paren known)
      have whole := triple_follows (operands lhs (by simp)) sign (operands rhs (by simp))
      simp only [of_token_label] at whole
      simp only [List.flatMap_cons, List.flatMap_nil, List.append_nil]
      exact whole
  | other row notOne notThree =>
      rw [wrong_count_run (by rwa [List.length_map]) (by rwa [List.length_map]), of_token_labels]
      exact Run.follows_enter _ (Run.follows_fail _ _)

theorem level_follows (tokens : List Token) :
    (runLevel (ofTokens tokens)).Follows (Token.preorder tokens) := by
  induction tokens using Token.level_induction with
  | step tokens inside =>
      rw [of_tokens_solid, Token.preorder, Token.levels_inside_solid]
      exact solid_follows fun token member => operand_follows (inside token member)

end Node

end TapeMeasure

import Mathlib.Data.List.Basic
import TapeMeasure.Proofs.Expr.Stack
import TapeMeasure.Proofs.Token.Layout

/- Levels of tokens put together in any way. A level is good if it is one operand, or two operands
   around a plus, and so on inside every group of it; these are the levels with a value. What a
   token holds besides does not matter. A stack with an end gives the same value, or it is full. -/
set_option autoImplicit false

namespace TapeMeasure

namespace Token

-- The tokens of a level without the blanks.
def solid (tokens : List Token) : List Token :=
  tokens.filter fun token => decide (token.label.kind ≠ .whitespace)

mutual
inductive GoodOperand : Token → Prop where
  | group {token : Token} (paren : token.label.kind = .paren) (inner : GoodLevel token.nodes) :
      GoodOperand token
  | literal {token : Token} {value : Length} (kind : token.label.kind.isValue = true)
      (carried : token.value = some value) : GoodOperand token
inductive GoodLevel : List Token → Prop where
  | single {tokens : List Token} {operand : Token} (only : solid tokens = [operand])
      (good : GoodOperand operand) : GoodLevel tokens
  | plus {tokens : List Token} {lhs operator rhs : Token}
      (three : solid tokens = [lhs, operator, rhs]) (sign : operator.label.kind = .plus)
      (first : GoodOperand lhs) (second : GoodOperand rhs) : GoodLevel tokens
end

-- The tokens without the blanks, those inside brackets behind their group.
mutual
def reach : Token → List Token
  | ⟨label, value, nodes⟩ =>
      if label.kind = .whitespace then []
      else if label.kind = .paren then ⟨label, value, nodes⟩ :: reached nodes
      else [⟨label, value, nodes⟩]
def reached : List Token → List Token
  | [] => []
  | token :: rest => reach token ++ reached rest
end

def literalValue (token : Token) : Option Length :=
  if token.label.kind.isValue then token.value else none

-- The values of the literals in a level and in its groups.
def values (tokens : List Token) : List Length := (reached tokens).filterMap literalValue

theorem reach_eq (token : Token) :
    reach token =
      if token.label.kind = .whitespace then []
      else if token.label.kind = .paren then token :: reached token.nodes
      else [token] := by
  cases token
  rw [reach]

theorem value_kind_other {kind : Kind} (value : kind.isValue = true) :
    kind ≠ .whitespace ∧ kind ≠ .paren := by
  cases kind <;> simp_all [Kind.isValue]

theorem reach_group {token : Token} (paren : token.label.kind = .paren) :
    reach token = token :: reached token.nodes := by
  rw [reach_eq, if_neg (by simp [paren]), if_pos paren]

theorem reach_other {token : Token} (notBlank : token.label.kind ≠ .whitespace)
    (notParen : token.label.kind ≠ .paren) : reach token = [token] := by
  rw [reach_eq, if_neg notBlank, if_neg notParen]

theorem solid_cons (token : Token) (rest : List Token) :
    solid (token :: rest) =
      if token.label.kind = .whitespace then solid rest else token :: solid rest := by
  by_cases blank : token.label.kind = .whitespace <;> simp [solid, blank]

theorem reached_solid (tokens : List Token) : reached tokens = (solid tokens).flatMap reach := by
  induction tokens with
  | nil => rfl
  | cons token rest ih =>
      rw [reached, solid_cons, ih]
      by_cases blank : token.label.kind = .whitespace
      · rw [reach_eq, if_pos blank, if_pos blank, List.nil_append]
      · rw [if_neg blank, List.flatMap_cons]

-- A statement about levels may be shown from the same statement about the levels inside.
theorem level_induction {holds : List Token → Prop}
    (step : ∀ tokens, (∀ token ∈ solid tokens, holds token.nodes) → holds tokens)
    (tokens : List Token) : holds tokens :=
  step tokens fun token _ => level_induction step token.nodes
termination_by sizeOf tokens
decreasing_by
  rename_i member
  have inside := List.sizeOf_lt_of_mem (List.mem_of_mem_filter member)
  cases token
  simp only [mk.sizeOf_spec] at inside ⊢
  omega

theorem reach_plus {operator : Token} (sign : operator.label.kind = .plus) :
    reach operator = [operator] := by
  apply reach_other
  · rw [sign]
    exact nofun
  · rw [sign]
    exact nofun

theorem values_plus {operator : Token} (sign : operator.label.kind = .plus) (lhs rhs : Token) :
    ([lhs, operator, rhs].flatMap reach).filterMap literalValue =
      (reach lhs).filterMap literalValue ++ (reach rhs).filterMap literalValue := by
  have noValue : operator.literalValue = none := by
    rw [literalValue, sign]
    rfl
  simp [reach_plus sign, noValue]

end Token

namespace Node

theorem of_tokens_solid (tokens : List Token) :
    ofTokens tokens = (Token.solid tokens).map ofToken := by
  induction tokens with
  | nil => rfl
  | cons token rest ih =>
      rw [ofTokens, Token.solid_cons, ih]
      by_cases blank : token.label.kind = .whitespace
      · rw [if_pos blank, if_pos blank]
      · rw [if_neg blank, if_neg blank, List.map_cons]

theorem of_token_label (token : Token) : (ofToken token).label = token.label := by
  rw [of_token_eq]
  split
  · rfl
  · split
    · split <;> rfl
    · rfl

theorem of_token_labels (tokens : List Token) :
    (tokens.map ofToken).map label = tokens.map Token.label := by
  rw [List.map_map]
  exact List.map_congr_left fun token _ => of_token_label token

mutual
theorem good_operand_sums {token : Token} : token.GoodOperand →
    Sums [ofToken token] ((Token.reach token).filterMap Token.literalValue)
  | .group paren inner => by
      have noValue : token.literalValue = none := by
        rw [Token.literalValue, paren]
        rfl
      rw [of_token_eq, if_pos paren, Token.reach_group paren, List.filterMap_cons_none noValue]
      exact .group token.label (good_level_sums inner)
  | @Token.GoodOperand.literal _ value kind carried => by
      have other := Token.value_kind_other kind
      have literalValue : token.literalValue = some value := by
        rw [Token.literalValue, if_pos kind, carried]
      rw [of_token_eq, if_neg other.2, if_pos kind, carried, Token.reach_other other.1 other.2,
        List.filterMap_cons_some literalValue]
      exact .literal token.label value
theorem good_level_sums {tokens : List Token} : Token.GoodLevel tokens →
    Sums (ofTokens tokens) (Token.values tokens)
  | .single only operand => by
      have sums := good_operand_sums operand
      rw [of_tokens_solid, Token.values, Token.reached_solid, only]
      simpa using sums
  | .plus three sign first second => by
      have left := good_operand_sums first
      have right := good_operand_sums second
      rw [of_tokens_solid, Token.values, Token.reached_solid, three, Token.values_plus sign]
      exact .plus left (by rw [of_token_label]; exact sign) right
end

mutual
theorem normal_regular (token : Token)
    (normal : ∀ other value, other = token ∨ Token.Occurs other token.nodes →
      other.value = some value → value.Normal) : (ofToken token).Regular := by
  cases token with
  | mk label value nodes =>
      rw [of_token_eq]
      split
      · exact normal_level_regular nodes fun other found occurs =>
          normal other found (Or.inr occurs)
      · split
        · split
          · rename_i found carried
            exact normal _ found (Or.inl rfl) carried
          · trivial
        · trivial
theorem normal_level_regular (tokens : List Token)
    (normal : ∀ token value, Token.Occurs token tokens → token.value = some value →
      value.Normal) : RegularLevel (ofTokens tokens) := by
  cases tokens with
  | nil => trivial
  | cons token rest =>
      have first := normal_regular token fun other value place =>
        normal other value (Token.occurs_cons.mpr (Or.inl place))
      have others := normal_level_regular rest fun other value occurs =>
        normal other value (Token.occurs_cons.mpr (Or.inr occurs))
      rw [ofTokens]
      split
      · exact others
      · exact ⟨first, others⟩
end

end Node

end TapeMeasure

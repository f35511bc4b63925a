import TapeMeasure.Proofs.Expr.Skeleton
import TapeMeasure.Proofs.Expr.Stack
import TapeMeasure.Proofs.Token.Stop

/- How deep a text can nest. It is refused if more brackets are open at any place of it than the
   limit allows, whatever else is wrong with it. No scan of a text that is not refused has more
   calls inside one another than the limit and the first one, and neither has an evaluation of
   the tokens that come of it, so that a stack with room for these is never full. -/
set_option autoImplicit false

namespace TapeMeasure

namespace Token

-- How many groups stand inside one another.
mutual
def depth : Token → Nat
  | ⟨label, _, nodes⟩ => if label.kind = .paren then deepest nodes + 1 else deepest nodes
def deepest : List Token → Nat
  | [] => 0
  | token :: rest => max token.depth (deepest rest)
end

-- The calls that scan a text, each for the rest of a level from this position on, and how many
-- levels are being scanned then.
inductive Calls (separator : Separator) (text : Text) : Nat → Nat → Text → Prop where
  | start (shallow : Nesting.excess text = none) : Calls separator text 1 0 text
  | on {level position : Nat} {c : Char} {rest after : Text} {lexeme : Lexeme} {token : Token}
      (called : Calls separator text level position (c :: rest))
      (found : Lexeme.read separator c rest = .ok (lexeme, after))
      (made : ofLexeme separator position lexeme = .ok token) :
      Calls separator text level (position + lexeme.spelling.length) after
  | into {level position : Nat} {c : Char} {rest inner after : Text}
      (called : Calls separator text level position (c :: rest))
      (found : Lexeme.read separator c rest = .ok (.group inner, after)) :
      Calls separator text (level + 1) (position + 1) inner

-- A text that is scanned at its place, behind so many brackets that are open there.
structure Within (text : Text) (opened position : Nat) (cs front behind : Text) : Prop where
  spelled : text = front ++ (cs ++ behind)
  place : position = front.length
  counted : Nesting.openAfter 0 front = some opened

theorem within_on {text cs front behind spelling after : Text} {opened position : Nat}
    (within : Within text opened position cs front behind) (cut : cs = spelling ++ after)
    (balanced : Nesting.Balanced spelling) :
    Within text opened (position + spelling.length) after (front ++ spelling) behind := by
  constructor
  case spelled => rw [within.spelled, cut, List.append_assoc, List.append_assoc]
  case place => rw [within.place, List.length_append]
  case counted =>
    have raised := Nesting.open_after_raise opened balanced
    rw [Nat.zero_add] at raised
    rw [Nesting.open_after_append, within.counted]
    exact raised

theorem within_into {text cs front behind inner after : Text} {opened position : Nat}
    (within : Within text opened position cs front behind)
    (cut : cs = (Lexeme.group inner).spelling ++ after) :
    Within text (opened + 1) (position + 1) inner (front ++ ['(']) (')' :: (after ++ behind)) := by
  constructor
  case spelled => simp [within.spelled, cut, Lexeme.spelling]
  case place => rw [within.place, List.length_append, List.length_singleton]
  case counted =>
    rw [Nesting.open_after_append, within.counted]
    rfl

theorem calls_within {separator : Separator} {text cs : Text} {level position : Nat}
    (called : Calls separator text level position cs) :
    ∃ opened front behind, level = opened + 1 ∧ Within text opened position cs front behind := by
  induction called with
  | start shallow => exact ⟨0, [], [], rfl, (List.append_nil text).symm, rfl, rfl⟩
  | on called found made ih =>
      obtain ⟨opened, front, behind, levels, within⟩ := ih
      obtain ⟨cut, valid, -⟩ := Lexeme.read_iff.mp found
      exact ⟨opened, _, _, levels, within_on within cut (Lexeme.spelling_balanced valid)⟩
  | into called found ih =>
      obtain ⟨opened, front, behind, levels, within⟩ := ih
      obtain ⟨cut, -⟩ := Lexeme.read_iff.mp found
      exact ⟨opened + 1, _, _, by rw [levels], within_into within cut⟩

theorem calls_shallow {separator : Separator} {text cs : Text} {level position : Nat}
    (called : Calls separator text level position cs) : Nesting.excess text = none := by
  induction called with
  | start shallow => exact shallow
  | on called found made ih => exact ih
  | into called found ih => exact ih

theorem calls_level {separator : Separator} {text cs : Text} {level position : Nat}
    (called : Calls separator text level position cs) : level ≤ Nesting.maxDepth + 1 := by
  obtain ⟨opened, front, behind, rfl, within⟩ := calls_within called
  have begins : front <+: text := ⟨cs ++ behind, within.spelled.symm⟩
  have bounded := (Nesting.excess_none_unclosed text).mp (calls_shallow called) front begins
  have counted : Nesting.unclosed front = opened := Nesting.unclosed_of_counted within.counted
  omega

end Token

namespace Piece

theorem literal_depth (position : Nat) (read : Literal) :
    (Piece.token position (.literal read)).depth = 0 := by
  have notParen : read.kind ≠ .paren := not_value_kind (literal_kind_value read) rfl
  rw [token, Token.literal, Token.depth, if_neg notParen]
  rfl

mutual
theorem token_depth (piece : Piece) (position : Nat) :
    (piece.token position).depth = piece.depth := by
  cases piece with
  | literal read => exact literal_depth position read
  | group inner =>
      rw [token, Token.group, Token.depth, if_pos rfl, tokens_deepest inner, depth]
  | _ => rfl
theorem tokens_deepest (pieces : List Piece) (position : Nat) :
    Token.deepest (tokens position pieces) = deepest pieces := by
  cases pieces with
  | nil => rfl
  | cons piece rest =>
      rw [tokens, Token.deepest, token_depth piece, tokens_deepest rest, deepest]
end

end Piece

theorem tokenize_deepest {separator : Separator} {text : Text} {tokens : List Token}
    (scanned : tokenize separator text = .ok tokens) :
    Token.deepest tokens ≤ Nesting.maxDepth := by
  obtain ⟨pieces, -, shallow, -, rfl⟩ := Piece.tokenize_iff.mp scanned
  rw [Piece.tokens_deepest]
  exact shallow

namespace Node

mutual
def depth : Node → Nat
  | .group _ nodes => deepest nodes + 1
  | .literal _ _ | .other _ => 0
def deepest : List Node → Nat
  | [] => 0
  | node :: rest => max node.depth (deepest rest)
end

mutual
theorem of_token_depth (token : Token) : (ofToken token).depth ≤ token.depth := by
  cases token with
  | mk label value nodes =>
      have inside := of_tokens_deepest nodes
      rw [of_token_eq, Token.depth]
      split
      · exact Nat.succ_le_succ inside
      · split
        · split <;> exact Nat.zero_le _
        · exact Nat.zero_le _
theorem of_tokens_deepest (tokens : List Token) :
    deepest (ofTokens tokens) ≤ Token.deepest tokens := by
  cases tokens with
  | nil => exact Nat.le_refl 0
  | cons token rest =>
      have first := of_token_depth token
      have others := of_tokens_deepest rest
      rw [ofTokens, Token.deepest]
      split
      · omega
      · rw [deepest]
        omega
end

theorem opens_deepest {outer inner : List Node} (opens : Opens outer inner) :
    deepest inner + 1 ≤ deepest outer := by
  cases opens with
  | only label nodes =>
      simp only [deepest, depth]
      omega
  | left label nodes rhs sign =>
      simp only [deepest, depth]
      omega
  | right label nodes sign first =>
      simp only [deepest, depth]
      omega

theorem enters_deepest {nodes inner : List Node} {depth : Nat}
    (enters : Enters nodes depth inner) : depth + deepest inner ≤ deepest nodes + 1 := by
  induction enters with
  | start => omega
  | into outside opens ih =>
      have deeper := opens_deepest opens
      omega

end Node

theorem tokenize_fits {separator : Separator} {text : Text} {tokens : List Token}
    (scanned : tokenize separator text = .ok tokens) :
    Node.Fits (Nesting.maxDepth + 1) (Node.ofTokens tokens) := by
  intro depth nodes enters
  have bounded := tokenize_deepest scanned
  have below := Node.enters_deepest enters
  have within := Node.of_tokens_deepest tokens
  omega

-- A stack with room for the limit and the first level is never full with the tokens of a text.
theorem evaluate_within_limit {separator : Separator} {text : Text} {tokens : List Token}
    (scanned : tokenize separator text = .ok tokens) {room : Nat}
    (enough : Nesting.maxDepth + 1 ≤ room) :
    evaluateWithin room tokens = (evaluate tokens).mapError some :=
  evaluate_within_fits fun depth nodes enters =>
    Nat.le_trans (tokenize_fits scanned depth nodes enters) enough

theorem too_deep_excess {separator : Separator} {text : Text} {error : ParseError}
    (failed : tokenize separator text = .error error) (deep : error.cause = .tooDeep) :
    Nesting.excess text = some (error.position, error.text) :=
  ((tokenize_error_cases failed).resolve_right fun other => other.1 deep).2

theorem too_deep_iff_unclosed (separator : Separator) (text : Text) :
    (∃ error, tokenize separator text = .error error ∧ error.cause = .tooDeep) ↔
      ∃ front, front <+: text ∧ Nesting.maxDepth < Nesting.unclosed front := by
  have shallow := not_congr (Nesting.excess_none_unclosed text)
  simp only [Classical.not_forall, Nat.not_le, exists_prop] at shallow
  rw [← shallow]
  constructor
  · rintro ⟨error, failed, deep⟩
    rw [too_deep_excess failed deep]
    exact nofun
  · intro excess
    obtain ⟨⟨position, rest⟩, found⟩ := Option.ne_none_iff_exists'.mp excess
    exact ⟨⟨.tooDeep, position, rest⟩, by rw [tokenize, found], rfl⟩

theorem nesting_limit (separator : Separator) (text : Text) :
    ((∃ error, tokenize separator text = .error error ∧ error.cause = .tooDeep) ↔
        ∃ front, front <+: text ∧ 32 < Nesting.unclosed front) ∧
      (∀ error, tokenize separator text = .error error → error.cause = .tooDeep →
        Nesting.ExceedsAt text error.position error.text) ∧
      (∀ tokens, tokenize separator text = .ok tokens →
        Token.deepest tokens ≤ 32 ∧
          (∀ level, level ∈ (Run.ofTokens tokens).entered ↔
            ∃ depth nodes, Node.Enters (Node.ofTokens tokens) depth nodes ∧
              level = nodes.map Node.label) ∧
          (∀ depth nodes, Node.Enters (Node.ofTokens tokens) depth nodes → depth ≤ 33) ∧
          ∀ room, 33 ≤ room → evaluateWithin room tokens = (evaluate tokens).mapError some) ∧
      ∀ level position cs, Token.Calls separator text level position cs → level ≤ 33 := by
  refine ⟨too_deep_iff_unclosed separator text, ?_, ?_, ?_⟩
  · intro error failed deep
    exact Nesting.excess_some (too_deep_excess failed deep)
  · intro tokens scanned
    exact ⟨tokenize_deepest scanned, fun level => Node.entered_iff, tokenize_fits scanned,
      fun room enough => evaluate_within_limit scanned enough⟩
  · exact fun level position cs called => Token.calls_level called

end TapeMeasure

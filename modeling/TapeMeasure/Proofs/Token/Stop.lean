import TapeMeasure.Proofs.Token.Front
import TapeMeasure.Proofs.Token.Unclosed

/- Where a scan stops. The error names the place and shows what stands there, and everything in
   front of it has been scanned: the text up to there can be tokenized, once the brackets that are
   open there are closed. A bracket without a partner is found outside of all groups only. -/
set_option autoImplicit false

namespace TapeMeasure

namespace ParseError.Cause

-- The error is a bracket that has no partner.
def Unpaired (cause : Cause) : Prop :=
  cause = .stuck .unbalanced ∨ cause = .stuck (.unexpected ')')

theorem flaw_not_unpaired (flaw : Literal.Flaw) : ¬ (Cause.flaw flaw).Unpaired := by
  rintro (same | same)
  · exact absurd same nofun
  · exact absurd same nofun

end ParseError.Cause

namespace Nesting

theorem closing_at_bracket (opened : Nat) : AtBracket (List.replicate opened ')') := by
  cases opened with
  | zero => trivial
  | succ more => exact Or.inr rfl

theorem peak_closing (depth opened : Nat) : peak depth (List.replicate opened ')') = depth := by
  induction opened generalizing depth with
  | zero => rfl
  | succ more ih =>
      rw [List.replicate_succ, peak, if_neg (by decide), if_pos rfl, ih]
      omega

-- Closing brackets nest no deeper than any other text in their place.
theorem peak_closed (depth opened : Nat) (front behind : Text) :
    peak depth (front ++ List.replicate opened ')') ≤ peak depth (front ++ behind) := by
  induction front generalizing depth with
  | nil =>
      rw [List.nil_append, peak_closing]
      exact depth_le_peak depth behind
  | cons c rest ih =>
      rw [List.cons_append, List.cons_append, peak, peak]
      by_cases opening : c = '('
      · rw [if_pos opening, if_pos opening]
        exact ih (depth + 1)
      · rw [if_neg opening, if_neg opening]
        by_cases closing : c = ')'
        · rw [if_pos closing, if_pos closing]
          have below := ih (depth - 1)
          omega
        · rw [if_neg closing, if_neg closing]
          exact ih depth

end Nesting

theorem Lexeme.read_bracket {separator : Separator} {c : Char} {rest : Text} {cause : Stuck}
    (failed : read separator c rest = .error cause)
    (bracket : (ParseError.Cause.stuck cause).Unpaired) : ¬ Nesting.Balanced (c :: rest) := by
  rcases read_error failed with ⟨-, rfl, noPartner⟩ | rfl
  · intro balanced
    obtain ⟨inner, after, rfl, inside, -⟩ := Nesting.balanced_open balanced
    rw [Nesting.interior_iff.mpr ⟨rfl, inside⟩] at noPartner
    exact absurd noPartner nofun
  · rcases bracket with same | same
    · exact absurd same nofun
    · cases same
      exact Nesting.balanced_close

namespace Token

-- The error of a scan: at its beginning, inside a group there, or behind the first token.
inductive StopsAt (separator : Separator) : Nat → Text → ParseError → Prop where
  | stuck {position : Nat} {c : Char} {rest : Text} {cause : Lexeme.Stuck}
      (found : Lexeme.read separator c rest = .error cause) :
      StopsAt separator position (c :: rest) ⟨.stuck cause, position, c :: rest⟩
  | flaw {position : Nat} {c : Char} {rest after : Text} {read : Literal} {cause : Literal.Flaw}
      (found : Lexeme.read separator c rest = .ok (.literal read, after))
      (flawed : read.resolve = .error cause) :
      StopsAt separator position (c :: rest) ⟨.flaw cause, position, read.spelling⟩
  | inside {position : Nat} {c : Char} {rest inner after : Text} {error : ParseError}
      (found : Lexeme.read separator c rest = .ok (.group inner, after))
      (stops : StopsAt separator (position + 1) inner error) :
      StopsAt separator position (c :: rest) error
  | behind {position : Nat} {c : Char} {rest after : Text} {lexeme : Lexeme} {token : Token}
      {error : ParseError} (found : Lexeme.read separator c rest = .ok (lexeme, after))
      (made : ofLexeme separator position lexeme = .ok token)
      (stops : StopsAt separator (position + lexeme.spelling.length) after error) :
      StopsAt separator position (c :: rest) error

-- A token is not made if its literal has no value or the inside of its group cannot be scanned.
theorem of_lexeme_error {separator : Separator} {position : Nat} {lexeme : Lexeme}
    {error : ParseError} (failed : ofLexeme separator position lexeme = .error error) :
    (∃ read cause, lexeme = .literal read ∧ read.resolve = .error cause ∧
        error = ⟨.flaw cause, position, read.spelling⟩) ∨
      ∃ inner, lexeme = .group inner ∧ scan separator (position + 1) inner = .error error := by
  cases lexeme with
  | literal read =>
      rw [ofLexeme, ofLiteral] at failed
      split at failed
      · rename_i cause flawed
        exact Or.inl ⟨read, cause, rfl, flawed, (Except.error.inj failed).symm⟩
      · exact absurd failed nofun
  | group inner =>
      rw [ofLexeme] at failed
      cases inside : scan separator (position + 1) inner with
      | error cause =>
          rw [inside] at failed
          obtain rfl := Except.error.inj failed
          exact Or.inr ⟨inner, rfl, inside⟩
      | ok nodes =>
          rw [inside] at failed
          exact absurd failed nofun
  | _ => exact absurd failed nofun

theorem scan_stops_at {separator : Separator} : ∀ (position : Nat) (cs : Text)
    (error : ParseError), scan separator position cs = .error error →
      StopsAt separator position cs error
  | position, [], error, failed => by
      rw [scan_nil] at failed
      exact absurd failed nofun
  | position, c :: rest, error, failed => by
      cases found : Lexeme.read separator c rest with
      | error cause =>
          rw [scan_stuck position found] at failed
          obtain rfl := Except.error.inj failed
          exact .stuck found
      | ok cut =>
          obtain ⟨lexeme, after⟩ := cut
          rw [scan_lexeme position found] at failed
          cases made : ofLexeme separator position lexeme with
          | error cause =>
              rw [made] at failed
              obtain rfl := Except.error.inj failed
              rcases of_lexeme_error made with
                ⟨read, cause, rfl, flawed, rfl⟩ | ⟨inner, rfl, inside⟩
              · exact .flaw found flawed
              · exact .inside found (scan_stops_at _ inner _ inside)
          | ok token =>
              cases others : scan separator (position + lexeme.spelling.length) after with
              | error cause =>
                  simp only [made, others, bind, Except.bind] at failed
                  obtain rfl := Except.error.inj failed
                  exact .behind found made (scan_stops_at _ after _ others)
              | ok tokens =>
                  simp only [made, others, bind, Except.bind] at failed
                  exact absurd failed nofun
termination_by _ cs => cs.length
decreasing_by
  · exact Lexeme.read_group_shorter found
  · exact Lexeme.read_shorter found

theorem stops_at_scan {separator : Separator} {position : Nat} {cs : Text} {error : ParseError}
    (stops : StopsAt separator position cs error) : scan separator position cs = .error error := by
  induction stops with
  | stuck found => exact scan_stuck _ found
  | flaw found flawed =>
      rw [scan_lexeme _ found, ofLexeme, ofLiteral, flawed]
      rfl
  | inside found stops ih =>
      rw [scan_lexeme _ found, ofLexeme, ih]
      rfl
  | behind found made stops ih =>
      rw [scan_lexeme _ found, made]
      simp only [bind, Except.bind, ih]

theorem StopsAt.not_too_deep {separator : Separator} {position : Nat} {cs : Text}
    {error : ParseError} (stops : StopsAt separator position cs error) :
    error.cause ≠ .tooDeep := by
  induction stops with
  | stuck found => exact nofun
  | flaw found flawed => exact nofun
  | inside found stops ih => exact ih
  | behind found made stops ih => exact ih

-- The inside of a group is balanced, so no bracket in it is without a partner.
theorem bracket_unbalanced {separator : Separator} {position : Nat} {cs : Text}
    {error : ParseError} (stops : StopsAt separator position cs error)
    (bracket : error.cause.Unpaired) : ¬ Nesting.Balanced cs := by
  induction stops with
  | stuck found => exact Lexeme.read_bracket found bracket
  | flaw found flawed => exact absurd bracket (ParseError.Cause.flaw_not_unpaired _)
  | inside found stops ih => exact absurd (Lexeme.read_iff.mp found).2.1 (ih bracket)
  | behind found made stops ih =>
      obtain ⟨spelled, valid, -⟩ := Lexeme.read_iff.mp found
      rw [spelled]
      intro balanced
      exact ih bracket (Nesting.balanced_behind (Lexeme.spelling_balanced valid) balanced)

-- What stands in front of the error, as the pieces that it is with its brackets closed, and what
-- stands behind the text of the error.
structure Stopped (separator : Separator) (position : Nat) (cs : Text) (error : ParseError)
    (front behind : Text) (opened : Nat) (pieces : List Piece) : Prop where
  spelled : cs = front ++ (error.text ++ behind)
  place : error.position = position + front.length
  shown : error.text ≠ []
  counted : Nesting.openAfter 0 front = some opened
  greedy : Piece.Greedy separator pieces
  closed : Piece.spell pieces = front ++ List.replicate opened ')'
  bracket : error.cause.Unpaired → opened = 0 ∧ behind = []

theorem stopped_here {separator : Separator} {position : Nat} {text behind : Text}
    {cause : ParseError.Cause} (shown : text ≠ []) (bracket : cause.Unpaired → behind = []) :
    Stopped separator position (text ++ behind) ⟨cause, position, text⟩ [] behind 0 [] := by
  constructor
  case spelled => rfl
  case place => rfl
  case shown => exact shown
  case counted => rfl
  case greedy => trivial
  case closed => rfl
  case bracket => exact fun unpaired => ⟨rfl, bracket unpaired⟩

theorem stopped_inside {separator : Separator} {position opened : Nat}
    {inner after front behind : Text} {error : ParseError} {pieces : List Piece}
    (notBracket : ¬ error.cause.Unpaired)
    (stopped : Stopped separator (position + 1) inner error front behind opened pieces) :
    Stopped separator position ((Lexeme.group inner).spelling ++ after) error ('(' :: front)
      (behind ++ ')' :: after) (opened + 1) [.group pieces] := by
  constructor
  case spelled => simp [Lexeme.spelling, stopped.spelled]
  case place =>
    rw [stopped.place, List.length_cons]
    omega
  case shown => exact stopped.shown
  case counted =>
    have raised := Nesting.open_after_raise 1 stopped.counted
    rw [Nesting.open_after_open]
    exact raised
  case greedy => exact ⟨stopped.greedy, trivial, trivial⟩
  case closed =>
    simp [Piece.spell, Piece.spelling, stopped.closed, List.replicate_succ']
  case bracket => exact fun bracket => absurd bracket notBracket

theorem stopped_behind {separator : Separator} {position opened : Nat}
    {after front behind : Text} {error : ParseError} {piece : Piece} {pieces : List Piece}
    (sound : piece.Sound separator) (ends : piece.lexeme.EndsBefore separator after)
    (stopped : Stopped separator (position + piece.spelling.length) after error front behind
      opened pieces) :
    Stopped separator position (piece.spelling ++ after) error (piece.spelling ++ front) behind
      opened (piece :: pieces) := by
  constructor
  case spelled => rw [stopped.spelled, List.append_assoc]
  case place =>
    rw [stopped.place, List.length_append]
    omega
  case shown => exact stopped.shown
  case counted =>
    have balanced : Nesting.openAfter 0 piece.spelling = some 0 :=
      Piece.sound_balanced piece sound
    rw [Nesting.open_after_append, balanced]
    exact stopped.counted
  case greedy =>
    rw [stopped.spelled] at ends
    refine ⟨sound, ?_, stopped.greedy⟩
    rw [stopped.closed]
    exact Lexeme.ends_before_bracket (Nesting.closing_at_bracket opened) ends
  case closed => rw [Piece.spell, stopped.closed, List.append_assoc]
  case bracket => exact stopped.bracket

theorem stops_stopped {separator : Separator} {position : Nat} {cs : Text} {error : ParseError}
    (stops : StopsAt separator position cs error) :
    ∃ front behind opened pieces,
      Stopped separator position cs error front behind opened pieces := by
  induction stops with
  | @stuck position c rest cause found =>
      have here : Stopped separator position (c :: rest ++ [])
          ⟨.stuck cause, position, c :: rest⟩ [] [] 0 [] :=
        stopped_here (List.cons_ne_nil c rest) fun _ => rfl
      rw [List.append_nil] at here
      exact ⟨_, _, _, _, here⟩
  | @flaw position c rest after read cause found flawed =>
      rw [(Lexeme.read_iff.mp found).1]
      refine ⟨_, _, _, _, stopped_here read.spelling_not_empty fun bracket => ?_⟩
      exact absurd bracket (ParseError.Cause.flaw_not_unpaired cause)
  | inside found stops ih =>
      obtain ⟨spelled, balanced, -⟩ := Lexeme.read_iff.mp found
      obtain ⟨front, behind, opened, pieces, stopped⟩ := ih
      have notBracket := mt (bracket_unbalanced stops) (not_not_intro balanced)
      rw [spelled]
      exact ⟨_, _, _, _, stopped_inside notBracket stopped⟩
  | behind found made stops ih =>
      obtain ⟨spelled, valid, ends⟩ := Lexeme.read_iff.mp found
      obtain ⟨piece, sound, rfl, -⟩ := Piece.lexeme_piece valid
        (fun inner nodes _ scanned => Piece.scan_pieces _ inner nodes scanned) made
      obtain ⟨front, behind, opened, pieces, stopped⟩ := ih
      rw [Piece.lexeme_spelling] at spelled stopped
      rw [spelled]
      exact ⟨_, _, _, _, stopped_behind sound ends stopped⟩

end Token

theorem tokenize_error_cases {separator : Separator} {text : Text} {error : ParseError}
    (failed : tokenize separator text = .error error) :
    (error.cause = .tooDeep ∧ Nesting.excess text = some (error.position, error.text)) ∨
      error.cause ≠ .tooDeep ∧ Nesting.excess text = none ∧
        Token.StopsAt separator 0 text error := by
  unfold tokenize at failed
  split at failed
  · rename_i position rest excess
    obtain rfl := Except.error.inj failed
    exact Or.inl ⟨rfl, excess⟩
  · rename_i shallow
    have stops := Token.scan_stops_at 0 text error failed
    exact Or.inr ⟨stops.not_too_deep, shallow, stops⟩

theorem tokenize_error_leftmost {separator : Separator} {text : Text} {error : ParseError}
    (failed : tokenize separator text = .error error) (scanned : error.cause ≠ .tooDeep) :
    error.position < text.length ∧ error.text ≠ [] ∧ error.text <+: text.drop error.position ∧
      (∃ tokens, tokenize separator
        (text.take error.position ++
          List.replicate (Nesting.unclosed (text.take error.position)) ')') = .ok tokens) ∧
      (error.cause.Unpaired →
        Nesting.unclosed (text.take error.position) = 0 ∧
          error.text = text.drop error.position) := by
  obtain ⟨-, shallow, stops⟩ :=
    (tokenize_error_cases failed).resolve_left fun deep => scanned deep.1
  obtain ⟨front, behind, opened, pieces, stopped⟩ := Token.stops_stopped stops
  have place : error.position = front.length := by rw [stopped.place, Nat.zero_add]
  have taken : text.take error.position = front := by
    rw [place, stopped.spelled, List.take_left']
    rfl
  have dropped : text.drop error.position = error.text ++ behind := by
    rw [place, stopped.spelled, List.drop_left']
    rfl
  have counted : Nesting.unclosed front = opened := Nesting.unclosed_of_counted stopped.counted
  rw [taken, dropped, counted]
  refine ⟨?_, stopped.shown, List.prefix_append _ _, ⟨Piece.tokens 0 pieces, ?_⟩, ?_⟩
  · have length := congrArg List.length stopped.spelled
    rw [List.length_append, List.length_append] at length
    have shown := List.length_pos_iff.mpr stopped.shown
    omega
  · rw [← stopped.closed]
    refine Piece.tokenize_iff.mpr ⟨pieces, stopped.greedy, ?_, rfl, rfl⟩
    have deep := (Nesting.excess_none_iff text).mp shallow
    rw [stopped.spelled] at deep
    rw [← Piece.greedy_excess stopped.greedy, Nesting.excess_none_iff, stopped.closed]
    exact Nat.le_trans (Nesting.peak_closed 0 opened front _) deep
  · intro bracket
    obtain ⟨ground, rfl⟩ := stopped.bracket bracket
    exact ⟨ground, (List.append_nil _).symm⟩

theorem letter_in_brackets_leftmost :
    tokenize .required "2\"+((1'x))".toList = .error ⟨.stuck (.unexpected 'x'), 7, ['x']⟩ ∧
      Nesting.unclosed "2\"+((1'".toList = 2 ∧ (['x'] : Text) <+: "x))".toList ∧
      ∃ tokens, tokenize .required "2\"+((1'))".toList = .ok tokens := by
  have shallow : Nesting.excess "2\"+((1'x))".toList = none := by decide
  have failed : tokenize .required "2\"+((1'x))".toList =
      .error ⟨.stuck (.unexpected 'x'), 7, ['x']⟩ := by
    rw [tokenize, shallow]
    exact Token.stops_at_scan
      (.behind rfl rfl (.behind rfl rfl (.inside rfl (.inside rfl (.behind rfl rfl (.stuck rfl))))))
  have other : (ParseError.Cause.stuck (.unexpected 'x')) ≠ .tooDeep := by decide
  obtain ⟨-, -, begins, front, -⟩ := tokenize_error_leftmost failed other
  exact ⟨failed, by decide, begins, front⟩

end TapeMeasure

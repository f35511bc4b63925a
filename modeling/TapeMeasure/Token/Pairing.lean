import TapeMeasure.Token.Scan

/- The scan by a table of brackets. One pass over a text pairs each closing bracket with the
   innermost bracket that is open there; a scan of the text then looks partners up instead of
   searching for them. Brackets without a partner are not in the table, and are found by the
   scan. -/
set_option autoImplicit false

namespace TapeMeasure

namespace Nesting

-- Positions of opening brackets, each with the position of its partner.
abbrev Pairs := List (Nat × Nat)

-- The pairs that are completed in the rest of a text, which begins at this position. The stack
-- holds the positions of the brackets that are open there, the innermost first.
def pairFrom (text : Text) (position : Nat) (stack : List Nat) : Text → Except ParseError Pairs
  | [] => .ok []
  | c :: rest =>
      if c = '(' then
        if stack.length = maxDepth then
          .error ⟨.tooDeep, position, text.drop (stack.getLastD 0)⟩
        else pairFrom text (position + 1) (position :: stack) rest
      else if c = ')' then
        match stack with
        | [] => pairFrom text (position + 1) [] rest
        | opening :: outer =>
            (pairFrom text (position + 1) outer rest).map fun pairs => (opening, position) :: pairs
      else pairFrom text (position + 1) stack rest

def pairs (text : Text) : Except ParseError Pairs := pairFrom text 0 [] text

section Steps

variable (text : Text) (position : Nat) {stack : List Nat} (rest : Text)

theorem pair_from_full (full : stack.length = maxDepth) :
    pairFrom text position stack ('(' :: rest) =
      .error ⟨.tooDeep, position, text.drop (stack.getLastD 0)⟩ := by
  simp only [pairFrom, if_pos full, if_true]

theorem pair_from_open (room : stack.length ≠ maxDepth) :
    pairFrom text position stack ('(' :: rest) =
      pairFrom text (position + 1) (position :: stack) rest := by
  simp only [pairFrom, if_neg room, if_true]

theorem pair_from_stray :
    pairFrom text position [] (')' :: rest) = pairFrom text (position + 1) [] rest := rfl

theorem pair_from_close (opening : Nat) (outer : List Nat) :
    pairFrom text position (opening :: outer) (')' :: rest) =
      (pairFrom text (position + 1) outer rest).map fun pairs => (opening, position) :: pairs :=
  rfl

theorem pair_from_other {c : Char} (notOpening : c ≠ '(') (notClosing : c ≠ ')') :
    pairFrom text position stack (c :: rest) = pairFrom text (position + 1) stack rest := by
  simp only [pairFrom, if_neg notOpening, if_neg notClosing]

end Steps

end Nesting

namespace Token

-- The tokens of the rest of a level, which begins at this position. A partner behind the end of the
-- level is no partner.
def scanPaired (separator : Separator) (pairs : Nesting.Pairs) (position : Nat) (cs : Text) :
    Except ParseError (List Token) :=
  match cs with
  | [] => .ok []
  | c :: rest =>
      if c = '(' then
        match pairs.lookup position with
        | none => .error ⟨.stuck .unbalanced, position, c :: rest⟩
        | some close =>
            if position + (c :: rest).length ≤ close then
              .error ⟨.stuck .unbalanced, position, c :: rest⟩
            else
              match scanPaired separator pairs (position + 1)
                (rest.take (close - (position + 1))) with
              | .error cause => .error cause
              | .ok nodes =>
                  match scanPaired separator pairs (close + 1) (rest.drop (close - position)) with
                  | .error cause => .error cause
                  | .ok tokens =>
                      .ok (group position ((c :: rest).take (close + 1 - position)) nodes :: tokens)
      else
        match _found : Lexeme.read separator c rest with
        | .error cause => .error ⟨.stuck cause, position, c :: rest⟩
        | .ok (lexeme, after) =>
            match ofLexeme separator position lexeme with
            | .error cause => .error cause
            | .ok token =>
                match scanPaired separator pairs (position + lexeme.spelling.length) after with
                | .error cause => .error cause
                | .ok tokens => .ok (token :: tokens)
termination_by cs.length
decreasing_by
  · exact Nat.lt_succ_of_le (List.length_take_le' _ _)
  · exact Nat.lt_succ_of_le (List.drop_sublist _ _).length_le
  · exact Lexeme.read_shorter _found

end Token

def tokenizePaired (separator : Separator) (text : Text) : Except ParseError (List Token) :=
  match Nesting.pairs text with
  | .error cause => .error cause
  | .ok pairs => Token.scanPaired separator pairs 0 text

end TapeMeasure

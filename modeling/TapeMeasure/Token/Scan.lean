import TapeMeasure.Token.Lexeme

/- The scan of an expression into tokens. Brackets nested too deeply are refused before anything
   is scanned. A level is then scanned from left to right; the contents of a group are scanned
   when the group is met, so that the leftmost failure is the one reported. -/
set_option autoImplicit false

namespace TapeMeasure

namespace ParseError

inductive Cause where
  | tooDeep
  | stuck (cause : Lexeme.Stuck)
  | flaw (cause : Literal.Flaw)
deriving DecidableEq, Repr

end ParseError

-- The text is the literal at fault, or what was left of the level that could not be scanned on, or
-- for too deep a nesting all from the outermost open bracket.
structure ParseError where
  cause : ParseError.Cause
  position : Nat
  text : Text
deriving DecidableEq, Repr

namespace ParseError

def Cause.message (text : Text) : Cause → String
  | .tooDeep => "parentheses nested deeper than " ++ toString Nesting.maxDepth
  | .stuck .unbalanced => "unbalanced " ++ Text.quote ['(']
  | .stuck (.unexpected c) => "unexpected " ++ Text.quote [c]
  | .flaw (.tooLong digits) =>
      "number too long in literal: " ++
        Decimal.limitMessage (": value has " ++ toString digits ++ " digits")
  | .flaw .zeroDenominator =>
      "invalid fraction in " ++ Text.quote text ++ ": denominator must be positive, got 0"

def message (error : ParseError) : String :=
  error.cause.message error.text ++ " at position " ++ toString error.position

end ParseError

namespace Token

def ofLiteral (position : Nat) (read : Literal) : Except ParseError Token :=
  match read.resolve with
  | .error cause => .error ⟨.flaw cause, position, read.spelling⟩
  | .ok value => .ok (literal read.kind position read.spelling value)

-- The tokens of one level, whose first character stands at `position`.
def scan (separator : Separator) (position : Nat) (cs : Text) : Except ParseError (List Token) :=
  match cs with
  | [] => .ok []
  | c :: rest =>
      match h : Lexeme.read separator c rest with
      | .error cause => .error ⟨.stuck cause, position, c :: rest⟩
      | .ok (lexeme, after) =>
          let token :=
            match lexeme with
            | .literal read => ofLiteral position read
            | .blanks run => .ok (bare .whitespace position run)
            | .plus => .ok (bare .plus position ['+'])
            | .minus => .ok (bare .minus position ['-'])
            | .group inner =>
                match scan separator (position + 1) inner with
                | .error cause => .error cause
                | .ok nodes => .ok (group position ('(' :: inner ++ [')']) nodes)
          match token with
          | .error cause => .error cause
          | .ok token =>
              match scan separator (position + lexeme.spelling.length) after with
              | .error cause => .error cause
              | .ok tokens => .ok (token :: tokens)
termination_by cs.length
decreasing_by
  · exact Lexeme.read_group_shorter h
  · exact Lexeme.read_shorter h

def ofLexeme (separator : Separator) (position : Nat) : Lexeme → Except ParseError Token
  | .literal read => ofLiteral position read
  | .blanks run => .ok (bare .whitespace position run)
  | .plus => .ok (bare .plus position ['+'])
  | .minus => .ok (bare .minus position ['-'])
  | .group inner =>
      (scan separator (position + 1) inner).map (group position ('(' :: inner ++ [')']))

theorem scan_nil (separator : Separator) (position : Nat) :
    scan separator position [] = .ok [] := by
  rw [scan]

theorem scan_stuck {separator : Separator} {c : Char} {rest : Text} {cause : Lexeme.Stuck}
    (position : Nat) (found : Lexeme.read separator c rest = .error cause) :
    scan separator position (c :: rest) = .error ⟨.stuck cause, position, c :: rest⟩ := by
  rw [scan]
  split <;> simp_all

theorem scan_lexeme {separator : Separator} {c : Char} {rest after : Text} {lexeme : Lexeme}
    (position : Nat) (found : Lexeme.read separator c rest = .ok (lexeme, after)) :
    scan separator position (c :: rest) = do
      let token ← ofLexeme separator position lexeme
      let tokens ← scan separator (position + lexeme.spelling.length) after
      return token :: tokens := by
  rw [scan]
  split
  · simp_all
  · rename_i other tail read
    rw [found] at read
    simp only [Except.ok.injEq, Prod.mk.injEq] at read
    obtain ⟨rfl, rfl⟩ := read
    cases lexeme with
    | literal front =>
        simp only [ofLexeme]
        cases ofLiteral position front with
        | error cause => rfl
        | ok token =>
            cases scan separator (position + (Lexeme.literal front).spelling.length) after <;> rfl
    | blanks run =>
        simp only [ofLexeme]
        cases scan separator (position + (Lexeme.blanks run).spelling.length) after <;> rfl
    | plus =>
        simp only [ofLexeme]
        cases scan separator (position + Lexeme.plus.spelling.length) after <;> rfl
    | minus =>
        simp only [ofLexeme]
        cases scan separator (position + Lexeme.minus.spelling.length) after <;> rfl
    | group inner =>
        simp only [ofLexeme]
        cases scan separator (position + 1) inner with
        | error cause => rfl
        | ok nodes =>
            cases scan separator (position + (Lexeme.group inner).spelling.length) after <;> rfl

end Token

def tokenize (separator : Separator) (text : Text) : Except ParseError (List Token) :=
  match Nesting.excess text with
  | some (position, rest) => .error ⟨.tooDeep, position, rest⟩
  | none => Token.scan separator 0 text

end TapeMeasure

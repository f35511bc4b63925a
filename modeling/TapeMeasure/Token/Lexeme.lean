import TapeMeasure.Token.Basic
import TapeMeasure.Token.Literal
import TapeMeasure.Token.Nesting

/- Lexemes: the pieces that a scan cuts from the front of a text. A piece is never empty, and
   it is followed by the rest of the text. -/
set_option autoImplicit false

namespace TapeMeasure

def Literal.kind : Literal → Kind
  | .feetOnly _ => .feet
  | .inchesOnly (.whole _) => .inches
  | .inchesOnly (.mixed _ _) => .inchesFraction
  | .fractionOnly _ => .fraction
  | .feetInches _ _ (.whole _) => .feetInches
  | .feetInches _ _ (.mixed _ _) => .feetInchesFraction

inductive Lexeme where
  | literal (literal : Literal)
  | blanks (run : Text)
  | plus
  | minus
  | group (inner : Text)
deriving DecidableEq, Repr

namespace Lexeme

inductive Stuck where
  | unbalanced
  | unexpected (c : Char)
deriving DecidableEq, Repr

def spelling : Lexeme → Text
  | .literal read => read.spelling
  | .blanks run => run
  | .plus => ['+']
  | .minus => ['-']
  | .group inner => '(' :: inner ++ [')']

-- The piece in front of the text `c :: rest`. Literals come first.
def read (separator : Separator) (c : Char) (rest : Text) : Except Stuck (Lexeme × Text) :=
  match Literal.read separator (c :: rest) with
  | some (found, after) => .ok (.literal found, after)
  | none =>
      if Text.isBlank c then .ok (.blanks (c :: (Text.takeBlanks rest).1), (Text.takeBlanks rest).2)
      else if c = '+' then .ok (.plus, rest)
      else if c = '-' then .ok (.minus, rest)
      else if c = '(' then
        match Nesting.interior rest with
        | some (inner, after) => .ok (.group inner, after)
        | none => .error .unbalanced
      else .error (.unexpected c)

theorem read_append {separator : Separator} {c : Char} {rest after : Text} {lexeme : Lexeme}
    (found : read separator c rest = .ok (lexeme, after)) :
    c :: rest = lexeme.spelling ++ after := by
  unfold read at found
  split at found
  · rename_i front
    simp only [Except.ok.injEq, Prod.mk.injEq] at found
    obtain ⟨rfl, rfl⟩ := found
    exact Literal.read_append front
  · split at found
    · simp only [Except.ok.injEq, Prod.mk.injEq] at found
      obtain ⟨rfl, rfl⟩ := found
      simp [spelling, Text.take_blanks_append]
    · split at found
      · rename_i sign
        simp only [Except.ok.injEq, Prod.mk.injEq] at found
        obtain ⟨rfl, rfl⟩ := found
        simp [spelling, sign]
      · split at found
        · rename_i sign
          simp only [Except.ok.injEq, Prod.mk.injEq] at found
          obtain ⟨rfl, rfl⟩ := found
          simp [spelling, sign]
        · split at found
          · rename_i bracket
            split at found
            · rename_i inside
              simp only [Except.ok.injEq, Prod.mk.injEq] at found
              obtain ⟨rfl, rfl⟩ := found
              simp [spelling, bracket, Nesting.interior_append inside]
            · simp at found
          · simp at found

theorem read_not_empty {separator : Separator} {c : Char} {rest after : Text} {lexeme : Lexeme}
    (found : read separator c rest = .ok (lexeme, after)) : lexeme.spelling ≠ [] := by
  unfold read at found
  split at found
  · simp only [Except.ok.injEq, Prod.mk.injEq] at found
    obtain ⟨rfl, rfl⟩ := found
    exact Literal.spelling_not_empty _
  · repeat' split at found
    all_goals
      first
      | (simp only [Except.ok.injEq, Prod.mk.injEq] at found
         obtain ⟨rfl, rfl⟩ := found
         simp [spelling])
      | simp at found

theorem read_shorter {separator : Separator} {c : Char} {rest after : Text} {lexeme : Lexeme}
    (found : read separator c rest = .ok (lexeme, after)) : after.length < (c :: rest).length := by
  rw [read_append found, List.length_append]
  have := List.length_pos_iff.mpr (read_not_empty found)
  omega

theorem read_group_shorter {separator : Separator} {c : Char} {rest after inner : Text}
    (found : read separator c rest = .ok (.group inner, after)) :
    inner.length < (c :: rest).length := by
  rw [read_append found, List.length_append, spelling]
  simp only [List.cons_append, List.length_cons, List.length_append, List.length_nil]
  omega

end Lexeme

end TapeMeasure

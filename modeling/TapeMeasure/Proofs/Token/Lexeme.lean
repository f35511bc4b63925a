import TapeMeasure.Token.Lexeme
import TapeMeasure.Proofs.Token.Brackets
import TapeMeasure.Proofs.Token.Reading

/- One cut from the front of a text, as an equivalence: a lexeme is read exactly if it is well
   formed and could not have been longer with this text behind it. -/
set_option autoImplicit false

namespace TapeMeasure.Lexeme

def WellFormed (separator : Separator) : Lexeme → Prop
  | .literal read => read.WellFormed separator
  | .blanks run => run ≠ [] ∧ Text.AllBlank run
  | .plus | .minus => True
  | .group inner => Nesting.Balanced inner

-- The lexeme is all that is cut off when this text stands behind it.
def EndsBefore (separator : Separator) (rest : Text) : Lexeme → Prop
  | .literal read => read.EndsBefore separator rest
  | .blanks _ => Text.Stops Text.isBlank rest
  | _ => True

theorem blank_not_digit {c : Char} (blank : Text.isBlank c = true) : c.isDigit = false := by
  cases digit : c.isDigit with
  | false => rfl
  | true =>
      have off := Text.digit_not_blank c digit
      rw [blank] at off
      exact absurd off (by decide)

theorem read_sound {separator : Separator} {c : Char} {cs rest : Text} {lexeme : Lexeme}
    (found : read separator c cs = .ok (lexeme, rest)) :
    lexeme.WellFormed separator ∧ lexeme.EndsBefore separator rest := by
  unfold read at found
  split at found
  · rename_i front
    simp only [Except.ok.injEq, Prod.mk.injEq] at found
    obtain ⟨rfl, rfl⟩ := found
    exact (Literal.read_iff.mp front).2
  · split at found
    · rename_i blank
      simp only [Except.ok.injEq, Prod.mk.injEq] at found
      obtain ⟨rfl, rfl⟩ := found
      obtain ⟨-, all, stop⟩ := Text.take_blanks_iff.mp (Prod.eta (Text.takeBlanks cs)).symm
      refine ⟨⟨by simp, ?_⟩, stop⟩
      intro d member
      rcases List.mem_cons.mp member with rfl | inside
      · exact blank
      · exact all d inside
    · split at found
      · simp only [Except.ok.injEq, Prod.mk.injEq] at found
        obtain ⟨rfl, rfl⟩ := found
        exact ⟨trivial, trivial⟩
      · split at found
        · simp only [Except.ok.injEq, Prod.mk.injEq] at found
          obtain ⟨rfl, rfl⟩ := found
          exact ⟨trivial, trivial⟩
        · split at found
          · split at found
            · rename_i inside
              simp only [Except.ok.injEq, Prod.mk.injEq] at found
              obtain ⟨rfl, rfl⟩ := found
              exact ⟨(Nesting.interior_iff.mp inside).2, trivial⟩
            · simp at found
          · simp at found

theorem read_complete {separator : Separator} {c : Char} {cs rest : Text} {lexeme : Lexeme}
    (spelled : c :: cs = lexeme.spelling ++ rest) (valid : lexeme.WellFormed separator)
    (ends : lexeme.EndsBefore separator rest) :
    read separator c cs = .ok (lexeme, rest) := by
  have noLiteral (off : c.isDigit = false) : Literal.read separator (c :: cs) = none :=
    Literal.read_none_of_stops off
  cases lexeme with
  | literal front =>
      have taken : Literal.read separator (c :: cs) = some (front, rest) :=
        Literal.read_iff.mpr ⟨spelled, valid, ends⟩
      simp only [read, taken]
  | blanks run =>
      obtain ⟨nonempty, all⟩ := valid
      cases run with
      | nil => exact absurd rfl nonempty
      | cons d tail =>
          simp only [spelling, List.cons_append, List.cons.injEq] at spelled
          obtain ⟨rfl, rfl⟩ := spelled
          have blank : Text.isBlank c = true := all c (by simp)
          have cut : Text.takeBlanks (tail ++ rest) = (tail, rest) :=
            Text.take_blanks_iff.mpr ⟨rfl, fun d inside => all d (by simp [inside]), ends⟩
          simp only [read, noLiteral (blank_not_digit blank), blank, cut, if_true]
  | plus =>
      simp only [spelling, List.cons_append, List.nil_append, List.cons.injEq] at spelled
      obtain ⟨rfl, rfl⟩ := spelled
      simp only [read, noLiteral rfl]
      rfl
  | minus =>
      simp only [spelling, List.cons_append, List.nil_append, List.cons.injEq] at spelled
      obtain ⟨rfl, rfl⟩ := spelled
      simp only [read, noLiteral rfl]
      rfl
  | group inner =>
      simp only [spelling, List.cons_append, List.append_assoc, List.nil_append,
        List.cons.injEq] at spelled
      obtain ⟨rfl, rfl⟩ := spelled
      have inside : Nesting.interior (inner ++ ')' :: rest) = some (inner, rest) :=
        Nesting.interior_iff.mpr ⟨rfl, valid⟩
      simp only [read, noLiteral rfl, inside]
      rfl

theorem read_iff {separator : Separator} {c : Char} {cs rest : Text} {lexeme : Lexeme} :
    read separator c cs = .ok (lexeme, rest) ↔
      c :: cs = lexeme.spelling ++ rest ∧ lexeme.WellFormed separator ∧
        lexeme.EndsBefore separator rest := by
  constructor
  · intro found
    exact ⟨read_append found, read_sound found⟩
  · rintro ⟨spelled, valid, ends⟩
    exact read_complete spelled valid ends

-- A cut fails at a bracket that nothing closes, or at a character with which nothing begins.
theorem read_error {separator : Separator} {c : Char} {rest : Text} {cause : Stuck}
    (failed : read separator c rest = .error cause) :
    (cause = .unbalanced ∧ c = '(' ∧ Nesting.interior rest = none) ∨ cause = .unexpected c := by
  unfold read at failed
  split at failed
  · exact absurd failed nofun
  · split at failed
    · exact absurd failed nofun
    · split at failed
      · exact absurd failed nofun
      · split at failed
        · exact absurd failed nofun
        · split at failed
          · rename_i opening
            split at failed
            · exact absurd failed nofun
            · rename_i noPartner
              exact Or.inl ⟨(Except.error.inj failed).symm, opening, noPartner⟩
          · exact Or.inr (Except.error.inj failed).symm

end TapeMeasure.Lexeme

import TapeMeasure.Proofs.Token.Layout
import TapeMeasure.Proofs.Token.Separator

/- Tight tokens, told from their text alone: feet and inches in which a digit stands directly
   behind the mark of the feet. A tree of tokens has one exactly if a literal of the text is
   tight, at any depth. -/
set_option autoImplicit false

namespace TapeMeasure

namespace Token

-- A token of feet and inches whose inches begin directly behind the mark of the feet.
def Tight (token : Token) : Prop :=
  (token.label.kind = .feetInches ∨ token.label.kind = .feetInchesFraction) ∧
    ∃ feet digit behind, Text.DigitGroup feet ∧
      token.label.text = feet ++ '\'' :: digit :: behind ∧ digit.isDigit = true

end Token

namespace Literal

-- Where the feet end, and so whether a digit follows their mark, is settled by their digits.
theorem tight_spelling {feet gap : Text} {part : InchPart}
    (valid : (Literal.feetInches feet gap part).WellFormed .optional) :
    (∃ front digit behind, Text.DigitGroup front ∧
      (Literal.feetInches feet gap part).spelling = front ++ '\'' :: digit :: behind ∧
      digit.isDigit = true) ↔ gap = [] := by
  obtain ⟨group, blank, -, inches⟩ := valid
  constructor
  · intro ⟨front, digit, behind, frontGroup, spelled, isDigit⟩
    have first : Text.takeDigits (Literal.feetInches feet gap part).spelling =
        some (feet, '\'' :: (gap ++ part.spelling)) :=
      Text.take_digits_iff.mpr ⟨by simp [spelling], group, rfl⟩
    have second : Text.takeDigits (Literal.feetInches feet gap part).spelling =
        some (front, '\'' :: digit :: behind) :=
      Text.take_digits_iff.mpr ⟨spelled, frontGroup, rfl⟩
    rw [first] at second
    simp only [Option.some.injEq, Prod.mk.injEq, List.cons.injEq, true_and] at second
    cases gap with
    | nil => rfl
    | cons c run =>
        obtain ⟨same, -⟩ := List.cons.inj second.2
        have off := Text.digit_not_blank digit isDigit
        rw [← same, blank c List.mem_cons_self] at off
        exact absurd off nofun
  · intro nothing
    obtain ⟨digit, tail, same, isDigit⟩ := InchPart.spelling_front inches
    refine ⟨feet, digit, tail, group, ?_, isDigit⟩
    simp [spelling, nothing, same]

theorem tight_iff {read : Literal} (valid : read.WellFormed .optional) (position : Nat)
    (value : Length) :
    (Token.literal read.kind position read.spelling value).Tight ↔ read.Tight := by
  cases read with
  | feetInches feet gap part =>
      have kind : (Literal.feetInches feet gap part).kind = .feetInches ∨
          (Literal.feetInches feet gap part).kind = .feetInchesFraction := by
        cases part with
        | whole inches => exact Or.inl rfl
        | mixed inches fraction => exact Or.inr rfl
      constructor
      · exact fun tight => (tight_spelling valid).mp tight.2
      · exact fun tight => ⟨kind, (tight_spelling valid).mpr tight⟩
  | inchesOnly part => cases part <;> simp [Token.Tight, Token.literal, kind, Tight]
  | _ => simp [Token.Tight, Token.literal, kind, Tight]

end Literal

namespace Piece

theorem bare_not_tight {kind : Kind} {position : Nat} {text : Text} {token : Token}
    (other : kind ≠ .feetInches ∧ kind ≠ .feetInchesFraction)
    (place : token = .bare kind position text ∨ token.Occurs []) : ¬ token.Tight := by
  intro tight
  cases place with
  | inl same =>
      rw [same] at tight
      exact tight.1.elim other.1 other.2
  | inr inner => exact Token.occurs_nil inner

mutual
theorem tight_token (piece : Piece) (sound : piece.Sound .optional) (position : Nat) :
    (∃ token, (token = piece.token position ∨ token.Occurs (piece.token position).nodes) ∧
      token.Tight) ↔ piece.Tight := by
  constructor
  · intro ⟨token, place, tight⟩
    cases piece with
    | literal read =>
        cases place with
        | inl same =>
            rw [same] at tight
            exact (Literal.tight_iff sound.1 _ _).mp tight
        | inr inner => exact absurd inner Token.occurs_nil
    | group inner =>
        cases place with
        | inl same =>
            rw [same] at tight
            exact absurd tight.1 (by simp [Piece.token, Token.group])
        | inr inside => exact (tight_tokens inner sound (position + 1)).mp ⟨token, inside, tight⟩
    | blanks run => exact bare_not_tight (by decide) place tight
    | plus => exact bare_not_tight (by decide) place tight
    | minus => exact bare_not_tight (by decide) place tight
  · intro tight
    cases piece with
    | literal read => exact ⟨_, Or.inl rfl, (Literal.tight_iff sound.1 _ _).mpr tight⟩
    | group inner =>
        obtain ⟨token, inside, found⟩ := (tight_tokens inner sound (position + 1)).mpr tight
        exact ⟨token, Or.inr inside, found⟩
    | blanks run => exact absurd tight id
    | plus => exact absurd tight id
    | minus => exact absurd tight id
theorem tight_tokens (pieces : List Piece) (greedy : Greedy .optional pieces) (position : Nat) :
    (∃ token, Token.Occurs token (tokens position pieces) ∧ token.Tight) ↔ TightLevel pieces := by
  cases pieces with
  | nil =>
      constructor
      · intro ⟨token, occurs, tight⟩
        exact absurd occurs Token.occurs_nil
      · exact fun tight => absurd tight id
  | cons piece rest =>
      obtain ⟨sound, -, others⟩ := greedy
      constructor
      · intro ⟨token, occurs, tight⟩
        cases Token.occurs_cons.mp occurs with
        | inl front => exact Or.inl ((tight_token piece sound _).mp ⟨token, front, tight⟩)
        | inr later => exact Or.inr ((tight_tokens rest others _).mp ⟨token, later, tight⟩)
      · intro tight
        cases tight with
        | inl first =>
            obtain ⟨token, front, found⟩ := (tight_token piece sound position).mpr first
            exact ⟨token, Token.occurs_cons.mpr (Or.inl front), found⟩
        | inr later =>
            obtain ⟨token, occurs, found⟩ := (tight_tokens rest others _).mpr later
            exact ⟨token, Token.occurs_cons.mpr (Or.inr occurs), found⟩
end

end Piece

end TapeMeasure

import TapeMeasure.Proofs.Token.Piece

/- The first piece of a text. A level that is spelled with a lexeme in front, which could not have
   been longer there, begins with the piece of this lexeme. No piece but a group has a bracket in
   it, so what stands behind the next bracket makes no difference to where the piece ends. -/
set_option autoImplicit false

namespace TapeMeasure

-- Inches are not read beyond a bracket.
theorem Literal.read_inches_bracket {separator : Separator} {before first second : Text}
    (bracket : Nesting.AtBracket second)
    (absent : readInches separator (before ++ first) = none) :
    readInches separator (before ++ second) = none := by
  cases found : readInches separator (before ++ second) with
  | none => rfl
  | some cut =>
      obtain ⟨gap, part, rest⟩ := cut
      obtain ⟨spelled, blank, admitted, valid⟩ := read_inches_iff.mp found
      have plain : Nesting.Plain (gap ++ part.spelling) :=
        Nesting.plain_append (Piece.blanks_plain blank) (Piece.inch_part_plain valid)
      rw [← List.append_assoc] at spelled
      obtain ⟨later, rfl, -⟩ := Nesting.plain_cut plain bracket spelled.symm
      have also : readInches separator (gap ++ part.spelling ++ later ++ first) =
          some (gap, part, later ++ first) :=
        read_inches_iff.mpr ⟨by simp only [List.append_assoc], blank, admitted, valid⟩
      rw [absent] at also
      exact absurd also nofun

namespace Lexeme

theorem bracket_stops {behind : Text} (bracket : Nesting.AtBracket behind) :
    Text.Stops Text.isBlank behind := by
  cases behind with
  | nil => trivial
  | cons c rest =>
      rcases bracket with rfl | rfl
      · rfl
      · rfl

theorem ends_before_bracket {separator : Separator} {lexeme : Lexeme}
    {before first second : Text} (bracket : Nesting.AtBracket second)
    (ends : lexeme.EndsBefore separator (before ++ first)) :
    lexeme.EndsBefore separator (before ++ second) := by
  cases lexeme with
  | literal read =>
      cases read with
      | feetOnly feet => exact Literal.read_inches_bracket bracket ends
      | _ => trivial
  | blanks run =>
      cases before with
      | nil => exact bracket_stops bracket
      | cons c rest => exact ends
  | _ => trivial

theorem spelling_not_empty {separator : Separator} {lexeme : Lexeme}
    (valid : lexeme.WellFormed separator) : lexeme.spelling ≠ [] := by
  cases lexeme with
  | literal read => exact read.spelling_not_empty
  | blanks run => exact valid.1
  | plus => exact nofun
  | minus => exact nofun
  | group inner => exact nofun

end Lexeme

namespace Piece

theorem lexeme_literal {piece : Piece} {read : Literal} (same : piece.lexeme = .literal read) :
    piece = .literal read := by
  cases piece with
  | literal other => rw [Lexeme.literal.inj same]
  | _ => exact absurd same nofun

theorem lexeme_blanks {piece : Piece} {run : Text} (same : piece.lexeme = .blanks run) :
    piece = .blanks run := by
  cases piece with
  | blanks other => rw [Lexeme.blanks.inj same]
  | _ => exact absurd same nofun

-- Both the lexeme and the first piece are what one cut takes from the text.
theorem front_piece {separator : Separator} {pieces : List Piece} {lexeme : Lexeme} {rest : Text}
    (greedy : Greedy separator pieces) (spelled : spell pieces = lexeme.spelling ++ rest)
    (valid : lexeme.WellFormed separator) (ends : lexeme.EndsBefore separator rest) :
    ∃ piece others, pieces = piece :: others ∧ piece.lexeme = lexeme ∧ spell others = rest := by
  cases pieces with
  | nil =>
      have empty : lexeme.spelling = [] := (List.append_eq_nil_iff.mp spelled.symm).1
      exact absurd empty (Lexeme.spelling_not_empty valid)
  | cons piece others =>
      obtain ⟨sound, pieceEnds, -⟩ := greedy
      obtain ⟨c, tail, same⟩ := sound_spelling sound
      have own : c :: (tail ++ spell others) = piece.lexeme.spelling ++ spell others := by
        rw [lexeme_spelling, same, List.cons_append]
      have given : c :: (tail ++ spell others) = lexeme.spelling ++ rest := by
        rw [← spelled, spell, same, List.cons_append]
      have first := Lexeme.read_iff.mpr ⟨own, sound_lexeme sound, pieceEnds⟩
      have second := Lexeme.read_iff.mpr ⟨given, valid, ends⟩
      rw [first] at second
      simp only [Except.ok.injEq, Prod.mk.injEq] at second
      exact ⟨piece, others, rfl, second.1, second.2⟩

-- A run of blanks as pieces: none, if there is no blank in it.
def ofBlanks (run : Text) : List Piece := if run = [] then [] else [.blanks run]

theorem spell_of_blanks (run : Text) (rest : List Piece) :
    spell (ofBlanks run ++ rest) = run ++ spell rest := by
  unfold ofBlanks
  split
  · rename_i empty
    rw [empty, List.nil_append, List.nil_append]
  · rfl

theorem deepest_of_blanks (run : Text) (rest : List Piece) :
    deepest (ofBlanks run ++ rest) = deepest rest := by
  unfold ofBlanks
  split
  · rfl
  · simp [deepest, depth]

theorem greedy_of_blanks {separator : Separator} {run : Text} {rest : List Piece}
    (blank : Text.AllBlank run) (stop : Text.Stops Text.isBlank (spell rest))
    (greedy : Greedy separator rest) : Greedy separator (ofBlanks run ++ rest) := by
  unfold ofBlanks
  split
  · exact greedy
  · rename_i nonempty
    exact ⟨⟨nonempty, blank⟩, stop, greedy⟩

theorem front_inches {separator : Separator} {pieces : List Piece} {part : InchPart} {rest : Text}
    (greedy : Greedy separator pieces) (spelled : spell pieces = part.spelling ++ rest)
    (valid : part.WellFormed) :
    ∃ others, pieces = .literal (.inchesOnly part) :: others ∧ spell others = rest := by
  have cut : (Lexeme.literal (.inchesOnly part)).WellFormed separator := valid
  obtain ⟨piece, others, rfl, same, behind⟩ := front_piece greedy spelled cut trivial
  exact ⟨others, by rw [lexeme_literal same], behind⟩

theorem front_gap {separator : Separator} {pieces : List Piece} {gap rest : Text}
    {part : InchPart} (greedy : Greedy separator pieces)
    (spelled : spell pieces = gap ++ (part.spelling ++ rest)) (blank : Text.AllBlank gap)
    (valid : part.WellFormed) :
    ∃ others, pieces = ofBlanks gap ++ .literal (.inchesOnly part) :: others ∧
      spell others = rest := by
  by_cases empty : gap = []
  · rw [empty, List.nil_append] at spelled
    rw [ofBlanks, if_pos empty]
    exact front_inches greedy spelled valid
  · have cut : (Lexeme.blanks gap).WellFormed separator := ⟨empty, blank⟩
    obtain ⟨piece, behind, rfl, same, left⟩ :=
      front_piece greedy spelled cut (InchPart.spelling_stops valid rest)
    obtain ⟨others, rfl, ending⟩ := front_inches greedy.2.2 left valid
    refine ⟨others, ?_, ending⟩
    rw [lexeme_blanks same, ofBlanks, if_neg empty]
    rfl

end Piece

end TapeMeasure

import TapeMeasure.Proofs.Expr.Grammar
import TapeMeasure.Proofs.Length.Written

/- Reading back what was written. The written form of a normal length evaluates to that length,
   except that feet without inches and with a fraction are two literals side by side, for which
   expressions have no form. -/
set_option autoImplicit false

namespace TapeMeasure

theorem measure_literal {separator : Separator} {read : Literal} {length : Length}
    (means : read.Means length.totalSixteenths) (normal : length.Normal) :
    measure separator read.spelling = .ok length := by
  rw [measure_single (means.wellFormed separator) means.valued, Literal.means_worth means normal]

theorem feet_fraction_greedy {separator : Separator} {feet : Text} {fraction : Fraction}
    {sixteenths below : Int} (feetMean : (Literal.feetOnly feet).Means sixteenths)
    (fractionMeans : (Literal.fractionOnly fraction).Means below) :
    Piece.Greedy separator
      [.literal (.feetOnly feet), .blanks [' '], .literal (.fractionOnly fraction)] := by
  have feetSound := feetMean.wellFormed separator
  have fractionSound := fractionMeans.wellFormed separator
  have spelled : Piece.spell [.literal (.fractionOnly fraction)] = fraction.spelling := by
    simp [Piece.spell, Piece.spelling, Literal.spelling]
  refine ⟨⟨feetSound, feetMean.valued⟩, ?_, ⟨by simp, Text.space_blank⟩, ?_,
    ⟨fractionSound, fractionMeans.valued⟩, trivial, trivial⟩
  · rw [Piece.spell, spelled]
    exact Literal.feet_end_before_fraction fractionSound
  · exact Literal.spelling_stops fractionSound []

theorem measure_feet_fraction {separator : Separator} {feet : Text} {fraction : Fraction}
    {sixteenths below : Int} (feetMean : (Literal.feetOnly feet).Means sixteenths)
    (fractionMeans : (Literal.fractionOnly fraction).Means below) :
    ∃ level, measure separator
        ((Literal.feetOnly feet).spelling ++ ' ' :: (Literal.fractionOnly fraction).spelling) =
      .error (.error (.eval (.malformed level))) := by
  have greedy : Piece.Greedy separator
      [.literal (.feetOnly feet), .blanks [' '], .literal (.fractionOnly fraction)] :=
    feet_fraction_greedy feetMean fractionMeans
  have spelled : Piece.spell
        [.literal (.feetOnly feet), .blanks [' '], .literal (.fractionOnly fraction)] =
      (Literal.feetOnly feet).spelling ++ ' ' :: (Literal.fractionOnly fraction).spelling := by
    simp [Piece.spell, Piece.spelling]
  have scanned := Piece.tokenize_iff.mpr
    ⟨_, greedy, by simp [Piece.deepest, Piece.depth], spelled, rfl⟩
  have two : (Piece.nodes 0
      [.literal (.feetOnly feet), .blanks [' '], .literal (.fractionOnly fraction)]).length = 2 := by
    rw [Piece.nodes_solid _ _ id, Piece.nodes_blanks, Piece.nodes_solid _ _ id]
    rfl
  exact ⟨_, measure_of_fails scanned (Node.two_nodes_fail two)⟩

theorem measure_two_literals {length : Length} {written : Text} (normal : length.Normal)
    (rendered : length.render = some written) (someFeet : length.feet ≠ 0)
    (noInches : length.inches = 0) (rest : length.numerator16 ≠ 0) (separator : Separator) :
    ∃ level, measure separator written = .error (.error (.eval (.malformed level))) := by
  have short := (Length.render_succeeds_iff length).mp ⟨written, rendered⟩
  obtain ⟨feet, fraction, spelled, feetMean, fractionMeans⟩ :=
    Length.render_two_literals normal short someFeet noInches rest
  rw [rendered] at spelled
  rw [Option.some.inj spelled]
  exact measure_feet_fraction feetMean fractionMeans

theorem measure_render_iff {length : Length} {written : Text} (normal : length.Normal)
    (rendered : length.render = some written) (separator : Separator) :
    measure separator written = .ok length ↔
      length.feet = 0 ∨ length.inches ≠ 0 ∨ length.numerator16 = 0 := by
  constructor
  · intro measured
    by_cases noFeet : length.feet = 0
    · exact Or.inl noFeet
    · by_cases noInches : length.inches = 0
      · by_cases whole : length.numerator16 = 0
        · exact Or.inr (Or.inr whole)
        · obtain ⟨level, failed⟩ :=
            measure_two_literals normal rendered noFeet noInches whole separator
          rw [failed] at measured
          exact absurd measured nofun
      · exact Or.inr (Or.inl noInches)
  · intro shape
    have short := (Length.render_succeeds_iff length).mp ⟨written, rendered⟩
    obtain ⟨read, spelled, means⟩ := Length.render_literal normal short shape
    rw [rendered] at spelled
    rw [Option.some.inj spelled]
    exact measure_literal means normal

theorem measure_render_of_mixed :
    Length.Normal ⟨14, 12⟩ ∧ Length.render ⟨14, 12⟩ = some "1' 2-3/4\"".toList ∧
      (measure .required "1' 2-3/4\"".toList = .ok ⟨14, 12⟩ ↔
        Length.feet ⟨14, 12⟩ = 0 ∨ Length.inches ⟨14, 12⟩ ≠ 0 ∨
          Length.numerator16 ⟨14, 12⟩ = 0) :=
  ⟨by decide, by decide, measure_render_iff (by decide) (by decide) .required⟩

-- A foot and half an inch is written with feet and a fraction.
theorem foot_and_fraction_not_read_back :
    Length.Normal ⟨12, 8⟩ ∧ Length.render ⟨12, 8⟩ = some "1' 1/2\"".toList ∧
      measure .optional "1' 1/2\"".toList ≠ .ok ⟨12, 8⟩ ∧
      measure .required "1' 1/2\"".toList ≠ .ok ⟨12, 8⟩ := by
  have normal : Length.Normal ⟨12, 8⟩ := by decide
  have rendered : Length.render ⟨12, 8⟩ = some "1' 1/2\"".toList := by decide
  have refused (separator : Separator) : measure separator "1' 1/2\"".toList ≠ .ok ⟨12, 8⟩ := by
    obtain ⟨level, failed⟩ :=
      measure_two_literals normal rendered (by decide) (by decide) (by decide) separator
    rw [failed]
    exact nofun
  exact ⟨normal, rendered, refused .optional, refused .required⟩

-- Reading back a written length either gives it again or fails as malformed, by its shape alone.
theorem measure_render_outcome {length : Length} (normal : length.Normal)
    (short : Decimal.Writable length.feet) (separator : Separator) :
    ∃ written, length.render = some written ∧
      (length.feet = 0 ∨ 0 < length.inches ∨ length.numerator16 = 0 →
        measure separator written = .ok length) ∧
      (0 < length.feet ∧ length.inches = 0 ∧ 0 < length.numerator16 →
        ∃ level, measure separator written = .error (.error (.eval (.malformed level)))) := by
  obtain ⟨written, rendered⟩ := (Length.render_succeeds_iff length).mpr short
  refine ⟨written, rendered, ?_, ?_⟩
  · intro shape
    obtain ⟨read, spelled, means⟩ :=
      Length.render_literal normal short (shape.imp_right (Or.imp_left (Int.ne_of_gt)))
    rw [rendered] at spelled
    rw [Option.some.inj spelled]
    exact measure_literal means normal
  · intro ⟨someFeet, noInches, rest⟩
    exact measure_two_literals normal rendered (Int.ne_of_gt someFeet) noInches
      (Int.ne_of_gt rest) separator

theorem mixed_read_back_fraction_malformed :
    (∃ written, Length.render ⟨14, 12⟩ = some written ∧ measure .required written = .ok ⟨14, 12⟩) ∧
      ∃ written level, Length.render ⟨12, 8⟩ = some written ∧
        measure .optional written = .error (.error (.eval (.malformed level))) := by
  have mixedNormal : Length.Normal ⟨14, 12⟩ := by decide
  have fractionNormal : Length.Normal ⟨12, 8⟩ := by decide
  obtain ⟨mixed, first, same, -⟩ := measure_render_outcome mixedNormal (by decide) .required
  obtain ⟨fraction, second, -, refused⟩ :=
    measure_render_outcome fractionNormal (by decide) .optional
  obtain ⟨level, failed⟩ := refused (by decide)
  exact ⟨⟨mixed, first, same (by decide)⟩, fraction, level, second, failed⟩

end TapeMeasure

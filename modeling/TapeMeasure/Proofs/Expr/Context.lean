import TapeMeasure.Proofs.Expr.Outcome
import TapeMeasure.Proofs.Token.Front

/- A sum in brackets and the text around it. The text around may be anything: where the brackets of
   the sum are, what is scanned in front of them and what is scanned behind them does not depend on
   the sum, and of the sum only its value gets out of the brackets. -/
set_option autoImplicit false

namespace TapeMeasure

namespace Nesting

-- The text in brackets, between two others.
def enclose (before inner behind : Text) : Text := before ++ '(' :: (inner ++ ')' :: behind)

-- Balanced text in front of a closing bracket ends at the same place, however it is found.
theorem balanced_cut {first second x y : Text} (one : Balanced first) (other : Balanced second)
    (same : first ++ ')' :: x = second ++ ')' :: y) : first = second ∧ x = y := by
  have cut : interior (first ++ ')' :: x) = some (first, x) := interior_iff.mpr ⟨rfl, one⟩
  have otherCut : interior (first ++ ')' :: x) = some (second, y) :=
    interior_iff.mpr ⟨same, other⟩
  rw [cut] at otherCut
  simpa using otherCut

-- What closes a bracket in front of it closes more than it opens.
theorem closing_tail {before tail : Text} (outer : Balanced (before ++ '(' :: tail))
    (extra : Text) : ¬ Balanced (tail ++ extra) := by
  intro balanced
  unfold Balanced at outer balanced
  rw [open_after_append] at outer balanced
  cases counted : openAfter 0 tail with
  | none =>
      rw [counted] at balanced
      exact absurd balanced nofun
  | some behind =>
      cases front : openAfter 0 before with
      | none =>
          rw [front] at outer
          exact absurd outer nofun
      | some depth =>
          have raised := open_after_raise (depth + 1) counted
          rw [Nat.zero_add] at raised
          rw [front, Option.bind_some, open_after_open, raised] at outer
          exact absurd (Option.some.inj outer) (by omega)

-- A group either encloses the brackets further inside, or stands in front of them.
theorem group_cut {inner rest before sum behind : Text} (outer : Balanced inner)
    (balanced : Balanced sum) (same : inner ++ ')' :: rest = enclose before sum behind) :
    (∃ later, inner = enclose before sum later ∧ behind = later ++ ')' :: rest) ∨
      ∃ later, before = inner ++ ')' :: later ∧ rest = enclose later sum behind := by
  rcases List.append_eq_append_iff.mp same with ⟨later, spelled, left⟩ | ⟨tail, spelled, left⟩
  · cases later with
    | nil => exact absurd (List.cons.inj left).1 (by decide)
    | cons c later =>
        obtain ⟨rfl, rests⟩ := List.cons.inj left
        exact Or.inr ⟨later, spelled, rests⟩
  · cases tail with
    | nil => exact absurd (List.cons.inj left).1 (by decide)
    | cons c tail =>
        obtain ⟨rfl, rests⟩ := List.cons.inj left
        rw [spelled] at outer
        rcases List.append_eq_append_iff.mp rests with ⟨later, rfl, ends⟩ | ⟨extra, rfl, -⟩
        · cases later with
          | nil =>
              have closed := closing_tail outer []
              rw [List.append_nil, List.append_nil] at closed
              exact absurd balanced closed
          | cons c later =>
              obtain ⟨rfl, behindSame⟩ := List.cons.inj ends
              exact Or.inl ⟨later, spelled, behindSame⟩
        · exact absurd balanced (closing_tail outer extra)

end Nesting

namespace Piece

-- The pieces with other pieces inside one pair of brackets.
def Replaced (separator : Separator) (text : Text) (pieces : List Piece) : Prop :=
  ∃ others, Greedy separator others ∧ spell others = text ∧ AlikeLevel pieces others

theorem not_group_plain {separator : Separator} {piece : Piece} (sound : piece.Sound separator)
    (notGroup : ∀ inner, piece ≠ .group inner) : Nesting.Plain piece.spelling := by
  cases piece with
  | literal read => exact literal_plain sound.1
  | blanks run => exact blanks_plain sound.2
  | plus => exact Nesting.plain_mark (by decide)
  | minus => exact Nesting.plain_mark (by decide)
  | group inner => exact absurd rfl (notGroup inner)

theorem replaced_behind {separator : Separator} {piece : Piece} {rest : List Piece}
    {before first second : Text} (sound : piece.Sound separator)
    (ends : piece.lexeme.EndsBefore separator (spell rest))
    (spelled : spell rest = before ++ '(' :: first)
    (others : Replaced separator (before ++ '(' :: second) rest) :
    Replaced separator (piece.spelling ++ (before ++ '(' :: second)) (piece :: rest) := by
  obtain ⟨later, greedy, same, alike⟩ := others
  rw [spelled] at ends
  have stillEnds : piece.lexeme.EndsBefore separator (before ++ '(' :: second) :=
    Lexeme.ends_before_bracket (Nesting.at_bracket_open second) ends
  rw [← same] at stillEnds
  refine ⟨piece :: later, ⟨sound, stillEnds, greedy⟩, by rw [spell, same], ?_⟩
  exact alike_behind (alike_self piece) alike

-- These pieces can stand for the sum inside brackets.
structure Substitute (separator : Separator) (sum : Text) (pieces : List Piece) : Prop where
  balanced : Nesting.Balanced sum
  greedy : Greedy separator pieces
  alike : ∀ inner, Greedy separator inner → spell inner = sum → (group inner).Alike (group pieces)

-- The brackets of the sum are found on the way through the pieces. They belong to the first piece
-- if nothing stands in front of them, and are otherwise inside it or behind it.
theorem replace {separator : Separator} {sum before behind : Text} {other : List Piece}
    (substitute : Substitute separator sum other) (pieces : List Piece)
    (greedy : Greedy separator pieces)
    (spelled : spell pieces = Nesting.enclose before sum behind) :
    Replaced separator (Nesting.enclose before (spell other) behind) pieces := by
  cases pieces with
  | nil => simp [spell, Nesting.enclose] at spelled
  | cons piece rest =>
      obtain ⟨sound, ends, others⟩ := greedy
      rw [spell] at spelled
      by_cases isGroup : ∃ inner, piece = .group inner
      · obtain ⟨inner, rfl⟩ := isGroup
        have balanced := greedy_balanced inner sound
        cases before with
        | nil =>
            have cut : spell inner ++ ')' :: spell rest = sum ++ ')' :: behind := by
              simpa [spelling, Nesting.enclose] using spelled
            obtain ⟨same, rfl⟩ := Nesting.balanced_cut balanced substitute.balanced cut
            refine ⟨.group other :: rest, ⟨substitute.greedy, trivial, others⟩, ?_, ?_⟩
            · simp [spell, spelling, Nesting.enclose]
            · exact alike_cons id id (substitute.alike inner sound same) (alike_level_self rest)
        | cons c before =>
            obtain ⟨rfl, cut⟩ : '(' = c ∧
                spell inner ++ ')' :: spell rest = Nesting.enclose before sum behind := by
              simpa [spelling, Nesting.enclose] using spelled
            rcases Nesting.group_cut balanced substitute.balanced cut with
              ⟨later, inside, rfl⟩ | ⟨later, rfl, outside⟩
            · obtain ⟨replaced, greedy, same, alike⟩ := replace substitute inner sound inside
              refine ⟨.group replaced :: rest, ⟨greedy, trivial, others⟩, ?_, ?_⟩
              · simp [spell, spelling, same, Nesting.enclose]
              · exact alike_cons id id (alike_group alike) (alike_level_self rest)
            · have moved := replaced_behind sound ends outside
                (replace substitute rest others outside)
              simpa [spelling, Nesting.enclose] using moved
      · have plain := not_group_plain sound (not_exists.mp isGroup)
        obtain ⟨later, rfl, left⟩ := Nesting.plain_cut plain (Nesting.at_bracket_open _) spelled
        have moved := replaced_behind sound ends left (replace substitute rest others left)
        simpa [Nesting.enclose] using moved

end Piece

theorem substitute_of_measure {separator : Separator} {sum : Text} {pieces : List Piece}
    {length : Length} (one : measure separator sum = .ok length)
    (greedy : Piece.Greedy separator pieces)
    (other : measure separator (Piece.spell pieces) = .ok length) :
    Piece.Substitute separator sum pieces := by
  obtain ⟨tokens, values, scanned, -, -⟩ := measure_ok_sums one
  obtain ⟨own, ownGreedy, -, rfl, -⟩ := Piece.tokenize_iff.mp scanned
  constructor
  case balanced => exact Piece.greedy_balanced own ownGreedy
  case greedy => exact greedy
  case alike =>
    intro inner innerGreedy same i j
    rw [← same] at one
    rw [Piece.node_group, Piece.node_group]
    have value := level_value innerGreedy one (i + 1)
    have otherValue := level_value greedy other (j + 1)
    exact ⟨rfl, value.trans otherValue.symm⟩

theorem outcome_replaced {separator : Separator} {before behind first second : Text}
    {length : Length} {tokens : List Token} (one : measure separator first = .ok length)
    (other : measure separator second = .ok length)
    (shallow : Nesting.peak 0 (Nesting.enclose before second behind) ≤ Nesting.maxDepth)
    (scanned : tokenize separator (Nesting.enclose before first behind) = .ok tokens) :
    outcome (measure separator (Nesting.enclose before first behind)) =
      outcome (measure separator (Nesting.enclose before second behind)) := by
  obtain ⟨sumTokens, values, sumScanned, -, -⟩ := measure_ok_sums other
  obtain ⟨sum, sumGreedy, -, rfl, -⟩ := Piece.tokenize_iff.mp sumScanned
  obtain ⟨pieces, greedy, bound, spelled, -⟩ := Piece.tokenize_iff.mp scanned
  obtain ⟨replaced, otherGreedy, same, alike⟩ :=
    Piece.replace (substitute_of_measure one sumGreedy other) pieces greedy spelled
  rw [← same] at shallow ⊢
  rw [← spelled]
  have otherBound :=
    (Piece.greedy_excess otherGreedy).mp ((Nesting.excess_none_iff _).mpr shallow)
  exact outcome_pieces greedy bound otherGreedy otherBound alike

theorem measure_enclose_congr {separator : Separator} {before behind first second : Text}
    {length : Length} (one : measure separator first = .ok length)
    (other : measure separator second = .ok length)
    (shallow : Nesting.peak 0 (Nesting.enclose before first behind) ≤ 32)
    (otherShallow : Nesting.peak 0 (Nesting.enclose before second behind) ≤ 32) :
    outcome (measure separator (Nesting.enclose before first behind)) =
      outcome (measure separator (Nesting.enclose before second behind)) := by
  cases scanned : tokenize separator (Nesting.enclose before first behind) with
  | ok tokens => exact outcome_replaced one other otherShallow scanned
  | error cause =>
      cases otherScanned : tokenize separator (Nesting.enclose before second behind) with
      | ok tokens => exact (outcome_replaced other one shallow otherScanned).symm
      | error otherCause =>
          rw [measure, measure, scanned, otherScanned]
          rfl

theorem foot_or_twelve_inches_subtracted :
    measure .optional "1'".toList = .ok ⟨12, 0⟩ ∧ measure .optional "12\"".toList = .ok ⟨12, 0⟩ ∧
      Nesting.peak 0 (Nesting.enclose "(3\" - ".toList "1'".toList ") + 1\"".toList) ≤ 32 ∧
      Nesting.peak 0 (Nesting.enclose "(3\" - ".toList "12\"".toList ") + 1\"".toList) ≤ 32 ∧
      outcome (measure .optional
          (Nesting.enclose "(3\" - ".toList "1'".toList ") + 1\"".toList)) =
        outcome (measure .optional
          (Nesting.enclose "(3\" - ".toList "12\"".toList ") + 1\"".toList)) := by
  have noBlank : Text.AllBlank [] := nofun
  have digit : Text.DigitGroup ['1'] := by decide
  have digits : Text.DigitGroup ['1', '2'] := by decide
  have one : (Literal.feetOnly ['1']).WellFormed .optional := digit
  have twelve : (Literal.inchesOnly (.whole ['1', '2'])).WellFormed .optional := ⟨digits, nofun⟩
  have foot : measure .optional "1'".toList = .ok ⟨12, 0⟩ :=
    (measure_iff_derives _ _ _).mpr
      ⟨_, .single noBlank (.literal _ one ⟨by decide, nofun⟩) noBlank, by decide⟩
  have inches : measure .optional "12\"".toList = .ok ⟨12, 0⟩ :=
    (measure_iff_derives _ _ _).mpr
      ⟨_, .single noBlank (.literal _ twelve ⟨by decide, nofun⟩) noBlank, by decide⟩
  exact ⟨foot, inches, by decide, by decide,
    measure_enclose_congr foot inches (by decide) (by decide)⟩

end TapeMeasure

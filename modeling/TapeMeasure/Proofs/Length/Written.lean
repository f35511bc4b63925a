import Mathlib.Data.Set.Function
import TapeMeasure.Proofs.Length.Canonical
import TapeMeasure.Proofs.Token.Worth

/- The written form of a length, as a literal. Of its eight shapes seven are one literal, which
   stands for the length again; feet without inches and with a fraction are two. Either way the
   literals tell the length, so different lengths are written differently. -/
set_option autoImplicit false

namespace TapeMeasure

namespace Literal

-- Every reader takes the literal for this many sixteenths.
structure Means (sixteenths : Int) (read : Literal) : Prop where
  wellFormed : ∀ separator, read.WellFormed separator
  valued : read.HasValue
  total : (read.total : Int) = sixteenths

theorem means_worth {read : Literal} {length : Length}
    (means : Means length.totalSixteenths read) (normal : length.Normal) :
    read.worth = length := by
  apply Length.normal_of_total _ _ read.worth_normal normal
  rw [worth_total, means.total]

theorem feet_means {feet : Text} (group : Text.DigitGroup feet)
    (readable : Decimal.Readable feet) :
    Means (192 * (Decimal.value feet : Int)) (.feetOnly feet) := by
  constructor
  case wellFormed => exact fun separator => group
  case valued =>
    refine ⟨?_, nofun⟩
    intro other member
    rw [List.mem_singleton.mp member]
    exact readable
  case total =>
    have nothing : Decimal.value [] = 0 := rfl
    simp only [total, feet?, inches?, fraction?, Option.getD_some, Option.getD_none, nothing]
    omega

theorem whole_means {inches : Text} (group : Text.DigitGroup inches)
    (readable : Decimal.Readable inches) :
    Means (16 * (Decimal.value inches : Int)) (.inchesOnly (.whole inches)) := by
  constructor
  case wellFormed => exact fun separator => ⟨group, nofun⟩
  case valued =>
    refine ⟨?_, nofun⟩
    intro other member
    rw [List.mem_singleton.mp member]
    exact readable
  case total =>
    have nothing : Decimal.value [] = 0 := rfl
    simp only [total, feet?, inches?, fraction?, InchPart.inches, InchPart.fraction?,
      Option.getD_some, Option.getD_none, nothing]
    omega

theorem mixed_means {inches : Text} {sixteenths : Int} {fraction : Fraction}
    (group : Text.DigitGroup inches) (readable : Decimal.Readable inches)
    (means : Means sixteenths (.fractionOnly fraction)) :
    Means (16 * (Decimal.value inches : Int) + sixteenths)
      (.inchesOnly (.mixed inches fraction)) := by
  constructor
  case wellFormed =>
    intro separator
    refine ⟨group, ?_⟩
    intro other same
    obtain rfl := Option.some.inj same
    exact means.wellFormed separator
  case valued =>
    refine ⟨?_, means.valued.nonzero⟩
    intro other member
    cases List.mem_cons.mp member with
    | inl same =>
        rw [same]
        exact readable
    | inr inFraction => exact means.valued.readable other inFraction
  case total =>
    have nothing : Decimal.value [] = 0 := rfl
    have below := means.total
    simp only [total, feet?, inches?, fraction?, InchPart.inches, InchPart.fraction?,
      Option.getD_some, Option.getD_none, nothing] at below ⊢
    omega

theorem feet_inches_means {feet : Text} {sixteenths : Int} {part : InchPart}
    (group : Text.DigitGroup feet) (readable : Decimal.Readable feet)
    (means : Means sixteenths (.inchesOnly part)) :
    Means (192 * (Decimal.value feet : Int) + sixteenths) (.feetInches feet [' '] part) := by
  constructor
  case wellFormed =>
    intro separator
    refine ⟨group, Text.space_blank, ?_, means.wellFormed separator⟩
    cases separator <;> rfl
  case valued =>
    exact feet_inches_value.mpr ⟨(feet_means group readable).valued, means.valued⟩
  case total =>
    have nothing : Decimal.value [] = 0 := rfl
    have below := means.total
    simp only [total, feet?, inches?, fraction?, Option.getD_some, Option.getD_none,
      nothing] at below ⊢
    omega

theorem reduced_means {fraction : Fraction} (reduced : fraction.Reduced) :
    Means fraction.sixteenths (.fractionOnly fraction) := by
  have scale := Fraction.reduced_scale reduced
  have proper := reduced.proper
  constructor
  case wellFormed => exact fun separator => ⟨reduced.numerator.1, reduced.denominator.1⟩
  case valued =>
    refine ⟨?_, ?_⟩
    · intro group member
      cases List.mem_cons.mp member with
      | inl same =>
          rw [same]
          exact Decimal.numeral_small_readable reduced.numerator (by omega)
      | inr second =>
          rw [List.mem_singleton.mp second]
          exact Decimal.numeral_small_readable reduced.denominator (by omega)
    · intro other same
      obtain rfl := Option.some.inj same
      exact Nat.ne_of_gt (Decimal.numeral_positive reduced.denominator)
  case total =>
    have nothing : Decimal.value [] = 0 := rfl
    have part : fraction.sixteenths < 16 := Nat.div_lt_of_lt_mul (by omega)
    unfold Fraction.sixteenths at part
    simp only [total, feet?, inches?, fraction?, Option.getD_none, nothing, Fraction.sixteenths,
      Nat.min_eq_left (Nat.le_of_lt part)]
    omega

-- The blank keeps the fraction apart from the feet, and without a blank it would not be inches
-- either: the reader of inches stops at the slash.
theorem feet_end_before_fraction {separator : Separator} {fraction : Fraction}
    (valid : fraction.WellFormed) :
    Literal.readInches separator (' ' :: fraction.spelling) = none := by
  have stop : Text.Stops Text.isBlank fraction.spelling := by
    have front := spelling_stops (show WellFormed separator (.fractionOnly fraction) from valid) []
    rw [List.append_nil] at front
    exact front
  have absent : InchPart.read fraction.spelling = none := by
    rw [Fraction.spelling, List.append_assoc]
    exact InchPart.read_none_of_mark valid.1 (by decide) (by decide) (by decide)
  exact read_inches_none Text.space_blank stop absent

end Literal

namespace Length

-- The total tells inches from a fraction that stands alone.
theorem below_foot_literal {text : Text} {sixteenths : Int} (part : BelowFoot text sixteenths) :
    (∃ inch : InchPart, text = inch.spelling ∧ Literal.Means sixteenths (.inchesOnly inch) ∧
        16 ≤ sixteenths ∧ sixteenths < 192) ∨
      ∃ fraction : Fraction, text = fraction.spelling ∧
        Literal.Means sixteenths (.fractionOnly fraction) ∧ 0 < sixteenths ∧ sixteenths < 16 := by
  cases part with
  | @inches inches numeral few =>
      have positive := Decimal.numeral_positive numeral
      have readable := Decimal.numeral_small_readable numeral (by omega)
      refine Or.inl ⟨.whole inches, rfl, Literal.whole_means numeral.1 readable, ?_, ?_⟩
      · omega
      · omega
  | @mixed inches fraction numeral few reduced =>
      have positive := Decimal.numeral_positive numeral
      have readable := Decimal.numeral_small_readable numeral (by omega)
      have means := Literal.mixed_means numeral.1 readable (Literal.reduced_means reduced)
      obtain ⟨-, some, small⟩ := fraction_text_reduced reduced
      refine Or.inl ⟨.mixed inches fraction, rfl, means, ?_, ?_⟩
      · omega
      · omega
  | @fraction fraction reduced =>
      obtain ⟨-, some, small⟩ := fraction_text_reduced reduced
      refine Or.inr ⟨fraction, rfl, Literal.reduced_means reduced, ?_, ?_⟩
      · omega
      · omega

-- One literal, or feet and a fraction with a blank between them; the total tells which.
theorem canonical_read {text : Text} {sixteenths : Int} (canonical : Canonical text sixteenths) :
    (∃ read : Literal, text = read.spelling ∧ read.Means sixteenths ∧
        (sixteenths < 192 ∨ sixteenths % 192 = 0 ∨ 16 ≤ sixteenths % 192)) ∨
      ∃ feet fraction, text =
          (Literal.feetOnly feet).spelling ++ ' ' :: (Literal.fractionOnly fraction).spelling ∧
        (Literal.feetOnly feet).Means (sixteenths - sixteenths % 192) ∧
        (Literal.fractionOnly fraction).Means (sixteenths % 192) ∧
        192 ≤ sixteenths ∧ 0 < sixteenths % 192 ∧ sixteenths % 192 < 16 := by
  cases canonical with
  | zero =>
      have digit : Text.DigitGroup ['0'] := by decide
      exact Or.inl ⟨.inchesOnly (.whole ['0']), rfl, Literal.whole_means digit (by decide),
        Or.inl (by decide)⟩
  | @feet feet numeral readable =>
      refine Or.inl ⟨.feetOnly feet, rfl, Literal.feet_means numeral.1 readable, ?_⟩
      omega
  | below part =>
      cases below_foot_literal part with
      | inl inch =>
          obtain ⟨inch, spelled, means, least, most⟩ := inch
          exact Or.inl ⟨.inchesOnly inch, spelled, means, Or.inl most⟩
      | inr alone =>
          obtain ⟨fraction, spelled, means, least, most⟩ := alone
          exact Or.inl ⟨.fractionOnly fraction, spelled, means, Or.inl (by omega)⟩
  | @both feet text part numeral readable below =>
      have feetMean := Literal.feet_means numeral.1 readable
      have positive := Decimal.numeral_positive numeral
      cases below_foot_literal below with
      | inl inch =>
          obtain ⟨inch, spelled, means, least, most⟩ := inch
          refine Or.inl ⟨.feetInches feet [' '] inch, ?_,
            Literal.feet_inches_means numeral.1 readable means, ?_⟩
          · rw [spelled]
            simp [Literal.spelling]
          · omega
      | inr alone =>
          obtain ⟨fraction, spelled, means, least, most⟩ := alone
          have rest : (192 * (Decimal.value feet : Int) + part) % 192 = part := by omega
          rw [rest, Int.add_sub_cancel]
          refine Or.inr ⟨feet, fraction, ?_, feetMean, means, ?_, least, most⟩
          · rw [spelled]
            simp [Literal.spelling]
          · omega

theorem render_literal {length : Length} (normal : length.Normal)
    (short : Decimal.Writable length.feet)
    (shape : length.feet = 0 ∨ length.inches ≠ 0 ∨ length.numerator16 = 0) :
    ∃ read : Literal, length.render = some read.spelling ∧
      read.Means length.totalSixteenths := by
  obtain ⟨text, rendered, canonical⟩ := render_canonical normal short
  have split := total_split length
  have natural := inches_natural length
  have below := inches_below_foot length
  obtain ⟨-, positive, few⟩ := normal
  cases canonical_read canonical with
  | inl one =>
      obtain ⟨read, spelled, means, -⟩ := one
      rw [spelled] at rendered
      exact ⟨read, rendered, means⟩
  | inr two =>
      obtain ⟨-, -, -, -, -, least, some, most⟩ := two
      omega

theorem render_two_literals {length : Length} (normal : length.Normal)
    (short : Decimal.Writable length.feet) (someFeet : length.feet ≠ 0)
    (noInches : length.inches = 0) (rest : length.numerator16 ≠ 0) :
    ∃ feet fraction,
      length.render = some
        ((Literal.feetOnly feet).spelling ++ ' ' :: (Literal.fractionOnly fraction).spelling) ∧
      (Literal.feetOnly feet).Means (192 * length.feet) ∧
      (Literal.fractionOnly fraction).Means length.numerator16 := by
  obtain ⟨text, rendered, canonical⟩ := render_canonical normal short
  have natural := feet_natural normal
  obtain ⟨-, positive, few⟩ := normal
  have split : length.totalSixteenths = 192 * length.feet + length.numerator16 := by
    rw [total_split, noInches, Int.mul_zero, Int.zero_add]
  have below : length.totalSixteenths % 192 = length.numerator16 := by omega
  cases canonical_read canonical with
  | inl one =>
      obtain ⟨-, -, -, shape⟩ := one
      omega
  | inr two =>
      obtain ⟨feet, fraction, spelled, feetMean, fractionMeans, -⟩ := two
      rw [spelled] at rendered
      rw [below, split, Int.add_sub_cancel] at feetMean
      rw [below] at fractionMeans
      exact ⟨feet, fraction, rendered, feetMean, fractionMeans⟩

-- The sixteenths that a written length stands for: those of one literal, or of feet and of a
-- fraction behind a blank.
def writtenTotal (text : Text) : Option Nat :=
  match Literal.read .optional text with
  | some (read, []) => some read.total
  | some (read, _ :: rest) =>
      (Fraction.read rest).map fun (fraction, _) =>
        read.total + (Literal.fractionOnly fraction).total
  | none => none

theorem written_total_literal {read : Literal} {sixteenths : Int} (means : read.Means sixteenths) :
    writtenTotal read.spelling = some sixteenths.toNat := by
  have ends : read.EndsBefore .optional [] := by
    cases read <;> trivial
  have found : Literal.read .optional read.spelling = some (read, []) :=
    Literal.read_iff.mpr ⟨(List.append_nil _).symm, means.wellFormed .optional, ends⟩
  have total := means.total
  simp only [writtenTotal, found, Option.some.injEq]
  omega

theorem written_total_two {feet : Text} {fraction : Fraction} {sixteenths below : Int}
    (feetMean : (Literal.feetOnly feet).Means sixteenths)
    (fractionMeans : (Literal.fractionOnly fraction).Means below) :
    writtenTotal
        ((Literal.feetOnly feet).spelling ++ ' ' :: (Literal.fractionOnly fraction).spelling) =
      some (sixteenths + below).toNat := by
  have valid : fraction.WellFormed := fractionMeans.wellFormed .optional
  have found : Literal.read .optional ((Literal.feetOnly feet).spelling ++ ' ' :: fraction.spelling) =
      some (.feetOnly feet, ' ' :: fraction.spelling) :=
    Literal.read_iff.mpr
      ⟨rfl, feetMean.wellFormed .optional, Literal.feet_end_before_fraction valid⟩
  have behind : Fraction.read fraction.spelling = some (fraction, []) :=
    Fraction.read_iff.mpr ⟨(List.append_nil _).symm, valid⟩
  have first := feetMean.total
  have second := fractionMeans.total
  rw [Literal.spelling] at found
  simp only [writtenTotal, Literal.spelling, found, behind, Option.map_some, Option.some.injEq]
  omega

theorem canonical_written_total {text : Text} {sixteenths : Int}
    (canonical : Canonical text sixteenths) : writtenTotal text = some sixteenths.toNat := by
  cases canonical_read canonical with
  | inl one =>
      obtain ⟨read, spelled, means, -⟩ := one
      rw [spelled]
      exact written_total_literal means
  | inr two =>
      obtain ⟨feet, fraction, spelled, feetMean, fractionMeans, -⟩ := two
      rw [spelled, written_total_two feetMean fractionMeans, Int.sub_add_cancel]

theorem canonical_natural {text : Text} {sixteenths : Int} (canonical : Canonical text sixteenths) :
    0 ≤ sixteenths := by
  cases canonical_read canonical with
  | inl one =>
      obtain ⟨read, -, means, -⟩ := one
      have total := means.total
      omega
  | inr two =>
      obtain ⟨-, -, -, -, -, least, -⟩ := two
      omega

theorem canonical_unique {text : Text} {a b : Int} (first : Canonical text a)
    (second : Canonical text b) : a = b := by
  have same := canonical_written_total first
  rw [canonical_written_total second, Option.some.injEq] at same
  have one := canonical_natural first
  have other := canonical_natural second
  omega

theorem feet_writable {length : Length} (normal : length.Normal) :
    Decimal.Writable length.feet ↔ length.feet < Nat.pow 10 Decimal.maxDigits := by
  have natural := feet_natural normal
  rw [Decimal.writable_iff]
  omega

theorem canonical_of_render {length : Length} {text : Text} (normal : length.Normal)
    (rendered : length.render = some text) : Canonical text length.totalSixteenths := by
  have short := (render_succeeds_iff length).mp ⟨text, rendered⟩
  obtain ⟨written, found, canonical⟩ := render_canonical normal short
  rw [rendered] at found
  rw [Option.some.inj found]
  exact canonical

theorem render_injective {a b : Length} {text : Text} (first : a.Normal) (second : b.Normal)
    (one : a.render = some text) (other : b.render = some text) : a = b := by
  apply normal_of_total a b first second
  exact canonical_unique (canonical_of_render first one) (canonical_of_render second other)

theorem render_bijection :
    Set.BijOn Length.render
        {length | length.Normal ∧ length.feet < Nat.pow 10 Decimal.maxDigits}
        {written | ∃ text sixteenths, written = some text ∧ Canonical text sixteenths} ∧
      ∀ (length : Length) (text : Text), length.Normal → length.render = some text →
        ∀ sixteenths, Canonical text sixteenths ↔ sixteenths = length.totalSixteenths := by
  refine ⟨⟨?_, ?_, ?_⟩, ?_⟩
  · intro length ⟨normal, short⟩
    obtain ⟨text, rendered, canonical⟩ := render_canonical normal ((feet_writable normal).mpr short)
    exact ⟨text, length.totalSixteenths, rendered, canonical⟩
  · intro a ⟨first, short⟩ b ⟨second, _⟩ same
    obtain ⟨text, rendered, -⟩ := render_canonical first ((feet_writable first).mpr short)
    rw [rendered] at same
    exact render_injective first second rendered same.symm
  · intro written ⟨text, sixteenths, same, canonical⟩
    obtain ⟨length, normal, short, rendered, -⟩ := canonical_rendered canonical
    rw [same]
    exact ⟨length, ⟨normal, (feet_writable normal).mp short⟩, rendered⟩
  · intro length text normal rendered sixteenths
    have own := canonical_of_render normal rendered
    constructor
    · exact fun canonical => canonical_unique canonical own
    · intro same
      rw [same]
      exact own

theorem fourteen_inches_canonical :
    Length.Normal ⟨14, 12⟩ ∧ Length.render ⟨14, 12⟩ = some "1' 2-3/4\"".toList ∧
      ∀ sixteenths, Canonical "1' 2-3/4\"".toList sixteenths ↔
        sixteenths = Length.totalSixteenths ⟨14, 12⟩ :=
  ⟨by decide, by decide, render_bijection.2 ⟨14, 12⟩ _ (by decide) (by decide)⟩

end Length

end TapeMeasure

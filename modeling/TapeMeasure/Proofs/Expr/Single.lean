import TapeMeasure.Proofs.Expr.Grammar
import TapeMeasure.Proofs.Token.Exact
import TapeMeasure.Proofs.Token.Stop

/- Texts that are one literal. Such a text measures as the exact value of the literal, however it is
   written, and it fails only for a digit group that cannot be read or a denominator of zero. -/
set_option autoImplicit false

namespace TapeMeasure

namespace Literal

theorem ends_before_nothing (separator : Separator) (read : Literal) :
    read.EndsBefore separator [] := by
  cases read with
  | feetOnly feet =>
      exact read_inches_none Text.empty_blank trivial (InchPart.read_none_of_stops trivial)
  | _ => trivial

theorem resolve_unreadable {read : Literal}
    (unreadable : ∃ group ∈ read.digitGroups, ¬ Decimal.Readable group) :
    ∃ group ∈ read.digitGroups, ¬ Decimal.Readable group ∧
      read.resolve = .error (.tooLong group.length) := by
  unfold resolve
  cases first : read.digitGroups.find? fun group => !decide (Decimal.Readable group) with
  | none =>
      obtain ⟨group, member, long⟩ := unreadable
      exact absurd (none_unreadable.mp first group member) long
  | some group =>
      have long : ¬ Decimal.Readable group := by simpa using List.find?_some first
      exact ⟨group, List.mem_of_find?_eq_some first, long, rfl⟩

theorem resolve_zero {read : Literal}
    (readable : ∀ group ∈ read.digitGroups, Decimal.Readable group)
    (zero : ∃ fraction, read.fraction? = some fraction ∧
      Decimal.value fraction.denominator = 0) :
    read.resolve = .error .zeroDenominator := by
  have flawed : read.zeroDenominator = true := by
    obtain ⟨fraction, same, empty⟩ := zero
    simp [zeroDenominator, same, empty]
  rw [resolve, none_unreadable.mpr readable]
  exact if_pos flawed

theorem worth_total_floor (read : Literal) :
    read.worth.totalSixteenths = ⌊16 * read.capped⌋ := by
  rw [worth_total, total_floor]

theorem worth_of_capped {read other : Literal} (same : read.capped = other.capped) :
    read.worth = other.worth := by
  apply Length.normal_of_total _ _ read.worth_normal other.worth_normal
  rw [worth_total_floor, worth_total_floor, same]

theorem worth_le_of_capped {read other : Literal} (below : read.capped ≤ other.capped) :
    read.worth.totalSixteenths ≤ other.worth.totalSixteenths := by
  rw [worth_total_floor, worth_total_floor]
  exact Int.floor_mono (mul_le_mul_of_nonneg_left below (by decide))

end Literal

theorem measure_flaw {separator : Separator} {read : Literal} {flaw : Literal.Flaw}
    (valid : read.WellFormed separator) (flawed : read.resolve = .error flaw) :
    measure separator read.spelling = .error (.error (.parse ⟨.flaw flaw, 0, read.spelling⟩)) := by
  have shallow : Nesting.excess read.spelling = none := by
    have peak := Nesting.peak_plain 0 [] (Piece.literal_plain valid)
    rw [List.append_nil] at peak
    rw [Nesting.excess_none_iff, peak]
    exact Nat.zero_le Nesting.maxDepth
  obtain ⟨c, tail, spelled, -⟩ := Literal.spelling_front valid
  have found : Lexeme.read separator c tail = .ok (.literal read, []) := by
    have whole : c :: tail = read.spelling ++ [] := by rw [spelled, List.append_nil]
    exact Lexeme.read_iff.mpr ⟨whole, valid, read.ends_before_nothing separator⟩
  have scanned : tokenize separator read.spelling = .error ⟨.flaw flaw, 0, read.spelling⟩ := by
    rw [tokenize, shallow]
    have stops : Token.StopsAt separator 0 (c :: tail) _ := .flaw found flawed
    rw [← spelled] at stops
    exact Token.stops_at_scan stops
  rw [measure, scanned]

-- A group that cannot be read is reported even if the denominator is zero.
theorem measure_literal_value {separator : Separator} {read : Literal}
    (valid : read.WellFormed separator) :
    (read.HasValue → ∃ length, measure separator read.spelling = .ok length ∧ length.Normal ∧
      length.totalSixteenths = ⌊16 * read.capped⌋ ∧
      ∀ (otherSeparator : Separator) (other : Literal), other.WellFormed otherSeparator →
        other.HasValue → ∃ otherLength,
          measure otherSeparator other.spelling = .ok otherLength ∧
          (read.capped = other.capped → length = otherLength) ∧
          (read.capped ≤ other.capped →
            length.totalSixteenths ≤ otherLength.totalSixteenths)) ∧
    ((∃ group ∈ read.digitGroups, ¬ Decimal.Readable group) →
      ∃ group ∈ read.digitGroups, ¬ Decimal.Readable group ∧
        measure separator read.spelling =
          .error (.error (.parse ⟨.flaw (.tooLong group.length), 0, read.spelling⟩))) ∧
    ((∀ group ∈ read.digitGroups, Decimal.Readable group) →
      (∃ fraction, read.fraction? = some fraction ∧ Decimal.value fraction.denominator = 0) →
        measure separator read.spelling =
          .error (.error (.parse ⟨.flaw .zeroDenominator, 0, read.spelling⟩))) := by
  refine ⟨?_, ?_, ?_⟩
  · intro valued
    refine ⟨read.worth, measure_single valid valued, read.worth_normal,
      read.worth_total_floor, ?_⟩
    intro otherSeparator other otherValid otherValued
    exact ⟨other.worth, measure_single otherValid otherValued, Literal.worth_of_capped,
      Literal.worth_le_of_capped⟩
  · intro unreadable
    obtain ⟨group, member, long, flawed⟩ := Literal.resolve_unreadable unreadable
    exact ⟨group, member, long, measure_flaw valid flawed⟩
  · intro readable zero
    exact measure_flaw valid (Literal.resolve_zero readable zero)

theorem five_quarters_by_value :
    (∃ length, measure .required "5/4\"".toList = .ok length ∧ length.totalSixteenths = 16 ∧
      measure .optional "01\"".toList = .ok length) ∧
    measure .optional "1/00\"".toList =
      .error (.error (.parse ⟨.flaw .zeroDenominator, 0, "1/00\"".toList⟩)) := by
  have fraction : Literal.WellFormed .required (.fractionOnly ⟨['5'], ['4']⟩) :=
    ⟨by decide, by decide⟩
  have inch : Literal.WellFormed .optional (.inchesOnly (.whole ['0', '1'])) := ⟨by decide, nofun⟩
  have nothing : Literal.WellFormed .optional (.fractionOnly ⟨['1'], ['0', '0']⟩) :=
    ⟨by decide, by decide⟩
  have valued : Literal.HasValue (.fractionOnly ⟨['5'], ['4']⟩) := by
    refine ⟨by decide, ?_⟩
    rintro part ⟨⟩
    decide
  obtain ⟨length, measured, -, total, alike⟩ := (measure_literal_value fraction).1 valued
  obtain ⟨other, otherMeasured, same, -⟩ := alike .optional _ inch ⟨by decide, nofun⟩
  obtain rfl := same (by decide +kernel)
  refine ⟨⟨length, measured, ?_, otherMeasured⟩, ?_⟩
  · rw [total]
    decide +kernel
  · exact (measure_literal_value nothing).2.2 (by decide) ⟨_, rfl, by decide⟩

end TapeMeasure

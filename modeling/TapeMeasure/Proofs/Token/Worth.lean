import TapeMeasure.Token.Literal

/- What a literal is worth: it has a value exactly if every digit group can be read and no
   denominator is zero, and the value is then a normal length with a plain total. -/
set_option autoImplicit false

namespace TapeMeasure.Literal

structure HasValue (literal : Literal) : Prop where
  readable : ∀ group ∈ literal.digitGroups, Decimal.Readable group
  nonzero : ∀ fraction, literal.fraction? = some fraction →
    Decimal.value fraction.denominator ≠ 0

def worth (literal : Literal) : Length := Length.carried literal.wholeInches literal.sixteenths

-- Sixteen for every inch, and of a fraction what is left of it when it is rounded down to
-- sixteenths and cut off at a whole inch. Parts that are missing count as zero.
def total (literal : Literal) : Nat :=
  16 * (12 * Decimal.value (literal.feet?.getD []) + Decimal.value (literal.inches?.getD [])) +
    match literal.fraction? with
    | some fraction =>
        min (16 * Decimal.value fraction.numerator / Decimal.value fraction.denominator) 16
    | none => 0

theorem feet_inches_value {feet gap : Text} {part : InchPart} :
    (Literal.feetInches feet gap part).HasValue ↔
      (Literal.feetOnly feet).HasValue ∧ (Literal.inchesOnly part).HasValue := by
  constructor
  · intro valued
    refine ⟨⟨?_, nofun⟩, ⟨?_, valued.nonzero⟩⟩
    · intro group member
      rw [List.mem_singleton.mp member]
      exact valued.readable feet List.mem_cons_self
    · intro group member
      exact valued.readable group (List.mem_cons_of_mem _ member)
  · intro ⟨first, second⟩
    refine ⟨?_, second.nonzero⟩
    intro group member
    cases List.mem_cons.mp member with
    | inl same => exact first.readable group (List.mem_singleton.mpr same)
    | inr inside => exact second.readable group inside

theorem none_unreadable {groups : List Text} :
    (groups.find? fun group => !decide (Decimal.Readable group)) = none ↔
      ∀ group ∈ groups, Decimal.Readable group := by
  simp [List.find?_eq_none]

theorem zero_denominator_false {literal : Literal} :
    literal.zeroDenominator = false ↔
      ∀ fraction, literal.fraction? = some fraction → Decimal.value fraction.denominator ≠ 0 := by
  unfold zeroDenominator
  cases literal.fraction? with
  | none => simp
  | some fraction => simp

theorem resolve_iff {literal : Literal} {value : Length} :
    literal.resolve = .ok value ↔ literal.HasValue ∧ value = literal.worth := by
  constructor
  · intro resolved
    unfold resolve at resolved
    split at resolved
    · simp at resolved
    · rename_i absent
      split at resolved
      · simp at resolved
      · rename_i nonzero
        have denominators := zero_denominator_false.mp (Bool.eq_false_iff.mpr nonzero)
        exact ⟨⟨none_unreadable.mp absent, denominators⟩, (Except.ok.inj resolved).symm⟩
  · rintro ⟨valued, rfl⟩
    have absent := none_unreadable.mpr valued.readable
    simp [resolve, absent, zero_denominator_false.mpr valued.nonzero, worth]

theorem worth_normal (literal : Literal) : literal.worth.Normal := by
  apply Length.carried_normal
  · exact Int.natCast_nonneg _
  · exact Int.natCast_nonneg _

theorem worth_total (literal : Literal) : literal.worth.totalSixteenths = literal.total := by
  have inches : literal.wholeInches * 16 =
      16 * (12 * Decimal.value (literal.feet?.getD []) +
        Decimal.value (literal.inches?.getD [])) := by
    unfold wholeInches
    omega
  have sixteenths : literal.sixteenths =
      match literal.fraction? with
      | some fraction =>
          min (16 * Decimal.value fraction.numerator / Decimal.value fraction.denominator) 16
      | none => 0 := by
    unfold sixteenths
    cases literal.fraction? with
    | none => rfl
    | some fraction => simp only [Length.quantise, Nat.mul_comm]
  rw [worth, Length.total_carried, total, ← sixteenths, ← inches]
  rfl

end TapeMeasure.Literal

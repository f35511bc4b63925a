import Mathlib.Algebra.Ring.Nat
import TapeMeasure.Proofs.Length.Made
import TapeMeasure.Proofs.Value.Shown

/- What becomes of two loose numbers. They make a length, or the first of them that does not fit is
   refused with a reason that shows it. The reason is lost if it would have to show an integer that
   is too long to be written, and in no other case. -/
set_option autoImplicit false

namespace TapeMeasure

theorem showing_overlong {ε : Type} {shown : Option Text} {cause : Text → ε} :
    Fault.showing shown cause = .overlong ↔ shown = none := by
  cases shown with
  | none => exact iff_of_true rfl rfl
  | some text => exact iff_of_false nofun nofun

-- What is neither a value nor too long has an error of its own.
theorem own_error_iff {ε α : Type} {result : Except (Fault ε) α} :
    (∃ cause, result = .error (.error cause)) ↔
      ¬ (∃ value, result = .ok value) ∧ result ≠ .error .overlong := by
  constructor
  · rintro ⟨cause, rfl⟩
    exact ⟨nofun, nofun⟩
  · intro ⟨failed, written⟩
    exact error_of_written (fun value made => failed ⟨value, made⟩) written

theorem bind_overlong_iff {ε α β : Type} {first : Except (Fault ε) α}
    {next : α → Except (Fault ε) β} :
    (first >>= next) = .error .overlong ↔
      first = .error .overlong ∨ ∃ value, first = .ok value ∧ next value = .error .overlong := by
  refine ⟨bind_overlong, ?_⟩
  rintro (failed | ⟨value, made, behind⟩)
  · rw [failed]
    rfl
  · rw [made]
    exact behind

namespace Value

def Natural (value : Value) : Prop := ∃ n : Nat, value = .int n

-- A number of sixteenths that needs no carrying.
def BelowInch (value : Value) : Prop := ∃ n : Nat, value = .int n ∧ n ≤ 15

theorem natural_overlong {n : Nat} : Overlong (.int n) ↔ ¬ Decimal.Writable n := int_overlong n

end Value

namespace Length

-- The first of two numbers that does not fit has an integer in it that is too long to be written.
-- The first number only has to be natural; what the second one has to be is `Fits`.
def Unexplained (Fits : Value → Prop) (first second : Value) : Prop :=
  (¬ first.Natural ∧ first.Overlong) ∨ (first.Natural ∧ ¬ Fits second ∧ second.Overlong)

theorem require_natural_accepts {name : String} {value : Value} :
    (∃ n, requireNatural name value = .ok n) ↔ value.Natural :=
  exists_congr fun _ => require_natural_iff

theorem require_natural_overlong {name : String} {value : Value} :
    requireNatural name value = .error .overlong ↔ ¬ value.Natural ∧ value.Overlong := by
  rw [← @require_natural_accepts name]
  cases value with
  | int n =>
      rw [Value.int_overlong, requireNatural]
      by_cases negative : n < 0
      · simp [if_pos negative, showing_overlong, Decimal.write]
      · simp [if_neg negative]
  | _ => simp [requireNatural, showing_overlong, Value.shown_none]

theorem of_parts_accepts {wholeInches numerator16 : Value} :
    (∃ length, ofParts wholeInches numerator16 = .ok length) ↔
      wholeInches.Natural ∧ numerator16.Natural := by
  simp only [of_parts_iff]
  constructor
  · rintro ⟨length, whole, sixteenths, first, second, -⟩
    exact ⟨⟨whole, first⟩, sixteenths, second⟩
  · rintro ⟨⟨whole, first⟩, sixteenths, second⟩
    exact ⟨_, whole, sixteenths, first, second, rfl⟩

theorem of_normal_parts_accepts {wholeInches numerator16 : Value} :
    (∃ length, ofNormalParts wholeInches numerator16 = .ok length) ↔
      wholeInches.Natural ∧ numerator16.BelowInch := by
  simp only [of_normal_parts_iff]
  constructor
  · rintro ⟨length, first, second, whole, sixteenths, few⟩
    obtain ⟨w, same⟩ := Int.eq_ofNat_of_zero_le whole
    obtain ⟨n, other⟩ := Int.eq_ofNat_of_zero_le sixteenths
    rw [other] at few
    exact ⟨⟨w, by rw [first, same]⟩, n, by rw [second, other], by omega⟩
  · rintro ⟨⟨w, first⟩, n, second, few⟩
    refine ⟨⟨w, n⟩, first, second, ?_⟩
    simp only [Normal]
    omega

-- The second number is looked at only if the first one fits.
theorem second_overlong {α : Type} {name : String} {first second : Value}
    {next : Nat → Except (Fault LengthError) α} {Fits : Value → Prop}
    (behind : ∀ n, next n = .error .overlong ↔ ¬ Fits second ∧ second.Overlong) :
    (requireNatural name first >>= next) = .error .overlong ↔ Unexplained Fits first second := by
  rw [bind_overlong_iff, require_natural_overlong]
  apply or_congr_right
  simp only [behind, exists_and_right, require_natural_accepts]

theorem of_parts_overlong {wholeInches numerator16 : Value} :
    ofParts wholeInches numerator16 = .error .overlong ↔
      Unexplained Value.Natural wholeInches numerator16 := by
  apply second_overlong
  intro whole
  rw [bind_overlong_iff, require_natural_overlong]
  apply or_iff_left
  rintro ⟨sixteenths, -, failed⟩
  rw [of_carried_parts] at failed
  exact absurd failed nofun

theorem many_overlong {n : Nat} {made : Length} :
    (if 16 ≤ n then .error (.showing (Decimal.write n) .tooManySixteenths) else .ok made :
        Except (Fault LengthError) Length) = .error .overlong ↔
      16 ≤ n ∧ ¬ Decimal.Writable n := by
  by_cases many : 16 ≤ n
  · simp [many, showing_overlong, Decimal.write]
  · simp [many]

theorem of_normal_parts_overlong {wholeInches numerator16 : Value} :
    ofNormalParts wholeInches numerator16 = .error .overlong ↔
      Unexplained Value.BelowInch wholeInches numerator16 := by
  apply second_overlong
  intro whole
  rw [bind_overlong_iff, require_natural_overlong]
  constructor
  · rintro (⟨notNatural, overlong⟩ | ⟨sixteenths, accepted, failed⟩)
    · refine ⟨?_, overlong⟩
      rintro ⟨n, same, -⟩
      exact notNatural ⟨n, same⟩
    · obtain rfl := require_natural_iff.mp accepted
      obtain ⟨many, long⟩ := many_overlong.mp failed
      refine ⟨?_, Value.natural_overlong.mpr long⟩
      rintro ⟨n, same, few⟩
      have other := Value.int.inj same
      omega
  · rintro ⟨unfit, overlong⟩
    by_cases natural : numerator16.Natural
    · obtain ⟨n, rfl⟩ := natural
      have many : 16 ≤ n := Nat.not_lt.mp fun few => unfit ⟨n, rfl, by omega⟩
      have long := Value.natural_overlong.mp overlong
      exact Or.inr ⟨n, require_natural_iff.mpr rfl, many_overlong.mpr ⟨many, long⟩⟩
    · exact Or.inl ⟨natural, overlong⟩

-- The checked constructor counts a lost reason as one of its own.
theorem of_accepts {wholeInches numerator16 : Value} :
    (∃ length, of wholeInches numerator16 = .ok length) ↔
      ∃ length, ofNormalParts wholeInches numerator16 = .ok length := by
  simp only [of, checked, map_error_ok]

theorem of_unwritable {wholeInches numerator16 : Value} :
    of wholeInches numerator16 = .error .unwritable ↔
      ofNormalParts wholeInches numerator16 = .error .overlong := by
  unfold of checked
  cases ofNormalParts wholeInches numerator16 with
  | ok length => exact iff_of_false nofun nofun
  | error fault =>
      cases fault with
      | error cause => exact iff_of_false nofun nofun
      | overlong => exact iff_of_true rfl rfl

theorem of_invalid {wholeInches numerator16 : Value} :
    (∃ cause, of wholeInches numerator16 = .error (.invalid cause)) ↔
      ∃ cause, ofNormalParts wholeInches numerator16 = .error (.error cause) := by
  unfold of checked
  cases ofNormalParts wholeInches numerator16 with
  | ok length => exact iff_of_false nofun nofun
  | error fault =>
      cases fault with
      | error cause => exact iff_of_true ⟨cause, rfl⟩ ⟨cause, rfl⟩
      | overlong => exact iff_of_false nofun nofun

theorem constructors_explained_iff (wholeInches numerator16 : Value) :
    (((∃ length, of wholeInches numerator16 = .ok length) ↔
        wholeInches.Natural ∧ numerator16.BelowInch) ∧
      (of wholeInches numerator16 = .error .unwritable ↔
        Unexplained Value.BelowInch wholeInches numerator16) ∧
      ((∃ cause, of wholeInches numerator16 = .error (.invalid cause)) ↔
        ¬ (wholeInches.Natural ∧ numerator16.BelowInch) ∧
          ¬ Unexplained Value.BelowInch wholeInches numerator16)) ∧
    (((∃ length, ofParts wholeInches numerator16 = .ok length) ↔
        wholeInches.Natural ∧ numerator16.Natural) ∧
      (ofParts wholeInches numerator16 = .error .overlong ↔
        Unexplained Value.Natural wholeInches numerator16) ∧
      ((∃ cause, ofParts wholeInches numerator16 = .error (.error cause)) ↔
        ¬ (wholeInches.Natural ∧ numerator16.Natural) ∧
          ¬ Unexplained Value.Natural wholeInches numerator16)) := by
  refine ⟨⟨?_, ?_, ?_⟩, of_parts_accepts, of_parts_overlong, ?_⟩
  · rw [of_accepts, of_normal_parts_accepts]
  · rw [of_unwritable, of_normal_parts_overlong]
  · rw [of_invalid, own_error_iff, of_normal_parts_accepts, Ne, of_normal_parts_overlong]
  · rw [own_error_iff, of_parts_accepts, Ne, of_parts_overlong]

theorem negative_unexplained {n : Nat} (long : 10 ^ Decimal.maxDigits ≤ n)
    (Fits : Value → Prop) (second : Value) : Unexplained Fits (.int (-n)) second := by
  have positive : 0 < 10 ^ Decimal.maxDigits := Nat.pow_pos (by decide)
  refine Or.inl ⟨?_, ?_⟩
  · rintro ⟨m, same⟩
    have other := Value.int.inj same
    omega
  · rw [Value.int_overlong, Decimal.writable_iff, Int.natAbs_neg, Int.natAbs_natCast, Nat.pow_eq]
    omega

-- A negative number with one digit too many: neither way of making a length says what is wrong.
theorem negative_beyond_limit_unexplained :
    of (.int (-(10 ^ 4300 : Nat))) (.int 0) = .error .unwritable ∧
      ofParts (.int (-(10 ^ 4300 : Nat))) (.int 0) = .error .overlong := by
  have long : 10 ^ Decimal.maxDigits ≤ 10 ^ 4300 := Nat.le_of_eq (by rw [Decimal.maxDigits])
  rw [of_unwritable, of_normal_parts_overlong, of_parts_overlong]
  exact ⟨negative_unexplained long _ _, negative_unexplained long _ _⟩

end Length

end TapeMeasure

import TapeMeasure.Length.Record

/- From which values a length is made. Every checked way of making one takes two integers that are
   not negative and gives a normal length; a sum is such a length too, whatever its summands are.
   Numbers that can be written are never refused without a reason. -/
set_option autoImplicit false

namespace TapeMeasure

theorem bind_ok {ε α β : Type} {first : Except ε α} {next : α → Except ε β} {value : β} :
    (first >>= next) = .ok value ↔ ∃ middle, first = .ok middle ∧ next middle = .ok value := by
  cases first with
  | error fault => simp [bind, Except.bind]
  | ok middle => simp [bind, Except.bind]

theorem map_error_ok {ε ε' α : Type} {f : ε → ε'} {result : Except ε α} {value : α} :
    result.mapError f = .ok value ↔ result = .ok value := by
  cases result with
  | error fault =>
      change Except.error (f fault) = .ok value ↔ Except.error fault = .ok value
      simp
  | ok found =>
      change Except.ok found = .ok value ↔ Except.ok found = .ok value
      simp

theorem bind_overlong {ε α β : Type} {first : Except (Fault ε) α}
    {next : α → Except (Fault ε) β} (failed : (first >>= next) = .error .overlong) :
    first = .error .overlong ∨ ∃ value, first = .ok value ∧ next value = .error .overlong := by
  cases first with
  | error fault => exact Or.inl (congrArg Except.error (Except.error.inj failed))
  | ok value => exact Or.inr ⟨value, rfl, failed⟩

-- What fails without a number that is too long to be written has an error of its own.
theorem error_of_written {ε α : Type} {result : Except (Fault ε) α}
    (failed : ∀ value, result ≠ .ok value) (written : result ≠ .error .overlong) :
    ∃ cause, result = .error (.error cause) := by
  cases result with
  | ok value => exact absurd rfl (failed value)
  | error fault =>
      cases fault with
      | error cause => exact ⟨cause, rfl⟩
      | overlong => exact absurd rfl written

theorem Decimal.write_short {n : Int} (short : Writable n) : write n = some (text n) := if_pos short

theorem showing_short {ε : Type} {n : Int} (cause : Text → ε) (short : Decimal.Writable n) :
    Fault.showing (Decimal.write n) cause = .error (cause (Decimal.text n)) := by
  rw [Decimal.write_short short]
  rfl

namespace Value

theorem entry_int {entries : List (Text × Value)} {key : Text} {n : Int} :
    entry entries key = .int n ↔ entries.lookup key = some (.int n) := by
  unfold entry
  cases entries.lookup key with
  | none => simp
  | some value => simp

end Value

namespace Length

theorem require_natural_iff {name : String} {value : Value} {n : Nat} :
    requireNatural name value = .ok n ↔ value = .int n := by
  cases value with
  | int m =>
      rw [requireNatural, Value.int.injEq]
      by_cases negative : m < 0
      · rw [if_pos negative]
        constructor
        · intro found
          cases found
        · omega
      · rw [if_neg negative, Except.ok.injEq]
        omega
  | _ => simp [requireNatural]

theorem of_normal_parts_iff {wholeInches numerator16 : Value} {length : Length} :
    ofNormalParts wholeInches numerator16 = .ok length ↔
      wholeInches = .int length.wholeInches ∧ numerator16 = .int length.numerator16 ∧
        length.Normal := by
  constructor
  · intro made
    simp only [ofNormalParts, bind_ok, require_natural_iff] at made
    obtain ⟨whole, first, sixteenths, second, made⟩ := made
    by_cases many : 16 ≤ sixteenths
    · rw [if_pos many] at made
      cases made
    · rw [if_neg many] at made
      obtain rfl := Except.ok.inj made
      refine ⟨first, second, ?_⟩
      simp only [Normal]
      omega
  · rintro ⟨first, second, normal⟩
    rw [first, second]
    exact of_normal_parts_int normal

theorem require_natural_written {n : Int} (name : String) (short : Decimal.Writable n) :
    requireNatural name (.int n) ≠ .error .overlong := by
  rw [requireNatural, showing_short _ short]
  by_cases negative : n < 0 <;> simp [negative]

theorem of_normal_parts_written {wholeInches numerator16 : Int}
    (whole : Decimal.Writable wholeInches) (sixteenths : Decimal.Writable numerator16) :
    ofNormalParts (.int wholeInches) (.int numerator16) ≠ .error .overlong := by
  intro failed
  rcases bind_overlong failed with first | ⟨w, -, behind⟩
  · exact require_natural_written _ whole first
  · rcases bind_overlong behind with second | ⟨n, natural, last⟩
    · exact require_natural_written _ sixteenths second
    · have same := Value.int.inj (require_natural_iff.mp natural)
      rw [same] at sixteenths
      rw [showing_short _ sixteenths] at last
      by_cases many : 16 ≤ n
      · rw [if_pos many] at last
        cases last
      · rw [if_neg many] at last
        cases last

theorem of_parts_iff {wholeInches numerator16 : Value} {length : Length} :
    ofParts wholeInches numerator16 = .ok length ↔
      ∃ whole sixteenths : Nat, wholeInches = .int whole ∧ numerator16 = .int sixteenths ∧
        length = carried whole sixteenths := by
  simp only [ofParts, bind_ok, require_natural_iff, of_carried_parts]
  constructor
  · rintro ⟨whole, first, sixteenths, second, made⟩
    exact ⟨whole, sixteenths, first, second, (Except.ok.inj made).symm⟩
  · rintro ⟨whole, sixteenths, first, second, made⟩
    exact ⟨whole, first, sixteenths, second, congrArg Except.ok made.symm⟩

theorem of_parts_normal {wholeInches numerator16 : Value} {length : Length}
    (made : ofParts wholeInches numerator16 = .ok length) : length.Normal := by
  obtain ⟨whole, sixteenths, -, -, rfl⟩ := of_parts_iff.mp made
  exact carried_normal whole sixteenths (Int.natCast_nonneg whole) (Int.natCast_nonneg sixteenths)

-- The summands need not be normal: only their sums are looked at.
theorem add_iff {left right sum : Length} :
    left.add right = .ok sum ↔
      (0 ≤ left.wholeInches + right.wholeInches ∧ 0 ≤ left.numerator16 + right.numerator16) ∧
        sum = carried (left.wholeInches + right.wholeInches)
          (left.numerator16 + right.numerator16) := by
  constructor
  · intro added
    obtain ⟨whole, sixteenths, first, second, rfl⟩ := of_parts_iff.mp added
    rw [Value.int.inj first, Value.int.inj second]
    exact ⟨⟨Int.natCast_nonneg whole, Int.natCast_nonneg sixteenths⟩, rfl⟩
  · rintro ⟨⟨whole, sixteenths⟩, same⟩
    rw [same]
    exact of_parts_int whole sixteenths

theorem total_added (left right : Length) :
    (carried (left.wholeInches + right.wholeInches)
      (left.numerator16 + right.numerator16)).totalSixteenths =
        left.totalSixteenths + right.totalSixteenths := by
  rw [total_carried]
  unfold totalSixteenths
  omega

theorem of_iff {wholeInches numerator16 : Value} {length : Length} :
    of wholeInches numerator16 = .ok length ↔
      wholeInches = .int length.wholeInches ∧ numerator16 = .int length.numerator16 ∧
        length.Normal := by
  rw [of, checked, map_error_ok, of_normal_parts_iff]

theorem validated_iff {value : Value} {length : Length} :
    validated value = .ok length ↔
      ∃ entries, value = .record entries ∧
        entries.lookup Field.wholeInches.key = some (.int length.wholeInches) ∧
        entries.lookup Field.numerator16.key = some (.int length.numerator16) ∧
        length.Normal := by
  rw [validated, checked, map_error_ok]
  cases value with
  | record entries =>
      simp only [ofValue, ofEntries, of_normal_parts_iff, Value.entry_int, Value.record.injEq,
        exists_eq_left']
  | _ => simp [ofValue]

theorem of_json_normal {text : Text} {length : Length} (read : ofJson text = .ok length) :
    length.Normal := by
  unfold ofJson at read
  split at read
  · obtain ⟨entries, -, -, -, normal⟩ := validated_iff.mp read
    exact normal
  · cases read

end Length

end TapeMeasure

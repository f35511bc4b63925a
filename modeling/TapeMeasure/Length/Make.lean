import TapeMeasure.Length.Basic
import TapeMeasure.Length.Error
import TapeMeasure.Value.Shown

/- Lengths and sixteenths from loose values. Each number is checked in turn, and the first that does
   not fit is reported: it has to be an integer, which truth values are not, and not negative.
   Sums of lengths are checked too, because the summands may have been made without a check. -/
set_option autoImplicit false

namespace TapeMeasure.Length

-- Passes an integer that is not negative; `name` is what messages call it.
def requireNatural (name : String) : Value → Except (Fault LengthError) Nat
  | .int n =>
      if n < 0 then .error (.showing (Decimal.write n) (.negative name)) else .ok n.toNat
  | value => .error (.showing value.shown (.notInteger name))

def sixteenthsOf (numerator denominator : Value) : Except (Fault LengthError) Nat := do
  let n ← requireNatural "numerator" numerator
  let d ← requireNatural "denominator" denominator
  if d = 0 then .error (.error .zeroDenominator) else return quantise n d

def ofNormalParts (wholeInches numerator16 : Value) : Except (Fault LengthError) Length := do
  let whole ← requireNatural Field.wholeInches.name wholeInches
  let sixteenths ← requireNatural Field.numerator16.name numerator16
  if 16 ≤ sixteenths then
    .error (.showing (Decimal.write sixteenths) .tooManySixteenths)
  else return ⟨whole, sixteenths⟩

-- A length from any number of inches and any number of sixteenths, which are carried. What comes of
-- the carrying is checked like every other length.
def ofParts (wholeInches numerator16 : Value) : Except (Fault LengthError) Length := do
  let whole ← requireNatural Field.wholeInches.name wholeInches
  let sixteenths ← requireNatural Field.numerator16.name numerator16
  let length := carried whole sixteenths
  ofNormalParts (.int length.wholeInches) (.int length.numerator16)

-- A normal length from the entries of a record; entries that are no field are ignored.
def ofEntries (entries : List (Text × Value)) : Except (Fault LengthError) Length :=
  ofNormalParts (Value.entry entries Field.wholeInches.key)
    (Value.entry entries Field.numerator16.key)

def ofValue : Value → Except (Fault LengthError) Length
  | .record entries => ofEntries entries
  | value => .error (.error (.notRecord value.typeName))

def add (a b : Length) : Except (Fault LengthError) Length :=
  ofParts (.int (a.wholeInches + b.wholeInches)) (.int (a.numerator16 + b.numerator16))

-- Two lengths around a plus are added in the same way.
instance : HAdd Length Length (Except (Fault LengthError) Length) := ⟨add⟩

theorem require_natural_int {name : String} {n : Int} (natural : 0 ≤ n) :
    requireNatural name (.int n) = .ok n.toNat := by
  rw [requireNatural, if_neg (by omega)]

theorem of_normal_parts_int {length : Length} (normal : length.Normal) :
    ofNormalParts (.int length.wholeInches) (.int length.numerator16) = .ok length := by
  obtain ⟨whole, sixteenths, few⟩ := normal
  have notMany : ¬ 16 ≤ length.numerator16.toNat := by omega
  simp only [ofNormalParts, require_natural_int whole, require_natural_int sixteenths, bind,
    Except.bind, if_neg notMany, pure, Except.pure, Int.toNat_of_nonneg whole,
    Int.toNat_of_nonneg sixteenths]

-- The check behind the carrying refuses nothing, and changes nothing.
theorem of_carried_parts (whole sixteenths : Nat) :
    ofNormalParts (.int (carried whole sixteenths).wholeInches)
        (.int (carried whole sixteenths).numerator16) =
      .ok (carried whole sixteenths) :=
  of_normal_parts_int (carried_normal whole sixteenths (Int.natCast_nonneg whole)
    (Int.natCast_nonneg sixteenths))

theorem of_parts_int {wholeInches numerator16 : Int} (whole : 0 ≤ wholeInches)
    (sixteenths : 0 ≤ numerator16) :
    ofParts (.int wholeInches) (.int numerator16) = .ok (carried wholeInches numerator16) := by
  obtain ⟨w, rfl⟩ := Int.eq_ofNat_of_zero_le whole
  obtain ⟨n, rfl⟩ := Int.eq_ofNat_of_zero_le sixteenths
  simp only [ofParts, require_natural_int whole, require_natural_int sixteenths, bind, Except.bind,
    Int.toNat_natCast, of_carried_parts]

theorem add_normal {a b : Length} (left : a.Normal) (right : b.Normal) :
    a.add b = .ok (carried (a.wholeInches + b.wholeInches) (a.numerator16 + b.numerator16)) := by
  unfold Normal at left right
  exact of_parts_int (by omega) (by omega)

end TapeMeasure.Length

import TapeMeasure.Decimal.Fault

/- Why numbers are refused as the parts of a length. Parts of a message that come from outside are
   held as they are shown. -/
set_option autoImplicit false

namespace TapeMeasure

inductive LengthError where
  | notInteger (name : String) (shown : Text)
  | negative (name : String) (shown : Text)
  | tooManySixteenths (shown : Text)
  | zeroDenominator
  | notRecord (typeName : String)
deriving DecidableEq, Repr

namespace LengthError

def message : LengthError → String
  | .notInteger name shown => name ++ " must be an integer, got " ++ String.ofList shown
  | .negative name shown => name ++ " must be non-negative, got " ++ String.ofList shown
  | .tooManySixteenths shown =>
      "numerator16 must be in [0, 15], got " ++ String.ofList shown ++
        " (use create_from_minimal_fractional_inches to carry)"
  | .zeroDenominator => "denominator must be positive, got 0"
  | .notRecord typeName =>
      "Length expects a mapping of whole_inches/numerator16, got " ++ typeName

end LengthError

end TapeMeasure

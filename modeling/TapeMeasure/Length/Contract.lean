import TapeMeasure.Decimal.Fault
import TapeMeasure.Length.Basic
import TapeMeasure.Text.Order
import TapeMeasure.Value.Shown

/- The contract for lengths that are passed on as records: an object with exactly the two fields
   of a length, each an integer within its bounds. One violation is reported, the first in the
   order type, required fields, other fields, then field by field type and bounds. -/
set_option autoImplicit false

namespace TapeMeasure.Contract

inductive Violation where
  | notObject (shown : Text)
  | missing (field : Length.Field)
  | additional (keys : List Text)
  | notInteger (field : Length.Field) (shown : Text)
  | below (field : Length.Field) (shown : Text)
  | above (field : Length.Field) (limit : Nat) (shown : Text)
deriving DecidableEq, Repr

namespace Violation

def keyword : Violation → String
  | .notObject _ | .notInteger _ _ => "type"
  | .missing _ => "required"
  | .additional _ => "additionalProperties"
  | .below _ _ => "minimum"
  | .above _ _ _ => "maximum"

-- The field at fault, if the violation lies in the value of a field.
def field? : Violation → Option Length.Field
  | .notObject _ | .missing _ | .additional _ => none
  | .notInteger field _ | .below field _ | .above field _ _ => some field

def message : Violation → String
  | .notObject shown => String.ofList shown ++ " is not of type 'object'"
  | .missing field => Text.quote field.key ++ " is a required property"
  | .additional keys =>
      "Additional properties are not allowed (" ++
        String.intercalate ", " (keys.map Text.quote) ++
        (if keys.length = 1 then " was" else " were") ++ " unexpected)"
  | .notInteger _ shown => String.ofList shown ++ " is not of type 'integer'"
  | .below _ shown => String.ofList shown ++ " is less than the minimum of 0"
  | .above _ limit shown =>
      String.ofList shown ++ " is greater than the maximum of " ++ toString limit

end Violation

def maximum? : Length.Field → Option Nat
  | .wholeInches => none
  | .numerator16 => some 15

def checkField (field : Length.Field) : Value → Except (Fault Violation) Unit
  | .int n =>
      if n < 0 then .error (.showing (Decimal.write n) (.below field))
      else
        match maximum? field with
        | some limit =>
            if (limit : Int) < n then .error (.showing (Decimal.write n) (.above field limit))
            else .ok ()
        | none => .ok ()
  | value => .error (.showing value.shown (.notInteger field))

-- The keys of a record that are no fields of a length, in the order of their code points.
def additionalKeys (entries : List (Text × Value)) : List Text :=
  let keys := entries.map Prod.fst
  let others := keys.filter fun key =>
    key != Length.Field.wholeInches.key && key != Length.Field.numerator16.key
  others.mergeSort Text.atMost

def checkEntries (entries : List (Text × Value)) : Except (Fault Violation) Unit :=
  match entries.lookup Length.Field.wholeInches.key,
    entries.lookup Length.Field.numerator16.key with
  | none, _ => .error (.error (.missing .wholeInches))
  | some _, none => .error (.error (.missing .numerator16))
  | some whole, some sixteenths => do
      unless (additionalKeys entries).isEmpty do
        throw (.error (.additional (additionalKeys entries)))
      checkField .wholeInches whole
      checkField .numerator16 sixteenths

def check : Value → Except (Fault Violation) Unit
  | .record entries => checkEntries entries
  | value => .error (.showing value.shown .notObject)

end TapeMeasure.Contract

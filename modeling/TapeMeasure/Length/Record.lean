import TapeMeasure.Length.Contract
import TapeMeasure.Length.Make
import TapeMeasure.Value.Json

/- Lengths and the records that they are passed on as, in memory and as JSON text. The checked ways
   of making a length refuse a value that no message can show without giving a reason. -/
set_option autoImplicit false

namespace TapeMeasure

inductive Refusal where
  | invalid (cause : LengthError)
  | notJson
  | unwritable
deriving DecidableEq, Repr

inductive RecordError where
  | violation (cause : Contract.Violation)
  | refused (cause : Refusal)
deriving DecidableEq, Repr

namespace Length

-- Takes the limit on written numbers for one more reason of refusal.
def checked (made : Except (Fault LengthError) Length) : Except Refusal Length :=
  made.mapError fun
    | .error cause => .invalid cause
    | .overlong => .unwritable

def of (wholeInches numerator16 : Value) : Except Refusal Length :=
  checked (ofNormalParts wholeInches numerator16)

-- A length from a value that should be a record with its two fields, and may have others.
def validated (value : Value) : Except Refusal Length := checked (ofValue value)

def ofJson (text : Text) : Except Refusal Length :=
  match Json.read text with
  | some value => validated value
  | none => .error .notJson

-- A length from a record that has to keep the contract.
def ofRecord (entries : List (Text × Value)) : Except (Fault RecordError) Length :=
  match Contract.checkEntries entries with
  | .error fault => .error (fault.map .violation)
  | .ok () =>
      (of (Value.entry entries Field.wholeInches.key)
        (Value.entry entries Field.numerator16.key)).mapError fun cause =>
          .error (.refused cause)

def entries (length : Length) : List (Text × Value) :=
  [(Field.wholeInches.key, .int length.wholeInches),
    (Field.numerator16.key, .int length.numerator16)]

-- The record of a length as JSON text, without blanks. Numbers of any length are written.
def toJson (length : Length) : Text :=
  "\x7b\"whole_inches\":".toList ++ Decimal.text length.wholeInches ++
    ",\"numerator16\":".toList ++ Decimal.text length.numerator16 ++ ['\x7d']

-- The form in which a length is shown with its two numbers.
def shown (length : Length) : Option Text := do
  let whole ← Decimal.write length.wholeInches
  let sixteenths ← Decimal.write length.numerator16
  return "Length(whole_inches=".toList ++ whole ++ ", numerator16=".toList ++ sixteenths ++ [')']

-- Replaces numbers of a length without any check. Keys that are no field change nothing.
def update (length : Length) (changes : List (Text × Int)) : Length :=
  changes.foldl
    (fun length change =>
      if change.1 = Field.wholeInches.key then ⟨change.2, length.numerator16⟩
      else if change.1 = Field.numerator16.key then ⟨length.wholeInches, change.2⟩
      else length)
    length

end Length

end TapeMeasure

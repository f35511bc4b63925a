import TapeMeasure.Decimal.Basic
import TapeMeasure.Text.Quoted
import TapeMeasure.Value.Basic

/- The form in which messages show a value. It does not exist when an integer anywhere inside the
   value is too long to be written. -/
set_option autoImplicit false

namespace TapeMeasure.Value

-- Parts with a comma and a space between them, inside a pair of brackets.
def bracketed (left right : Char) (parts : List Text) : Text :=
  left :: List.intercalate [',', ' '] parts ++ [right]

mutual
def shown : Value → Option Text
  | .null => some "None".toList
  | .bool true => some "True".toList
  | .bool false => some "False".toList
  | .int n => Decimal.write n
  | .float written => some written
  | .text s => some (Text.quoted s)
  | .list items => (shownItems items).map (bracketed '[' ']')
  | .record entries => (shownEntries entries).map (bracketed '\x7b' '\x7d')
def shownItems : List Value → Option (List Text)
  | [] => some []
  | item :: rest =>
      match shown item, shownItems rest with
      | some first, some others => some (first :: others)
      | _, _ => none
def shownEntries : List (Text × Value) → Option (List Text)
  | [] => some []
  | (key, value) :: rest =>
      match shown value, shownEntries rest with
      | some first, some others => some ((Text.quoted key ++ ':' :: ' ' :: first) :: others)
      | _, _ => none
end

end TapeMeasure.Value

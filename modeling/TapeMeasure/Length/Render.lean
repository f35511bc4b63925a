import TapeMeasure.Decimal.Basic
import TapeMeasure.Length.Basic

/- The written form of a length: feet with an apostrophe, then inches and a fraction in lowest
   terms joined by a dash, with a double quote. Parts that are zero are left out, and a length
   without any part is written as zero inches. Only the feet can be too long to write. -/
set_option autoImplicit false

namespace TapeMeasure.Length

-- A number of sixteenths in lowest terms; nothing outside 1 to 15.
def fractionText : Int → String
  | 1 => "1/16"
  | 2 => "1/8"
  | 3 => "3/16"
  | 4 => "1/4"
  | 5 => "5/16"
  | 6 => "3/8"
  | 7 => "7/16"
  | 8 => "1/2"
  | 9 => "9/16"
  | 10 => "5/8"
  | 11 => "11/16"
  | 12 => "3/4"
  | 13 => "13/16"
  | 14 => "7/8"
  | 15 => "15/16"
  | _ => ""

-- The part below a foot, without its mark: inches, fraction, both or neither.
def inchText (length : Length) : Text :=
  let whole := if length.inches = 0 then [] else Decimal.text length.inches
  let fraction := (fractionText length.numerator16).toList
  if whole = [] then fraction
  else if fraction = [] then whole
  else whole ++ '-' :: fraction

-- The written form around the given text of the feet, which is empty for no feet.
def joinFeet (feet inch : Text) : Text :=
  match feet, inch with
  | [], [] => ['0', '"']
  | [], _ :: _ => inch ++ ['"']
  | _ :: _, [] => feet ++ ['\'']
  | _ :: _, _ :: _ => feet ++ '\'' :: ' ' :: inch ++ ['"']

def render (length : Length) : Option Text :=
  if length.feet = 0 then some (joinFeet [] length.inchText)
  else (Decimal.write length.feet).map (joinFeet · length.inchText)

end TapeMeasure.Length

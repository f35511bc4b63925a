import TapeMeasure.Text.Ascii

/- The order of texts by code points: at the first difference the lesser code point comes first,
   and a text comes before its continuations. -/
set_option autoImplicit false

namespace TapeMeasure.Text

def atMost : Text → Text → Bool
  | [], _ => true
  | _ :: _, [] => false
  | a :: rest, b :: others =>
      if a = b then atMost rest others else decide (a.toNat < b.toNat)

end TapeMeasure.Text

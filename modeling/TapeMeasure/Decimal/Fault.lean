import TapeMeasure.Decimal.Basic

/- What goes wrong in an operation whose errors show numbers: the error itself, or the refusal to
   write one of those numbers. A fault replaces the error that it was to be part of. -/
set_option autoImplicit false

namespace TapeMeasure

inductive Fault (ε : Type) where
  | error (cause : ε)
  | overlong
deriving DecidableEq, Repr

namespace Fault

def map {ε ε' : Type} (f : ε → ε') : Fault ε → Fault ε'
  | .error cause => .error (f cause)
  | .overlong => .overlong

def showing {ε : Type} (shown : Option Text) (cause : Text → ε) : Fault ε :=
  match shown with
  | some text => .error (cause text)
  | none => .overlong

def message {ε : Type} (errorMessage : ε → String) : Fault ε → String
  | .error cause => errorMessage cause
  | .overlong => Decimal.limitMessage ""

end Fault

end TapeMeasure

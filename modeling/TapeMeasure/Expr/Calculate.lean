import TapeMeasure.Expr.Evaluate
import TapeMeasure.Token.Scan

/- From the text of an expression to its value, and on to the written form of the value. -/
set_option autoImplicit false

namespace TapeMeasure

inductive ExprError where
  | parse (cause : ParseError)
  | eval (cause : EvalError)
deriving DecidableEq, Repr

def ExprError.message : ExprError → String
  | .parse cause => cause.message
  | .eval cause => cause.message

-- The value of a text: that of its tokens.
def measure (separator : Separator) (text : Text) : Except (Fault ExprError) Length :=
  match tokenize separator text with
  | .error cause => .error (.error (.parse cause))
  | .ok tokens => (evaluate tokens).mapError (Fault.map .eval)

def calculate (separator : Separator) (text : Text) : Except (Fault ExprError) Text :=
  match measure separator text with
  | .error fault => .error fault
  | .ok length =>
      match length.render with
      | some written => .ok written
      | none => .error .overlong

end TapeMeasure

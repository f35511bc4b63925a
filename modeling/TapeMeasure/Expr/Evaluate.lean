import TapeMeasure.Expr.Node
import TapeMeasure.Length.Make
import TapeMeasure.Length.Render

/- The value of an expression. A level has one node, or two nodes around an operator; there is no
   precedence and no chain of operators. Of several things wrong with an expression the first met
   is reported: the number of nodes, the operator, the left node, the right node, the operation.
   A run also tells which levels it entered, in order, so that the work can be traced. Positions
   are places in a text, so they can be written whenever a level or an operator is described. -/
set_option autoImplicit false

namespace TapeMeasure

abbrev Level := List Label

inductive EvalError where
  | expectedOperator (found : Label) (level : Level)
  | subtraction (lhs : Text) (operator : Label) (rhs : Text)
  | malformed (level : Level)
  | unsupportedArity (level : Level)
  | unknownNode (node : Label)
  | length (cause : LengthError)
deriving DecidableEq, Repr

namespace EvalError

def message : EvalError → String
  | .expectedOperator found level =>
      "Expected operator, got " ++ found.describe ++ " in " ++ Label.describeAll level
  | .subtraction lhs operator rhs =>
      "Subtraction is not supported: " ++ String.ofList lhs ++ " " ++
        String.ofList operator.text ++ " " ++ String.ofList rhs ++ " at position " ++
        toString operator.position
  | .malformed level =>
      "No expression form has " ++ toString level.length ++ " nodes: " ++ Label.describeAll level
  | .unsupportedArity level =>
      "Cannot reduce " ++ toString level.length ++
        " nodes (chained operators are not supported): " ++ Label.describeAll level
  | .unknownNode node => "Not a value or parenthesized expression: " ++ node.describe
  | .length cause => cause.message

end EvalError

structure Run where
  entered : List Level
  result : Except (Fault EvalError) Length

namespace Run

def done (result : Except (Fault EvalError) Length) : Run := ⟨[], result⟩

def fail (error : EvalError) : Run := done (.error (.error error))

def enter (level : Level) (run : Run) : Run := ⟨level :: run.entered, run.result⟩

def andThen (run : Run) (next : Length → Run) : Run :=
  match run.result with
  | .ok value => ⟨run.entered ++ (next value).entered, (next value).result⟩
  | .error fault => ⟨run.entered, .error fault⟩

end Run

namespace Node

-- Differences are not lengths, so subtraction only says what was to be subtracted.
def operate (lhs : Length) (operator : Label) (rhs : Length) : Except (Fault EvalError) Length :=
  if operator.kind = .plus then (lhs.add rhs).mapError (Fault.map .length)
  else
    match lhs.render, rhs.render with
    | some left, some right => .error (.error (.subtraction left operator right))
    | _, _ => .error .overlong

def wrongCount (level : Level) : EvalError :=
  if level.length = 2 ∨ level.length = 4 then .malformed level else .unsupportedArity level

mutual
def runOperand : Node → Run
  | .group _ nodes => runLevel nodes
  | .literal _ value => .done (.ok value)
  | .other label => .fail (.unknownNode label)
def runLevel : List Node → Run
  | [node] => .enter [node.label] (runOperand node)
  | [lhs, operator, rhs] =>
      .enter [lhs.label, operator.label, rhs.label]
        (if operator.label.kind.isOperator then
          (runOperand lhs).andThen fun left =>
            (runOperand rhs).andThen fun right => .done (operate left operator.label right)
        else
          .fail (.expectedOperator operator.label [lhs.label, operator.label, rhs.label]))
  | nodes => .enter (nodes.map label) (.fail (wrongCount (nodes.map label)))
end

end Node

def Run.ofTokens (tokens : List Token) : Run := Node.runLevel (Node.ofTokens tokens)

-- The value of one level of tokens.
def evaluate (tokens : List Token) : Except (Fault EvalError) Length := (Run.ofTokens tokens).result

end TapeMeasure

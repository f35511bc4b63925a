import TapeMeasure.Length.Basic
import TapeMeasure.Text.Quoted

/- Tokens: what the text of an expression is made of. A token has a label, which messages show,
   and by its kind a length or the tokens inside its brackets. Tokens put together by hand may
   hold any combination of these. -/
set_option autoImplicit false

namespace TapeMeasure

inductive Kind where
  | feet
  | inches
  | fraction
  | feetInches
  | inchesFraction
  | feetInchesFraction
  | plus
  | minus
  | paren
  | whitespace
deriving DecidableEq, Repr

namespace Kind

def all : List Kind :=
  [.feet, .inches, .fraction, .feetInches, .inchesFraction, .feetInchesFraction, .plus, .minus,
    .paren, .whitespace]

def name : Kind → String
  | .feet => "Feet"
  | .inches => "Inches"
  | .fraction => "Fraction"
  | .feetInches => "Feet_Inches"
  | .inchesFraction => "Inches_Fraction"
  | .feetInchesFraction => "Feet_Inches_Fraction"
  | .plus => "Operator_Plus"
  | .minus => "Operator_Minus"
  | .paren => "Paren"
  | .whitespace => "Whitespace"

def ofName? (name : String) : Option Kind := all.find? fun kind => kind.name == name

def unknownMessage (name : String) : String :=
  Text.quote name.toList ++ " is not a valid TokenType"

def isOperator : Kind → Bool
  | .plus | .minus => true
  | _ => false

def isValue : Kind → Bool
  | .plus | .minus | .paren | .whitespace => false
  | _ => true

end Kind

-- The position counts the characters in front of the token, in the text that the token is of.
structure Label where
  kind : Kind
  position : Int
  text : Text
deriving DecidableEq, Repr

namespace Label

def describe (label : Label) : String :=
  label.kind.name ++ "(" ++ Text.quote label.text ++ ")@" ++ toString label.position

def describeAll (labels : List Label) : String :=
  "[" ++ String.intercalate ", " (labels.map describe) ++ "]"

end Label

structure Token where
  label : Label
  value : Option Length
  nodes : List Token

namespace Token

def bare (kind : Kind) (position : Nat) (text : Text) : Token :=
  ⟨⟨kind, position, text⟩, none, []⟩

def literal (kind : Kind) (position : Nat) (text : Text) (value : Length) : Token :=
  ⟨⟨kind, position, text⟩, some value, []⟩

def group (position : Nat) (text : Text) (nodes : List Token) : Token :=
  ⟨⟨.paren, position, text⟩, none, nodes⟩

def describeAll (tokens : List Token) : String := Label.describeAll (tokens.map label)

end Token

end TapeMeasure

import TapeMeasure.Text.Ascii

/- Loose values, from which lengths are made and which contracts are checked against. A record
   keeps its entries in the order in which they were put in, each key once. Its keys are texts, as
   in JSON; mappings with keys of another kind are not among these values. -/
set_option autoImplicit false

namespace TapeMeasure

-- A number with a point or an exponent is held by its written form.
inductive Value where
  | null
  | bool (b : Bool)
  | int (n : Int)
  | float (written : Text)
  | text (text : Text)
  | list (items : List Value)
  | record (entries : List (Text × Value))

namespace Value

def typeName : Value → String
  | .null => "NoneType"
  | .bool _ => "bool"
  | .int _ => "int"
  | .float _ => "float"
  | .text _ => "str"
  | .list _ => "list"
  | .record _ => "dict"

-- The value under a key; a missing one counts as null.
def entry (entries : List (Text × Value)) (key : Text) : Value := (entries.lookup key).getD .null

-- Puts a value under a key. A key that is there already keeps its place.
def put (key : Text) (value : Value) : List (Text × Value) → List (Text × Value)
  | [] => [(key, value)]
  | (other, old) :: rest =>
      if other = key then (key, value) :: rest else (other, old) :: put key value rest

end Value

end TapeMeasure

import TapeMeasure.Expr.Calculate
import TapeMeasure.Length.Record

/- Programs over lengths. Every step gives an answer or an error and, if it makes a length, leaves
   it under the step's number for later steps. A length is an object of its own: two lengths with
   equal numbers are the same only if they were made by the same step. -/
set_option autoImplicit false

namespace TapeMeasure.Program

-- A length, and the number of the step that made it.
structure Object where
  length : Length
  origin : Nat
deriving DecidableEq, Repr

abbrev Store := List (Option Object)

-- A letter stands for the length that the step of that number has left. The steps down to
-- `measure` make a length or pass one on; the others look at lengths only.
inductive Step where
  | of (wholeInches numerator16 : Value)
  | carry (wholeInches numerator16 : Value)
  | record (entries : List (Text × Value))
  | validate (value : Value)
  | share (a : Nat)
  | json (text : Text)
  | unchecked (wholeInches numerator16 : Int)
  | copy (a : Nat) (changes : List (Text × Int))
  | add (a b : Nat)
  | measure (separator : Separator) (text : Text)
  | render (a : Nat)
  | describe (a : Nat)
  | inspect (a : Nat)
  | dump (a : Nat)
  | dumpJson (a : Nat)
  | contract (a : Nat)
  | equal (a b : Nat)
  | same (a b : Nat)
  | distinct (items : List Nat)
  | addValue (a : Nat) (value : Value)
  | addToValue (value : Value) (a : Nat)
  | assign (a : Nat)

-- A length is answered by its two numbers, by all that can be derived from them or as a record.
inductive Answer where
  | length (length : Length)
  | text (text : Text)
  | parts (length : Length)
  | record (length : Length)
  | flag (flag : Bool)
  | count (count : Nat)
  | done
deriving DecidableEq, Repr

inductive Misuse where
  | noLength (step : Nat)
  | operands (left right : String)
  | concatenation (left : String)
deriving DecidableEq, Repr

def Misuse.message : Misuse → String
  | .noLength step => "step " ++ toString step ++ " has no length"
  | .operands left right =>
      "unsupported operand type(s) for +: '" ++ left ++ "' and '" ++ right ++ "'"
  | .concatenation left =>
      "can only concatenate " ++ left ++ " (not \"Length\") to " ++ left

inductive Error where
  | misuse (cause : Misuse)
  | length (cause : LengthError)
  | refused (cause : Refusal)
  | violation (cause : Contract.Violation)
  | expr (cause : ExprError)
  | frozen
deriving DecidableEq, Repr

-- What a step gives: an answer, and the length that it leaves, if any.
abbrev Outcome := Except (Fault Error) (Answer × Option Object)

def find (store : Store) (step : Nat) : Except (Fault Error) Object :=
  match store[step]? with
  | some (some object) => .ok object
  | _ => .error (.error (.misuse (.noLength step)))

def leave (store : Store) (made : Except (Fault Error) Length) : Outcome :=
  made.map fun length => (.length length, some ⟨length, store.length⟩)

def look (store : Store) (a : Nat) (view : Length → Except (Fault Error) Answer) : Outcome := do
  let object ← find store a
  let answer ← view object.length
  return (answer, none)

def compare (store : Store) (a b : Nat) (test : Object → Object → Bool) : Outcome := do
  let left ← find store a
  let right ← find store b
  return (.flag (test left right), none)

def written (text : Option Text) : Except (Fault Error) Answer :=
  match text with
  | some text => .ok (.text text)
  | none => .error .overlong

-- What is wrong with adding a length to a value: texts and lists speak of themselves.
def addToValueMisuse (value : Value) : Misuse :=
  match value with
  | .text _ | .list _ => .concatenation value.typeName
  | _ => .operands value.typeName "Length"

def perform (store : Store) : Step → Outcome
  | .of whole sixteenths =>
      leave store ((Length.of whole sixteenths).mapError fun cause => .error (.refused cause))
  | .carry whole sixteenths =>
      leave store ((Length.ofParts whole sixteenths).mapError (Fault.map .length))
  | .record entries =>
      leave store ((Length.ofRecord entries).mapError (Fault.map fun
        | .violation cause => .violation cause
        | .refused cause => .refused cause))
  | .validate value =>
      leave store ((Length.validated value).mapError fun cause => .error (.refused cause))
  | .share a => do
      let object ← find store a
      return (.length object.length, some object)
  | .json text =>
      leave store ((Length.ofJson text).mapError fun cause => .error (.refused cause))
  | .unchecked whole sixteenths => leave store (.ok ⟨whole, sixteenths⟩)
  | .copy a changes => do
      let object ← find store a
      leave store (.ok (object.length.update changes))
  | .add a b => do
      let left ← find store a
      let right ← find store b
      leave store ((left.length.add right.length).mapError (Fault.map .length))
  | .measure separator text =>
      leave store ((TapeMeasure.measure separator text).mapError (Fault.map .expr))
  | .render a => look store a fun length => written length.render
  | .describe a => look store a fun length => written length.shown
  | .inspect a => look store a fun length => .ok (.parts length)
  | .dump a => look store a fun length => .ok (.record length)
  | .dumpJson a => look store a fun length => .ok (.text length.toJson)
  | .contract a => look store a fun length =>
      match Contract.checkEntries length.entries with
      | .ok () => .ok .done
      | .error fault => .error (fault.map .violation)
  | .equal a b => compare store a b fun left right => left.length == right.length
  | .same a b => compare store a b fun left right => left.origin == right.origin
  | .distinct items => do
      let objects ← items.mapM (find store)
      return (.count (objects.map Object.length).eraseDups.length, none)
  | .addValue a value =>
      look store a fun _ => .error (.error (.misuse (.operands "Length" value.typeName)))
  | .addToValue value a => look store a fun _ => .error (.error (.misuse (addToValueMisuse value)))
  | .assign a => look store a fun _ => .error (.error .frozen)

def left? : Outcome → Option Object
  | .ok (_, object) => object
  | .error _ => none

def runFrom (store : Store) : List Step → List Outcome
  | [] => []
  | step :: rest =>
      let outcome := perform store step
      outcome :: runFrom (store ++ [left? outcome]) rest

def run (steps : List Step) : List Outcome := runFrom [] steps

end TapeMeasure.Program

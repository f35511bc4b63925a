import TapeMeasure.Expr.Calculate

/- The trace of a calculation, and the logger that it is sent to. The logger starts without a level
   and with a handler that drops everything; to configure it puts one console in the place of any
   console before. What is calculated never depends on the logger. -/
set_option autoImplicit false

namespace TapeMeasure.Trace

def packageName : String := "uscu"

inductive Handler where
  | null
  | console (stderr : Bool)
deriving DecidableEq, Repr

namespace Handler

def name : Handler → String
  | .null => "NullHandler"
  | .console _ => "RichHandler"

def isConsole : Handler → Bool
  | .null => false
  | .console _ => true

def stderr? : Handler → Option Bool
  | .null => none
  | .console stderr => some stderr

end Handler

structure Logger where
  level : Int
  handlers : List Handler
deriving DecidableEq, Repr

namespace Logger

-- Level zero means that no level is set.
def initial : Logger := ⟨0, [.null]⟩

def infoLevel : Int := 20

def debugLevel : Int := 10

def configure (logger : Logger) (level : Int) (stderr : Bool) : Logger :=
  ⟨level, logger.handlers.filter (fun handler => !handler.isConsole) ++ [.console stderr]⟩

-- Without a level of its own the logger has that of all warnings, which hides the trace.
def showsTrace (logger : Logger) : Bool := logger.level != 0 && decide (logger.level ≤ debugLevel)

-- The name of a logger of this package, from a name that may lie outside of it.
def qualify : Option String → String
  | none => packageName
  | some name =>
      if name = "" ∨ name = packageName then packageName
      else if (packageName ++ ".").toList.isPrefixOf name.toList then name
      else packageName ++ "." ++ name

end Logger

structure Record where
  logger : String
  level : String
  message : String
deriving DecidableEq, Repr

def tokenizedRecord (text : Text) (tokens : List Token) : Record :=
  ⟨packageName ++ ".engine.tokenizer", "DEBUG",
    "tokenized " ++ Text.quote text ++ " into " ++ toString tokens.length ++ " top-level tokens"⟩

def enteredRecord (level : Level) : Record :=
  ⟨packageName ++ ".engine.evaluator", "DEBUG",
    "evaluating " ++ toString level.length ++ " nodes: " ++ Label.describeAll level⟩

-- All that there is to tell about the calculation of a text.
def records (separator : Separator) (text : Text) : List Record :=
  match tokenize separator text with
  | .error _ => []
  | .ok tokens =>
      tokenizedRecord text tokens ::
        (Run.ofTokens tokens).entered.map enteredRecord

-- What a program does with the logger, one thing after the other.
inductive Step where
  | configure (level : Int) (stderr : Bool)
  | getLogger (name : Option String)
  | calculate (separator : Separator) (text : Text)
deriving DecidableEq, Repr

inductive Answer where
  | configured (logger : Logger)
  | named (name : String)
  | calculated (result : Except (Fault ExprError) Text) (records : List Record)

-- One step: the logger that it leaves, and its answer.
def perform (logger : Logger) : Step → Logger × Answer
  | .configure level stderr =>
      (logger.configure level stderr, .configured (logger.configure level stderr))
  | .getLogger name => (logger, .named (Logger.qualify name))
  | .calculate separator text =>
      (logger, .calculated (TapeMeasure.calculate separator text)
        (if logger.showsTrace then records separator text else []))

def runFrom (logger : Logger) : List Step → List Answer
  | [] => []
  | step :: rest => (perform logger step).2 :: runFrom (perform logger step).1 rest

def run (steps : List Step) : List Answer := runFrom Logger.initial steps

end TapeMeasure.Trace

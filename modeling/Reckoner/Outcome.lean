import Reckoner.Decimal.Layout
import Reckoner.Expr.Evaluate
import Reckoner.Log

namespace Reckoner

inductive Outcome
  | result (expression : String) (value : Binary64)
  | failure (expression : String) (kind : ErrorKind) (message : String)
  deriving DecidableEq

namespace Outcome

def expression : Outcome → String
  | .result expression _ => expression
  | .failure expression _ _ => expression

def isFailure : Outcome → Bool
  | .result _ _ => false
  | .failure _ _ _ => true

-- What a history keeps of a calculation.
def entry (expression : String) (value : Binary64) : String := expression ++ " = " ++ value.text

def line : Outcome → String
  | .result expression value => entry expression value
  | .failure expression _ message => expression ++ " -> ERROR: " ++ message

def rejected (expression : String) (error : EvalError) : Outcome :=
  .failure expression error.kind error.message

def record : Outcome → Log.Record
  | .result expression value =>
      ⟨.debug, "✅ " ++ Text.quoted expression ++ " = " ++ value.text⟩
  | .failure expression kind message =>
      ⟨.debug, "❌ " ++ Text.quoted expression ++ ": " ++ kind.name ++ " (" ++ message ++ ")"⟩

end Outcome

-- A breach has no outcome of its own.
def attempt (text : String) : Except Breach Outcome :=
  match valueOf text with
  | .ok value => .ok (.result text value)
  | .error (.rejected error) => .ok (.rejected text error)
  | .error (.broken breach) => .error breach

-- An expression that broke the calculator would be called invalid.
def evaluate (text : String) : Outcome :=
  match attempt text with
  | .ok outcome => outcome
  | .error _ => .rejected text .invalidExpression

end Reckoner

import Reckoner.Decimal.Read
import Reckoner.Outcome
import Reckoner.Text.Cut

namespace Reckoner

-- The messages that are always the same.
def ErrorKind.messages : List (String × ErrorKind) :=
  [("Empty expression", .emptyExpression),
   ("Invalid power function format", .malformedFunctionCall),
   ("Invalid sqrt function format", .malformedFunctionCall),
   ("Invalid abs function format", .malformedFunctionCall),
   ("Invalid round function format", .malformedFunctionCall),
   ("Power function requires two parameters", .arity),
   ("Sqrt function requires one parameter", .arity),
   ("Abs function requires one parameter", .arity),
   ("Round function requires one parameter", .arity),
   ("Cannot calculate square root of a negative number", .domain),
   ("Division by zero", .divisionByZero),
   ("Modulo by zero", .moduloByZero),
   ("Mismatched parentheses", .mismatchedParentheses),
   ("Invalid expression", .invalidExpression)]

-- The kind that a message tells of. Two messages go on with what the text held.
def ErrorKind.ofMessage? (message : String) : Option ErrorKind :=
  match messages.lookup message with
  | some kind => some kind
  | none =>
      if "Invalid character in expression: ".toList.isPrefixOf message.toList then
        some .invalidCharacter
      else if "Invalid number format: ".toList.isPrefixOf message.toList then some .numberFormat
      else none

-- The outcome that a line of a results file stands for.
def Outcome.ofLine? (line : String) : Option Outcome :=
  match Text.cutLast? " -> ERROR: ".toList line.toList with
  | some (expression, message) =>
      (ErrorKind.ofMessage? (String.ofList message)).map fun kind =>
        .failure (String.ofList expression) kind (String.ofList message)
  | none =>
      (Text.cutLast? " = ".toList line.toList).bind fun (expression, value) =>
        (Decimal.read? (String.ofList value)).map fun value =>
          .result (String.ofList expression) value

end Reckoner

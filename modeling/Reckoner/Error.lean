import Reckoner.Binary64.Checked
import Reckoner.Text.Case
import Reckoner.Text.Quoted

namespace Reckoner

inductive ErrorKind
  | emptyExpression
  | invalidCharacter
  | malformedFunctionCall
  | arity
  | numberFormat
  | domain
  | divisionByZero
  | moduloByZero
  | mismatchedParentheses
  | invalidExpression
  | unknownOperator
  deriving DecidableEq, Repr

namespace ErrorKind

def all : List ErrorKind :=
  [.emptyExpression, .invalidCharacter, .malformedFunctionCall, .arity, .numberFormat, .domain,
   .divisionByZero, .moduloByZero, .mismatchedParentheses, .invalidExpression, .unknownOperator]

def name : ErrorKind → String
  | .emptyExpression => "EmptyExpression"
  | .invalidCharacter => "InvalidCharacter"
  | .malformedFunctionCall => "MalformedFunctionCall"
  | .arity => "ArityError"
  | .numberFormat => "NumberFormatError"
  | .domain => "DomainError"
  | .divisionByZero => "DivisionByZero"
  | .moduloByZero => "ModuloByZero"
  | .mismatchedParentheses => "MismatchedParentheses"
  | .invalidExpression => "InvalidExpression"
  | .unknownOperator => "UnknownOperator"

def named? (name : String) : Option ErrorKind := all.find? (·.name == name)

end ErrorKind

-- What an expression can be rejected for.
inductive EvalError
  | emptyExpression
  | invalidCharacter (shown : String)
  | malformedFunctionCall (name : String)
  | arity (name : String) (expected : Int)
  | numberFormat (lexeme : String)
  | domain (reason : String)
  | divisionByZero
  | moduloByZero
  | mismatchedParentheses
  | invalidExpression
  | unknownOperator (symbol : String)
  deriving DecidableEq, Repr

namespace EvalError

def kind : EvalError → ErrorKind
  | .emptyExpression => .emptyExpression
  | .invalidCharacter _ => .invalidCharacter
  | .malformedFunctionCall _ => .malformedFunctionCall
  | .arity _ _ => .arity
  | .numberFormat _ => .numberFormat
  | .domain _ => .domain
  | .divisionByZero => .divisionByZero
  | .moduloByZero => .moduloByZero
  | .mismatchedParentheses => .mismatchedParentheses
  | .invalidExpression => .invalidExpression
  | .unknownOperator _ => .unknownOperator

-- Counts up to three are spelled out.
def countWord (count : Int) : String :=
  if count = 0 then "no"
  else if count = 1 then "one"
  else if count = 2 then "two"
  else if count = 3 then "three"
  else toString count

def message : EvalError → String
  | .emptyExpression => "Empty expression"
  | .invalidCharacter shown => "Invalid character in expression: " ++ shown
  | .malformedFunctionCall name => "Invalid " ++ name ++ " function format"
  | .arity name expected =>
      Text.capitalize name ++ " function requires " ++ countWord expected ++ " parameter" ++
        (if expected = 1 then "" else "s")
  | .numberFormat lexeme => "Invalid number format: " ++ Text.quoted lexeme
  | .domain reason => reason
  | .divisionByZero => "Division by zero"
  | .moduloByZero => "Modulo by zero"
  | .mismatchedParentheses => "Mismatched parentheses"
  | .invalidExpression => "Invalid expression"
  | .unknownOperator symbol => "Unknown operator: " ++ symbol

end EvalError

-- Promises that the stages of an evaluation make to one another. A breach is a
-- fault of the calculator and never one of the expression.
inductive Breach
  | operandMissing
  | operandsBelowFloor
  | frameMissing
  | bracketMissing
  | emptyName
  | unknownFunction (name : String)
  | argumentCount (name : String) (given : Nat)
  | valueCount
  | signal (cause : Binary64.Signal)
  deriving DecidableEq, Repr

inductive Failure
  | rejected (error : EvalError)
  | broken (breach : Breach)
  deriving DecidableEq, Repr

end Reckoner

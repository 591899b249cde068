import Reckoner.Error

namespace Reckoner

inductive Operator
  | add
  | sub
  | mul
  | div
  | rem
  deriving DecidableEq, Repr

namespace Operator

def all : List Operator := [.add, .sub, .mul, .div, .rem]

def symbol : Operator → String
  | .add => "+"
  | .sub => "-"
  | .mul => "*"
  | .div => "/"
  | .rem => "%"

def ofSymbol? (symbol : String) : Option Operator := all.find? (·.symbol == symbol)

-- A higher number binds tighter.
def precedence : Operator → Nat
  | .add | .sub => 1
  | .mul | .div | .rem => 2

def signalled : Except Binary64.Signal Binary64 → Except Failure Binary64
  | .ok value => .ok value
  | .error cause => .error (.broken (.signal cause))

def divide (left right : Binary64) : Except Failure Binary64 :=
  if right.isZero then .error (.rejected .divisionByZero)
  else signalled (Binary64.Checked.div left right)

-- An infinite dividend leaves no remainder that is a number.
def modulo (left right : Binary64) : Except Failure Binary64 :=
  if right.isZero then .error (.rejected .moduloByZero)
  else if !left.isFinite then .ok .nan
  else signalled (Binary64.Checked.rem left right)

def apply : Operator → Binary64 → Binary64 → Except Failure Binary64
  | .add, left, right => .ok (left.add right)
  | .sub, left, right => .ok (left.sub right)
  | .mul, left, right => .ok (left.mul right)
  | .div, left, right => divide left right
  | .rem, left, right => modulo left right

end Operator

def precedence (symbol : String) : Except EvalError Nat :=
  match Operator.ofSymbol? symbol with
  | some operator => .ok operator.precedence
  | none => .error (.unknownOperator symbol)

-- The earlier operand is on the left.
def applyOperator (symbol : String) (left right : Binary64) : Except Failure Binary64 :=
  match Operator.ofSymbol? symbol with
  | some operator => operator.apply left right
  | none => .error (.rejected (.unknownOperator symbol))

end Reckoner

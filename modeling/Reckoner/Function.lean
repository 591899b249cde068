import Reckoner.Error

namespace Reckoner

inductive Function
  | power
  | sqrt
  | abs
  | round
  deriving DecidableEq, Repr

namespace Function

def all : List Function := [.power, .sqrt, .abs, .round]

def name : Function → String
  | .power => "power"
  | .sqrt => "sqrt"
  | .abs => "abs"
  | .round => "round"

def arity : Function → Nat
  | .power => 2
  | .sqrt => 1
  | .abs => 1
  | .round => 1

def named? (name : String) : Option Function := all.find? (·.name == name)

def isName (name : String) : Bool := (named? name).isSome

-- Every power has a value: an overflow is an infinity, a power of zero to a
-- negative exponent too, and what has no real value is not a number. Odd
-- exponents keep the sign of the base.
def raise (base exponent : Binary64) : Binary64 :=
  match Binary64.Checked.power base exponent with
  | .ok value => value
  | .error .overflow =>
      if base.isNegative && exponent.isOddInteger then .infinity .minus else .infinity .plus
  | .error _ =>
      match base with
      | .finite sign size =>
          if size.units = 0 then .infinity (if exponent.isOddInteger then sign else .plus)
          else .nan
      | _ => .nan

def squareRoot (x : Binary64) : Except Failure Binary64 :=
  if x.isNegative then
    .error (.rejected (.domain "Cannot calculate square root of a negative number"))
  else match Binary64.Checked.sqrt x with
    | .ok value => .ok value
    | .error cause => .error (.broken (.signal cause))

def apply : Function → List Binary64 → Except Failure Binary64
  | .power, [base, exponent] => .ok (raise base exponent)
  | .sqrt, [x] => squareRoot x
  | .abs, [x] => .ok x.abs
  | .round, [x] => .ok x.roundHalfUp
  | function, arguments => .error (.broken (.argumentCount function.name arguments.length))

end Function

def applyFunction (name : String) (arguments : List Binary64) : Except Failure Binary64 :=
  match Function.named? name with
  | some function => function.apply arguments
  | none => .error (.broken (.unknownFunction name))

end Reckoner

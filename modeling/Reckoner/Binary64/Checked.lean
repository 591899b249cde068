import Reckoner.Binary64.Bits
import Reckoner.Binary64.Integral
import Reckoner.Binary64.Root

namespace Reckoner.Binary64

-- Arithmetic that refuses instead of delivering an infinity or an invalid
-- value where the operands gave no cause for one.
inductive Signal
  | divideByZero
  | invalid
  | overflow
  deriving DecidableEq, Repr

namespace Checked

def div (x y : Binary64) : Except Signal Binary64 :=
  if y.isZero then .error .divideByZero else .ok (Binary64.div x y)

def rem (x y : Binary64) : Except Signal Binary64 :=
  if x.isNaN || y.isNaN || (x.isFinite && !y.isZero) then .ok (Binary64.rem x y)
  else .error .invalid

def sqrt (x : Binary64) : Except Signal Binary64 :=
  if x.isNegative then .error .invalid else .ok (Binary64.sqrt x)

-- Powers that need no rounding because one operand is not finite.
def specialPower (base exponent : Binary64) : Binary64 :=
  match base, exponent with
  | .nan, _ => if exponent.isZero then one else .nan
  | _, .nan => if base = one then one else .nan
  | .infinity sign, _ =>
      let result := if exponent.isOddInteger then sign else .plus
      if exponent.isPositive then .infinity result
      else if exponent.isZero then one
      else round result 0 1
  | _, .infinity sign =>
      if base.abs = one then one
      else if le one base.abs == (sign == .plus) then .infinity .plus
      else zero
  | .finite _ _, .finite _ _ => .nan

def power (base exponent : Binary64) : Except Signal Binary64 :=
  if base.isFinite && exponent.isFinite then
    match ofFloat (base.toFloat.pow exponent.toFloat) with
    | .nan => .error .invalid
    | .infinity _ => .error (if base.isZero then .invalid else .overflow)
    | result => .ok result
  else .ok (specialPower base exponent)

end Checked

end Reckoner.Binary64

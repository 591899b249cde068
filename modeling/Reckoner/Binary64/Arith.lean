import Reckoner.Binary64.Round

namespace Reckoner.Binary64

-- The exact value of a finite number, in units.
def signedUnits : Sign → Magnitude → Int
  | .plus, size => size.units
  | .minus, size => -size.units

def isNaN : Binary64 → Bool
  | .nan => true
  | _ => false

def isFinite : Binary64 → Bool
  | .finite _ _ => true
  | _ => false

def isZero : Binary64 → Bool
  | .finite _ size => size.units == 0
  | _ => false

-- Below zero, and not merely marked with a minus.
def isNegative : Binary64 → Bool
  | .nan => false
  | .infinity sign => sign == .minus
  | .finite sign size => sign == .minus && size.units != 0

def isPositive : Binary64 → Bool
  | .nan => false
  | .infinity sign => sign == .plus
  | .finite sign size => sign == .plus && size.units != 0

def neg : Binary64 → Binary64
  | .nan => .nan
  | .infinity sign => .infinity sign.flip
  | .finite sign size => .finite sign.flip size

def abs : Binary64 → Binary64
  | .nan => .nan
  | .infinity _ => .infinity .plus
  | .finite _ size => .finite .plus size

-- No value compares with an invalid one.
def le : Binary64 → Binary64 → Bool
  | .nan, _ => false
  | _, .nan => false
  | .infinity .minus, _ => true
  | _, .infinity .plus => true
  | .infinity .plus, _ => false
  | _, .infinity .minus => false
  | .finite s x, .finite t y => signedUnits s x ≤ signedUnits t y

-- An exact sum of zero is positive, except that of two negative zeros.
def add : Binary64 → Binary64 → Binary64
  | .nan, _ => .nan
  | _, .nan => .nan
  | .infinity s, .infinity t => if s = t then .infinity s else .nan
  | .infinity s, .finite _ _ => .infinity s
  | .finite _ _, .infinity t => .infinity t
  | .finite .minus x, .finite .minus y => round .minus (x.units + y.units) 1
  | .finite s x, .finite t y => ofUnits (signedUnits s x + signedUnits t y)

def sub (x y : Binary64) : Binary64 := add x (neg y)

def mul : Binary64 → Binary64 → Binary64
  | .nan, _ => .nan
  | _, .nan => .nan
  | .infinity s, .infinity t => .infinity (s.times t)
  | .infinity s, .finite t y => if y.units = 0 then .nan else .infinity (s.times t)
  | .finite s x, .infinity t => if x.units = 0 then .nan else .infinity (s.times t)
  | .finite s x, .finite t y => round (s.times t) (x.units * y.units) unit

def div : Binary64 → Binary64 → Binary64
  | .nan, _ => .nan
  | _, .nan => .nan
  | .infinity _, .infinity _ => .nan
  | .infinity s, .finite t _ => .infinity (s.times t)
  | .finite s _, .infinity t => round (s.times t) 0 1
  | .finite s x, .finite t y =>
      if y.units = 0 then (if x.units = 0 then .nan else .infinity (s.times t))
      else round (s.times t) (x.units * unit) y.units

-- What is left of the dividend after whole multiples of the divisor are taken
-- away towards zero. It is exact and keeps the dividend's sign.
def rem : Binary64 → Binary64 → Binary64
  | .nan, _ => .nan
  | _, .nan => .nan
  | .infinity _, _ => .nan
  | .finite s x, .infinity _ => .finite s x
  | .finite s x, .finite _ y => if y.units = 0 then .nan else round s (x.units % y.units) 1

end Reckoner.Binary64

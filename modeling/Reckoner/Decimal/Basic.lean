import Reckoner.Binary64.Round

namespace Reckoner

-- `digits` times ten to the `exponent`.
structure Decimal where
  digits : Nat
  exponent : Int
  deriving DecidableEq, Repr

namespace Decimal

open Binary64 (unit)

-- Beyond 10^400 every value overflows, and below 10^-400 every value vanishes.
-- Both are decided before a power is computed.
def round (sign : Sign) (value : Decimal) : Binary64 :=
  if value.digits = 0 then Binary64.round sign 0 1
  else if 400 < value.exponent then .infinity sign
  else if 0 ≤ value.exponent then
    Binary64.round sign (value.digits * Nat.pow 10 value.exponent.toNat * unit) 1
  else if 400 + value.digits.log2 < -value.exponent then Binary64.round sign 0 1
  else Binary64.round sign (value.digits * unit) (Nat.pow 10 (-value.exponent).toNat)

theorem lt_ten_pow (n : Nat) : n < Nat.pow 10 n := Nat.lt_pow_self (by decide)

-- The least power of ten above a number, from a given one on.
def lengthFrom (n exponent : Nat) : Nat :=
  if n < Nat.pow 10 exponent then exponent else lengthFrom n (exponent + 1)
  termination_by n - exponent
  decreasing_by
    have := lt_ten_pow exponent
    omega

-- The number of decimal digits; zero has none. Ten bits are worth a little
-- more than three digits, so the search begins close below.
def length (n : Nat) : Nat := lengthFrom n (n.log2 * 3 / 10)

-- The same value without zeros at the end of its digits.
def trim (value : Decimal) : Decimal :=
  if value.digits ≠ 0 ∧ value.digits % 10 = 0 then
    trim ⟨value.digits / 10, value.exponent + 1⟩
  else value
  termination_by value.digits
  decreasing_by omega

end Decimal

end Reckoner

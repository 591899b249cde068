import Reckoner.Binary64.Arith

namespace Reckoner.Binary64

def half : Binary64 := round .plus unit 2

def floor? : Binary64 → Option Int
  | .finite sign size => some (signedUnits sign size / unit)
  | _ => none

-- The nearest whole number, a half going up. The part above the floor is
-- computed in the same arithmetic as every other difference.
def roundHalfUp (x : Binary64) : Binary64 :=
  match floor? x with
  | none => x
  | some whole =>
      ofInt (if le half (sub x (ofInt whole)) then whole + 1 else whole)

def isOddInteger : Binary64 → Bool
  | .finite _ size => size.units % (2 * unit) == unit
  | _ => false

end Reckoner.Binary64

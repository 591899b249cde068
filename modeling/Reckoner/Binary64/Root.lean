import Reckoner.Binary64.Arith

namespace Reckoner.Binary64

-- Bits of the root are tried from the highest down and kept while the square
-- does not exceed `n`.
def floorRootFrom (n : Nat) : Nat → Nat → Nat
  | 0, root => root
  | bit + 1, root =>
      let raised := root + 1 <<< bit
      if raised * raised ≤ n then floorRootFrom n bit raised else floorRootFrom n bit root

def floorRoot (n : Nat) : Nat := floorRootFrom n (n.log2 / 2 + 1) 0

-- A positive value is at least one unit, so its root has more than 500 bits in
-- units: one half added to the whole part of an irrational root rounds alike.
def sqrt : Binary64 → Binary64
  | .nan => .nan
  | .infinity sign => if sign = .minus then .nan else .infinity .plus
  | .finite sign size =>
      if size.units = 0 then .finite sign size
      else if sign = .minus then .nan
      else
        let square := size.units * unit
        let root := floorRoot square
        round .plus (2 * root + (if root * root = square then 0 else 1)) 2

end Reckoner.Binary64

namespace Reckoner.Text

-- Closed ranges of code points, in increasing order and apart from one another. The
-- tables of characters follow Unicode 15.0.
abbrev Ranges := List (Nat × Nat)

-- The order lets a search stop at the first range that begins after the code,
-- so the common low codes cost one or two comparisons.
def Ranges.covers : Ranges → Nat → Bool
  | [], _ => false
  | (first, last) :: rest, code =>
      if code < first then false else code ≤ last || covers rest code

-- The place of a code inside the range that holds it.
def Ranges.offset? : Ranges → Nat → Option Nat
  | [], _ => none
  | (first, last) :: rest, code =>
      if code < first then none
      else if code ≤ last then some (code - first)
      else offset? rest code

end Reckoner.Text

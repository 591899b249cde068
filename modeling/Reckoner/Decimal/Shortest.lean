import Reckoner.Decimal.Basic

namespace Reckoner.Decimal

open Binary64 (Magnitude)

-- One unit is 5^1074 / 10^1074, so every magnitude has a finite decimal
-- expansion. This is that expansion without its point, 1074 places from the end.
def expansion (size : Magnitude) : Nat := size.units * Nat.pow 5 1074

-- Whether a number of 10^-1074 is read as this magnitude.
def readsAs (size : Magnitude) (tenths : Nat) : Bool :=
  Magnitude.round? tenths (Nat.pow 5 1074) = some size

-- The numbers with `dropped` places cut from the expansion come in a grid. Only
-- the grid's two neighbours of the magnitude can be the nearest that reads back.
-- An exact tie goes to the even neighbour.
def neighbour? (size : Magnitude) (dropped : Nat) : Option Nat :=
  let scale := Nat.pow 10 dropped
  let below := expansion size / scale
  let rest := expansion size % scale
  let upward := scale < 2 * rest || (2 * rest == scale && below % 2 == 1)
  let near := if upward then below + 1 else below
  let far := if upward then below else below + 1
  if readsAs size (near * scale) then some near
  else if readsAs size (far * scale) then some far
  else none

-- Places are given back one at a time until a number on the grid is found. With
-- none dropped there is the whole.
def firstFound (find : Nat → Option Nat) (whole : Nat) : Nat → Decimal
  | 0 => ⟨whole, -1074⟩
  | dropped + 1 =>
      match find (dropped + 1) with
      | some digits => ⟨digits, (dropped + 1 : Int) - 1074⟩
      | none => firstFound find whole dropped

-- The fewest digits that read back as this magnitude.
def shortest (size : Magnitude) : Decimal :=
  trim (firstFound (neighbour? size) (expansion size) (length (expansion size) - 1))

end Reckoner.Decimal

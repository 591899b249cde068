import Reckoner.Binary64.Basic

namespace Reckoner.Binary64

-- The quotient's nearest multiple of `step`, as a count of steps; of two
-- equally near ones the even count.
def nearestMultiple (numerator step : Nat) : Nat :=
  let below := numerator / step
  let rest := numerator % step
  if step < 2 * rest || (2 * rest == step && below % 2 == 1) then below + 1 else below

-- The magnitude nearest to a quotient of units, the bound left aside. The
-- whole part of the quotient decides the spacing.
def roundUnits (numerator denominator : Nat) : Nat :=
  let gap := spacing (numerator / denominator)
  nearestMultiple numerator (denominator * gap) * gap

theorem nearestMultiple_le (numerator step : Nat) :
    nearestMultiple numerator step ≤ numerator / step + 1 := by
  unfold nearestMultiple
  dsimp only
  split <;> omega

theorem roundUnits_aligned (numerator denominator : Nat) :
    spacing (roundUnits numerator denominator) ∣ roundUnits numerator denominator := by
  apply spacing_dvd_mul
  have h := nearestMultiple_le numerator (denominator * spacing (numerator / denominator))
  rw [← Nat.div_div_eq_div_mul] at h
  have hlt := div_spacing_lt (numerator / denominator)
  omega

-- A rounded magnitude that reaches the limit has no finite value.
def Magnitude.round? (numerator denominator : Nat) : Option Magnitude :=
  if h : roundUnits numerator denominator < limit then
    some ⟨_, roundUnits_aligned numerator denominator, h⟩
  else none

def round (sign : Sign) (numerator denominator : Nat) : Binary64 :=
  match Magnitude.round? numerator denominator with
  | some size => .finite sign size
  | none => .infinity sign

def ofUnits (units : Int) : Binary64 := round (Sign.ofInt units) units.natAbs 1

def ofInt (n : Int) : Binary64 := round (Sign.ofInt n) (n.natAbs * unit) 1

def zero : Binary64 := ofInt 0

def one : Binary64 := ofInt 1

end Reckoner.Binary64

namespace Reckoner

inductive Sign
  | plus
  | minus
  deriving DecidableEq, Repr

def Sign.flip : Sign → Sign
  | .plus => .minus
  | .minus => .plus

def Sign.times : Sign → Sign → Sign
  | .plus, sign => sign
  | .minus, sign => sign.flip

def Sign.ofInt (n : Int) : Sign := if n < 0 then .minus else .plus

namespace Binary64

-- Finite magnitudes are counted in units of 2^-1074, the least positive one.
-- The spacing is the distance between neighbours at a count: one unit up to
-- 53 bits, and twice as much for every further bit.
def spacing (units : Nat) : Nat := 1 <<< (units.log2 - 52)

-- The value one, in units.
def unit : Nat := 1 <<< 1074

-- The first power of two beyond every finite magnitude, in units.
def limit : Nat := 1 <<< 2098

structure Magnitude where
  units : Nat
  aligned : spacing units ∣ units
  bounded : units < limit
  deriving DecidableEq

end Binary64

-- All invalid results are one value. A zero has a sign like any other magnitude.
inductive Binary64
  | nan
  | infinity (sign : Sign)
  | finite (sign : Sign) (size : Binary64.Magnitude)
  deriving DecidableEq

namespace Binary64

private theorem one_shiftLeft_pos (places : Nat) : 0 < 1 <<< places := by
  rw [Nat.one_shiftLeft]
  exact Nat.two_pow_pos places

theorem spacing_pos (units : Nat) : 0 < spacing units := one_shiftLeft_pos _

private theorem log2_lt_of_lt_shiftLeft {n bits : Nat} (hb : bits ≠ 0) (h : n < 1 <<< bits) :
    n.log2 < bits := by
  by_cases hn : n = 0
  · subst hn
    rw [Nat.log2_zero]
    omega
  · rw [Nat.one_shiftLeft] at h
    exact (Nat.log2_lt hn).mpr h

private theorem shiftLeft_dvd {i j : Nat} (h : i ≤ j) : 1 <<< i ∣ 1 <<< j := by
  rw [Nat.one_shiftLeft, Nat.one_shiftLeft]
  exact Nat.pow_dvd_pow 2 h

private theorem shiftLeft_mul (i j : Nat) : 1 <<< i * 1 <<< j = 1 <<< (i + j) := by
  rw [Nat.one_shiftLeft, Nat.one_shiftLeft, Nat.one_shiftLeft, Nat.pow_add]

-- A multiple of 2^k by at most 2^53 needs no more than 53 bits, the last of
-- them at place k or above.
theorem spacing_dvd_mul (multiple k : Nat) (h : multiple ≤ 1 <<< 53) :
    spacing (multiple * 1 <<< k) ∣ multiple * 1 <<< k := by
  unfold spacing
  rcases Nat.lt_or_ge multiple (1 <<< 53) with hlt | hge
  · have hbound : multiple * 1 <<< k < 1 <<< (53 + k) := by
      rw [← shiftLeft_mul]
      exact Nat.mul_lt_mul_of_pos_right hlt (one_shiftLeft_pos k)
    have hlog := log2_lt_of_lt_shiftLeft (by omega) hbound
    exact Nat.dvd_trans (shiftLeft_dvd (by omega)) (Nat.dvd_mul_left _ _)
  · have he : multiple * 1 <<< k = 1 <<< (53 + k) := by
      rw [Nat.le_antisymm h hge, shiftLeft_mul]
    have hlog : (1 <<< (53 + k)).log2 = 53 + k := by
      rw [Nat.one_shiftLeft, Nat.log2_two_pow]
    rw [he, hlog]
    exact shiftLeft_dvd (by omega)

theorem div_spacing_lt (units : Nat) : units / spacing units < 1 <<< 53 := by
  rw [Nat.div_lt_iff_lt_mul (spacing_pos units)]
  unfold spacing
  rw [shiftLeft_mul]
  by_cases hn : units = 0
  · subst hn
    exact one_shiftLeft_pos _
  · rw [Nat.one_shiftLeft]
    exact (Nat.log2_lt hn).mp (by omega)

end Binary64

end Reckoner

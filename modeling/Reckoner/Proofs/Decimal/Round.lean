import Mathlib.Tactic.Ring
import Reckoner.Decimal.Basic
import Reckoner.Proofs.Binary64.Round

namespace Reckoner.Decimal

open Binary64 (roundUnits roundUnits_mul roundUnits_eq_zero round_congr unit)

-- Ten to the minus 1074 is the grid that all magnitudes lie on. A decimal with
-- no more places than that is a count of it.
def tenths (value : Decimal) : Nat := value.digits * 10 ^ (value.exponent + 1074).toNat

-- One unit is five to the 1074 of them.
def tenthsPerUnit : Nat := 5 ^ 1074

theorem two_pow_mul_five_pow (n : Nat) : 2 ^ n * 5 ^ n = 10 ^ n := (Nat.mul_pow 2 5 n).symm

theorem shiftLeft_mul_five_pow (n : Nat) : 1 <<< n * 5 ^ n = 10 ^ n := by
  rw [Nat.one_shiftLeft, two_pow_mul_five_pow]

theorem unit_mul_tenthsPerUnit : unit * tenthsPerUnit = 10 ^ 1074 := by
  unfold unit tenthsPerUnit
  exact shiftLeft_mul_five_pow 1074

theorem five_pow_pos (n : Nat) : 0 < 5 ^ n := Nat.pow_pos (by decide)

theorem tenthsPerUnit_pos : 0 < tenthsPerUnit := by
  unfold tenthsPerUnit
  exact five_pow_pos 1074

theorem pow_five_eq (n : Nat) : 5 ^ n = Nat.pow 5 n := rfl

theorem tenthsPerUnit_eq : tenthsPerUnit = Nat.pow 5 1074 := by
  unfold tenthsPerUnit
  exact pow_five_eq 1074

section

variable {value : Decimal} {places : Nat}

theorem tenths_of_whole (hplaces : value.exponent = places) :
    value.tenths = value.digits * 10 ^ places * unit * tenthsPerUnit := by
  have hexponent : (value.exponent + 1074).toNat = places + 1074 := by omega
  rw [tenths, hexponent, Nat.pow_add, Nat.mul_assoc _ unit, unit_mul_tenthsPerUnit, Nat.mul_assoc]

-- A value at the top of the range and above it is infinite either way.
theorem round_tenths_of_large (sign : Sign) (hdigits : value.digits ≠ 0)
    (hplaces : value.exponent = places) (hlarge : 400 < places) :
    Binary64.round sign value.tenths tenthsPerUnit = .infinity sign := by
  have hquotient : value.tenths / tenthsPerUnit = value.digits * 10 ^ places * unit := by
    rw [tenths_of_whole hplaces, Nat.mul_div_cancel _ tenthsPerUnit_pos]
  have hpower : 2 ^ 1025 ≤ value.digits * 10 ^ places :=
    calc 2 ^ 1025 ≤ 10 ^ 400 := by decide +kernel
      _ ≤ 10 ^ places := Nat.pow_le_pow_right (by decide) (by omega)
      _ ≤ value.digits * 10 ^ places := Nat.le_mul_of_pos_left _ (by omega)
  have hbound : 2 * Binary64.limit ≤ value.tenths / tenthsPerUnit :=
    calc 2 * Binary64.limit = 2 ^ 1025 * unit := by decide +kernel
      _ ≤ value.digits * 10 ^ places * unit := Nat.mul_le_mul_right _ hpower
      _ = value.tenths / tenthsPerUnit := hquotient.symm
  have hlimit : 0 < Binary64.limit := by decide +kernel
  have hhalf := @Binary64.div_lt_two_mul_roundUnits value.tenths tenthsPerUnit (by omega)
  exact Binary64.round_of_limit_le sign (by omega)

theorem roundUnits_tenths_of_whole (hplaces : value.exponent = places) :
    roundUnits value.tenths tenthsPerUnit = roundUnits (value.digits * 10 ^ places * unit) 1 := by
  have hscale := @roundUnits_mul (value.digits * 10 ^ places * unit) 1 _ tenthsPerUnit_pos
  rwa [Nat.one_mul, ← tenths_of_whole hplaces] at hscale

theorem roundUnits_tenths_of_fraction (hplaces : value.exponent = -places) (hle : places ≤ 1074) :
    roundUnits value.tenths tenthsPerUnit = roundUnits (value.digits * unit) (10 ^ places) := by
  obtain ⟨more, hmore⟩ := Nat.exists_eq_add_of_le hle
  have hexponent : (value.exponent + 1074).toNat = more := by omega
  have htenths : value.tenths = value.digits * 2 ^ more * 5 ^ more := by
    rw [tenths, hexponent, Nat.mul_assoc, two_pow_mul_five_pow]
  have hper : tenthsPerUnit = 5 ^ places * 5 ^ more := by
    rw [tenthsPerUnit, hmore, Nat.pow_add]
  have hunit : value.digits * unit = value.digits * 2 ^ more * 2 ^ places := by
    rw [unit, Nat.one_shiftLeft, hmore, Nat.pow_add, Nat.mul_comm (2 ^ places), Nat.mul_assoc]
  have hten : 10 ^ places = 5 ^ places * 2 ^ places := by
    rw [Nat.mul_comm, two_pow_mul_five_pow]
  rw [htenths, hper, hunit, hten, roundUnits_mul (five_pow_pos more),
    roundUnits_mul (Nat.two_pow_pos places)]

-- So many places below the first digit nothing is left but zero.
theorem two_mul_tenths_lt (hplaces : value.exponent = -places) (hle : places ≤ 1074)
    (hsmall : 400 + value.digits.log2 < places) : 2 * value.tenths < tenthsPerUnit := by
  obtain ⟨more, hmore⟩ := Nat.exists_eq_add_of_le hle
  have hexponent : (value.exponent + 1074).toNat = more := by omega
  have hdigits : value.digits < 2 ^ (value.digits.log2 + 1) := Nat.lt_log2_self
  have hpower : 2 ^ (value.digits.log2 + 1) * 2 ^ (more + 1) ≤ 5 ^ places :=
    calc 2 ^ (value.digits.log2 + 1) * 2 ^ (more + 1) = 2 ^ (value.digits.log2 + more + 2) := by
          rw [← Nat.pow_add]
          congr 1
          omega
      _ ≤ 2 ^ (2 * places) := Nat.pow_le_pow_right (by decide) (by omega)
      _ = 4 ^ places := by rw [Nat.pow_mul]
      _ ≤ 5 ^ places := Nat.pow_le_pow_left (by decide) places
  calc 2 * value.tenths = value.digits * 2 ^ (more + 1) * 5 ^ more := by
        rw [tenths, hexponent, ← two_pow_mul_five_pow]
        ring
    _ < 2 ^ (value.digits.log2 + 1) * 2 ^ (more + 1) * 5 ^ more :=
        Nat.mul_lt_mul_of_pos_right (Nat.mul_lt_mul_of_pos_right hdigits (Nat.two_pow_pos _))
          (five_pow_pos more)
    _ ≤ 5 ^ places * 5 ^ more := Nat.mul_le_mul_right _ hpower
    _ = tenthsPerUnit := by rw [tenthsPerUnit, hmore, Nat.pow_add]

-- The shortcuts for values out of range change nothing: a decimal is rounded as
-- the count of tenths that it is.
theorem round_eq_round_tenths (sign : Sign) (hplaces : -1074 ≤ value.exponent) :
    value.round sign = Binary64.round sign value.tenths tenthsPerUnit := by
  have hzero : roundUnits 0 1 = 0 := roundUnits_eq_zero (by decide)
  unfold Decimal.round
  split
  · rename_i hdigits
    refine round_congr sign (hzero.trans (roundUnits_eq_zero ?_).symm)
    rw [tenths, hdigits, Nat.zero_mul]
    exact tenthsPerUnit_pos
  · rename_i hdigits
    rcases Int.lt_or_le value.exponent 0 with hfraction | hwhole
    · obtain ⟨places, hplaces⟩ := Int.eq_ofNat_of_zero_le (show 0 ≤ -value.exponent by omega)
      have hexponent : value.exponent = -places := by omega
      have htoNat : (-value.exponent).toNat = places := by omega
      rw [if_neg (by omega), if_neg (by omega), htoNat]
      split
      · rename_i hsmall
        have htiny := two_mul_tenths_lt hexponent (by omega) (by omega)
        exact round_congr sign (hzero.trans (roundUnits_eq_zero htiny).symm)
      · exact round_congr sign (roundUnits_tenths_of_fraction hexponent (by omega)).symm
    · obtain ⟨places, hplaces⟩ := Int.eq_ofNat_of_zero_le hwhole
      have htoNat : value.exponent.toNat = places := by omega
      split
      · exact (round_tenths_of_large sign hdigits hplaces (by omega)).symm
      · rw [htoNat]
        exact round_congr sign (roundUnits_tenths_of_whole hplaces).symm

end

end Reckoner.Decimal

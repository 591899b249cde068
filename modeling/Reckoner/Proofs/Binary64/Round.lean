import Reckoner.Binary64.Round

namespace Reckoner.Binary64

section

variable {numerator denominator step factor : Nat}

-- Only the quotient decides, not the numbers that it is made of.
theorem nearestMultiple_mul (hfactor : 0 < factor) :
    nearestMultiple (numerator * factor) (step * factor) = nearestMultiple numerator step := by
  have hbelow : numerator * factor / (step * factor) = numerator / step :=
    Nat.mul_div_mul_right _ _ hfactor
  have hrest : numerator * factor % (step * factor) = numerator % step * factor :=
    Nat.mul_mod_mul_right _ _ _
  have htwice : 2 * (numerator % step * factor) = 2 * (numerator % step) * factor :=
    (Nat.mul_assoc _ _ _).symm
  have hlt : step * factor < 2 * (numerator % step) * factor ↔ step < 2 * (numerator % step) :=
    Nat.mul_lt_mul_right hfactor
  have heq : 2 * (numerator % step) * factor = step * factor ↔ 2 * (numerator % step) = step :=
    Nat.mul_left_inj (Nat.ne_of_gt hfactor)
  have htie : (2 * (numerator % step) * factor == step * factor) =
      (2 * (numerator % step) == step) := by
    rw [Bool.eq_iff_iff, beq_iff_eq, beq_iff_eq, heq]
  simp only [nearestMultiple, hbelow, hrest, htwice, hlt, htie]

theorem nearestMultiple_of_dvd (hstep : 0 < step) (hdvd : step ∣ numerator) :
    nearestMultiple numerator step = numerator / step := by
  have hrest : numerator % step = 0 := Nat.mod_eq_zero_of_dvd hdvd
  have htie : (2 * 0 == step) = false := beq_eq_false_iff_ne.mpr (by omega)
  have hbelow : ¬step < 2 * 0 := by omega
  simp only [nearestMultiple, hrest, htie, hbelow, Bool.false_and, decide_false, Bool.or_self,
    Bool.false_eq_true, if_false]

theorem div_le_nearestMultiple : numerator / step ≤ nearestMultiple numerator step := by
  unfold nearestMultiple
  dsimp only
  split <;> omega

theorem roundUnits_mul (hfactor : 0 < factor) :
    roundUnits (numerator * factor) (denominator * factor) = roundUnits numerator denominator := by
  have hquotient : numerator * factor / (denominator * factor) = numerator / denominator :=
    Nat.mul_div_mul_right _ _ hfactor
  have hgap (gap : Nat) : denominator * factor * gap = denominator * gap * factor := by
    rw [Nat.mul_assoc, Nat.mul_comm factor, Nat.mul_assoc]
  simp only [roundUnits, hquotient, hgap, nearestMultiple_mul hfactor]

-- A number of units that is a magnitude stays what it is.
theorem roundUnits_of_aligned {units : Nat} (haligned : spacing units ∣ units)
    (hfactor : 0 < factor) : roundUnits (units * factor) factor = units := by
  have hone : roundUnits (units * factor) factor = roundUnits units 1 := by
    rw [← @roundUnits_mul units 1 factor hfactor, Nat.one_mul]
  rw [hone, roundUnits, Nat.div_one, Nat.one_mul,
    nearestMultiple_of_dvd (spacing_pos units) haligned]
  exact Nat.div_mul_cancel haligned

theorem spacing_le {units : Nat} (hunits : units ≠ 0) : spacing units ≤ units := by
  unfold spacing
  rw [Nat.one_shiftLeft]
  calc 2 ^ (units.log2 - 52) ≤ 2 ^ units.log2 := Nat.pow_le_pow_right (by decide) (by omega)
    _ ≤ units := Nat.log2_self_le hunits

-- Rounding does not take away half of the whole part.
theorem div_lt_two_mul_roundUnits (hquotient : numerator / denominator ≠ 0) :
    numerator / denominator < 2 * roundUnits numerator denominator := by
  have hgap := spacing_pos (numerator / denominator)
  have hle := spacing_le hquotient
  unfold roundUnits
  dsimp only
  generalize spacing (numerator / denominator) = gap at hgap hle
  have hnearest : numerator / (denominator * gap) ≤ nearestMultiple numerator (denominator * gap) :=
    div_le_nearestMultiple
  rw [← Nat.div_div_eq_div_mul] at hnearest
  generalize numerator / denominator = quotient at hle hnearest
  have hone : gap ≤ quotient / gap * gap := Nat.le_mul_of_pos_left gap (Nat.div_pos hle hgap)
  calc quotient < quotient / gap * gap + gap := Nat.lt_div_mul_add hgap
    _ ≤ 2 * (quotient / gap * gap) := by omega
    _ ≤ 2 * (nearestMultiple numerator (denominator * gap) * gap) :=
        Nat.mul_le_mul_left 2 (Nat.mul_le_mul_right gap hnearest)

-- What lies below one half vanishes.
theorem roundUnits_eq_zero (hsmall : 2 * numerator < denominator) :
    roundUnits numerator denominator = 0 := by
  have hquotient : numerator / denominator = 0 := Nat.div_eq_of_lt (by omega)
  have hgap : spacing 0 = 1 := rfl
  have hrest : numerator % denominator = numerator := Nat.mod_eq_of_lt (by omega)
  have hdown : ¬denominator < 2 * numerator := by omega
  simp [roundUnits, hquotient, hgap, nearestMultiple, hrest, hdown]

variable {other against : Nat}

-- A magnitude is known by its count of units.
theorem Magnitude.round?_eq_some_iff {size : Magnitude} :
    Magnitude.round? numerator denominator = some size ↔
      roundUnits numerator denominator = size.units := by
  obtain ⟨units, haligned, hbounded⟩ := size
  unfold Magnitude.round?
  split
  · rw [Option.some.injEq, Magnitude.mk.injEq]
  · rename_i hlimit
    constructor
    · intro hround
      cases hround
    · intro hunits
      exact absurd (hunits ▸ hbounded) hlimit

theorem Magnitude.round?_eq_none_iff :
    Magnitude.round? numerator denominator = none ↔ limit ≤ roundUnits numerator denominator := by
  unfold Magnitude.round?
  split
  · rename_i hlimit
    exact iff_of_false (fun hround => by cases hround) (Nat.not_le.mpr hlimit)
  · rename_i hlimit
    exact iff_of_true rfl (Nat.not_lt.mp hlimit)

theorem round_congr (sign : Sign)
    (hunits : roundUnits numerator denominator = roundUnits other against) :
    round sign numerator denominator = round sign other against := by
  have hround : Magnitude.round? numerator denominator = Magnitude.round? other against := by
    cases hother : Magnitude.round? other against with
    | none => rwa [Magnitude.round?_eq_none_iff, hunits, ← Magnitude.round?_eq_none_iff]
    | some size => rwa [Magnitude.round?_eq_some_iff, hunits, ← Magnitude.round?_eq_some_iff]
  unfold round
  rw [hround]

theorem round_of_units (sign : Sign) {size : Magnitude}
    (hunits : roundUnits numerator denominator = size.units) :
    round sign numerator denominator = .finite sign size := by
  unfold round
  rw [Magnitude.round?_eq_some_iff.mpr hunits]

theorem round_of_limit_le (sign : Sign) (hlimit : limit ≤ roundUnits numerator denominator) :
    round sign numerator denominator = .infinity sign := by
  unfold round
  rw [Magnitude.round?_eq_none_iff.mpr hlimit]

end

end Reckoner.Binary64

import Mathlib.Data.Nat.Log
import Mathlib.Tactic.Ring
import Reckoner.Proofs.Binary64.Round

namespace Reckoner.Binary64

def distance (m n : Int) : Nat := (m - n).natAbs

-- The last digit of the significand is zero.
def IsEven (units : Nat) : Prop := 2 * spacing units ∣ units

section

variable {numerator step units : Nat}

-- Half a step is the most that the nearest multiple is away, and then it is even.
theorem two_mul_distance_le (numerator : Nat) (hstep : 0 < step) :
    2 * distance numerator ↑(nearestMultiple numerator step * step) ≤ step ∧
      (2 * distance numerator ↑(nearestMultiple numerator step * step) = step →
        2 ∣ nearestMultiple numerator step) := by
  have hrest := Nat.mod_lt numerator hstep
  have hwhole := Nat.div_add_mod' numerator step
  have hnext := Nat.add_one_mul (numerator / step) step
  unfold distance nearestMultiple
  dsimp only
  split
  · rename_i hup
    simp only [Bool.or_eq_true, Bool.and_eq_true, decide_eq_true_eq, beq_iff_eq] at hup
    omega
  · rename_i hdown
    simp only [Bool.or_eq_true, Bool.and_eq_true, decide_eq_true_eq, beq_iff_eq, not_or] at hdown
    omega

-- Any other multiple is a step from the nearest one.
theorem distance_le_of_dvd (numerator : Nat) (hstep : 0 < step) (hdvd : step ∣ units) :
    distance numerator ↑(nearestMultiple numerator step * step) ≤ distance numerator units ∧
      (distance numerator units = distance numerator ↑(nearestMultiple numerator step * step) →
        units = nearestMultiple numerator step * step ∨ 2 ∣ nearestMultiple numerator step) := by
  obtain ⟨hhalf, heven⟩ := two_mul_distance_le numerator hstep
  obtain ⟨k, rfl⟩ := hdvd
  rw [Nat.mul_comm step k]
  generalize nearestMultiple numerator step = m at hhalf heven
  unfold distance at hhalf heven ⊢
  rcases Nat.lt_trichotomy k m with hlt | rfl | hgt
  · have hbelow : (k + 1) * step ≤ m * step := Nat.mul_le_mul_right step hlt
    rw [Nat.add_one_mul] at hbelow
    omega
  · exact ⟨Nat.le_refl _, fun _ => .inl rfl⟩
  · have habove : (m + 1) * step ≤ k * step := Nat.mul_le_mul_right step hgt
    rw [Nat.add_one_mul] at habove
    omega

theorem spacing_eq_two_pow (units : Nat) : spacing units = 2 ^ (units.log2 - 52) := by
  rw [spacing, Nat.one_shiftLeft]

theorem spacing_dvd_of_le {low high : Nat} (h : low ≤ high) : spacing low ∣ spacing high := by
  rw [spacing_eq_two_pow, spacing_eq_two_pow, Nat.log2_eq_log_two, Nat.log2_eq_log_two]
  exact Nat.pow_dvd_pow 2 (Nat.sub_le_sub_right (Nat.log_mono_right h) 52)

theorem roundUnits_one (numerator : Nat) :
    roundUnits numerator 1 = nearestMultiple numerator (spacing numerator) * spacing numerator := by
  rw [roundUnits, Nat.div_one, Nat.one_mul]

theorem roundUnits_one_of_aligned (haligned : spacing units ∣ units) : roundUnits units 1 = units := by
  simpa using roundUnits_of_aligned haligned Nat.one_pos

theorem spacing_mul_two_pow {multiple : Nat} (g : Nat) (hlow : 2 ^ 52 ≤ multiple)
    (hhigh : multiple < 2 ^ 53) : spacing (multiple * 2 ^ g) = 2 ^ g := by
  have hpositive := Nat.mul_pos (show 0 < multiple by omega) (Nat.two_pow_pos g)
  have hbelow := Nat.mul_le_mul_right (2 ^ g) hlow
  have habove := Nat.mul_lt_mul_of_pos_right hhigh (Nat.two_pow_pos g)
  rw [← Nat.pow_add] at hbelow habove
  rw [show 53 + g = 52 + g + 1 by omega] at habove
  have hlog : (multiple * 2 ^ g).log2 = 52 + g :=
    (Nat.log2_eq_iff (Nat.ne_of_gt hpositive)).mpr ⟨hbelow, habove⟩
  rw [spacing_eq_two_pow, hlog, Nat.add_sub_cancel_left]

-- A magnitude is a multiple of all spacings up to its own.
theorem two_pow_dvd_of_le {g : Nat} (haligned : spacing units ∣ units)
    (hle : 2 ^ 52 * 2 ^ g ≤ units) : 2 ^ g ∣ units := by
  have hspacing := spacing_mul_two_pow g (Nat.le_refl (2 ^ 52)) (by decide)
  rw [← hspacing]
  exact Nat.dvd_trans (spacing_dvd_of_le hle) haligned

-- A multiple of 2^g by a number of 53 bits is even if that number is. Two to the
-- 53, which has one bit more, is even all the same.
theorem isEven_mul_two_pow {multiple : Nat} (g : Nat) (heven : 2 ∣ multiple)
    (hlow : 2 ^ 52 ≤ multiple) (hhigh : multiple ≤ 2 ^ 53) : IsEven (multiple * 2 ^ g) := by
  rcases Nat.lt_or_eq_of_le hhigh with hlt | rfl
  · rw [IsEven, spacing_mul_two_pow g hlow hlt]
    exact Nat.mul_dvd_mul_right heven _
  · rw [IsEven, spacing_eq_two_pow, ← Nat.pow_add, Nat.log2_two_pow, ← Nat.pow_succ']
    exact Nat.pow_dvd_pow 2 (by omega)

-- No magnitude is nearer than the rounded one, and one as near leaves it even.
-- A magnitude below the power of two that the number has reached is no multiple
-- of the spacing there, but that power is nearer.
theorem roundUnits_nearest (numerator : Nat) (haligned : spacing units ∣ units) :
    distance numerator (roundUnits numerator 1) ≤ distance numerator units ∧
      (distance numerator units = distance numerator (roundUnits numerator 1) →
        units = roundUnits numerator 1 ∨ IsEven (roundUnits numerator 1)) := by
  rcases Nat.lt_or_ge 52 numerator.log2 with hlarge | hsmall
  · obtain ⟨g, hg⟩ := Nat.exists_eq_add_of_le hlarge.le
    have hne : numerator ≠ 0 := by rintro rfl; simp at hlarge
    have hspacing : spacing numerator = 2 ^ g := by
      rw [spacing_eq_two_pow, hg, Nat.add_sub_cancel_left]
    have hpower : 2 ^ 52 * 2 ^ g ≤ numerator := by
      rw [← Nat.pow_add, ← hg]
      exact Nat.log2_self_le hne
    have hbelow : 2 ^ 52 ≤ numerator / 2 ^ g := (Nat.le_div_iff_mul_le (Nat.two_pow_pos g)).mpr hpower
    have habove := div_spacing_lt numerator
    rw [roundUnits_one, hspacing] at *
    rcases Nat.lt_or_ge units (2 ^ 52 * 2 ^ g) with hlt | hge
    · have hnearer := distance_le_of_dvd numerator (Nat.two_pow_pos g)
        (Nat.dvd_mul_left (2 ^ g) (2 ^ 52))
      unfold distance at hnearer ⊢
      omega
    · obtain ⟨hle, htie⟩ := distance_le_of_dvd numerator (Nat.two_pow_pos g)
        (two_pow_dvd_of_le haligned hge)
      refine ⟨hle, fun hsame => (htie hsame).imp_right fun heven => ?_⟩
      apply isEven_mul_two_pow g heven
      · exact hbelow.trans div_le_nearestMultiple
      · exact (nearestMultiple_le _ _).trans habove
  · have hspacing : spacing numerator = 1 := by
      rw [spacing_eq_two_pow, Nat.sub_eq_zero_of_le hsmall, Nat.pow_zero]
    rw [roundUnits_one_of_aligned (hspacing ▸ Nat.one_dvd _)]
    unfold distance
    omega

end

end Reckoner.Binary64

import Mathlib.Algebra.Order.Round
import Mathlib.Tactic.Linarith
import Reckoner.Binary64.Integral
import Reckoner.Proofs.Binary64.Value

namespace Reckoner.Binary64

-- A whole number that is a magnitude needs no rounding.
structure IsExact (n : Int) : Prop where
  aligned : spacing (n.natAbs * unit) ∣ n.natAbs * unit
  bounded : n.natAbs * unit < limit

section

variable {n : Int} {x y : Binary64}

theorem two_pow_mul_unit_lt : 2 ^ 53 * unit < limit := by decide +kernel

theorem isExact_of_le (hle : n.natAbs ≤ 2 ^ 53) : IsExact n where
  aligned := spacing_dvd_mul n.natAbs 1074 (by rwa [Nat.one_shiftLeft])
  bounded := Nat.lt_of_le_of_lt (Nat.mul_le_mul_right unit hle) two_pow_mul_unit_lt

theorem count_ofInt (hexact : IsExact n) : (ofInt n).isFinite ∧ (ofInt n).count = n * unit := by
  have hsize : (n * unit : Int).natAbs = n.natAbs * unit := by rw [Int.natAbs_mul, Int.natAbs_natCast]
  have hrounded : rounded (n * unit) = n * unit := rounded_of_aligned (hsize ▸ hexact.aligned)
  have hsame : roundUnits (n * unit : Int).natAbs 1 = n.natAbs * unit := by
    rw [← natAbs_rounded, hrounded, hsize]
  rw [ofInt, ← hsize]
  suffices hround : _ ∧ _ = rounded (n * unit) by rwa [hrounded] at hround
  apply count_round
  · exact fun hn => if_pos (neg_of_mul_neg_left hn unit_pos_int.le)
  · exact fun hn => if_neg (pos_of_mul_pos_left hn unit_pos_int.le).not_gt
  · rw [hsame]
    exact hexact.bounded

theorem value_ofInt (hexact : IsExact n) : (ofInt n).value = n := by
  rw [value, (count_ofInt hexact).2, Int.cast_mul, Int.cast_natCast]
  exact mul_div_cancel_right₀ _ unit_pos_rat.ne'

theorem floor_value (x : Binary64) : ⌊x.value⌋ = x.count / unit :=
  Rat.floor_intCast_div_natCast x.count unit

theorem count_half : half.isFinite ∧ 2 * half.count = unit := by decide +kernel

theorem le_iff (hx : x.isFinite) (hy : y.isFinite) : le x y ↔ x.count ≤ y.count := by
  cases x with
  | nan => cases hx
  | infinity => cases hx
  | finite =>
    cases y with
    | nan => cases hy
    | infinity => cases hy
    | finite => exact decide_eq_true_iff

-- A magnitude of 2^52 and more is a whole number.
theorem floor_bounds_or_dvd (x : Binary64) :
    (-2 ^ 52 ≤ x.count / unit ∧ x.count / unit < 2 ^ 52) ∨ (unit : ℤ) ∣ x.count := by
  rcases Nat.lt_or_ge x.count.natAbs (2 ^ 52 * unit) with hsmall | hlarge
  · left
    rw [Int.le_ediv_iff_mul_le unit_pos_int, Int.ediv_lt_iff_lt_mul unit_pos_int]
    omega
  · right
    obtain ⟨g, hunit⟩ : ∃ g, unit = 1 <<< g := ⟨1074, rfl⟩
    rw [hunit, Nat.one_shiftLeft] at hlarge ⊢
    exact Int.natCast_dvd.mpr (two_pow_dvd_of_le (aligned_count x) hlarge)

theorem isExact_of_dvd (hx : x.isFinite) (hdvd : (unit : ℤ) ∣ x.count) : IsExact (x.count / unit) := by
  have hsize : (x.count / unit).natAbs * unit = x.count.natAbs := by
    rw [← Int.natAbs_natCast unit, ← Int.natAbs_mul, Int.natAbs_natCast, Int.ediv_mul_cancel hdvd]
  cases x with
  | nan => cases hx
  | infinity => cases hx
  | finite sign size =>
    rw [count_of_finite] at hsize
    exact ⟨hsize ▸ size.aligned, hsize ▸ size.bounded⟩

theorem isExact_floor (hx : x.isFinite) : IsExact (x.count / unit) := by
  rcases floor_bounds_or_dvd x with ⟨hlow, hhigh⟩ | hdvd
  · exact isExact_of_le (by omega)
  · exact isExact_of_dvd hx hdvd

theorem isExact_floor_add_one (hrest : x.count % unit ≠ 0) : IsExact (x.count / unit + 1) := by
  rcases floor_bounds_or_dvd x with ⟨hlow, hhigh⟩ | hdvd
  · exact isExact_of_le (by omega)
  · exact absurd (Int.emod_eq_zero_of_dvd hdvd) hrest

theorem unit_aligned : spacing unit ∣ unit := by decide +kernel

-- A number above zero is no less than its fraction. One below zero lies a fraction
-- above a whole number, so that only a fraction of one half at most is no larger.
theorem fraction_le (hlow : 2 * (x.count % unit) < unit) :
    (x.count % unit).natAbs ≤ x.count.natAbs := by
  have hpositive := unit_pos_int
  have hnonneg := Int.emod_nonneg x.count hpositive.ne'
  have hdivision := Int.mul_ediv_add_emod x.count unit
  rcases lt_or_ge x.count 0 with hcount | hcount
  · have hfloor : x.count / unit ≤ -1 := Int.le_sub_one_of_lt (Int.ediv_neg_of_neg_of_pos hcount hpositive)
    have hwhole := mul_le_mul_of_nonneg_left hfloor hpositive.le
    omega
  · have hwhole := mul_nonneg hpositive.le (Int.ediv_nonneg hcount hpositive.le)
    omega

theorem fraction_aligned (hlow : 2 * (x.count % unit) < unit) :
    spacing (x.count % unit).natAbs ∣ (x.count % unit).natAbs := by
  have hnonneg := Int.emod_nonneg x.count unit_pos_int.ne'
  have hcount : (spacing (x.count % unit).natAbs : ℤ) ∣ x.count :=
    Int.natCast_dvd.mpr (Nat.dvd_trans (spacing_dvd_of_le (fraction_le hlow)) (aligned_count x))
  have hunit : (spacing (x.count % unit).natAbs : ℤ) ∣ unit :=
    Int.natCast_dvd_natCast.mpr (Nat.dvd_trans (spacing_dvd_of_le (by omega)) unit_aligned)
  have hfraction := dvd_sub hcount (hunit.mul_right (x.count / unit))
  rwa [← Int.emod_def, Int.natCast_dvd] at hfraction

-- Rounding never crosses a number that is a magnitude itself. Below one half
-- there is nothing to round.
theorem half_le_rounded_iff (x : Binary64) :
    half.count ≤ rounded (x.count % unit) ↔ (unit : ℤ) ≤ 2 * (x.count % unit) := by
  obtain ⟨-, hhalf⟩ := count_half
  rcases lt_or_ge (2 * (x.count % unit)) unit with hlow | hhigh
  · rw [rounded_of_aligned (fraction_aligned hlow)]
    omega
  · have hnear := (rounded_nearest (x.count % unit) (aligned_count half)).1
    unfold distance at hnear
    omega

theorem roundUnits_fraction_lt (x : Binary64) : roundUnits (x.count % unit).natAbs 1 < limit := by
  have hnonneg := Int.emod_nonneg x.count unit_pos_int.ne'
  have hlt := Int.emod_lt_of_pos x.count unit_pos_int
  have hnear := (roundUnits_nearest (x.count % unit).natAbs unit_aligned).1
  have hlimit := two_pow_mul_unit_lt
  unfold distance at hnear
  omega

theorem count_sub_floor (hx : x.isFinite) :
    x.count - (ofInt ⌊x.value⌋).count = x.count % unit := by
  rw [floor_value, (count_ofInt (isExact_floor hx)).2, Int.emod_def, mul_comm]

theorem sub_floor (hx : x.isFinite) :
    (sub x (ofInt ⌊x.value⌋)).isFinite ∧
      (sub x (ofInt ⌊x.value⌋)).count = rounded (x.count % unit) ∧
      NearestEven (x.value - ⌊x.value⌋) (sub x (ofInt ⌊x.value⌋)) := by
  have hexact : IsExact ⌊x.value⌋ := floor_value x ▸ isExact_floor hx
  have hfinite := (count_ofInt hexact).1
  have hbound := roundUnits_fraction_lt x
  rw [← count_sub_floor hx] at hbound ⊢
  obtain ⟨hsub, hcount⟩ := count_sub hx hfinite hbound
  have hnearest := nearestEven_sub hx hfinite hbound
  rw [value_ofInt hexact] at hnearest
  exact ⟨hsub, hcount, hnearest⟩

theorem sub_floor_value (x : Binary64) :
    x.value - ⌊x.value⌋ = ((x.count % unit : ℤ) : ℚ) / unit := by
  rw [floor_value, Int.emod_def, value, Int.cast_sub, Int.cast_mul, Int.cast_natCast, sub_div,
    mul_div_cancel_left₀ _ unit_pos_rat.ne']

theorem half_le_sub_floor_iff (x : Binary64) :
    1 / 2 ≤ x.value - ⌊x.value⌋ ↔ (unit : ℤ) ≤ 2 * (x.count % unit) := by
  rw [sub_floor_value, div_le_div_iff₀ two_pos unit_pos_rat, one_mul, mul_comm _ (2 : ℚ)]
  exact_mod_cast Iff.rfl

theorem le_iff_value (hx : x.isFinite) (hy : y.isFinite) : le x y ↔ x.value ≤ y.value := by
  rw [le_iff hx hy, value, value, div_le_div_iff_of_pos_right unit_pos_rat, Int.cast_le]

theorem value_half : half.value = 1 / 2 := by
  rw [value, div_eq_div_iff unit_pos_rat.ne' two_ne_zero, one_mul, mul_comm]
  exact_mod_cast count_half.2

theorem half_le_value_sub_iff (hx : x.isFinite) :
    1 / 2 ≤ (sub x (ofInt ⌊x.value⌋)).value ↔ 1 / 2 ≤ x.value - ⌊x.value⌋ := by
  obtain ⟨hfinite, hcount, -⟩ := sub_floor hx
  rw [half_le_sub_floor_iff, ← half_le_rounded_iff, ← hcount, ← le_iff count_half.1 hfinite,
    le_iff_value count_half.1 hfinite, value_half]

theorem floor_add_half (exact : ℚ) :
    ⌊exact + 1 / 2⌋ = if 1 / 2 ≤ exact - ⌊exact⌋ then ⌊exact⌋ + 1 else ⌊exact⌋ := by
  have hlow := Int.floor_le exact
  have hhigh := Int.lt_floor_add_one exact
  split
  · rw [Int.floor_eq_iff]
    push_cast
    constructor <;> linarith
  · rw [Int.floor_eq_iff]
    constructor <;> linarith

theorem roundHalfUp_eq_ofInt (hx : x.isFinite) : x.roundHalfUp = ofInt ⌊x.value + 1 / 2⌋ := by
  have hfloor : floor? x = some ⌊x.value⌋ := by
    rw [floor_value]
    cases x with
    | nan => cases hx
    | infinity => cases hx
    | finite => rfl
  have hcompare : le half (sub x (ofInt ⌊x.value⌋)) ↔ 1 / 2 ≤ x.value - ⌊x.value⌋ := by
    rw [le_iff_value count_half.1 (sub_floor hx).1, value_half, half_le_value_sub_iff hx]
  simp only [roundHalfUp, hfloor, floor_add_half, hcompare]

theorem isExact_floor_add_half (hx : x.isFinite) : IsExact ⌊x.value + 1 / 2⌋ := by
  have hpositive := unit_pos_int
  rw [floor_add_half]
  split
  · rename_i hhigh
    rw [half_le_sub_floor_iff] at hhigh
    rw [floor_value]
    exact isExact_floor_add_one (by omega)
  · rw [floor_value]
    exact isExact_floor hx

theorem roundHalfUp_ofInt (hexact : IsExact n) : (ofInt n).roundHalfUp = ofInt n := by
  have hhalf : ⌊(n : ℚ) + 1 / 2⌋ = n := by
    rw [Int.floor_intCast_add]
    norm_num
  rw [roundHalfUp_eq_ofInt (count_ofInt hexact).1, value_ofInt hexact, hhalf]

theorem exists_significand (x : Binary64) :
    ∃ m e : ℤ, |m| < 2 ^ 53 ∧ -1074 ≤ e ∧ x.value = m * 2 ^ e := by
  obtain ⟨places, hplaces, hunit⟩ : ∃ places, places = 1074 ∧ unit = 1 <<< places := ⟨1074, rfl, rfl⟩
  have hbound := div_spacing_lt x.count.natAbs
  have haligned := aligned_count x
  rw [spacing_eq_two_pow] at hbound haligned
  generalize x.count.natAbs.log2 - 52 = dropped at hbound haligned
  obtain ⟨m, hm⟩ := Int.natCast_dvd.mpr haligned
  have hsize : x.count.natAbs = 2 ^ dropped * m.natAbs := by
    rw [hm, Int.natAbs_mul, Int.natAbs_natCast]
  rw [hsize, Nat.mul_div_cancel_left _ (Nat.two_pow_pos dropped), Nat.one_shiftLeft] at hbound
  refine ⟨m, dropped - places, by rw [Int.abs_eq_natAbs]; omega, by omega, ?_⟩
  rw [value, hm, hunit, Nat.one_shiftLeft, zpow_sub₀ two_ne_zero, zpow_natCast, zpow_natCast]
  push_cast
  rw [mul_comm, mul_div_assoc]

end

-- A half is added to the exact value, and the sum is cut down to a whole number.
-- The difference that decides may be rounded itself, but not across one half.
theorem roundHalfUp_is_exact (x : Binary64) (hx : x.isFinite) :
    (∃ m e : ℤ, |m| < 2 ^ 53 ∧ -1074 ≤ e ∧ x.value = m * 2 ^ e) ∧
    NearestEven (x.value - ⌊x.value⌋) (sub x (ofInt ⌊x.value⌋)) ∧
    (1 / 2 ≤ (sub x (ofInt ⌊x.value⌋)).value ↔ 1 / 2 ≤ x.value - ⌊x.value⌋) ∧
    x.roundHalfUp = ofInt ⌊x.value + 1 / 2⌋ ∧
    x.roundHalfUp.isFinite ∧ x.roundHalfUp.value = ⌊x.value + 1 / 2⌋ ∧
    (∀ y, isFinite y → le x y → le x.roundHalfUp y.roundHalfUp) ∧
    x.roundHalfUp.roundHalfUp = x.roundHalfUp ∧
    |x.roundHalfUp.value - x.value| ≤ 1 / 2 := by
  have hexact := isExact_floor_add_half hx
  have hround := roundHalfUp_eq_ofInt hx
  have hfinite : x.roundHalfUp.isFinite := hround ▸ (count_ofInt hexact).1
  have hvalue : x.roundHalfUp.value = ⌊x.value + 1 / 2⌋ := hround ▸ value_ofInt hexact
  refine ⟨exists_significand x, (sub_floor hx).2.2, half_le_value_sub_iff hx, hround, hfinite, hvalue,
    ?monotone, ?idempotent, ?near⟩
  case monotone =>
    intro y hy hle
    have hother := isExact_floor_add_half hy
    rw [le_iff_value hx hy] at hle
    rw [le_iff_value hfinite (roundHalfUp_eq_ofInt hy ▸ (count_ofInt hother).1), hvalue,
      roundHalfUp_eq_ofInt hy, value_ofInt hother, Int.cast_le]
    exact Int.floor_mono (by linarith)
  case idempotent => rw [hround, roundHalfUp_ofInt hexact]
  case near =>
    rw [hvalue, abs_sub_comm, ← round_eq]
    exact abs_sub_round x.value

-- The greatest number below one half goes down, where the sum with one half, once
-- rounded, would be one.
theorem roundHalfUp_is_exact_below_half :
    let below := ofUnits ((2 ^ 53 - 1) <<< 1020)
    below.isFinite ∧ half.isFinite ∧ le below half ∧ add below half = one ∧
      below.roundHalfUp = zero ∧ ⌊below.value + 1 / 2⌋ = 0 ∧
      le below.roundHalfUp half.roundHalfUp := by
  intro below
  have hfinite : below.isFinite := by decide +kernel
  have hle : le below half := by decide +kernel
  have hadd : add below half = one := by decide +kernel
  have hzero : below.roundHalfUp = zero := by decide +kernel
  obtain ⟨-, -, -, -, -, hvalue, hmonotone, -, -⟩ := roundHalfUp_is_exact below hfinite
  have hfloor : ⌊below.value + 1 / 2⌋ = 0 := by
    rw [hzero, zero, value_ofInt (isExact_of_le (by decide))] at hvalue
    exact_mod_cast hvalue.symm
  exact ⟨hfinite, count_half.1, hle, hadd, hzero, hfloor, hmonotone half count_half.1 hle⟩

end Reckoner.Binary64

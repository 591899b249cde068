import Mathlib.Algebra.Order.Field.Basic
import Mathlib.Data.Rat.Floor
import Mathlib.Tactic.FieldSimp
import Reckoner.Binary64.Arith
import Reckoner.Proofs.Binary64.Nearest

namespace Reckoner.Binary64

-- What is not finite counts for nothing.
def count : Binary64 → Int
  | .finite sign size => signedUnits sign size
  | _ => 0

def value (x : Binary64) : ℚ := x.count / unit

-- The number that an exact result is rounded to. No finite number is nearer, and
-- of two that are as near it is the even one.
structure NearestEven (exact : ℚ) (x : Binary64) : Prop where
  finite : x.isFinite
  nearest : ∀ y, isFinite y → |exact - x.value| ≤ |exact - y.value|
  even : ∀ y, isFinite y → |exact - y.value| = |exact - x.value| →
    y.value = x.value ∨ IsEven x.count.natAbs

-- A count of units is rounded as its magnitude is.
def rounded (n : Int) : Int := if n < 0 then -roundUnits n.natAbs 1 else roundUnits n.natAbs 1

section

variable {m n : Int} {x y : Binary64}

theorem natAbs_rounded (n : Int) : (rounded n).natAbs = roundUnits n.natAbs 1 := by
  unfold rounded
  split <;> omega

theorem rounded_of_aligned (haligned : spacing n.natAbs ∣ n.natAbs) : rounded n = n := by
  rw [rounded, roundUnits_one_of_aligned haligned]
  split <;> omega

-- Nothing of the other sign is nearer than zero.
theorem rounded_nearest (n : Int) (haligned : spacing m.natAbs ∣ m.natAbs) :
    distance n (rounded n) ≤ distance n m ∧
      (distance n m = distance n (rounded n) → m = rounded n ∨ IsEven (rounded n).natAbs) := by
  obtain ⟨hnear, htie⟩ := roundUnits_nearest n.natAbs haligned
  obtain ⟨hzero, -⟩ := roundUnits_nearest n.natAbs (Nat.dvd_zero (spacing 0))
  rw [natAbs_rounded]
  unfold distance rounded at *
  generalize roundUnits n.natAbs 1 = size at *
  refine ⟨by split <;> omega, fun hsame => ?_⟩
  have htied : ((n.natAbs : Int) - m.natAbs).natAbs = ((n.natAbs : Int) - size).natAbs := by
    split at hsame <;> omega
  refine (htie htied).imp_left fun hsize => ?_
  split at hsame <;> split <;> omega

-- A zero may have either sign.
theorem count_round {sign : Sign} (hminus : n < 0 → sign = .minus) (hplus : 0 < n → sign = .plus)
    (hbound : roundUnits n.natAbs 1 < limit) :
    (round sign n.natAbs 1).isFinite ∧ (round sign n.natAbs 1).count = rounded n := by
  have hround : round sign n.natAbs 1 = .finite sign ⟨_, roundUnits_aligned n.natAbs 1, hbound⟩ :=
    round_of_units sign rfl
  rw [hround]
  refine ⟨rfl, ?_⟩
  rcases Int.lt_trichotomy n 0 with hn | rfl | hn
  · rw [hminus hn, rounded, if_pos hn]
    rfl
  · have hzero : roundUnits 0 1 = 0 := roundUnits_eq_zero (by decide)
    cases sign <;> simp [count, signedUnits, rounded, hzero]
  · rw [hplus hn, rounded, if_neg (Int.not_lt.mpr hn.le)]
    rfl

theorem count_ofUnits (hbound : roundUnits n.natAbs 1 < limit) :
    (ofUnits n).isFinite ∧ (ofUnits n).count = rounded n := by
  apply count_round _ _ hbound
  · exact fun hn => if_pos hn
  · exact fun hn => if_neg (Int.not_lt.mpr hn.le)

theorem count_of_finite (sign : Sign) (size : Magnitude) :
    (finite sign size).count.natAbs = size.units := by
  cases sign <;> simp [count, signedUnits]

theorem aligned_count (x : Binary64) : spacing x.count.natAbs ∣ x.count.natAbs := by
  cases x with
  | nan => exact Nat.dvd_zero _
  | infinity sign => exact Nat.dvd_zero _
  | finite sign size => exact count_of_finite sign size ▸ size.aligned

theorem isFinite_neg (x : Binary64) : (neg x).isFinite = x.isFinite := by cases x <;> rfl

theorem count_neg (x : Binary64) : (neg x).count = -x.count := by
  cases x with
  | nan => rfl
  | infinity sign => rfl
  | finite sign size => cases sign <;> simp [neg, count, signedUnits, Sign.flip]

theorem count_add_minus {a b : Magnitude} (hbound : roundUnits (a.units + b.units) 1 < limit) :
    (add (finite .minus a) (finite .minus b)).isFinite ∧
      (add (finite .minus a) (finite .minus b)).count =
        rounded ((finite .minus a).count + (finite .minus b).count) := by
  have hadd : add (finite .minus a) (finite .minus b) = round .minus (a.units + b.units) 1 := rfl
  have hsum : (finite .minus a).count + (finite .minus b).count = -↑(a.units + b.units) := by
    simp only [count, signedUnits]
    omega
  have hsize : (-↑(a.units + b.units) : Int).natAbs = a.units + b.units := by omega
  rw [hadd, hsum]
  have hround := @count_round (-↑(a.units + b.units)) .minus (fun _ => rfl) (fun hplus => by omega)
  rw [hsize] at hround
  exact hround hbound

theorem count_add (hx : x.isFinite) (hy : y.isFinite)
    (hbound : roundUnits (x.count + y.count).natAbs 1 < limit) :
    (add x y).isFinite ∧ (add x y).count = rounded (x.count + y.count) := by
  cases x with
  | nan => cases hx
  | infinity => cases hx
  | finite s a =>
    cases y with
    | nan => cases hy
    | infinity => cases hy
    | finite t b =>
      cases s with
      | plus =>
        have hadd : add (finite .plus a) (finite t b) =
            ofUnits ((finite .plus a).count + (finite t b).count) := by cases t <;> rfl
        rw [hadd]
        exact count_ofUnits hbound
      | minus =>
        cases t with
        | plus =>
          have hadd : add (finite .minus a) (finite .plus b) =
              ofUnits ((finite .minus a).count + (finite .plus b).count) := rfl
          rw [hadd]
          exact count_ofUnits hbound
        | minus =>
          apply count_add_minus
          rwa [show ((finite .minus a).count + (finite .minus b).count).natAbs = a.units + b.units by
            simp only [count, signedUnits]; omega] at hbound

theorem count_sub (hx : x.isFinite) (hy : y.isFinite)
    (hbound : roundUnits (x.count - y.count).natAbs 1 < limit) :
    (sub x y).isFinite ∧ (sub x y).count = rounded (x.count - y.count) := by
  rw [Int.sub_eq_add_neg, ← count_neg] at *
  exact count_add hx (isFinite_neg y ▸ hy) hbound

theorem unit_pos : 0 < unit := by
  unfold unit
  rw [Nat.one_shiftLeft]
  exact Nat.two_pow_pos 1074

theorem unit_pos_int : (0 : ℤ) < unit := Int.natCast_pos.mpr unit_pos

theorem unit_pos_rat : (0 : ℚ) < unit := Nat.cast_pos.mpr unit_pos

theorem abs_sub_value (n : Int) (x : Binary64) :
    |(n : ℚ) / unit - x.value| = distance n x.count / unit := by
  have hsub : (n : ℚ) / unit - x.value = ((n - x.count : Int) : ℚ) / unit := by
    rw [value, Int.cast_sub, sub_div]
  rw [hsub, abs_div, abs_of_pos unit_pos_rat, distance, Nat.cast_natAbs, Int.cast_abs]

theorem nearestEven_of_count (hfinite : x.isFinite) (hcount : x.count = rounded n) :
    NearestEven ((n : ℚ) / unit) x where
  finite := hfinite
  nearest y _ := by
    rw [abs_sub_value, abs_sub_value, div_le_div_iff_of_pos_right unit_pos_rat, Nat.cast_le, hcount]
    exact (rounded_nearest n (aligned_count y)).1
  even y _ hsame := by
    rw [abs_sub_value, abs_sub_value, div_left_inj' unit_pos_rat.ne', Nat.cast_inj, hcount] at hsame
    rw [hcount]
    refine ((rounded_nearest n (aligned_count y)).2 hsame).imp_left fun heq => ?_
    rw [value, value, heq, hcount]

theorem nearestEven_sub (hx : x.isFinite) (hy : y.isFinite)
    (hbound : roundUnits (x.count - y.count).natAbs 1 < limit) :
    NearestEven (x.value - y.value) (sub x y) := by
  obtain ⟨hfinite, hcount⟩ := count_sub hx hy hbound
  have hexact : x.value - y.value = ((x.count - y.count : Int) : ℚ) / unit := by
    rw [value, value, Int.cast_sub, sub_div]
  rw [hexact]
  exact nearestEven_of_count hfinite hcount

end

end Reckoner.Binary64

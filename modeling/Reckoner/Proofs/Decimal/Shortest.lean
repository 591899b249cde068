import Reckoner.Decimal.Shortest
import Reckoner.Proofs.Decimal.Round

namespace Reckoner.Decimal

open Binary64 (Magnitude roundUnits roundUnits_of_aligned)

-- A decimal stands for a magnitude when it has no place below the grid and is
-- rounded to that magnitude.
structure StandsFor (value : Decimal) (size : Magnitude) : Prop where
  places : -1074 ≤ value.exponent
  rounds : roundUnits value.tenths tenthsPerUnit = size.units

theorem StandsFor.round_eq {value : Decimal} {size : Magnitude} (hstands : value.StandsFor size)
    (sign : Sign) : value.round sign = .finite sign size := by
  rw [round_eq_round_tenths sign hstands.places]
  exact Binary64.round_of_units sign hstands.rounds

section

variable {size : Magnitude} {dropped digits : Nat}

theorem readsAs_iff {count : Nat} :
    readsAs size count ↔ roundUnits count tenthsPerUnit = size.units := by
  unfold readsAs
  rw [decide_eq_true_iff, tenthsPerUnit_eq, Magnitude.round?_eq_some_iff]

theorem standsFor_of_readsAs {exponent : Int} (hexponent : exponent + 1074 = dropped)
    (hreads : readsAs size (digits * 10 ^ dropped)) : StandsFor ⟨digits, exponent⟩ size where
  places := by
    change -1074 ≤ exponent
    omega
  rounds := by
    rw [tenths, hexponent, Int.toNat_natCast]
    exact readsAs_iff.mp hreads

theorem expansion_eq (size : Magnitude) : expansion size = size.units * tenthsPerUnit := by
  unfold expansion
  rw [tenthsPerUnit_eq]

-- The whole expansion is exact.
theorem standsFor_expansion (size : Magnitude) : StandsFor ⟨expansion size, -1074⟩ size := by
  apply @standsFor_of_readsAs size 0 _ _ rfl
  rw [readsAs_iff, Nat.pow_zero, Nat.mul_one, expansion_eq,
    roundUnits_of_aligned size.aligned tenthsPerUnit_pos]

theorem of_ite_eq_some {accepts : Nat → Bool} {near far : Nat}
    (hchoice : (if accepts near then some near else if accepts far then some far else none) =
      some digits) : accepts digits := by
  split at hchoice
  · rename_i hnear
    rwa [Option.some.inj hchoice] at hnear
  · split at hchoice
    · rename_i hfar
      rwa [Option.some.inj hchoice] at hfar
    · simp at hchoice

theorem readsAs_of_neighbour (hneighbour : neighbour? size dropped = some digits) :
    readsAs size (digits * 10 ^ dropped) :=
  @of_ite_eq_some _ (fun near => readsAs size (near * Nat.pow 10 dropped)) _ _ hneighbour

-- However many places are dropped, what is found is read as the magnitude.
theorem standsFor_firstFound {find : Nat → Option Nat} {whole : Nat}
    (hfind : ∀ {dropped digits}, find dropped = some digits → readsAs size (digits * 10 ^ dropped))
    (hwhole : StandsFor ⟨whole, -1074⟩ size) (dropped : Nat) :
    (firstFound find whole dropped).StandsFor size := by
  induction dropped with
  | zero => exact hwhole
  | succ dropped ih =>
      simp only [firstFound]
      split
      · rename_i digits hfound
        exact standsFor_of_readsAs (by omega) (hfind hfound)
      · exact ih

theorem tenths_trim_step {value : Decimal} (hplaces : -1074 ≤ value.exponent)
    (hzero : value.digits % 10 = 0) :
    tenths ⟨value.digits / 10, value.exponent + 1⟩ = value.tenths := by
  have hexponent : (value.exponent + 1 + 1074).toNat = (value.exponent + 1074).toNat + 1 := by omega
  simp only [tenths, hexponent, Nat.pow_succ']
  rw [← Nat.mul_assoc, Nat.div_mul_cancel (Nat.dvd_of_mod_eq_zero hzero)]

theorem standsFor_trim {value : Decimal} (hstands : value.StandsFor size) :
    value.trim.StandsFor size := by
  fun_induction trim value with
  | case1 value hzero ih =>
      apply ih
      obtain ⟨hplaces, hrounds⟩ := hstands
      refine ⟨?_, by rw [tenths_trim_step hplaces hzero.2, hrounds]⟩
      change -1074 ≤ value.exponent + 1
      omega
  | case2 => exact hstands

theorem standsFor_shortest (size : Magnitude) : (shortest size).StandsFor size :=
  standsFor_trim (standsFor_firstFound readsAs_of_neighbour (standsFor_expansion size) _)

end

end Reckoner.Decimal

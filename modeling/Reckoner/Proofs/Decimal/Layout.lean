import Reckoner.Decimal.Layout
import Reckoner.Proofs.Decimal.Read
import Reckoner.Proofs.Decimal.Shortest

namespace Reckoner.Decimal

theorem toList_zeros (count : Nat) : (zeros count).toList = List.replicate count '0' :=
  String.toList_ofList

theorem toList_padded (width n : Nat) :
    (padded width n).toList =
      List.replicate (width - (Nat.toDigits 10 n).length) '0' ++ Nat.toDigits 10 n := by
  simp [padded, toList_zeros, ← String.length_toList]

section

variable {digits : List Char}

theorem readUnsigned_fraction {whole fraction : List Char} (hwhole : AllDigits whole)
    (hne : whole ≠ []) (hfraction : AllDigits fraction) :
    readUnsigned? (whole ++ '.' :: fraction) =
      some ⟨valueOf (whole ++ fraction), -(fraction.length : Int)⟩ := by
  have hread := @readUnsigned_point whole fraction [] hwhole hne hfraction (by simp)
  simpa [readTail?] using hread

-- Written by position a number keeps its digits, unless zeros fill the places up
-- to the point.
theorem readUnsigned_positional (hdigits : AllDigits digits) (hne : digits ≠ []) (point : Int) :
    readUnsigned? (positional digits point).toList =
      some (if digits.length ≤ point
        then ⟨valueOf digits * 10 ^ (point.toNat - digits.length + 1), -1⟩
        else ⟨valueOf digits, point - digits.length⟩) := by
  have hlength : 0 < digits.length := List.length_pos_iff.mpr hne
  unfold positional
  split
  · rename_i hpoint
    have htext : ("0." ++ zeros (-point).toNat ++ String.ofList digits).toList =
        List.replicate 1 '0' ++ '.' :: (List.replicate (-point).toNat '0' ++ digits) := by
      simp [toList_zeros]
    rw [htext, readUnsigned_fraction (allDigits_replicate 1) (by simp)
      ((allDigits_replicate _).append hdigits), valueOf_zeros_append, valueOf_zeros_append,
      if_neg (by omega), List.length_append, List.length_replicate]
    congr 2
    omega
  · split
    · rename_i hpoint hlong
      have htext : (String.ofList digits ++ zeros (point.toNat - digits.length) ++ ".0").toList =
          digits ++ List.replicate (point.toNat - digits.length) '0' ++
            '.' :: List.replicate 1 '0' := by
        simp [toList_zeros]
      rw [htext, readUnsigned_fraction (hdigits.append (allDigits_replicate _)) (by simp [hne])
        (allDigits_replicate 1), List.append_assoc, List.replicate_append_replicate,
        valueOf_append_zeros]
      rfl
    · rename_i hpoint hlong
      have htext : (String.ofList (digits.take point.toNat) ++ "." ++
          String.ofList (digits.drop point.toNat)).toList =
          digits.take point.toNat ++ '.' :: digits.drop point.toNat := by
        simp
      have htake : digits.take point.toNat ≠ [] := by
        simp [hne]
        omega
      rw [htext, readUnsigned_fraction (hdigits.take _) htake (hdigits.drop _),
        List.take_append_drop, List.length_drop]
      congr 2
      omega

theorem toList_scientific (layout : Layout) (first : Char) (rest : List Char) (exponent : Int) :
    (scientific layout (first :: rest) exponent).toList =
      first :: (if rest.isEmpty then [] else '.' :: rest) ++
        'e' :: (if exponent < 0 then '-' else '+') ::
          (padded layout.exponentWidth exponent.natAbs).toList := by
  unfold scientific
  cases rest <;> split <;> simp

theorem readUnsigned_scientific (layout : Layout) (hdigits : AllDigits digits) (hne : digits ≠ [])
    (exponent : Int) :
    readUnsigned? (scientific layout digits exponent).toList =
      some ⟨valueOf digits, exponent - (digits.length - 1 : Nat)⟩ := by
  have hpadded : AllDigits (padded layout.exponentWidth exponent.natAbs).toList := by
    rw [toList_padded]
    exact (allDigits_replicate _).append (allDigits_toDigits _)
  have hexponent : readExponent? ((if exponent < 0 then '-' else '+') ::
      (padded layout.exponentWidth exponent.natAbs).toList) = some exponent := by
    apply readExponent_signed exponent hpadded
    · simp [toList_padded]
    · rw [toList_padded, valueOf_zeros_append, valueOf_toDigits]
  cases digits with
  | nil => exact absurd rfl hne
  | cons first rest =>
      have hfirst : AllDigits [first] := hdigits.take 1
      rw [toList_scientific]
      generalize (if exponent < 0 then '-' else '+') ::
        (padded layout.exponentWidth exponent.natAbs).toList = tail at hexponent
      cases rest with
      | nil =>
          have hread := @readUnsigned_exponent [first] tail hfirst (by simp)
          simpa [hexponent] using hread
      | cons second rest =>
          have hread := @readUnsigned_point [first] (second :: rest) ('e' :: tail) hfirst (by simp)
            (hdigits.drop 1) (by simp)
          simpa [readTail?, hexponent] using hread

end

theorem mul_pow_mul_pow (digits first second : Nat) :
    digits * 10 ^ first * 10 ^ second = digits * 10 ^ (first + second) := by
  rw [Nat.pow_add, Nat.mul_assoc]

theorem tenths_of_point {value : Decimal} {places : Nat} (hplaces : value.exponent = places) :
    tenths ⟨value.digits * 10 ^ (places + 1), -1⟩ = value.tenths := by
  have hexponent : (value.exponent + 1074).toNat = places + 1 + (-1 + 1074 : Int).toNat := by omega
  rw [tenths, tenths, hexponent]
  exact mul_pow_mul_pow value.digits (places + 1) _

-- However a decimal is laid out, what is read back has the same value.
theorem exists_readUnsigned_write (layout : Layout) {value : Decimal}
    (hplaces : -1074 ≤ value.exponent) :
    ∃ read, readUnsigned? (layout.write value).toList = some read ∧
      -1074 ≤ read.exponent ∧ read.tenths = value.tenths := by
  have hdigits : (toString value.digits).toList = Nat.toDigits 10 value.digits := by simp
  have hall := allDigits_toDigits value.digits
  have hne : Nat.toDigits 10 value.digits ≠ [] := Nat.toDigits_ne_nil
  have hlength : 0 < (Nat.toDigits 10 value.digits).length := Nat.length_toDigits_pos
  unfold Layout.write
  simp only [hdigits]
  split
  · rename_i hzero
    exact ⟨⟨0, -1⟩, by decide +kernel, by decide, by simp [tenths, hzero]⟩
  · split
    · rw [readUnsigned_positional hall hne, valueOf_toDigits]
      refine ⟨_, rfl, ?_⟩
      split
      · rename_i hlong
        obtain ⟨places, hexponent⟩ := Int.eq_ofNat_of_zero_le (show 0 ≤ value.exponent by omega)
        have hcount : (value.exponent + (Nat.toDigits 10 value.digits).length).toNat -
            (Nat.toDigits 10 value.digits).length + 1 = places + 1 := by omega
        rw [hcount]
        have hone : (-1074 : Int) ≤ -1 := by decide
        exact ⟨hone, tenths_of_point hexponent⟩
      · rw [Int.add_sub_cancel]
        exact ⟨hplaces, rfl⟩
    · rw [readUnsigned_scientific layout hall hne, valueOf_toDigits]
      refine ⟨_, rfl, ?_⟩
      have hexponent : value.exponent + (Nat.toDigits 10 value.digits).length - 1 -
          ((Nat.toDigits 10 value.digits).length - 1 : Nat) = value.exponent := by omega
      rw [hexponent]
      exact ⟨hplaces, rfl⟩

end Reckoner.Decimal

import Mathlib.Algebra.Group.Nat.Defs
import Reckoner.Decimal.Read

namespace Reckoner.Decimal

-- Digits one after the other, as the digits of a number are written.
def AllDigits (text : List Char) : Prop := ∀ c ∈ text, c.isDigit

theorem allDigits_toDigits (n : Nat) : AllDigits (Nat.toDigits 10 n) :=
  fun _ hc => Nat.isDigit_of_mem_toDigits (by decide) (by decide) hc

theorem allDigits_replicate (count : Nat) : AllDigits (List.replicate count '0') := by
  intro c hc
  rw [List.eq_of_mem_replicate hc]
  rfl

theorem AllDigits.append {first second : List Char} (hfirst : AllDigits first)
    (hsecond : AllDigits second) : AllDigits (first ++ second) :=
  List.forall_mem_append.mpr ⟨hfirst, hsecond⟩

theorem AllDigits.take {text : List Char} (htext : AllDigits text) (count : Nat) :
    AllDigits (text.take count) :=
  fun c hc => htext c (List.mem_of_mem_take hc)

theorem AllDigits.drop {text : List Char} (htext : AllDigits text) (count : Nat) :
    AllDigits (text.drop count) :=
  fun c hc => htext c (List.mem_of_mem_drop hc)

theorem AllDigits.all {text : List Char} (htext : AllDigits text) : text.all Char.isDigit :=
  List.all_eq_true.mpr htext

section

variable {digits : List Char}

theorem valueOf_eq_ofDigitChars (digits : List Char) :
    valueOf digits = Nat.ofDigitChars 10 digits 0 := by
  simp only [valueOf, Nat.ofDigitChars, Nat.mul_comm]

theorem valueOf_toDigits (n : Nat) : valueOf (Nat.toDigits 10 n) = n := by
  rw [valueOf_eq_ofDigitChars, Nat.ofDigitChars_ten_toDigits]

theorem valueOf_zeros_append (count : Nat) (digits : List Char) :
    valueOf (List.replicate count '0' ++ digits) = valueOf digits := by
  simp only [valueOf_eq_ofDigitChars, Nat.ofDigitChars_append, Nat.ofDigitChars_replicate_zero,
    Nat.mul_zero]

theorem valueOf_append_zeros (digits : List Char) (count : Nat) :
    valueOf (digits ++ List.replicate count '0') = valueOf digits * 10 ^ count := by
  simp only [valueOf_eq_ofDigitChars, Nat.ofDigitChars_append, Nat.ofDigitChars_replicate_zero]
  rw [Nat.mul_comm]

end

section

variable {whole fraction rest : List Char}

-- A point between digits parts the whole from the fraction.
theorem readUnsigned_point (hwhole : AllDigits whole) (hne : whole ≠ [])
    (hfraction : AllDigits fraction) (hrest : ∀ c ∈ rest.head?, ¬c.isDigit) :
    readUnsigned? (whole ++ '.' :: (fraction ++ rest)) =
      (readTail? rest).map fun exponent => ⟨valueOf (whole ++ fraction), exponent - fraction.length⟩ := by
  have hpoint : ('.' : Char).isDigit = false := rfl
  have htake : rest.takeWhile Char.isDigit = [] := by
    cases rest with
    | nil => rfl
    | cons c rest =>
        have hc : ¬c.isDigit := hrest c rfl
        simp [hc]
  have hdrop : rest.dropWhile Char.isDigit = rest := by
    cases rest with
    | nil => rfl
    | cons c rest =>
        have hc : ¬c.isDigit := hrest c rfl
        simp [hc]
  have hempty : whole.isEmpty = false := by simpa using hne
  simp [readUnsigned?, readFraction, List.takeWhile_append_of_pos hwhole,
    List.dropWhile_append_of_pos hwhole, List.takeWhile_append_of_pos hfraction,
    List.dropWhile_append_of_pos hfraction, hpoint, htake, hdrop, hempty]

-- What follows the mark of an exponent is its sign and its digits.
theorem readExponent_signed (exponent : Int) {digits : List Char} (hdigits : AllDigits digits)
    (hne : digits ≠ []) (hvalue : valueOf digits = exponent.natAbs) :
    readExponent? ((if exponent < 0 then '-' else '+') :: digits) = some exponent := by
  have hempty : digits.isEmpty = false := by simpa using hne
  split
  · have hnegative : -(exponent.natAbs : Int) = exponent := by omega
    simp only [readExponent?, readSign, hempty, hdigits.all, hvalue, hnegative]
    rfl
  · have hpositive : (exponent.natAbs : Int) = exponent := by omega
    simp only [readExponent?, readSign, hempty, hdigits.all, hvalue, hpositive]
    rfl

theorem readUnsigned_exponent (hwhole : AllDigits whole) (hne : whole ≠ []) :
    readUnsigned? (whole ++ 'e' :: rest) =
      (readExponent? rest).map fun exponent => ⟨valueOf whole, exponent⟩ := by
  have hmark : ('e' : Char).isDigit = false := rfl
  have hempty : whole.isEmpty = false := by simpa using hne
  simp [readUnsigned?, readFraction, readTail?, List.takeWhile_append_of_pos hwhole,
    List.dropWhile_append_of_pos hwhole, hmark, hempty]

end

end Reckoner.Decimal

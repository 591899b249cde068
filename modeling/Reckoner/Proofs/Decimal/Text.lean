import Reckoner.Proofs.Decimal.Layout

namespace Reckoner.Decimal

-- The characters that numbers are written with.
def IsWritten (c : Char) : Prop := c.isAlphanum ∨ c = '.' ∨ c = '+' ∨ c = '-'

instance (c : Char) : Decidable (IsWritten c) := inferInstanceAs (Decidable (_ ∨ _ ∨ _ ∨ _))

def AllWritten (text : List Char) : Prop := ∀ c ∈ text, IsWritten c

instance (text : List Char) : Decidable (AllWritten text) :=
  List.decidableBAll _ text

theorem AllWritten.append {first second : List Char} (hfirst : AllWritten first)
    (hsecond : AllWritten second) : AllWritten (first ++ second) :=
  List.forall_mem_append.mpr ⟨hfirst, hsecond⟩

theorem AllDigits.written {text : List Char} (htext : AllDigits text) : AllWritten text :=
  fun c hc => .inl (by simp [Char.isAlphanum, htext c hc])

theorem allWritten_zeros (count : Nat) : AllWritten (zeros count).toList := by
  rw [toList_zeros]
  exact (allDigits_replicate count).written

theorem allWritten_padded (width n : Nat) : AllWritten (padded width n).toList := by
  rw [toList_padded]
  exact ((allDigits_replicate _).append (allDigits_toDigits n)).written

section

variable {digits : List Char}

theorem allWritten_positional (hdigits : AllDigits digits) (point : Int) :
    AllWritten (positional digits point).toList := by
  unfold positional
  split
  · simp only [String.toList_append, String.toList_ofList]
    exact (AllWritten.append (by decide) (allWritten_zeros _)).append hdigits.written
  · split
    · simp only [String.toList_append, String.toList_ofList]
      exact (hdigits.written.append (allWritten_zeros _)).append (by decide)
    · simp only [String.toList_append, String.toList_ofList]
      exact ((hdigits.take _).written.append (by decide)).append (hdigits.drop _).written

theorem allWritten_scientific (layout : Layout) (hdigits : AllDigits digits) (exponent : Int) :
    AllWritten (scientific layout digits exponent).toList := by
  have hpoint : AllWritten
      (if (digits.drop 1).isEmpty then "" else "." ++ String.ofList (digits.drop 1)).toList := by
    split
    · decide
    · simp only [String.toList_append, String.toList_ofList]
      exact AllWritten.append (by decide) (hdigits.drop 1).written
  have hsign : AllWritten (if exponent < 0 then "-" else "+").toList := by
    split <;> decide
  simp only [scientific, String.toList_append, String.toList_ofList]
  exact ((((hdigits.take 1).written.append hpoint).append (by decide)).append hsign).append
    (allWritten_padded _ _)

end

theorem allWritten_write (layout : Layout) (value : Decimal) :
    AllWritten (layout.write value).toList := by
  have hdigits : AllDigits (toString value.digits).toList := by
    simpa using allDigits_toDigits value.digits
  unfold Layout.write
  dsimp only
  split
  · decide
  · split
    · exact allWritten_positional hdigits _
    · exact allWritten_scientific layout hdigits _

theorem toNat_of_isAlphanum {c : Char} (hc : c.isAlphanum) :
    0x30 ≤ c.toNat ∧ c.toNat ≤ 0x7A ∧ c.toNat ≠ 0x5F := by
  have hranges : (decide (c.val ≥ 'A'.val ∧ c.val ≤ 'Z'.val) ||
      (decide (c.val ≥ 'a'.val) && decide (c.val ≤ 'z'.val)) || c.isDigit) = true := hc
  simp [Char.isDigit, UInt32.le_iff_toNat_le] at hranges
  omega

theorem toNat_of_isWritten {c : Char} (hc : IsWritten c) :
    0x2B ≤ c.toNat ∧ c.toNat < 127 ∧ c ≠ '_' := by
  rcases hc with hc | rfl | rfl | rfl
  · obtain ⟨hlow, hhigh, hmark⟩ := toNat_of_isAlphanum hc
    refine ⟨by omega, by omega, ?_⟩
    rintro rfl
    exact hmark rfl
  · decide
  · decide
  · decide

theorem plain_of_isWritten {c : Char} (hc : IsWritten c) : plain c = c := by
  simp [plain, (toNat_of_isWritten hc).2.1]

theorem isSpace_of_isWritten {c : Char} (hc : IsWritten c) : isSpace c = false := by
  have hbounds := toNat_of_isWritten hc
  have hspace : c ≠ ' ' := by
    rintro rfl
    exact absurd hbounds.1 (by decide)
  simp [isSpace, hspace]
  omega

theorem dropWhile_eq_self {p : Char → Bool} {text : List Char} (htext : ∀ c ∈ text, p c = false) :
    text.dropWhile p = text := by
  cases text with
  | nil => rfl
  | cons c rest => simp [htext c (by simp)]

theorem trimSpaces_of_allWritten {text : List Char} (htext : AllWritten text) :
    trimSpaces text = text := by
  have hspace : ∀ c ∈ text, isSpace c = false := fun c hc => isSpace_of_isWritten (htext c hc)
  rw [trimSpaces, dropWhile_eq_self hspace, dropWhile_eq_self (by simpa using hspace),
    List.reverse_reverse]

theorem joinGroups_of_allWritten {text : List Char} (htext : AllWritten text) {previous : Char}
    (hprevious : previous ≠ '_') : joinGroups previous text = some text := by
  induction text generalizing previous with
  | nil => simp [joinGroups, hprevious]
  | cons c rest ih =>
      have hc : c ≠ '_' := (toNat_of_isWritten (htext c (by simp))).2.2
      have hrest := ih (fun d hd => htext d (by simp [hd])) hc
      simp [joinGroups, hc, hprevious, hrest]

-- What is written needs no cleaning before it is read.
theorem readChars_of_allWritten {text : List Char} (htext : AllWritten text) :
    readChars? text = readSigned? (readSign text).1 (readSign text).2 := by
  have hplain : text.map plain = text :=
    (List.map_congr_left fun c hc => plain_of_isWritten (htext c hc)).trans (List.map_id text)
  simp only [readChars?, hplain, trimSpaces_of_allWritten htext,
    joinGroups_of_allWritten htext (show ' ' ≠ '_' by decide), Option.bind_some]

-- A number without a sign begins with a digit or with a point.
theorem exists_head_of_readUnsigned {text : List Char} {read : Decimal}
    (hread : readUnsigned? text = some read) :
    ∃ c rest, text = c :: rest ∧ (c.isDigit ∨ c = '.') := by
  cases text with
  | nil => simp [readUnsigned?, readFraction] at hread
  | cons c rest =>
      refine ⟨c, rest, rfl, ?_⟩
      by_cases hdigit : c.isDigit
      · exact .inl hdigit
      · by_cases hpoint : c = '.'
        · exact .inr hpoint
        · simp [readUnsigned?, hdigit, readFraction, hpoint] at hread

theorem toNat_of_head {c : Char} (hc : c.isDigit ∨ c = '.') :
    0x2E ≤ c.toNat ∧ c.toNat ≤ 0x39 := by
  rcases hc with hc | rfl
  · obtain ⟨hlow, hhigh⟩ := Char.isDigit_iff_toNat.mp hc
    exact ⟨Nat.le_trans (by decide) hlow, hhigh⟩
  · decide

theorem toLower_of_toNat_lt {c : Char} (hc : c.toNat < 0x41) : c.toLower = c := by
  have hupper : ¬(c.val ≥ 'A'.val ∧ c.val ≤ 'Z'.val) := by
    simp [UInt32.le_iff_toNat_le]
    omega
  exact dif_neg hupper

-- A digit or a point at the front tells a number from a word.
theorem readSigned_of_readUnsigned {text : List Char} {read : Decimal} (sign : Sign)
    (hread : readUnsigned? text = some read) : readSigned? sign text = some (read.round sign) := by
  obtain ⟨c, rest, rfl, hc⟩ := exists_head_of_readUnsigned hread
  have hbounds := toNat_of_head hc
  have hword {first : Char} {letters : List Char} (hfirst : 0x39 < first.toNat) :
      String.ofList ((c :: rest).map Char.toLower) ≠ String.ofList (first :: letters) := by
    intro heq
    have hhead := congrArg List.head? (String.ofList_injective heq)
    rw [List.map_cons, List.head?_cons, List.head?_cons, toLower_of_toNat_lt (by omega)] at hhead
    obtain rfl := Option.some.inj hhead
    omega
  have hinf : String.ofList ((c :: rest).map Char.toLower) ≠ "inf" := hword (by decide)
  have hinfinity : String.ofList ((c :: rest).map Char.toLower) ≠ "infinity" := hword (by decide)
  have hnan : String.ofList ((c :: rest).map Char.toLower) ≠ "nan" := hword (by decide)
  simp only [readSigned?, hinf, hinfinity, hnan, decide_false, Bool.or_self, Bool.false_eq_true,
    if_false, hread, Option.map_some]

theorem readSign_of_readUnsigned {text : List Char} {read : Decimal}
    (hread : readUnsigned? text = some read) : readSign text = (.plus, text) := by
  obtain ⟨c, rest, rfl, hc⟩ := exists_head_of_readUnsigned hread
  have hbounds := toNat_of_head hc
  have hminus : c ≠ '-' := by
    rintro rfl
    exact absurd hbounds.1 (by decide)
  have hplus : c ≠ '+' := by
    rintro rfl
    exact absurd hbounds.1 (by decide)
  simp [readSign, hminus, hplus]

end Reckoner.Decimal

namespace Reckoner.Binary64

open Decimal (AllWritten)

theorem allWritten_text (x : Binary64) : AllWritten x.text.toList := by
  cases x with
  | nan => decide
  | infinity sign => cases sign <;> decide
  | finite sign size =>
      have hsign : AllWritten (signText sign).toList := by cases sign <;> decide
      rw [text, String.toList_append]
      exact hsign.append (Decimal.allWritten_write _ _)

theorem read_finite (sign : Sign) (size : Magnitude) :
    Decimal.read? (text (.finite sign size)) = some (.finite sign size) := by
  have hshortest := Decimal.standsFor_shortest size
  obtain ⟨read, hread, hplaces, htenths⟩ :=
    Decimal.exists_readUnsigned_write Decimal.Layout.result hshortest.places
  have hround : read.round sign = .finite sign size :=
    Decimal.StandsFor.round_eq ⟨hplaces, by rw [htenths, hshortest.rounds]⟩ sign
  rw [Decimal.read?, Decimal.readChars_of_allWritten (allWritten_text _)]
  cases sign with
  | plus =>
      have htext : (text (.finite .plus size)).toList =
          (Decimal.Layout.result.write (Decimal.shortest size)).toList := by
        simp [text, signText, Magnitude.text]
      rw [htext, Decimal.readSign_of_readUnsigned hread,
        Decimal.readSigned_of_readUnsigned .plus hread, hround]
  | minus =>
      have htext : (text (.finite .minus size)).toList =
          '-' :: (Decimal.Layout.result.write (Decimal.shortest size)).toList := by
        simp [text, signText, Magnitude.text]
      rw [htext]
      simp only [Decimal.readSign]
      rw [Decimal.readSigned_of_readUnsigned .minus hread, hround]

-- What is written for a number is read as that number.
theorem read_text (x : Binary64) : Decimal.read? x.text = some x := by
  cases x with
  | nan => decide +kernel
  | infinity sign => cases sign <;> decide +kernel
  | finite sign size => exact read_finite sign size

theorem text_injective : Function.Injective text := by
  intro x y hxy
  have hread := read_text x
  rw [hxy, read_text y] at hread
  exact (Option.some.inj hread).symm

end Reckoner.Binary64

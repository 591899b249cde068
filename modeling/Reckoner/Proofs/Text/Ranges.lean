import Reckoner.Text.Blank
import Reckoner.Text.Digit
import Reckoner.Text.Letter

namespace Reckoner.Text

-- No code is in a range of each. A range of the second table that ends before
-- the one at hand of the first is done with, as codes only grow.
def Ranges.apart : Ranges → Ranges → Bool
  | [], _ => true
  | (first, last) :: rest, others =>
      let later := others.dropWhile (·.2 < first)
      later.head?.all (last < ·.1) && apart rest later

namespace Ranges

variable {ranges others : Ranges} {first last code : Nat}

-- The search gives up at a range that begins after the code.
theorem covers_cons_iff :
    Ranges.covers ((first, last) :: ranges) code ↔
      first ≤ code ∧ (code ≤ last ∨ ranges.covers code) := by
  rw [covers]
  by_cases hcode : code < first
  · have hfirst : ¬first ≤ code := Nat.not_le_of_lt hcode
    simp [hcode, hfirst]
  · simp [hcode, Nat.le_of_not_lt hcode]

theorem covers_dropWhile (hfirst : first ≤ code) (hcovers : ranges.covers code) :
    Ranges.covers (ranges.dropWhile (·.2 < first)) code := by
  induction ranges with
  | nil => exact hcovers
  | cons range ranges ih =>
      obtain ⟨low, high⟩ := range
      rw [List.dropWhile_cons]
      by_cases hhigh : high < first
      · obtain ⟨-, hle | hrest⟩ := covers_cons_iff.mp hcovers
        · omega
        · simpa [hhigh] using ih hrest
      · simpa [hhigh] using hcovers

theorem covers_eq_false_of_apart (hapart : Ranges.apart ranges others)
    (hcovers : ranges.covers code) : others.covers code = false := by
  induction ranges generalizing others with
  | nil => simp [covers] at hcovers
  | cons range ranges ih =>
      obtain ⟨first, last⟩ := range
      simp only [apart, Bool.and_eq_true] at hapart
      obtain ⟨hhead, hrest⟩ := hapart
      obtain ⟨hfirst, hcode⟩ := covers_cons_iff.mp hcovers
      rw [Bool.eq_false_iff]
      intro hothers
      have hlater := covers_dropWhile hfirst hothers
      rcases hcode with hlast | hcode
      · cases hdrop : others.dropWhile (·.2 < first) with
        | nil => simp [hdrop, covers] at hlater
        | cons other later =>
            rw [hdrop] at hhead hlater
            have hbegin := (covers_cons_iff.mp hlater).1
            have hend : last < other.1 := by simpa using hhead
            omega
      · rw [ih hrest hcode] at hlater
        cases hlater

end Ranges

-- The blanks as a table.
def blankRanges : Ranges :=
  [(0x09, 0x0D), (0x1C, 0x20), (0x85, 0x85), (0xA0, 0xA0), (0x1680, 0x1680), (0x2000, 0x200A),
   (0x2028, 0x2029), (0x202F, 0x202F), (0x205F, 0x205F), (0x3000, 0x3000)]

theorem covers_blankRanges {c : Char} (hc : isBlank c) : blankRanges.covers c.toNat := by
  simp [isBlank] at hc
  simp [blankRanges, Ranges.covers]
  omega

theorem isLetter_of_isDigit {c : Char} (hc : isDigit c) : isLetter c = false := by
  have hdecimal : decimalRanges.apart letterRanges := by decide +kernel
  have hother : otherDigitRanges.apart letterRanges := by decide +kernel
  rw [isDigit, Bool.or_eq_true] at hc
  rcases hc with hc | hc
  · exact Ranges.covers_eq_false_of_apart hdecimal hc
  · exact Ranges.covers_eq_false_of_apart hother hc

theorem isLetter_of_isBlank {c : Char} (hc : isBlank c) : isLetter c = false := by
  have happart : blankRanges.apart letterRanges := by decide +kernel
  exact Ranges.covers_eq_false_of_apart happart (covers_blankRanges hc)

theorem isDigit_of_isBlank {c : Char} (hc : isBlank c) : isDigit c = false := by
  have hdecimal : blankRanges.apart decimalRanges := by decide +kernel
  have hother : blankRanges.apart otherDigitRanges := by decide +kernel
  have hblank := covers_blankRanges hc
  rw [isDigit, Bool.or_eq_false_iff]
  exact ⟨Ranges.covers_eq_false_of_apart hdecimal hblank,
    Ranges.covers_eq_false_of_apart hother hblank⟩

end Reckoner.Text

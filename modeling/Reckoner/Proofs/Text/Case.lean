import Reckoner.Proofs.Text.Blank
import Reckoner.Proofs.Text.Ranges
import Reckoner.Text.Case

namespace Reckoner.Text

open Case (Run Expansions shiftBy lowerRuns lowerExpansions lowerChar lowerIn lowerFrom)

theorem Ranges.exists_mem_of_covers {ranges : Ranges} {code : Nat} (h : ranges.covers code) :
    ∃ range ∈ ranges, range.1 ≤ code ∧ code ≤ range.2 := by
  induction ranges with
  | nil => simp [covers] at h
  | cons range ranges ih =>
      obtain ⟨first, last⟩ := range
      obtain ⟨hfirst, hlast | hrest⟩ := covers_cons_iff.mp h
      · exact ⟨_, List.mem_cons_self, hfirst, hlast⟩
      · obtain ⟨range, hrange, hcode⟩ := ih hrest
        exact ⟨range, List.mem_cons_of_mem _ hrange, hcode⟩

-- A code that is no character's stands for the null character, which is no blank.
theorem isBlank_ofNat {code : Nat} (h : blankRanges.covers code = false) :
    isBlank (Char.ofNat code) = false := by
  by_cases hvalid : code.isValidChar
  · have hcode : (Char.ofNat code).toNat = code := by
      rw [Char.ofNat, dif_pos hvalid]
      rfl
    rw [Bool.eq_false_iff]
    intro hblank
    have hcovers := covers_blankRanges hblank
    rw [hcode, h] at hcovers
    cases hcovers
  · rw [Char.ofNat, dif_neg hvalid]
    decide

-- Neither the codes of the run nor their images are in any of the ranges.
def Case.Run.avoids (ranges : Ranges) (run : Run) : Bool :=
  0 ≤ run.first + run.shift && ranges.all fun (first, last) =>
    (run.last < first || last < run.first) &&
      (run.last + run.shift < first || last < run.first + run.shift)

def Case.Expansions.avoid (ranges : Ranges) (expansions : Expansions) : Bool :=
  expansions.all fun (source, image) =>
    !ranges.covers source && image != [] && image.all (!ranges.covers ·)

section

variable {ranges : Ranges} {runs : List Run} {expansions : Expansions} {code : Nat} {c d : Char}

theorem Case.shiftBy_cases (runs : List Run) (code : Nat) :
    shiftBy runs code = code ∨ ∃ run ∈ runs, run.first ≤ code ∧ code ≤ run.last ∧
      shiftBy runs code = (code + run.shift).toNat := by
  fun_induction shiftBy runs code with
  | case1 | case2 => exact .inl rfl
  | case3 run rest code _ hholds =>
      simp only [Run.holds, Bool.and_eq_true, decide_eq_true_eq] at hholds
      exact .inr ⟨run, List.mem_cons_self, hholds.1.1, hholds.1.2, rfl⟩
  | case4 run rest code _ _ ih =>
      refine ih.imp_right ?_
      rintro ⟨other, hother, hcode⟩
      exact ⟨other, List.mem_cons_of_mem _ hother, hcode⟩

theorem Case.covers_of_avoids {run : Run} (h : run.avoids ranges) (hfirst : run.first ≤ code)
    (hlast : code ≤ run.last) :
    ranges.covers code = false ∧ ranges.covers (code + run.shift).toNat = false := by
  simp only [Run.avoids, List.all_eq_true, Bool.and_eq_true, Bool.or_eq_true,
    decide_eq_true_eq] at h
  obtain ⟨himage, hapart⟩ := h
  constructor
  · rw [Bool.eq_false_iff]
    intro hcovers
    obtain ⟨range, hrange, hcode⟩ := Ranges.exists_mem_of_covers hcovers
    have hsource := (hapart range hrange).1
    omega
  · rw [Bool.eq_false_iff]
    intro hcovers
    obtain ⟨range, hrange, hcode⟩ := Ranges.exists_mem_of_covers hcovers
    have hshifted := (hapart range hrange).2
    omega

theorem Case.Expansions.mem_of_find? {image : List Nat} (h : expansions.find? code = some image) :
    (code, image) ∈ expansions := by
  fun_induction Expansions.find? expansions code with
  | case1 | case2 => cases h
  | case3 image rest =>
      cases h
      exact List.mem_cons_self
  | case4 source image rest code _ _ ih => exact List.mem_cons_of_mem _ (ih h)

-- Where the tables keep clear of the blanks, the images of a character are blanks
-- exactly if it is one.
theorem Case.isBlank_of_mem_apply (hexpansions : expansions.avoid blankRanges)
    (hruns : ∀ run ∈ runs, run.avoids blankRanges) (hd : d ∈ apply expansions runs c) :
    isBlank d = isBlank c := by
  have hnot (h : blankRanges.covers c.toNat = false) : isBlank c = false := by
    rw [← Char.ofNat_toNat c]
    exact isBlank_ofNat h
  unfold apply at hd
  split at hd
  · rename_i image hfind
    have himage := List.all_eq_true.mp hexpansions _ (Expansions.mem_of_find? hfind)
    simp only [Bool.and_eq_true, Bool.not_eq_true', List.all_eq_true] at himage
    obtain ⟨code, hcode, rfl⟩ := List.mem_map.mp hd
    rw [hnot himage.1.1, isBlank_ofNat (himage.2 code hcode)]
  · obtain rfl := List.mem_singleton.mp hd
    rcases shiftBy_cases runs c.toNat with hstay | ⟨run, hrun, hfirst, hlast, hshift⟩
    · rw [hstay, Char.ofNat_toNat]
    · obtain ⟨hsource, himage⟩ := covers_of_avoids (hruns run hrun) hfirst hlast
      rw [hshift, hnot hsource, isBlank_ofNat himage]

theorem Case.apply_ne_nil (hexpansions : expansions.avoid ranges) (runs : List Run) (c : Char) :
    apply expansions runs c ≠ [] := by
  unfold apply
  split
  · rename_i image hfind
    have himage := List.all_eq_true.mp hexpansions _ (Expansions.mem_of_find? hfind)
    simp only [Bool.and_eq_true, bne_iff_ne] at himage
    exact fun hnil => himage.1.2 (List.map_eq_nil_iff.mp hnil)
  · exact List.cons_ne_nil _ _

end

section

variable {before text after : List Char} {c d : Char}

theorem Case.lowerExpansions_avoid : lowerExpansions.avoid blankRanges := by decide

theorem Case.isBlank_of_mem_lowerIn (hd : d ∈ lowerIn before c after) : isBlank d = isBlank c := by
  unfold lowerIn at hd
  split at hd
  · rename_i hsigma
    subst hsigma
    split at hd
    · obtain rfl := List.mem_singleton.mp hd
      decide
    · obtain rfl := List.mem_singleton.mp hd
      decide
  · have hruns : ∀ run ∈ lowerRuns, run.avoids blankRanges := by decide +kernel
    exact isBlank_of_mem_apply lowerExpansions_avoid hruns hd

theorem Case.lowerIn_ne_nil (before : List Char) (c : Char) (after : List Char) :
    lowerIn before c after ≠ [] := by
  unfold lowerIn
  split
  · split <;> exact List.cons_ne_nil _ _
  · exact apply_ne_nil lowerExpansions_avoid lowerRuns c

theorem Case.lowerFrom_cons_ne_nil (before : List Char) (c : Char) (rest : List Char) :
    lowerFrom before (c :: rest) ≠ [] :=
  List.append_ne_nil_of_left_ne_nil (lowerIn_ne_nil before c rest) _

theorem Case.head?_lowerFrom (before text : List Char) :
    (lowerFrom before text).head?.any isBlank = text.head?.any isBlank := by
  cases text with
  | nil => rfl
  | cons c rest =>
      obtain ⟨d, more, hlower⟩ := List.exists_cons_of_ne_nil (lowerIn_ne_nil before c rest)
      have hd : d ∈ lowerIn before c rest := hlower ▸ List.mem_cons_self
      rw [lowerFrom, hlower]
      exact isBlank_of_mem_lowerIn hd

-- What becomes of a character may depend on those around it, but it stays where
-- it is among them.
theorem Case.getLast?_lowerFrom (before text : List Char) :
    (lowerFrom before text).getLast?.any isBlank = text.getLast?.any isBlank := by
  induction text generalizing before with
  | nil => rfl
  | cons c rest ih =>
      cases rest with
      | nil =>
          have hlast := List.getLast?_eq_some_getLast (lowerIn_ne_nil before c [])
          rw [lowerFrom, lowerFrom, List.append_nil, hlast]
          exact isBlank_of_mem_lowerIn (List.getLast_mem _)
      | cons next rest =>
          have hlast := List.getLast?_eq_some_getLast (lowerFrom_cons_ne_nil (c :: before) next rest)
          rw [List.getLast?_cons_cons, ← ih (c :: before), lowerFrom, List.getLast?_append, hlast,
            Option.some_or]

-- A text in small letters has blanks at its ends where the text itself has them.
theorem bare_lowerFrom_iff : Bare (lowerFrom before text) ↔ Bare text := by
  have hhead := Case.head?_lowerFrom before text
  have hlast := Case.getLast?_lowerFrom before text
  constructor
  · rintro ⟨hfirst, hend⟩
    exact ⟨hhead ▸ hfirst, hlast ▸ hend⟩
  · rintro ⟨hfirst, hend⟩
    exact ⟨hhead.trans hfirst, hlast.trans hend⟩

end

-- No line is the same as a text with blanks around it, in whatever case, once the
-- blanks around the line are gone.
theorem strip_eq_self_of_lower {text line : String} (h : lower (strip line) = lower text) :
    strip text = text := by
  have hlower : lowerFrom [] (stripChars line.toList) = lowerFrom [] text.toList := by
    simpa only [lower, strip, String.ofList_inj, String.toList_ofList] using h
  have hbare : Bare (lowerFrom [] text.toList) :=
    hlower ▸ bare_lowerFrom_iff.mpr (bare_stripChars line.toList)
  rw [strip, bare_iff.mp (bare_lowerFrom_iff.mp hbare), String.ofList_toList]

end Reckoner.Text

import Reckoner.Text.Blank
import Reckoner.Text.Lines

namespace Reckoner.Text

-- A text that is all on one line.
def Unbroken (text : List Char) : Prop := ∀ c ∈ text, isLineBreak c = false

instance (text : List Char) : Decidable (Unbroken text) :=
  List.decidableBAll _ text

theorem Unbroken.append {first second : List Char} (hfirst : Unbroken first)
    (hsecond : Unbroken second) : Unbroken (first ++ second) :=
  List.forall_mem_append.mpr ⟨hfirst, hsecond⟩

-- Every line break is a blank.
theorem isLineBreak_of_isBlank_false {c : Char} (hc : isBlank c = false) :
    isLineBreak c = false := by
  simp [isBlank] at hc
  simp [isLineBreak]
  omega

theorem ne_of_isLineBreak_false {c d : Char} (hc : isLineBreak c = false) (hd : isLineBreak d) :
    c ≠ d := by
  rintro rfl
  simp [hc] at hd

theorem splitLinesFrom_break (rest : List Char) {text : List Char} (htext : Unbroken text)
    (line : List Char) :
    splitLinesFrom line (text ++ '\n' :: rest) =
      (line.reverse ++ text) :: splitLinesFrom [] rest := by
  induction text generalizing line with
  | nil => simp [splitLinesFrom, isLineBreak]
  | cons c text ih =>
      have hc : isLineBreak c = false := htext c (by simp)
      have hreturn : c ≠ '\r' := ne_of_isLineBreak_false hc (by decide)
      have hstep := ih (fun d hd => htext d (by simp [hd])) (c :: line)
      rw [List.cons_append, splitLinesFrom, hc]
      · simpa using hstep
      · exact fun _ hr _ => hreturn hr

-- Unbroken lines come out of the text that they were joined to.
theorem splitLines_flatMap {lines : List (List Char)} (hlines : ∀ line ∈ lines, Unbroken line) :
    splitLines (lines.flatMap fun line => line ++ ['\n']) = lines := by
  unfold splitLines
  induction lines with
  | nil => rfl
  | cons line rest ih =>
      simp only [List.forall_mem_cons] at hlines
      rw [List.flatMap_cons, List.append_assoc, List.singleton_append,
        splitLinesFrom_break _ hlines.1, ih hlines.2]
      rfl

theorem splitLinesFrom_unbroken {text : List Char} (htext : Unbroken text) (line : List Char) :
    splitLinesFrom line text =
      if line.reverse ++ text = [] then [] else [line.reverse ++ text] := by
  induction text generalizing line with
  | nil => simp [splitLinesFrom]
  | cons c text ih =>
      have hc : isLineBreak c = false := htext c (by simp)
      have hreturn : c ≠ '\r' := ne_of_isLineBreak_false hc (by decide)
      have hstep := ih (fun d hd => htext d (by simp [hd])) (c :: line)
      rw [splitLinesFrom, hc]
      · simpa using hstep
      · exact fun _ hr _ => hreturn hr

-- Only an empty last line is lost when lines that were joined come apart.
theorem splitLines_intercalate {lines : List (List Char)} (hlines : ∀ line ∈ lines, Unbroken line) :
    splitLines (['\n'].intercalate lines) = lines ∨
      lines = splitLines (['\n'].intercalate lines) ++ [[]] := by
  induction lines with
  | nil => exact .inl rfl
  | cons line rest ih =>
      simp only [List.forall_mem_cons] at hlines
      cases rest with
      | nil =>
          rw [List.intercalate_singleton, splitLines, splitLinesFrom_unbroken hlines.1]
          by_cases hline : line = []
          · exact .inr (by simp [hline])
          · exact .inl (by simp [hline])
      | cons next rest =>
          have hsplit : splitLines (['\n'].intercalate (line :: next :: rest)) =
              line :: splitLines (['\n'].intercalate (next :: rest)) := by
            rw [List.intercalate_cons_cons, List.append_assoc, List.singleton_append]
            exact splitLinesFrom_break _ hlines.1 []
          rw [hsplit]
          exact (ih hlines.2).imp (congrArg _) (congrArg _)

theorem readNewlines_eq_self {text : List Char} (htext : '\r' ∉ text) : readNewlines text = text := by
  fun_induction readNewlines text with
  | case1 => rfl
  | case2 rest _ => simp at htext
  | case3 c rest _ ih =>
      simp only [List.mem_cons, not_or] at htext
      rw [ih htext.2, if_neg (Ne.symm htext.1)]

-- No carriage return comes in where lines are joined.
theorem readNewlines_intercalate {lines : List (List Char)}
    (hlines : ∀ line ∈ lines, Unbroken line) :
    readNewlines (['\n'].intercalate lines) = ['\n'].intercalate lines := by
  apply readNewlines_eq_self
  induction lines with
  | nil => simp
  | cons line rest ih =>
      simp only [List.forall_mem_cons] at hlines
      have hline : '\r' ∉ line := fun hmem => absurd (hlines.1 _ hmem) (by decide)
      cases rest with
      | nil => simpa using hline
      | cons next rest =>
          have hrest := ih hlines.2
          rw [List.intercalate_cons_cons]
          simp [hline, hrest]

theorem unbroken_of_mem_splitLinesFrom {line text : List Char} (hline : Unbroken line) :
    ∀ piece ∈ splitLinesFrom line text, Unbroken piece := by
  have hnil : Unbroken [] := fun _ hc => by simp at hc
  have hreverse {line : List Char} (hline : Unbroken line) : Unbroken line.reverse :=
    fun c hc => hline c (List.mem_reverse.mp hc)
  fun_induction splitLinesFrom line text with
  | case1 => simp
  | case2 line _ => simpa using hreverse hline
  | case3 line rest ih => exact List.forall_mem_cons.mpr ⟨hreverse hline, ih hnil⟩
  | case4 line c rest _ _ ih => exact List.forall_mem_cons.mpr ⟨hreverse hline, ih hnil⟩
  | case5 line c rest _ hc ih =>
      exact ih (List.forall_mem_cons.mpr ⟨by simpa using hc, hline⟩)

theorem unbroken_of_mem_splitLines (text : List Char) : ∀ line ∈ splitLines text, Unbroken line :=
  unbroken_of_mem_splitLinesFrom fun _ hc => by simp at hc

theorem Unbroken.stripChars {text : List Char} (htext : Unbroken text) :
    Unbroken (stripChars text) := by
  intro c hc
  have hmem : c ∈ text := by
    have hback := (List.dropWhile_suffix isBlank).subset (List.mem_reverse.mp hc)
    exact (List.dropWhile_suffix isBlank).subset (List.mem_reverse.mp hback)
  exact htext c hmem

end Reckoner.Text

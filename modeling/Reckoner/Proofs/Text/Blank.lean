import Reckoner.Text.Blank

namespace Reckoner.Text

variable {front back text : List Char} {c : Char}

theorem stripChars_cons (hc : isBlank c) (text : List Char) :
    stripChars (c :: text) = stripChars text := by
  simp [stripChars, hc]

theorem stripChars_concat (hc : isBlank c) (text : List Char) :
    stripChars (text ++ [c]) = stripChars text := by
  unfold stripChars
  rw [List.dropWhile_append]
  split
  · rename_i hnil
    simp [hc, List.isEmpty_iff.mp hnil]
  · simp [hc]

theorem stripChars_blanks_append (hfront : ∀ c ∈ front, isBlank c) (text : List Char) :
    stripChars (front ++ text) = stripChars text := by
  induction front with
  | nil => rfl
  | cons c front ih =>
      simp only [List.forall_mem_cons] at hfront
      rw [List.cons_append, stripChars_cons hfront.1, ih hfront.2]

theorem stripChars_append_blanks (hback : ∀ c ∈ back, isBlank c) (text : List Char) :
    stripChars (text ++ back) = stripChars text := by
  induction back generalizing text with
  | nil => rw [List.append_nil]
  | cons c back ih =>
      simp only [List.forall_mem_cons] at hback
      have hlater := ih hback.2 (text ++ [c])
      rw [List.append_assoc, List.singleton_append] at hlater
      rw [hlater, stripChars_concat hback.1]

-- Neither end of the text is a blank.
structure Bare (text : List Char) : Prop where
  head : text.head?.any isBlank = false
  last : text.getLast?.any isBlank = false

theorem bare_reverse_iff : Bare text.reverse ↔ Bare text := by
  constructor
  · rintro ⟨hhead, hlast⟩
    rw [List.head?_reverse] at hhead
    rw [List.getLast?_reverse] at hlast
    exact ⟨hlast, hhead⟩
  · rintro ⟨hhead, hlast⟩
    rw [← List.getLast?_reverse] at hhead
    rw [← List.head?_reverse] at hlast
    exact ⟨hlast, hhead⟩

theorem dropWhile_isBlank_of_head (hhead : text.head?.any isBlank = false) :
    text.dropWhile isBlank = text := by
  cases text with
  | nil => rfl
  | cons c rest =>
      have hc : isBlank c = false := hhead
      rw [List.dropWhile_cons, hc, if_neg Bool.false_ne_true]

theorem head?_dropWhile_isBlank (text : List Char) :
    (text.dropWhile isBlank).head?.any isBlank = false := by
  have hnot := List.head?_dropWhile_not isBlank text
  cases hhead : (text.dropWhile isBlank).head? with
  | none => rfl
  | some c =>
      rw [hhead] at hnot
      exact hnot

-- What is cut from the one end leaves the other one as it is.
theorem bare_stripChars (text : List Char) : Bare (stripChars text) := by
  unfold stripChars
  have hhead := head?_dropWhile_isBlank text
  generalize text.dropWhile isBlank = rest at hhead
  obtain ⟨front, hfront⟩ : rest.reverse.dropWhile isBlank <:+ rest.reverse := List.dropWhile_suffix _
  rw [bare_reverse_iff]
  refine ⟨head?_dropWhile_isBlank rest.reverse, ?_⟩
  cases hlast : (rest.reverse.dropWhile isBlank).getLast? with
  | none => rfl
  | some c =>
      have hsame : rest.reverse.getLast? = some c := by
        rw [← hfront, List.getLast?_append, hlast, Option.some_or]
      rw [List.getLast?_reverse] at hsame
      rwa [hsame] at hhead

theorem bare_iff : Bare text ↔ stripChars text = text := by
  constructor
  · intro h
    rw [stripChars, dropWhile_isBlank_of_head h.head,
      dropWhile_isBlank_of_head (bare_reverse_iff.mpr h).head, List.reverse_reverse]
  · intro h
    exact h ▸ bare_stripChars text

end Reckoner.Text

import Reckoner.Text.Cut

namespace Reckoner.Text

section

variable {mark text front back : List Char}

theorem cutLast_eq_none {c : Char} (hmark : c ∈ mark) (htext : c ∉ text) :
    cutLast? mark text = none := by
  induction text with
  | nil => rfl
  | cons d rest ih =>
      simp only [List.mem_cons, not_or] at htext
      have hprefix : mark.isPrefixOf (d :: rest) = false := by
        rw [Bool.eq_false_iff]
        intro hprefix
        have hmem := (List.isPrefixOf_iff_prefix.mp hprefix).subset hmark
        exact absurd hmem (by simp [htext])
      simp [cutLast?, ih htext.2, hprefix]

-- Where the second character of a mark comes only once in it, and not behind
-- it, there is no later place for the mark.
theorem cutLast_mark {first second : Char} {rest : List Char} (hfirst : first ≠ second)
    (hrest : second ∉ rest) (hback : second ∉ back) :
    cutLast? (first :: second :: rest) (first :: second :: rest ++ back) = some ([], back) := by
  have hlater : cutLast? (first :: second :: rest) (rest ++ back) = none :=
    cutLast_eq_none (List.mem_cons_of_mem _ List.mem_cons_self) (by simp [hrest, hback])
  simp [cutLast?, hlater, hfirst]

theorem cutLast_append (hmark : cutLast? mark (mark ++ back) = some ([], back)) (front : List Char) :
    cutLast? mark (front ++ (mark ++ back)) = some (front, back) := by
  induction front with
  | nil => exact hmark
  | cons c front ih => simp [cutLast?, ih]

end

end Reckoner.Text

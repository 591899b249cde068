import Mathlib.Data.List.TakeWhile
import Reckoner.Archive

namespace Reckoner

-- Every part behind the first one comes with the separator before it.
theorem Text.splitAtChar_eq (separator : Char) (text : List Char) :
    ∃ part parts, splitAtChar separator text = part :: parts ∧ separator ∉ part ∧
      text = part ++ parts.flatMap (separator :: ·) := by
  induction text with
  | nil => exact ⟨[], [], rfl, List.not_mem_nil, rfl⟩
  | cons c rest ih =>
      obtain ⟨part, parts, hsplit, hpart, hrest⟩ := ih
      by_cases hc : c = separator
      · refine ⟨[], part :: parts, ?_, List.not_mem_nil, ?_⟩
        · simp only [splitAtChar, hsplit, if_pos hc]
        · simp [hc, hrest]
      · refine ⟨c :: part, parts, ?_, ?_, ?_⟩
        · simp only [splitAtChar, hsplit, if_neg hc]
        · simp [Ne.symm hc, hpart]
        · simp [← hrest]

namespace Path

-- The path without its name.
def folder (path : Path) : Path := { path with parts := path.parts.dropLast }

-- The suffixes are those of a text or of an archive that can be read.
def Supported (path : Path) : Prop :=
  suffix path.name = ".txt".toList ∨ (Archive.Format.ofSuffix? (Archive.suffixOf path)).isSome

instance (path : Path) : Decidable path.Supported := inferInstanceAs (Decidable (_ ∨ _))

def underscored (text : List Char) : List Char := text.map fun c => if c = '.' then '_' else c

def leadingDots (name : List Char) : List Char := name.takeWhile (· = '.')

def withoutDots (name : List Char) : List Char := name.dropWhile (· = '.')

-- The names are the same to one who takes dots for underscores, those at the
-- start left out.
structure Alike (first second : List Char) : Prop where
  dots : leadingDots first = leadingDots second
  rest : underscored (withoutDots first) = underscored (withoutDots second)

instance (first second : List Char) : Decidable (Alike first second) :=
  decidable_of_iff (leadingDots first = leadingDots second ∧
      underscored (withoutDots first) = underscored (withoutDots second))
    ⟨fun ⟨dots, rest⟩ => ⟨dots, rest⟩, fun ⟨dots, rest⟩ => ⟨dots, rest⟩⟩

section

variable {name first second text : List Char} {path : Path}

theorem underscored_eq_self (h : '.' ∉ text) : underscored text = text := by
  have hkept : ∀ c ∈ text, (if c = '.' then '_' else c) = id c := by
    intro c hc
    have hdot : c ≠ '.' := ne_of_mem_of_not_mem hc h
    rw [if_neg hdot, id]
  rw [underscored, List.map_congr_left hkept, List.map_id]

theorem underscored_append (front back : List Char) :
    underscored (front ++ back) = underscored front ++ underscored back := List.map_append

theorem dot_not_mem_underscored (text : List Char) : '.' ∉ underscored text := by
  intro hdot
  obtain ⟨c, -, hc⟩ := List.mem_map.mp hdot
  split at hc
  · cases hc
  · rename_i hne
    exact hne hc

theorem take_stem {stem tail : List Char} (hname : name = stem ++ tail) :
    name.take (name.length - tail.length) = stem := by
  rw [hname, List.length_append, Nat.add_sub_cancel, List.take_left]

-- Behind the dots at its start a name has no dot that stays one.
theorem resultsName_eq (hlast : name.getLast? ≠ some '.') :
    resultsName name =
      leadingDots name ++ underscored (withoutDots name) ++ "_results.txt".toList := by
  obtain ⟨part, parts, hsplit, hpart, hrest⟩ := Text.splitAtChar_eq '.' (withoutDots name)
  have htail : (suffixes name).flatten = parts.flatMap ('.' :: ·) := by
    rw [suffixes, if_neg hlast, ← withoutDots, hsplit, List.flatMap_def]
    rfl
  have hname : name = (leadingDots name ++ part) ++ parts.flatMap ('.' :: ·) := by
    rw [List.append_assoc, ← hrest]
    exact List.takeWhile_append_dropWhile.symm
  rw [resultsName, htail, take_stem hname, hrest, underscored_append, underscored_eq_self hpart,
    ← List.append_assoc (leadingDots name)]
  rfl

theorem leadingDots_append {dots : List Char} (hdots : ∀ c ∈ dots, c = '.') (htext : '.' ∉ text) :
    leadingDots (dots ++ text) = dots := by
  rw [leadingDots, List.takeWhile_append_of_pos (by simpa using hdots)]
  have hstop : text.takeWhile (· = '.') = [] := by
    cases text with
    | nil => rfl
    | cons c rest => exact List.takeWhile_cons_of_neg (by grind)
  rw [hstop, List.append_nil]

theorem eq_dot_of_mem_leadingDots {c : Char} (hc : c ∈ leadingDots name) : c = '.' := by
  simpa using List.mem_takeWhile_imp hc

theorem resultsName_inj (hfirst : first.getLast? ≠ some '.') (hsecond : second.getLast? ≠ some '.') :
    resultsName first = resultsName second ↔ Alike first second := by
  rw [resultsName_eq hfirst, resultsName_eq hsecond, List.append_cancel_right_eq]
  constructor
  · intro hname
    have hdots : leadingDots first = leadingDots second := by
      simpa only [leadingDots_append (fun _ => eq_dot_of_mem_leadingDots)
        (dot_not_mem_underscored _)] using congrArg leadingDots hname
    rw [hdots] at hname
    exact ⟨hdots, List.append_cancel_left hname⟩
  · intro halike
    rw [halike.dots, halike.rest]

theorem length_lt_length_resultsName (name : List Char) : name.length < (resultsName name).length := by
  simp only [resultsName, List.length_append, List.length_take, List.length_map]
  have hword : "_results.txt".toList.length = 12 := rfl
  omega

theorem suffix_eq_nil_of_dot (hlast : name.getLast? = some '.') : suffix name = [] := by
  obtain ⟨front, rfl⟩ := List.getLast?_eq_some_iff.mp hlast
  have hafter : (front ++ ['.']).reverse.takeWhile (· ≠ '.') = [] := by simp
  rw [suffix, hafter]
  split <;> rfl

theorem not_supported_of_eq_nil (hsuffix : suffix path.name = [])
    (hsuffixes : suffixes path.name = []) : ¬path.Supported := by
  have hnone : Archive.Format.ofSuffix? (Archive.suffixOf path) = none := by
    rw [Archive.suffixOf, hsuffixes, hsuffix]
    rfl
  rw [Supported, hsuffix, hnone]
  simp

theorem Supported.getLast?_ne (hpath : path.Supported) : path.name.getLast? ≠ some '.' := by
  intro hlast
  have hsuffixes : suffixes path.name = [] := by rw [suffixes, if_pos hlast]
  exact not_supported_of_eq_nil (suffix_eq_nil_of_dot hlast) hsuffixes hpath

theorem Supported.name_ne_nil (hpath : path.Supported) : path.name ≠ [] := by
  intro hname
  exact not_supported_of_eq_nil (by rw [hname]; rfl) (by rw [hname]; rfl) hpath

theorem results?_eq (hname : path.name ≠ []) :
    path.results? = some { path with
      parts := path.parts.dropLast ++ [String.ofList (resultsName path.name)] } := by
  rw [results?, withName?, if_neg (by simpa using hname)]

theorem exists_results (hname : path.name ≠ []) :
    ∃ results, path.results? = some results ∧ results.folder = path.folder ∧
      results.name = resultsName path.name := by
  refine ⟨_, results?_eq hname, ?_, ?_⟩
  · rw [folder, folder, List.dropLast_concat]
  · simp [Path.name]

theorem results?_inj {first second : Path} (hfirst : first.Supported) (hsecond : second.Supported)
    (hfolder : first.folder = second.folder) :
    first.results? = second.results? ↔ Alike first.name second.name := by
  obtain ⟨hroot, hparts⟩ := Path.mk.inj hfolder
  rw [results?_eq hfirst.name_ne_nil, results?_eq hsecond.name_ne_nil,
    ← resultsName_inj hfirst.getLast?_ne hsecond.getLast?_ne]
  simp [hroot, hparts, String.ofList_inj]

end

-- Results stay beside their input and never take its place. Two inputs of one
-- folder share their results when dots are all that tells their names apart
-- from underscores, and only then.
theorem results_beside_inputs (first second : Path) :
    (first.name ≠ [] →
      ∃ results, first.results? = some results ∧ results.folder = first.folder ∧
        results ≠ first) ∧
    (first.Supported → second.Supported → first.folder = second.folder →
      (first.results? = second.results? ↔ Alike first.name second.name)) := by
  refine ⟨?_, results?_inj⟩
  intro hname
  obtain ⟨results, hresults, hfolder, hnamed⟩ := exists_results hname
  refine ⟨results, hresults, hfolder, ?_⟩
  rintro rfl
  have hlength := length_lt_length_resultsName results.name
  rw [← hnamed] at hlength
  exact absurd hlength (Nat.lt_irrefl _)

theorem results_beside_hidden_input :
    (ofString "sums/.a.tar.xz").name ≠ [] ∧ (ofString "sums/.a.tar.xz").Supported ∧
      (ofString "sums/_a.tar.xz").Supported ∧
      (ofString "sums/.a.tar.xz").folder = (ofString "sums/_a.tar.xz").folder ∧
      (∃ results, (ofString "sums/.a.tar.xz").results? = some results ∧
        results.folder = (ofString "sums/.a.tar.xz").folder ∧
        results ≠ ofString "sums/.a.tar.xz") ∧
      (ofString "sums/.a.tar.xz").results? ≠ (ofString "sums/_a.tar.xz").results? := by
  have hname : (ofString "sums/.a.tar.xz").name ≠ [] := by decide +kernel
  have hfirst : (ofString "sums/.a.tar.xz").Supported := by decide +kernel
  have hsecond : (ofString "sums/_a.tar.xz").Supported := by decide +kernel
  have hfolder : (ofString "sums/.a.tar.xz").folder = (ofString "sums/_a.tar.xz").folder := by
    decide +kernel
  have halike : ¬Alike (ofString "sums/.a.tar.xz").name (ofString "sums/_a.tar.xz").name := by
    decide +kernel
  obtain ⟨hbeside, hshared⟩ :=
    results_beside_inputs (ofString "sums/.a.tar.xz") (ofString "sums/_a.tar.xz")
  exact ⟨hname, hfirst, hsecond, hfolder, hbeside hname,
    fun hresults => halike ((hshared hfirst hsecond hfolder).mp hresults)⟩

-- A dot inside a name ends up as the underscore that another name has there.
theorem dotted_names_share_results :
    ofString "a.b.txt" ≠ ofString "a_b.txt" ∧
      (ofString "a.b.txt").folder = (ofString "a_b.txt").folder ∧
      (ofString "a.b.txt").Supported ∧ (ofString "a_b.txt").Supported ∧
      (ofString "a.b.txt").results? = some (ofString "a_b_txt_results.txt") ∧
      (ofString "a_b.txt").results? = some (ofString "a_b_txt_results.txt") := by
  decide +kernel

end Path

end Reckoner

import Reckoner.Proofs.Path

namespace Reckoner

open Archive (Format)

theorem Text.splitAtChar_append (separator : Char) (front back : List Char) :
    splitAtChar separator (front ++ separator :: back) =
      splitAtChar separator front ++ splitAtChar separator back := by
  induction front with
  | nil =>
      obtain ⟨part, parts, hsplit, -, -⟩ := splitAtChar_eq separator back
      simp [splitAtChar, hsplit]
  | cons c front ih =>
      obtain ⟨part, parts, hsplit, -, -⟩ := splitAtChar_eq separator front
      simp only [List.cons_append, splitAtChar, ih, hsplit]
      split <;> rfl

namespace Path

-- The name of a text: something stands before its ending.
def NamesText (name : List Char) : Prop := ∃ stem, stem ≠ [] ∧ name = stem ++ ".txt".toList

-- The names of archives. Of the two suffixes of a tar archive the first one counts only
-- behind a character that is no dot.
inductive Names : Format → List Char → Prop
  | zip (stem : List Char) (hstem : stem ≠ []) : Names .zip (stem ++ ".zip".toList)
  | tarXz (stem : List Char) (hstem : ∃ c ∈ stem, c ≠ '.') :
      Names .tarXz (stem ++ ".tar.xz".toList)
  | sevenZip (stem : List Char) (hstem : stem ≠ []) : Names .sevenZip (stem ++ ".7z".toList)

variable {name stem extension : List Char} {path : Path} {format : Format}

theorem suffix_append (hstem : stem ≠ []) (hextension : extension ≠ []) (hdot : '.' ∉ extension) :
    suffix (stem ++ '.' :: extension) = '.' :: extension := by
  have hkept : ∀ c ∈ extension.reverse, (decide (c ≠ '.')) = true := by
    intro c hc
    simpa using ne_of_mem_of_not_mem (List.mem_reverse.mp hc) hdot
  have hreverse : (stem ++ '.' :: extension).reverse = extension.reverse ++ '.' :: stem.reverse := by
    simp
  obtain ⟨c, rest, hrest⟩ := List.exists_cons_of_ne_nil (List.reverse_ne_nil_iff.mpr hstem)
  rw [suffix, hreverse, List.takeWhile_append_of_pos hkept, List.dropWhile_append_of_pos hkept]
  simp [hrest, hextension]

theorem exists_of_suffix (hsuffix : suffix name = '.' :: extension) :
    (∃ stem, stem ≠ [] ∧ name = stem ++ '.' :: extension) ∧ '.' ∉ extension := by
  have hname : name.reverse.takeWhile (· ≠ '.') ++ name.reverse.dropWhile (· ≠ '.') =
      name.reverse := List.takeWhile_append_dropWhile
  unfold suffix at hsuffix
  split at hsuffix
  · rename_i dot c rest hdrop
    dsimp only at hsuffix
    split at hsuffix
    · cases hsuffix
    · obtain rfl := (List.cons.inj hsuffix).2
      have hdot : dot = '.' := by
        have hhead := List.head?_dropWhile_not (· ≠ '.') name.reverse
        rw [hdrop] at hhead
        simpa using hhead
      rw [hdot] at hdrop
      constructor
      · refine ⟨(c :: rest).reverse, by simp, ?_⟩
        calc name = name.reverse.reverse := name.reverse_reverse.symm
          _ = (name.reverse.takeWhile (· ≠ '.') ++ '.' :: c :: rest).reverse := by
              rw [← hdrop, hname]
          _ = (c :: rest).reverse ++ '.' :: (name.reverse.takeWhile (· ≠ '.')).reverse := by
              rw [List.reverse_append, List.reverse_cons, List.append_assoc,
                List.singleton_append]
      · intro hmem
        simpa using List.mem_takeWhile_imp (List.mem_reverse.mp hmem)
  · cases hsuffix

theorem suffix_eq_iff (hextension : extension ≠ []) (hdot : '.' ∉ extension) :
    suffix name = '.' :: extension ↔ ∃ stem, stem ≠ [] ∧ name = stem ++ '.' :: extension := by
  constructor
  · exact fun hsuffix => (exists_of_suffix hsuffix).1
  · rintro ⟨stem, hstem, rfl⟩
    exact suffix_append hstem hextension hdot

theorem namesText_iff : suffix name = ".txt".toList ↔ NamesText name :=
  suffix_eq_iff (by decide) (by decide)

theorem suffixes_tarXz (hstem : ∃ c ∈ stem, c ≠ '.') :
    (suffixes (stem ++ ".tar.xz".toList)).drop
        ((suffixes (stem ++ ".tar.xz".toList)).length - 2) =
      [".tar".toList, ".xz".toList] := by
  have hnonempty : withoutDots stem ≠ [] := by
    obtain ⟨c, hmem, hc⟩ := hstem
    intro hnil
    exact hc (by simpa using List.dropWhile_eq_nil_iff.mp hnil c hmem)
  have hdots : withoutDots (stem ++ ".tar.xz".toList) =
      withoutDots stem ++ '.' :: "tar.xz".toList := by
    unfold withoutDots at hnonempty ⊢
    rw [List.dropWhile_append, if_neg (by simpa using hnonempty)]
    rfl
  have htail : Text.splitAtChar '.' "tar.xz".toList = ["tar".toList, "xz".toList] := by decide
  obtain ⟨part, parts, hsplit, -, -⟩ := Text.splitAtChar_eq '.' (withoutDots stem)
  have hsuffixes : suffixes (stem ++ ".tar.xz".toList) =
      parts.map ('.' :: ·) ++ [".tar".toList, ".xz".toList] := by
    rw [suffixes, if_neg (by simp), ← withoutDots, hdots, Text.splitAtChar_append, hsplit, htail]
    simp
  rw [hsuffixes]
  simp

theorem exists_of_suffixes
    (hsuffixes : (suffixes name).drop ((suffixes name).length - 2) = [".tar".toList, ".xz".toList]) :
    ∃ stem, (∃ c ∈ stem, c ≠ '.') ∧ name = stem ++ ".tar.xz".toList := by
  have hlast : ¬name.getLast? = some '.' := by
    intro hlast
    rw [suffixes, if_pos hlast] at hsuffixes
    cases hsuffixes
  obtain ⟨part, parts, hsplit, hpart, hrest⟩ := Text.splitAtChar_eq '.' (withoutDots name)
  have hparts : suffixes name = parts.map ('.' :: ·) := by
    rw [suffixes, if_neg hlast, ← withoutDots, hsplit]
    rfl
  obtain ⟨front, hfront⟩ : ∃ front, suffixes name = front ++ [".tar".toList, ".xz".toList] :=
    ⟨_, by rw [← hsuffixes, List.take_append_drop]⟩
  have hbehind : withoutDots name = part ++ front.flatten ++ ".tar.xz".toList := by
    rw [hrest, List.flatMap_def, ← hparts, hfront, List.flatten_append, List.append_assoc]
    rfl
  have hname : name = leadingDots name ++ (part ++ front.flatten) ++ ".tar.xz".toList := by
    rw [List.append_assoc, ← hbehind]
    exact List.takeWhile_append_dropWhile.symm
  refine ⟨_, ?_, hname⟩
  -- What stands behind the dots at the start does not begin with a dot.
  have hhead := List.head?_dropWhile_not (· = '.') name
  rw [← withoutDots, hrest] at hhead
  cases part with
  | nil =>
      have hsome : parts ≠ [] := by
        rintro rfl
        rw [hparts] at hfront
        simp at hfront
      obtain ⟨c, rest, rfl⟩ := List.exists_cons_of_ne_nil hsome
      simp at hhead
  | cons c rest => exact ⟨c, by simp, fun hc => hpart (by simp [hc])⟩

theorem tarXz_iff :
    (suffixes name).drop ((suffixes name).length - 2) = [".tar".toList, ".xz".toList] ↔
      Names .tarXz name := by
  constructor
  · intro hsuffixes
    obtain ⟨stem, hstem, rfl⟩ := exists_of_suffixes hsuffixes
    exact .tarXz stem hstem
  · intro hnames
    cases hnames with
    | tarXz stem hstem => exact suffixes_tarXz hstem

def lastSuffix : Format → List Char
  | .zip => ".zip".toList
  | .tarXz => ".xz".toList
  | .sevenZip => ".7z".toList

theorem Names.suffix_eq (hnames : Names format name) : suffix name = lastSuffix format := by
  cases hnames with
  | zip stem hstem => exact suffix_append hstem (by decide) (by decide)
  | tarXz stem hstem =>
      have hsplit : stem ++ ".tar.xz".toList = (stem ++ ".tar".toList) ++ '.' :: "xz".toList := by
        rw [List.append_assoc]
        rfl
      rw [hsplit]
      exact suffix_append (by simp) (by decide) (by decide)
  | sevenZip stem hstem => exact suffix_append hstem (by decide) (by decide)

theorem Names.not_namesText (hnames : Names format name) : ¬NamesText name := by
  rw [← namesText_iff, hnames.suffix_eq]
  cases format <;> decide

theorem names_of_suffix (hsuffix : String.ofList (suffix name) = format.suffix) :
    Names format name := by
  have hlist : suffix name = format.suffix.toList := by rw [← hsuffix, String.toList_ofList]
  cases format with
  | zip =>
      have hzip : suffix name = '.' :: "zip".toList := hlist
      obtain ⟨⟨stem, hstem, rfl⟩, -⟩ := exists_of_suffix hzip
      exact .zip stem hstem
  | tarXz =>
      have htar : suffix name = '.' :: "tar.xz".toList := hlist
      obtain ⟨-, hdot⟩ := exists_of_suffix htar
      exact absurd (by decide) hdot
  | sevenZip =>
      have hsevenZip : suffix name = '.' :: "7z".toList := hlist
      obtain ⟨⟨stem, hstem, rfl⟩, -⟩ := exists_of_suffix hsevenZip
      exact .sevenZip stem hstem

theorem Names.format_eq {other : Format} (hnames : Names format name) (hother : Names other name) :
    format = other := by
  have hsuffix : lastSuffix format = lastSuffix other := hnames.suffix_eq.symm.trans hother.suffix_eq
  revert hsuffix
  cases format <;> cases other <;> decide

theorem suffixOf_eq_iff : Archive.suffixOf path = format.suffix ↔ Names format path.name := by
  unfold Archive.suffixOf
  dsimp only
  split
  · rename_i htar
    have htarXz : Names .tarXz path.name := tarXz_iff.mp htar
    constructor
    · intro hsuffix
      obtain rfl : format = .tarXz := by
        revert hsuffix
        cases format <;> decide
      exact htarXz
    · intro hnames
      rw [hnames.format_eq htarXz]
      rfl
  · rename_i htar
    refine ⟨names_of_suffix, fun hnames => ?_⟩
    rw [hnames.suffix_eq]
    cases format with
    | zip | sevenZip => rfl
    | tarXz => exact absurd (tarXz_iff.mpr hnames) htar

theorem ofSuffix?_eq_some_iff {text : String} :
    Format.ofSuffix? text = some format ↔ text = format.suffix := by
  constructor
  · intro hformat
    have hsuffix : format.suffix = text := by simpa using List.find?_some hformat
    exact hsuffix.symm
  · rintro rfl
    cases format <;> decide

theorem names_iff :
    Format.ofSuffix? (Archive.suffixOf path) = some format ↔ Names format path.name :=
  ofSuffix?_eq_some_iff.trans suffixOf_eq_iff

end Path

end Reckoner

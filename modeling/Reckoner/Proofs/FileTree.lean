import Reckoner.FileTree

namespace Reckoner

theorem Host.writes_ideal : Host.ideal.Writes := fun _ _ => rfl

theorem Host.unpacks_ideal : Host.ideal.Unpacks := by
  intro members member hmember content hextract
  obtain ⟨other, hfind⟩ : ∃ other, members.find? (·.name == member.name) = some other := by
    rw [← Option.isSome_iff_exists, List.find?_isSome]
    exact ⟨member, hmember, by simp⟩
  have hname : other.name = member.name := by simpa using List.find?_some hfind
  refine ⟨other, List.mem_of_find?_eq_some hfind, hname, ?_⟩
  simpa [Host.ideal, hfind] using hextract

namespace FileTree

-- The folders that are there without an entry: the working folder, those above
-- it, and the root.
def isStanding (place : List String) : Bool := place.all (· == "..") || place == ["/"]

theorem entry_of_isStanding {place : List String} (hplace : isStanding place) (tree : FileTree) :
    tree.entry? place = some .folder := by
  unfold isStanding at hplace
  unfold entry?
  rw [if_pos hplace]

theorem entry_of_not_isStanding {place : List String} (hplace : isStanding place = false)
    (tree : FileTree) : tree.entry? place = tree.entries.lookup place := by
  unfold isStanding at hplace
  unfold entry?
  rw [if_neg (by simpa using hplace)]

theorem lookup_filter_ne {place other : List String} (hother : other ≠ place)
    (entries : List (List String × FileEntry)) :
    (entries.filter (·.1 ≠ place)).lookup other = entries.lookup other := by
  induction entries with
  | nil => rfl
  | cons first rest ih =>
      obtain ⟨name, entry⟩ := first
      by_cases hname : name = place
      · subst hname
        have hskip : (other == name) = false := by simpa using hother
        simpa [List.lookup_cons, hskip] using ih
      · have hkeep : ((name, entry) :: rest).filter (·.1 ≠ place) =
            (name, entry) :: rest.filter (·.1 ≠ place) := by simp [hname]
        simp only [hkeep, List.lookup_cons, ih]

section

variable {place other : List String} {entry : FileEntry} {written : String} {tree : FileTree}

theorem entry_put (hplace : isStanding place = false) :
    FileTree.entry? (tree.put place entry) place = some entry := by
  rw [entry_of_not_isStanding hplace]
  simp [put]

theorem entry_put_of_ne (hother : other ≠ place) :
    FileTree.entry? (tree.put place entry) other = tree.entry? other := by
  cases hstanding : isStanding other with
  | true => rw [entry_of_isStanding hstanding, entry_of_isStanding hstanding]
  | false =>
      have hskip : (other == place) = false := by simpa using hother
      rw [entry_of_not_isStanding hstanding, entry_of_not_isStanding hstanding]
      simp only [put, List.lookup_cons, hskip]
      exact lookup_filter_ne hother tree.entries

theorem put_put (first : FileEntry) : (tree.put place first).put place entry = tree.put place entry := by
  simp [put, List.filter_filter]

@[simp] theorem host_put : (tree.put place entry).host = tree.host := rfl

theorem extend_put (hplace : isStanding place = false) (more : String) :
    (tree.put place (.file (.text written))).extend place more =
      tree.put place (.file (.text (written ++ more))) := by
  simp only [extend, entry_put hplace, put_put]

-- A file can be written where the file system has a place for a file.
theorem isStanding_of_writable {path : Path} (hwritable : tree.writable path = .ok place) :
    isStanding place = false := by
  unfold writable at hwritable
  split at hwritable
  · simp at hwritable
  · split at hwritable
    · simp at hwritable
    · rename_i hentry
      obtain rfl := Except.ok.inj hwritable
      exact Bool.eq_false_iff.mpr fun hstanding => hentry (entry_of_isStanding hstanding tree)

end

theorem exists_entry_of_content {tree : FileTree} {path : Path} {content : FileContent}
    (hcontent : tree.content path = .ok content) :
    ∃ place, tree.locate path = .ok place ∧ tree.entry? place = some (.file content) := by
  unfold FileTree.content at hcontent
  cases hplace : tree.locate path with
  | error error => simp [hplace] at hcontent
  | ok place =>
      rw [hplace] at hcontent
      refine ⟨place, rfl, ?_⟩
      simp only at hcontent
      split at hcontent
      · simp at hcontent
      · simp at hcontent
      · rename_i hentry
        rw [hentry, Except.ok.inj hcontent]

theorem exists_content_of_isFile {tree : FileTree} {path : Path} (hfile : tree.isFile path) :
    ∃ content, tree.content path = .ok content := by
  unfold isFile at hfile
  cases hcontent : tree.content path with
  | error error => simp [hcontent] at hfile
  | ok content => exact ⟨content, rfl⟩

-- No file is where a path without any part leads.
theorem parts_ne_nil_of_isFile {tree : FileTree} {path : Path} (hfile : tree.isFile path) :
    path.parts ≠ [] := by
  intro hparts
  obtain ⟨content, hcontent⟩ := exists_content_of_isFile hfile
  obtain ⟨place, hlocate, hentry⟩ := exists_entry_of_content hcontent
  have hplace : place = origin path := by
    unfold locate at hlocate
    rw [hparts] at hlocate
    split at hlocate
    · simp at hlocate
    · split at hlocate
      · simp at hlocate
      · exact (Except.ok.inj hlocate).symm
  have horigin : isStanding (origin path) := by
    unfold origin
    split <;> rfl
  simp [hplace, entry_of_isStanding horigin] at hentry

end FileTree

end Reckoner

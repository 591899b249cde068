import Reckoner.CommandLine.Arguments
import Reckoner.Proofs.FileTree

namespace Reckoner

theorem Except.exists_of_bind_eq_ok {ε α β : Type} {x : Except ε α} {f : α → Except ε β} {b : β}
    (hbind : x.bind f = .ok b) : ∃ a, x = .ok a ∧ f a = .ok b := by
  cases x with
  | error error => simp [Except.bind] at hbind
  | ok a => exact ⟨a, rfl, hbind⟩

theorem Checked.apply_eq_ok_iff {α β : Type} {f : Checked (α → β)} {x : Checked α} {y : β} :
    f.apply x = .ok y ↔ ∃ g a, f = .ok g ∧ x = .ok a ∧ g a = y := by
  cases f <;> cases x <;> simp [Checked.apply]

theorem Checked.ofField_eq_ok_iff {α : Type} {name : String} {value : Except Problem α} {a : α} :
    Checked.ofField name value = .ok a ↔ value = .ok a := by
  cases value with
  | error problem => exact ⟨fun hread => (nomatch hread), fun hread => (nomatch hread)⟩
  | ok read => exact ⟨fun hread => congrArg _ (Except.ok.inj hread),
      fun hread => congrArg _ (Except.ok.inj hread)⟩

-- A field that was left out has its default, and every other one was read.
theorem Form.optional_eq_ok {α : Type} {form : Form} {name : String} {default a : α}
    {read : Field → Except Problem α} (hread : form.optional name default read = .ok a) :
    a = default ∨ ∃ field, form.field? name = some field ∧ read field = .ok a := by
  have hvalue := Checked.ofField_eq_ok_iff.mp hread
  cases hfield : form.field? name with
  | none =>
      rw [hfield] at hvalue
      exact .inl (Except.ok.inj hvalue).symm
  | some field =>
      rw [hfield] at hvalue
      exact .inr ⟨field, rfl, hvalue⟩

theorem Form.lookingUp_eq_ok {α : Type} {form : Form} {files : FileTree} {name : String}
    {reading : Checked α} {a : α} (hlooked : form.lookingUp files name reading = .ok a) :
    reading = .ok a := by
  unfold Form.lookingUp at hlooked
  split at hlooked
  · simp at hlooked
  · cases reading with
    | error issues => cases hlooked
    | ok value => exact congrArg _ (Except.ok.inj hlooked)

-- A path that a field gave as that of a file.
structure Path.Given (files : FileTree) (path : Path) : Prop where
  spelled : ∃ text, path = Path.ofString text
  isFile : files.isFile path

theorem Field.given_of_asFile {files : FileTree} {field : Field} {path : Path}
    (hfile : field.asFile files = .ok path) : path.Given files := by
  unfold Field.asFile at hfile
  cases field with
  | text value =>
      simp only [Field.asPath] at hfile
      split at hfile
      · rename_i hisFile
        obtain rfl := Except.ok.inj hfile
        exact ⟨⟨value, rfl⟩, hisFile⟩
      · simp at hfile
  | number value => simp [Field.asPath] at hfile
  | null => simp [Field.asPath] at hfile
  | other => simp [Field.asPath] at hfile

-- No part of a path that was read is empty.
theorem Path.ne_empty_of_mem_parts {text part : String} (hpart : part ∈ (Path.ofString text).parts) :
    part ≠ "" := by
  simp only [Path.ofString, List.mem_filter] at hpart
  simp_all

namespace Path.Given

variable {files : FileTree} {path : Path}

theorem name_ne_nil (hgiven : path.Given files) : path.name ≠ [] := by
  obtain ⟨⟨text, rfl⟩, hfile⟩ := hgiven
  have hparts := FileTree.parts_ne_nil_of_isFile hfile
  have hlast : (Path.ofString text).parts.getLast hparts ≠ "" :=
    ne_empty_of_mem_parts (List.getLast_mem hparts)
  simpa [Path.name, List.getLast?_eq_some_getLast hparts] using hlast

-- There is always a place beside a given file for its results.
theorem exists_results (hgiven : path.Given files) : ∃ results, path.results? = some results := by
  simp [Path.results?, Path.withName?, hgiven.name_ne_nil]

end Path.Given

namespace CommandLine

theorem given_of_readFile {files : FileTree} {field : Field} {path : Path}
    (hread : readFile? files field = .ok (some path)) : path.Given files := by
  unfold readFile? at hread
  split at hread
  · simp at hread
  · cases hfile : field.asFile files with
    | error problem => simp [hfile, Except.map] at hread
    | ok given =>
        rw [hfile] at hread
        obtain rfl := Option.some.inj (Except.ok.inj hread)
        exact Field.given_of_asFile hfile

theorem needsFile_eq_ok {arguments checked : Arguments}
    (hneeds : needsFile arguments = .ok checked) :
    checked = arguments ∧ (arguments.command = .batch → arguments.filePath ≠ none) := by
  unfold needsFile at hneeds
  split at hneeds
  · simp at hneeds
  · rename_i hallowed
    exact ⟨(Except.ok.inj hneeds).symm, fun hcommand hnone => hallowed ⟨hcommand, hnone⟩⟩

-- The batch command is accepted only with a file to read.
theorem Arguments.exists_given_of_ofForm {files : FileTree} {form : Form} {arguments : Arguments}
    (hform : Arguments.ofForm files form = .ok arguments) (hcommand : arguments.command = .batch) :
    ∃ input, arguments.filePath = some input ∧ input.Given files := by
  have hreading := Form.lookingUp_eq_ok hform
  obtain ⟨read, hread, hneeds⟩ := Except.exists_of_bind_eq_ok hreading
  obtain ⟨rfl, hbatch⟩ := needsFile_eq_ok hneeds
  obtain ⟨_, logLevel, hthree, -, rfl⟩ := Checked.apply_eq_ok_iff.mp hread
  obtain ⟨_, output, htwo, -, rfl⟩ := Checked.apply_eq_ok_iff.mp hthree
  obtain ⟨_, filePath, hone, hfile, rfl⟩ := Checked.apply_eq_ok_iff.mp htwo
  obtain ⟨_, command, hnone, -, rfl⟩ := Checked.apply_eq_ok_iff.mp hone
  obtain rfl := Except.ok.inj hnone
  cases filePath with
  | none => exact absurd rfl (hbatch hcommand)
  | some input =>
      refine ⟨input, rfl, ?_⟩
      rcases Form.optional_eq_ok hfile with hdefault | ⟨field, -, hgiven⟩
      · simp at hdefault
      · exact given_of_readFile hgiven

end CommandLine

end Reckoner

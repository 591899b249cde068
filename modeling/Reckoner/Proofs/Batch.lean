import Reckoner.Batch
import Reckoner.Proofs.FileTree
import Reckoner.Proofs.Outcome

namespace Reckoner.Batch

-- What a results file says of some outcomes.
def resultsText (outcomes : List Outcome) : String :=
  String.join (outcomes.map fun outcome => outcome.line ++ "\n")

-- What is recorded while the outcomes come about, the first of them at the line
-- with the given number.
def recordsFrom (number : Nat) : List Outcome → List Log.Record
  | [] => []
  | outcome :: rest => outcome.record :: complaint number outcome ++ recordsFrom (number + 1) rest

theorem resultsText_append (first second : List Outcome) :
    resultsText (first ++ second) = resultsText first ++ resultsText second := by
  simp [resultsText, String.join_append]

theorem recordsFrom_append (number : Nat) (first second : List Outcome) :
    recordsFrom number (first ++ second) =
      recordsFrom number first ++ recordsFrom (number + first.length) second := by
  induction first generalizing number with
  | nil => rfl
  | cons outcome rest ih =>
      simp only [List.cons_append, recordsFrom, ih, List.append_assoc, List.length_cons,
        Nat.add_assoc, Nat.add_comm 1]

theorem resultsText_cons (outcome : Outcome) (rest : List Outcome) :
    resultsText (outcome :: rest) = outcome.line ++ "\n" ++ resultsText rest := by
  simp [resultsText, String.join_cons]

-- The system lets a run write the lines of some expressions, the first of them as the
-- write with the given number.
def Accepted (host : Host) (number : Nat) : List String → Prop
  | [] => True
  | expression :: rest =>
      host.write number ((evaluate expression).line ++ "\n") = none ∧
        Accepted host (number + 1) rest

theorem accepted_of_writes {host : Host} (hwrites : host.Writes) (number : Nat)
    (expressions : List String) : Accepted host number expressions := by
  induction expressions generalizing number with
  | nil => trivial
  | cons expression rest ih => exact ⟨hwrites number _, ih (number + 1)⟩

-- However much stands in the file already, the lines come behind it one by one, and no
-- other file is touched.
theorem writeFrom_append {place : List String} {files : FileTree} {number : Nat}
    {front : List String} (hplace : FileTree.isStanding place = false)
    (hfront : Accepted files.host number front) (written : String) (rest : List String) :
    writeFrom place (files.put place (.file (.text written))) number (front ++ rest) =
      let later := writeFrom place
        (files.put place (.file (.text (written ++ resultsText (front.map evaluate)))))
        (number + front.length) rest
      ⟨later.result.map (front.map evaluate ++ ·), later.files,
        recordsFrom number (front.map evaluate) ++ later.records⟩ := by
  induction front generalizing written number with
  | nil =>
      simp only [List.nil_append, List.map_nil, List.length_nil, resultsText, String.join_nil,
        String.append_empty, recordsFrom, Nat.add_zero]
      obtain ⟨result, after, records⟩ :=
        writeFrom place (files.put place (.file (.text written))) number rest
      cases result <;> rfl
  | cons expression front ih =>
      obtain ⟨hline, hlater⟩ := hfront
      simp only [List.cons_append, writeFrom, FileTree.host_put, hline,
        FileTree.extend_put hplace, ih hlater, List.map_cons, List.length_cons, resultsText_cons,
        recordsFrom, String.append_assoc, Nat.add_assoc, Nat.add_comm 1]
      generalize writeFrom place _ (number + (front.length + 1)) rest = later
      cases later.result <;> simp [Except.map]

theorem writeFrom_eq {place : List String} {files : FileTree} {number : Nat}
    {expressions : List String} (hplace : FileTree.isStanding place = false)
    (haccepted : Accepted files.host number expressions) (written : String) :
    writeFrom place (files.put place (.file (.text written))) number expressions =
      ⟨.ok (expressions.map evaluate),
        files.put place (.file (.text (written ++ resultsText (expressions.map evaluate)))),
        recordsFrom number (expressions.map evaluate)⟩ := by
  have happend := writeFrom_append hplace haccepted written []
  rw [List.append_nil] at happend
  simpa [writeFrom, Except.map] using happend

section

variable {files : FileTree} {batch : Batch} {expressions : List String} {place : List String}

theorem run_of_load_error {error : LoadError} (hload : batch.load files = .error error) :
    batch.run files = ⟨.error (.load error), files, []⟩ := by
  simp only [run, hload]

theorem run_of_writable_error {error : FileError} (hload : batch.load files = .ok expressions)
    (hwritable : files.writable batch.output = .error error) :
    batch.run files =
      ⟨.error (.output batch.output error), files, [opening batch expressions.length]⟩ := by
  simp only [run, hload, hwritable]

theorem run_of_writable (hload : batch.load files = .ok expressions)
    (hwritable : files.writable batch.output = .ok place) (hwrites : files.host.Writes) :
    batch.run files =
      ⟨.ok (expressions.map evaluate),
        files.put place (.file (.text (resultsText (expressions.map evaluate)))),
        opening batch expressions.length :: recordsFrom 1 (expressions.map evaluate) ++
          [closing batch ((expressions.map evaluate).countP Outcome.isFailure)]⟩ := by
  have hwrite := writeFrom_eq (FileTree.isStanding_of_writable hwritable)
    (accepted_of_writes hwrites 1 expressions) ""
  simp only [run, hload, hwritable, FileTree.clear, hwrite, String.empty_append]

-- A write that fails ends the run. The lines before it stay in the file, and what was
-- recorded of their expressions and of this one stays recorded.
theorem run_of_write_fault {front rest : List String} {expression : String} {fault : WriteFault}
    (hload : batch.load files = .ok (front ++ expression :: rest))
    (hwritable : files.writable batch.output = .ok place)
    (hfront : Accepted files.host 1 front)
    (hfault : files.host.write (1 + front.length) ((evaluate expression).line ++ "\n") =
      some fault) :
    batch.run files =
      ⟨.error (.write fault.message),
        files.put place
          (.file (.text (resultsText (front.map evaluate) ++ fault.written))),
        opening batch (front ++ expression :: rest).length ::
          recordsFrom 1 ((front ++ [expression]).map evaluate)⟩ := by
  have hplace := FileTree.isStanding_of_writable hwritable
  have hwrite := writeFrom_append hplace hfront "" (expression :: rest)
  simp only [writeFrom, FileTree.host_put, hfault, FileTree.extend_put hplace] at hwrite
  simp only [run, hload, hwritable, FileTree.clear, hwrite, Except.map, String.empty_append,
    List.map_append, recordsFrom_append]
  simp [recordsFrom, Nat.add_comm]

end

-- A run to be: the files that it meets, its paths, and the place for its results.
structure Job where
  files : FileTree
  batch : Batch
  place : List String

namespace Job

-- The outcomes of the run, and the text of its results file.
structure Delivers (job : Job) (outcomes : List Outcome) (text : String) : Prop where
  result : (job.batch.run job.files).result = .ok outcomes
  written : FileTree.entry? (job.batch.run job.files).files job.place = some (.file (.text text))

theorem delivers_of_load {job : Job} {expressions : List String}
    (hload : job.batch.load job.files = .ok expressions)
    (hwritable : job.files.writable job.batch.output = .ok job.place)
    (hwrites : job.files.host.Writes) :
    job.Delivers (expressions.map evaluate) (resultsText (expressions.map evaluate)) := by
  have hrun := run_of_writable hload hwritable hwrites
  constructor
  · rw [hrun]
  · rw [hrun, FileTree.entry_put (FileTree.isStanding_of_writable hwritable)]

end Job

end Reckoner.Batch

import Reckoner.Proofs.Batch
import Reckoner.Proofs.Outcome.Line

namespace Reckoner.Batch

open Text (Unbroken)

theorem toList_resultsText (outcomes : List Outcome) :
    (resultsText outcomes).toList =
      (outcomes.map fun outcome => outcome.line.toList).flatMap fun line => line ++ ['\n'] := by
  induction outcomes with
  | nil => simp [resultsText, String.join_nil]
  | cons outcome rest ih => simp [resultsText_cons, ih]

-- The file has one line for each expression that is on one line itself.
theorem splitLines_resultsText {expressions : List String}
    (hunbroken : ∀ expression ∈ expressions, Unbroken expression.toList) :
    Text.splitLines (resultsText (expressions.map evaluate)).toList =
      expressions.map fun expression => (evaluate expression).line.toList := by
  have hlines : ∀ line ∈ expressions.map fun expression => (evaluate expression).line.toList,
      Unbroken line :=
    List.forall_mem_map.mpr fun expression hmem => Outcome.unbroken_line (hunbroken expression hmem)
  rw [toList_resultsText, List.map_map]
  exact Text.splitLines_flatMap hlines

-- An expression is what is left of one line.
theorem unbroken_of_mem_expressionsOf {text : List Char} {expression : String}
    (hexpression : expression ∈ expressionsOf text) : Unbroken expression.toList := by
  simp only [expressionsOf, List.mem_map, List.mem_filter] at hexpression
  obtain ⟨_, ⟨⟨line, hline, rfl⟩, -⟩, rfl⟩ := hexpression
  rw [String.toList_ofList]
  exact (Text.unbroken_of_mem_splitLines _ line hline).stripChars

theorem unbroken_of_load {files : FileTree} {batch : Batch} {expressions : List String}
    (hload : batch.load files = .ok expressions) :
    ∀ expression ∈ expressions, Unbroken expression.toList := by
  unfold load at hload
  split at hload
  · cases hload
  · rename_i content hcontent
    obtain ⟨text, -, rfl⟩ := map_eq_ok_iff.mp hload
    exact fun expression => unbroken_of_mem_expressionsOf

-- The results file has one line for each expression, whatever characters the
-- expressions have, and every line tells its whole outcome.
theorem results_read_back (files : FileTree) (batch : Batch) (expressions : List String)
    (place : List String) (hload : batch.load files = .ok expressions)
    (hwritable : files.writable batch.output = .ok place) (hwrites : files.host.Writes) :
    (batch.run files).result = .ok (expressions.map evaluate) ∧
      (∃ text, FileTree.entry? (batch.run files).files place = some (.file (.text text)) ∧
        Text.splitLines text.toList =
          expressions.map (fun expression => (evaluate expression).line.toList) ∧
        (Text.splitLines text.toList).map (fun line => Outcome.ofLine? (String.ofList line)) =
          expressions.map fun expression => some (evaluate expression)) ∧
      (∀ expression ∈ expressions, Unbroken (evaluate expression).line.toList) ∧
      ∀ first second, (evaluate first).line = (evaluate second).line →
        evaluate first = evaluate second := by
  have hrun := run_of_writable hload hwritable hwrites
  have hunbroken : ∀ expression ∈ expressions, Unbroken (evaluate expression).line.toList :=
    fun expression hmem => Outcome.unbroken_line (unbroken_of_load hload expression hmem)
  have hlines := splitLines_resultsText (unbroken_of_load hload)
  refine ⟨by rw [hrun], ⟨resultsText (expressions.map evaluate), ?_, hlines, ?_⟩, hunbroken, ?_⟩
  · rw [hrun, FileTree.entry_put (FileTree.isStanding_of_writable hwritable)]
  · rw [hlines, List.map_map]
    exact List.map_congr_left fun expression _ => by simp [Outcome.ofLine_line]
  · intro first second hline
    have hread := Outcome.ofLine_line first
    rw [hline, Outcome.ofLine_line second] at hread
    exact (Option.some.inj hread).symm

-- Lines that look like results and like errors, and a line separator that is no
-- line feed.
theorem results_read_back_lookalikes :
    let sums : Path := ⟨"", ["sums.txt"]⟩
    let files : FileTree :=
      { entries := [(["sums.txt"], .file (.text "1 = 1\n2 -> ERROR: 3\u20281+1"))] }
    let expressions := ["1 = 1", "2 -> ERROR: 3", "1+1"]
    load files ⟨sums, sums⟩ = .ok expressions ∧ files.writable sums = .ok ["sums.txt"] ∧
      files.host.Writes ∧
      ∃ text, FileTree.entry? (run files ⟨sums, sums⟩).files ["sums.txt"] =
          some (.file (.text text)) ∧
        (Text.splitLines text.toList).map (fun line => Outcome.ofLine? (String.ofList line)) =
          expressions.map fun expression => some (evaluate expression) := by
  intro sums files expressions
  have hload : load files ⟨sums, sums⟩ = .ok expressions := by decide +kernel
  have hwritable : files.writable sums = .ok ["sums.txt"] := by decide +kernel
  obtain ⟨-, ⟨text, hentry, -, hread⟩, -⟩ :=
    results_read_back files ⟨sums, sums⟩ expressions ["sums.txt"] hload hwritable
      Host.writes_ideal
  exact ⟨hload, hwritable, Host.writes_ideal, text, hentry, hread⟩

end Reckoner.Batch

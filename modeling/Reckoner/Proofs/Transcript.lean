import Mathlib.Data.List.Forall2
import Reckoner.Proofs.Ledger
import Reckoner.Proofs.Results

namespace Reckoner

namespace Batch

theorem kept_lines (lines : List String) :
    (((lines.map String.toList).map Text.stripChars).filter (!·.isEmpty)).map String.ofList =
      (lines.map Text.strip).filter (· ≠ "") := by
  induction lines with
  | nil => rfl
  | cons line rest ih =>
      simp only [List.map_cons, List.filter_cons, Text.strip]
      by_cases hblank : Text.stripChars line.toList = []
      · simpa [hblank] using ih
      · simpa [hblank] using ih

-- Lines that were joined to a text are its expressions, without blanks around
-- them and without those that are nothing else.
theorem expressionsOf_intercalate {lines : List String}
    (hlines : ∀ line ∈ lines, Text.Unbroken line.toList) :
    expressionsOf ("\n".intercalate lines).toList = (lines.map Text.strip).filter (· ≠ "") := by
  have hunbroken : ∀ line ∈ lines.map String.toList, Text.Unbroken line :=
    List.forall_mem_map.mpr hlines
  have htext : ("\n".intercalate lines).toList = ['\n'].intercalate (lines.map String.toList) :=
    String.toList_intercalate
  unfold expressionsOf
  rw [htext, Text.readNewlines_intercalate hunbroken, ← kept_lines]
  rcases Text.splitLines_intercalate hunbroken with hsplit | hsplit
  · rw [hsplit]
  · conv_rhs => rw [hsplit]
    simp [Text.stripChars]

end Batch

namespace Session

-- The input that has every line calculated: a yes behind each but the last.
def dictated : List String → List String
  | [] => []
  | [line] => [line, "n"]
  | line :: rest => line :: "y" :: dictated rest

-- What is told of a line: what a session shows, records and keeps of it, and
-- what a results file has of it.
structure Told where
  events : List Event
  records : List Log.Record
  entries : List String
  results : List String

inductive Tells (line : String) : Told → Prop
  | blank (hblank : Text.strip line = "") :
      Tells line ⟨[.write "Error: Empty expression"], [⟨.info, "🧮❌ EmptyExpression: ''"⟩], [], []⟩
  | result (value : Binary64) (hline : Text.strip line ≠ "") :
      Tells line ⟨[.write ("Result: " ++ value.text)], [],
        [Text.strip line ++ " = " ++ value.text], [Text.strip line ++ " = " ++ value.text]⟩
  | error (kind : ErrorKind) (message : String) (hline : Text.strip line ≠ "") :
      Tells line ⟨[.write ("Error: " ++ message)],
        [⟨.info, "🧮❌ " ++ kind.name ++ ": " ++ Text.quoted (Text.strip line)⟩], [],
        [Text.strip line ++ " -> ERROR: " ++ message]⟩

-- A line of a results file that tells of a value.
def isSuccess (line : String) : Bool := (Outcome.ofLine? line).any (!·.isFailure)

def resultsOf (expression : String) : List String :=
  if expression = "" then [] else [(evaluate expression).line]

def tell (line : String) : Told :=
  let deed := verdict (Text.strip line)
  ⟨deed.events, deed.records, deed.entries, resultsOf (Text.strip line)⟩

theorem evaluate_empty : evaluate "" = .failure "" .emptyExpression "Empty expression" := by
  decide +kernel

theorem tells_tell (line : String) : Tells line (tell line) := by
  unfold tell resultsOf
  by_cases hline : Text.strip line = ""
  · have hverdict : verdict "" = .failed "" .emptyExpression "Empty expression" := by
      simp only [verdict, evaluate_empty]
    have hrecord : "🧮❌ " ++ ErrorKind.emptyExpression.name ++ ": " ++ Text.quoted "" =
        "🧮❌ EmptyExpression: ''" := by decide +kernel
    have hevent : "Error: " ++ "Empty expression" = "Error: Empty expression" := by decide +kernel
    simp only [hline, hverdict, Deed.events, Deed.records, Deed.entries, hrecord, hevent, if_true]
    exact .blank hline
  · rw [if_neg hline]
    rcases verdict_cases (Text.strip line) with
      ⟨value, houtcome, hverdict⟩ | ⟨kind, message, houtcome, hverdict⟩
    · rw [houtcome, hverdict]
      exact .result value hline
    · rw [houtcome, hverdict]
      exact .error kind message hline

-- What a history keeps of an expression is its line in a results file, if that is
-- a success.
theorem entries_verdict (expression : String) :
    (verdict expression).entries = [(evaluate expression).line].filter isSuccess := by
  have hsuccess : isSuccess (evaluate expression).line = !(evaluate expression).isFailure := by
    simp [isSuccess, Outcome.ofLine_line]
  rw [List.filter_singleton, hsuccess]
  rcases verdict_cases expression with
    ⟨value, houtcome, hverdict⟩ | ⟨kind, message, houtcome, hverdict⟩
  · rw [houtcome, hverdict]
    rfl
  · rw [houtcome, hverdict]
    rfl

theorem entries_tell (line : String) :
    (tell line).entries = (tell line).results.filter isSuccess := by
  unfold tell resultsOf
  by_cases hline : Text.strip line = ""
  · simp [hline, verdict, evaluate_empty, Deed.entries]
  · simp [hline, entries_verdict]

theorem narrate_dictated {settings : Settings} {lines : List String} (hlines : lines ≠ [])
    (hcommand : ∀ line ∈ lines, isHistoryCommand settings (Text.strip line) = false)
    (history : History) :
    narrate settings .expression history (dictated lines) =
      lines.flatMap fun line =>
        [.said (.prompt settings.prompt), verdict (Text.strip line),
          .said (.prompt settings.continuePrompt)] := by
  have hyes : answer? "y" = some true := by decide +kernel
  have hno : answer? "n" = some false := by decide +kernel
  fun_induction dictated lines generalizing history with
  | case1 => exact absurd rfl hlines
  | case2 line =>
      simp only [List.forall_mem_cons] at hcommand
      simp [narrate, deedOf, hcommand, hno]
  | case3 line rest hrest ih =>
      simp only [List.forall_mem_cons] at hcommand
      have hlater := ih (fun h => hrest (by simp [h])) hcommand.2
      simp [narrate, deedOf, hcommand.1, hyes, hlater]

theorem flatMap_resultsOf (expressions : List String) :
    expressions.flatMap resultsOf =
      (expressions.filter (· ≠ "")).map fun expression => (evaluate expression).line := by
  induction expressions with
  | nil => rfl
  | cons expression rest ih =>
      by_cases hexpression : expression = ""
      · simp [hexpression, resultsOf, ih]
      · simp [hexpression, resultsOf, ih]

-- What a session makes of dictated lines is what is told of each of them.
theorem run_dictated {settings : Settings} {lines : List String} (hlines : lines ≠ [])
    (hcommand : ∀ line ∈ lines, isHistoryCommand settings (Text.strip line) = false) :
    let report := (run settings History.empty (dictated lines)).report
    let told := lines.map tell
    report.history.entries = told.flatMap Told.entries ∧
      report.events = [.write settings.welcome, .write settings.hint] ++
        told.flatMap (fun line => .prompt settings.prompt :: line.events ++
          [.prompt settings.continuePrompt]) ++ [.write settings.goodbye] ∧
      Log.keep .info report.records =
        ⟨.info, "🧮 Session started"⟩ :: told.flatMap Told.records ++
          [⟨.info, "🧮 Session finished with " ++ toString report.history.size ++
            " calculation(s)"⟩] := by
  intro report told
  have haccounts := accounts_run settings History.empty (dictated lines)
  rw [callDeeds, narrate_dictated hlines hcommand] at haccounts
  refine ⟨?_, ?_, ?_⟩
  · rw [haccounts.entries]
    simp [told, tell, Deed.entries, History.empty, List.flatMap_assoc, List.flatMap_map]
  · rw [haccounts.events]
    simp [told, tell, Deed.events, List.flatMap_assoc, List.flatMap_map]
  · rw [haccounts.records]
    simp [told, tell, Deed.records, List.flatMap_assoc, List.flatMap_map, report]

-- So is what a results file has of a text with these lines.
theorem splitLines_results {lines : List String}
    (hunbroken : ∀ line ∈ lines, Text.Unbroken line.toList) :
    let expressions := Batch.expressionsOf ("\n".intercalate lines).toList
    (Text.splitLines (Batch.resultsText (expressions.map evaluate)).toList).map String.ofList =
      (lines.map tell).flatMap Told.results := by
  intro expressions
  have hexpressions : ∀ expression ∈ expressions, Text.Unbroken expression.toList :=
    fun _ hmem => Batch.unbroken_of_mem_expressionsOf hmem
  have hsplit := Batch.splitLines_resultsText hexpressions
  have hresults : (lines.map tell).flatMap Told.results =
      (lines.map Text.strip).flatMap resultsOf := by
    simp only [List.flatMap_map, tell]
  simp only [hsplit, hresults, flatMap_resultsOf, ← Batch.expressionsOf_intercalate hunbroken,
    List.map_map, Function.comp_def, String.ofList_toList, expressions]

-- A session that is asked for some lines one by one tells of them what a results
-- file has of a text with these lines: every value and every error that one
-- shows is in the other, and the history is what succeeded in the file. Only of
-- blanks the file has nothing.
theorem transcript_matches_results (settings : Settings) (files : FileTree) (batch : Batch)
    (content : FileContent) (place lines : List String) (hlines : lines ≠ [])
    (hunbroken : ∀ line ∈ lines, Text.Unbroken line.toList)
    (hcommand : ∀ line ∈ lines, isHistoryCommand settings (Text.strip line) = false)
    (hcontent : files.content batch.input = .ok content)
    (htext : Batch.textAt files batch.input content = .ok ("\n".intercalate lines).toList)
    (hwritable : files.writable batch.output = .ok place) (hwrites : files.host.Writes) :
    let report := (run settings History.empty (dictated lines)).report
    ∃ (text : String) (told : List Told),
      FileTree.entry? (batch.run files).files place = some (.file (.text text)) ∧
        let results := (Text.splitLines text.toList).map String.ofList
        List.Forall₂ Tells lines told ∧
        results = told.flatMap Told.results ∧
        report.history.entries = results.filter isSuccess ∧
        report.history.entries = told.flatMap Told.entries ∧
        report.events = [.write settings.welcome, .write settings.hint] ++
          told.flatMap (fun line => .prompt settings.prompt :: line.events ++
            [.prompt settings.continuePrompt]) ++ [.write settings.goodbye] ∧
        Log.keep .info report.records =
          ⟨.info, "🧮 Session started"⟩ :: told.flatMap Told.records ++
            [⟨.info, "🧮 Session finished with " ++ toString report.history.size ++
              " calculation(s)"⟩] := by
  intro report
  have hload : batch.load files =
      .ok (Batch.expressionsOf ("\n".intercalate lines).toList) := by
    simp only [Batch.load, hcontent, htext, Except.map]
  have hrun := Batch.run_of_writable hload hwritable hwrites
  have hplace := FileTree.isStanding_of_writable hwritable
  have hresults := splitLines_results hunbroken
  have htells : List.Forall₂ Tells lines (lines.map tell) :=
    List.forall₂_map_right_iff.mpr (List.forall₂_same.mpr fun line _ => tells_tell line)
  obtain ⟨hentries, hevents, hrecords⟩ := run_dictated hlines hcommand
  refine ⟨_, lines.map tell, by rw [hrun, FileTree.entry_put hplace], htells, hresults, ?_,
    hentries, hevents, hrecords⟩
  rw [hentries, hresults, List.filter_flatMap, List.flatMap_map, List.flatMap_map]
  simp only [entries_tell]

-- A blank line, an error and blanks around a product, in a file that the results
-- replace.
theorem transcript_matches_results_over_input :
    let sums : Path := ⟨"", ["sums.txt"]⟩
    let lines := ["1+1", "  ", "2/0", " 3*4 "]
    let files : FileTree := { entries := [(["sums.txt"], .file (.text "1+1\n  \n2/0\n 3*4 "))] }
    let entries := ["1+1 = 2.0", "3*4 = 12.0"]
    (∀ line ∈ lines, Text.Unbroken line.toList) ∧
      (∀ line ∈ lines, isHistoryCommand .default (Text.strip line) = false) ∧
      files.host.Writes ∧
      (run .default History.empty (dictated lines)).report.history.entries = entries ∧
      ∃ text, FileTree.entry? (Batch.run files ⟨sums, sums⟩).files ["sums.txt"] =
          some (.file (.text text)) ∧
        ((Text.splitLines text.toList).map String.ofList).filter isSuccess = entries := by
  intro sums lines files entries
  have hunbroken : ∀ line ∈ lines, Text.Unbroken line.toList := by decide +kernel
  have hcommand : ∀ line ∈ lines, isHistoryCommand .default (Text.strip line) = false := by
    decide +kernel
  have htext : Batch.textAt files sums (.text "1+1\n  \n2/0\n 3*4 ") =
      .ok ("\n".intercalate lines).toList := by decide +kernel
  have hwritable : files.writable sums = .ok ["sums.txt"] := by decide +kernel
  have hentries : (run .default History.empty (dictated lines)).report.history.entries =
      entries := by decide +kernel
  obtain ⟨text, told, hwritten, -, -, hsuccesses, -⟩ :=
    transcript_matches_results .default files ⟨sums, sums⟩ _ _ lines (by decide) hunbroken hcommand
      (by decide +kernel) htext hwritable Host.writes_ideal
  exact ⟨hunbroken, hcommand, Host.writes_ideal, hentries, text, hwritten, hsuccesses.symm.trans hentries⟩

end Session

end Reckoner

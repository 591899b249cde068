import Mathlib.Data.List.Forall2
import Reckoner.Proofs.Results

namespace Reckoner.Batch

-- A line of a results file that tells of a failure.
def tellsFailure (line : String) : Bool := (Outcome.ofLine? line).any Outcome.isFailure

theorem tellsFailure_line (expression : String) :
    tellsFailure (evaluate expression).line = (evaluate expression).isFailure := by
  simp [tellsFailure, Outcome.ofLine_line]

-- A record of the failure at a place. The record counts the lines from one, the
-- place is counted from zero.
inductive Complains (expressions : List String) (outcomes : List Outcome) (lines : List String) :
    Nat → Log.Record → Prop
  | intro {place : Nat} {expression message : String} {kind : ErrorKind} :
      expressions[place]? = some expression →
      outcomes[place]? = some (.failure expression kind message) →
      lines[place]? = some (expression ++ " -> ERROR: " ++ message) →
      Complains expressions outcomes lines place
        ⟨.error, "🧮❌ Line " ++ toString (place + 1) ++ ": " ++ message ++ ": " ++
          Text.quoted expression⟩

-- The records of the failures, the first outcome being that of the line with the
-- given number.
def complaintsFrom (number : Nat) : List Outcome → List Log.Record
  | [] => []
  | outcome :: rest => complaint number outcome ++ complaintsFrom (number + 1) rest

theorem level_of_mem_complaint {number : Nat} {outcome : Outcome} {record : Log.Record}
    (h : record ∈ complaint number outcome) : record.level = .error := by
  cases outcome with
  | result expression value => cases h
  | failure expression kind message =>
      obtain rfl := List.mem_singleton.mp h
      rfl

theorem level_of_mem_complaintsFrom {number : Nat} {outcomes : List Outcome} {record : Log.Record}
    (h : record ∈ complaintsFrom number outcomes) : record.level = .error := by
  induction outcomes generalizing number with
  | nil => cases h
  | cons outcome rest ih =>
      rcases List.mem_append.mp h with hhere | hlater
      · exact level_of_mem_complaint hhere
      · exact ih hlater

-- What is said of every single outcome is a detail.
theorem keep_recordsFrom (number : Nat) (outcomes : List Outcome) :
    Log.keep .info (recordsFrom number outcomes) = complaintsFrom number outcomes := by
  induction outcomes generalizing number with
  | nil => rfl
  | cons outcome rest ih =>
      have hdetail : outcome.record.level = .debug := by cases outcome <;> rfl
      have hcomplaint : (complaint number outcome).filter
          (fun record => decide (Log.threshold .info ≤ record.level.rank)) =
          complaint number outcome := by
        refine List.filter_eq_self.mpr fun record hrecord => ?_
        rw [level_of_mem_complaint hrecord]
        rfl
      rw [recordsFrom, complaintsFrom, ← ih, Log.keep, Log.keep, List.cons_append,
        List.filter_cons_of_neg (by rw [hdetail]; decide), List.filter_append, hcomplaint]

-- Every failure is complained of at its own place, in the order of the places.
theorem complains_complaintsFrom (front rest : List String) :
    List.Forall₂
      (Complains (front ++ rest) ((front ++ rest).map evaluate)
        ((front ++ rest).map fun expression => (evaluate expression).line))
      ((rest.map evaluate).findIdxs Outcome.isFailure front.length)
      (complaintsFrom (front.length + 1) (rest.map evaluate)) := by
  induction rest generalizing front with
  | nil => exact .nil
  | cons expression rest ih =>
      have hrest := ih (front ++ [expression])
      rw [List.append_assoc, List.singleton_append, List.length_append, List.length_singleton]
        at hrest
      rw [List.map_cons, List.findIdxs_cons, complaintsFrom]
      rcases Outcome.evaluate_cases expression with ⟨value, -, houtcome⟩ | ⟨error, -, -, houtcome⟩
      · simpa [houtcome, Outcome.isFailure, complaint] using hrest
      · have hhere : Complains (front ++ expression :: rest)
            ((front ++ expression :: rest).map evaluate)
            ((front ++ expression :: rest).map fun expression => (evaluate expression).line)
            front.length ⟨.error, "🧮❌ Line " ++ toString (front.length + 1) ++ ": " ++
              error.message ++ ": " ++ Text.quoted expression⟩ := by
          refine @Complains.intro _ _ _ _ _ error.message error.kind (by simp) ?_ ?_
          · simp [houtcome, Outcome.rejected]
          · simp [houtcome, Outcome.rejected, Outcome.line]
        rw [houtcome, Outcome.rejected, complaint, Outcome.isFailure, if_pos rfl,
          List.singleton_append]
        exact .cons hhere hrest

theorem findIdxs_tellsFailure (expressions : List String) :
    (expressions.map fun expression => (evaluate expression).line).findIdxs tellsFailure =
      (expressions.map evaluate).findIdxs Outcome.isFailure := by
  simp only [List.findIdxs_map, Function.comp_def, tellsFailure_line]

section

variable {job : Job} {expressions : List String}

theorem keep_records (hload : job.batch.load job.files = .ok expressions)
    (hwritable : job.files.writable job.batch.output = .ok job.place)
    (hwrites : job.files.host.Writes) :
    Log.keep .info (job.batch.run job.files).records =
      opening job.batch expressions.length :: complaintsFrom 1 (expressions.map evaluate) ++
        [closing job.batch ((expressions.map evaluate).countP Outcome.isFailure)] := by
  rw [run_of_writable hload hwritable hwrites, ← keep_recordsFrom]
  simp [Log.keep, opening, closing, Log.threshold, Log.Level.rank]

-- All the errors among the records are complaints.
theorem filter_keep_records (hload : job.batch.load job.files = .ok expressions)
    (hwritable : job.files.writable job.batch.output = .ok job.place)
    (hwrites : job.files.host.Writes) :
    (Log.keep .info (job.batch.run job.files).records).filter (·.level = .error) =
      complaintsFrom 1 (expressions.map evaluate) := by
  have hall : (complaintsFrom 1 (expressions.map evaluate)).filter (·.level = .error) =
      complaintsFrom 1 (expressions.map evaluate) :=
    List.filter_eq_self.mpr fun record hrecord => by simp [level_of_mem_complaintsFrom hrecord]
  rw [keep_records hload hwritable hwrites, List.cons_append, List.filter_cons_of_neg (by simp [opening]),
    List.filter_append, hall]
  simp [closing]

end

-- The accounts that a run gives of its expressions: the outcomes that it returns, the
-- lines of its results file, and the records that are kept.
structure Accounts (batch : Batch) (expressions : List String) (outcomes : List Outcome)
    (lines : List String) (kept : List Log.Record) : Prop where
  length_outcomes : outcomes.length = expressions.length
  length_lines : lines.length = expressions.length
  outcome {place : Nat} {expression : String} : expressions[place]? = some expression →
    outcomes[place]? = some (evaluate expression)
  line {place : Nat} {outcome : Outcome} : outcomes[place]? = some outcome →
    lines[place]? = some outcome.line
  -- Every place of a failure has one record, and the records are in the order of the places.
  complaints : List.Forall₂ (Complains expressions outcomes lines)
    (outcomes.findIdxs Outcome.isFailure) (kept.filter (·.level = .error))
  failures : lines.findIdxs tellsFailure = outcomes.findIdxs Outcome.isFailure
  count : (kept.filter (·.level = .error)).length = lines.countP tellsFailure
  records : kept =
    ⟨.info, "📄 Evaluating " ++ toString lines.length ++ " expression(s) from " ++
        batch.input.text⟩ :: kept.filter (·.level = .error) ++
      [⟨.info, "📄✅ Results written to " ++ batch.output.text ++ " (" ++
        toString (lines.countP tellsFailure) ++ " error(s))"⟩]

-- The accounts of a run agree. The outcomes and the lines come of the expressions one
-- by one, every failure has its record, which tells the number of its line in the
-- file, and the counts at the start and at the end are those of the lines and of the
-- failures among them.
theorem accounts_agree (job : Job) (expressions : List String)
    (hload : job.batch.load job.files = .ok expressions)
    (hwritable : job.files.writable job.batch.output = .ok job.place)
    (hwrites : job.files.host.Writes) :
    ∃ (outcomes : List Outcome) (text : String), job.Delivers outcomes text ∧
      Accounts job.batch expressions outcomes
        ((Text.splitLines text.toList).map String.ofList)
        (Log.keep .info (job.batch.run job.files).records) := by
  have hlines : (Text.splitLines (resultsText (expressions.map evaluate)).toList).map
      String.ofList = expressions.map fun expression => (evaluate expression).line := by
    simp [splitLines_resultsText (unbroken_of_load hload)]
  have hcomplains := complains_complaintsFrom [] expressions
  simp only [List.nil_append, List.length_nil, Nat.zero_add] at hcomplains
  have hcount : (complaintsFrom 1 (expressions.map evaluate)).length =
      (expressions.map fun expression => (evaluate expression).line).countP tellsFailure := by
    rw [← hcomplains.length_eq, ← findIdxs_tellsFailure, List.length_findIdxs]
  have hfailures : (expressions.map evaluate).countP Outcome.isFailure =
      (expressions.map fun expression => (evaluate expression).line).countP tellsFailure := by
    rw [← List.length_findIdxs, ← findIdxs_tellsFailure, List.length_findIdxs]
  refine ⟨_, _, Job.delivers_of_load hload hwritable hwrites, ?_⟩
  rw [hlines]
  have herrors := filter_keep_records hload hwritable hwrites
  exact {
    length_outcomes := List.length_map _
    length_lines := List.length_map _
    outcome := fun hexpression => by simp [hexpression]
    line := fun {place outcome} houtcome => by
      rw [List.getElem?_map, Option.map_eq_some_iff] at houtcome ⊢
      obtain ⟨expression, hexpression, rfl⟩ := houtcome
      exact ⟨expression, hexpression, rfl⟩
    complaints := by rwa [herrors]
    failures := findIdxs_tellsFailure expressions
    count := by rw [herrors, hcount]
    records := by
      rw [herrors, keep_records hload hwritable hwrites, hfailures, List.length_map]
      rfl }

-- A blank line is not counted: the division is the second expression.
theorem accounts_agree_blank :
    let job : Job := ⟨{ entries := [(["sums.txt"], .file (.text "1+1\n \n2/0\n("))] },
      ⟨⟨"", ["sums.txt"]⟩, ⟨"", ["results.txt"]⟩⟩, ["results.txt"]⟩
    let kept := Log.keep .info (job.batch.run job.files).records
    job.batch.load job.files = .ok ["1+1", "2/0", "("] ∧
      job.files.writable job.batch.output = .ok job.place ∧ job.files.host.Writes ∧
      (∃ outcomes text, job.Delivers outcomes text ∧
        Accounts job.batch ["1+1", "2/0", "("] outcomes
          ((Text.splitLines text.toList).map String.ofList) kept) ∧
      kept.map Log.Record.level = [.info, .error, .error, .info] := by
  intro job kept
  have hload : job.batch.load job.files = .ok ["1+1", "2/0", "("] := by decide +kernel
  have hwritable : job.files.writable job.batch.output = .ok job.place := by decide +kernel
  have hwrites : job.files.host.Writes := Host.writes_ideal
  exact ⟨hload, hwritable, hwrites, accounts_agree job _ hload hwritable hwrites,
    by decide +kernel⟩

end Reckoner.Batch

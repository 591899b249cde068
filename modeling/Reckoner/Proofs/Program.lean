import Reckoner.Program
import Reckoner.Proofs.Batch
import Reckoner.Proofs.Faults
import Reckoner.Proofs.Form
import Reckoner.Proofs.Loading

namespace Reckoner.Program

-- How a batch ends that has written its results to the file at a place.
structure Completed (files : FileTree) (place : List String) (expressions : List String)
    (ending : Ending) : Prop where
  evaluated : ∀ expression ∈ expressions, attempt expression = .ok (evaluate expression)
  written : FileTree.entry? ending.files place =
    some (.file (.text (Batch.resultsText (expressions.map evaluate))))
  others : ∀ other, other ≠ place → FileTree.entry? ending.files other = files.entry? other
  status : ending.status = .ok 0 ∨ ending.status = .ok 1
  failed : ending.status = .ok 1 ↔ ∃ expression ∈ expressions, (evaluate expression).isFailure

section

variable {files : FileTree} {batch : Batch} {expressions : List String} {place : List String}

-- No expression stops a run halfway.
theorem attempt_of_valueOf (text : String) : attempt text = .ok (evaluate text) := by
  unfold evaluate attempt
  rcases valueOf_cases text with ⟨value, hvalue⟩ | ⟨error, -, -, hvalue⟩
  · rw [hvalue]
  · rw [hvalue]

theorem runBatch_of_error {error : Batch.Error} (hresult : (batch.run files).result = .error error)
    (hhandled : error.isHandled) :
    (runBatch files batch).status = .ok 2 ∧
      (runBatch files batch).files = (batch.run files).files := by
  simp [runBatch, hresult, hhandled]

-- An input that cannot be loaded leaves all files as they are, also where its error is
-- not handled.
theorem runBatch_of_load_error {error : Batch.LoadError} (hload : batch.load files = .error error) :
    (runBatch files batch).files = files ∧
      ((runBatch files batch).status = .ok 2 ↔ error.isHandled) := by
  have hrun := Batch.run_of_load_error hload
  cases hhandled : error.isHandled <;> simp [runBatch, hrun, Batch.Error.isHandled, hhandled]

theorem completed_runBatch (hload : batch.load files = .ok expressions)
    (hwritable : files.writable batch.output = .ok place) (hwrites : files.host.Writes) :
    Completed files place expressions (runBatch files batch) := by
  have hstanding := FileTree.isStanding_of_writable hwritable
  have hrun := Batch.run_of_writable hload hwritable hwrites
  constructor
  · exact fun expression _ => attempt_of_valueOf expression
  · simp only [runBatch, hrun, FileTree.entry_put hstanding]
  · intro other hother
    simp only [runBatch, hrun, FileTree.entry_put_of_ne hother]
  · simp only [runBatch, hrun]
    split <;> simp
  · simp only [runBatch, hrun]
    split <;> simp_all

-- Nothing is written before everything is in order.
theorem runBatch_cases (hwrites : files.host.Writes) (hunpacks : files.host.Unpacks)
    (hfile : files.isFile batch.input) (hintact : Batch.Intact files batch.input) :
    (Batch.Unreadable files batch.input ∨ ∃ error, files.writable batch.output = .error error) ∧
        (runBatch files batch).status = .ok 2 ∧ (runBatch files batch).files = files ∨
      ¬(Batch.Unreadable files batch.input ∨ ∃ error, files.writable batch.output = .error error) ∧
        ∃ text place, Batch.Offers files batch.input (text.flatMap String.utf8EncodeChar) ∧
          batch.load files = .ok (Batch.expressionsOf text) ∧
          files.writable batch.output = .ok place ∧
          Completed files place (Batch.expressionsOf text) (runBatch files batch) := by
  rcases Batch.load_cases hunpacks hfile hintact with
    ⟨hunreadable, error, hload, hhandled⟩ | ⟨hreadable, text, hoffers, hload⟩
  · obtain ⟨hfiles, hstatus⟩ := runBatch_of_load_error hload
    exact .inl ⟨.inl hunreadable, hstatus.mpr hhandled, hfiles⟩
  · cases hwritable : files.writable batch.output with
    | error error =>
        have hrun := Batch.run_of_writable_error hload hwritable
        obtain ⟨hstatus, hfiles⟩ :=
          @runBatch_of_error _ _ (.output batch.output error) (by rw [hrun]) rfl
        refine .inl ⟨.inr ⟨error, rfl⟩, hstatus, ?_⟩
        rw [hfiles, hrun]
    | ok place =>
        refine .inr ⟨by simp [hreadable], text, place, hoffers, hload, rfl, ?_⟩
        exact completed_runBatch hload hwritable hwrites

-- A write that fails ends the batch with status two, and the file keeps the lines before.
theorem runBatch_of_write_fault {front rest : List String} {expression : String}
    {fault : WriteFault} (hload : batch.load files = .ok (front ++ expression :: rest))
    (hwritable : files.writable batch.output = .ok place)
    (hfront : Batch.Accepted files.host 1 front)
    (hfault : files.host.write (1 + front.length) ((evaluate expression).line ++ "\n") =
      some fault) :
    (runBatch files batch).status = .ok 2 ∧
      FileTree.entry? (runBatch files batch).files place =
        some (.file (.text (Batch.resultsText (front.map evaluate) ++ fault.written))) := by
  have hrun := Batch.run_of_write_fault hload hwritable hfront hfault
  obtain ⟨hstatus, hfiles⟩ := @runBatch_of_error _ _ (.write fault.message) (by rw [hrun]) rfl
  refine ⟨hstatus, ?_⟩
  rw [hfiles, hrun]
  exact FileTree.entry_put (FileTree.isStanding_of_writable hwritable)

-- What is recorded is chosen by the level afterwards.
theorem runArguments_of_batch {arguments : CommandLine.Arguments} {input results : Path}
    (hcommand : arguments.command = .batch) (hinput : arguments.filePath = some input)
    (hresults : input.results? = some results) (stdin : String) :
    runArguments files arguments stdin =
      let ending := runBatch files ⟨input, arguments.output.getD results⟩
      { ending with records := Log.keep (settingsOf arguments).logLevel ending.records } := by
  simp only [runArguments, hcommand, hinput, batchOf, hresults, Option.getD_some]

end

-- A batch writes its whole results file or nothing at all, and its status tells
-- which. Without an output path the results go beside the input.
theorem runArguments_all_or_nothing (files : FileTree) (form : Form)
    (arguments : CommandLine.Arguments) (stdin : String)
    (hform : CommandLine.Arguments.ofForm files form = .ok arguments)
    (hcommand : arguments.command = .batch)
    (hintact : ∀ input, arguments.filePath = some input → Batch.Intact files input)
    (hunpacks : files.host.Unpacks) (hwrites : files.host.Writes) :
    ∃ input results, arguments.filePath = some input ∧ input.results? = some results ∧
      let output := arguments.output.getD results
      let ending := runArguments files arguments stdin
      (ending.status = .ok 2 ↔
        Batch.Unreadable files input ∨ ∃ error, files.writable output = .error error) ∧
      ((∃ error, Batch.load files ⟨input, output⟩ = .error error) ↔
        Batch.Unreadable files input) ∧
      (ending.status = .ok 2 → ending.files = files) ∧
      (ending.status ≠ .ok 2 → ∃ text place,
        Batch.Offers files input (text.flatMap String.utf8EncodeChar) ∧
        Batch.load files ⟨input, output⟩ = .ok (Batch.expressionsOf text) ∧
        files.writable output = .ok place ∧
        Completed files place (Batch.expressionsOf text) ending) := by
  obtain ⟨input, hinput, hgiven⟩ :=
    CommandLine.Arguments.exists_given_of_ofForm hform hcommand
  obtain ⟨results, hresults⟩ := hgiven.exists_results
  refine ⟨input, results, hinput, hresults, ?_⟩
  simp only [runArguments_of_batch hcommand hinput hresults]
  have hloads : (∃ error, Batch.load files ⟨input, arguments.output.getD results⟩ = .error error) ↔
      Batch.Unreadable files input := by
    rcases @Batch.load_cases files ⟨input, arguments.output.getD results⟩ hunpacks hgiven.isFile
        (hintact input hinput) with
      ⟨hunreadable, error, hload, -⟩ | ⟨hreadable, text, -, hload⟩
    · exact iff_of_true ⟨error, hload⟩ hunreadable
    · exact iff_of_false (by simp [hload]) hreadable
  rcases @runBatch_cases files ⟨input, arguments.output.getD results⟩ hwrites hunpacks
      hgiven.isFile (hintact input hinput) with
    ⟨hhindered, hstatus, hfiles⟩ | ⟨hfree, text, place, hoffers, hload, hwritable, hcompleted⟩
  · exact ⟨iff_of_true hstatus hhindered, hloads, fun _ => hfiles,
      fun hother => absurd hstatus hother⟩
  · have hstatus : (runBatch files ⟨input, arguments.output.getD results⟩).status ≠ .ok 2 := by
      rcases hcompleted.status with hzero | hone
      · simp [hzero]
      · simp [hone]
    refine ⟨iff_of_false hstatus hfree, hloads, fun htwo => absurd htwo hstatus, fun _ => ?_⟩
    exact ⟨text, place, hoffers, hload, hwritable, hcompleted.evaluated, hcompleted.written,
      hcompleted.others, hcompleted.status, hcompleted.failed⟩

-- The results replace the expressions that they were taken from. Nothing comes of a
-- tar archive whose first text would be put outside the temporary folder.
theorem runArguments_over_input :
    let sums : Path := ⟨"", ["sums.txt"]⟩
    let packed : Path := ⟨"", ["ops.tar.xz"]⟩
    let archive : Archive :=
      ⟨.tarXz, [0xFD, 0x37, 0x7A, 0x58, 0x5A, 0x00],
        [⟨"docs.txt", none⟩, ⟨"../ops.txt", some [0x31]⟩]⟩
    let files : FileTree :=
      { entries := [(["sums.txt"], .file (.text "1+1\n2/0")),
          (["ops.tar.xz"], .file (.archive archive))] }
    let form (input : String) : Form := [("command", .text "batch"), ("file_path", .text input),
      ("output", .text "sums.txt")]
    let arguments (input : Path) : CommandLine.Arguments :=
      ⟨.batch, some input, some sums, "WARNING"⟩
    CommandLine.Arguments.ofForm files (form "sums.txt") = .ok (arguments sums) ∧
      CommandLine.Arguments.ofForm files (form "ops.tar.xz") = .ok (arguments packed) ∧
      Batch.Intact files sums ∧ Batch.Intact files packed ∧ files.host.Unpacks ∧
      files.host.Writes ∧
      (runArguments files (arguments sums) "").status = .ok 1 ∧
      FileTree.entry? (runArguments files (arguments sums) "").files ["sums.txt"] =
        some (.file (.text (Batch.resultsText [evaluate "1+1", evaluate "2/0"]))) ∧
      Batch.Unreadable files packed ∧
      (runArguments files (arguments packed) "").status = .ok 2 ∧
      (runArguments files (arguments packed) "").files = files := by
  intro sums packed archive files form arguments
  have hsums : CommandLine.Arguments.ofForm files (form "sums.txt") = .ok (arguments sums) := by
    decide +kernel
  have hpacked : CommandLine.Arguments.ofForm files (form "ops.tar.xz") =
      .ok (arguments packed) := by decide +kernel
  have hplain : Batch.Intact files sums := by
    intro format hnames
    exact absurd (Path.namesText_iff.mp (by decide +kernel)) hnames.not_namesText
  have hnames : Path.Names .tarXz packed.name := .tarXz "ops".toList ⟨'o', by decide, by decide⟩
  have hcontent : files.content packed = .ok (.archive archive) := by decide +kernel
  have harchive : Batch.Intact files packed := fun format hother =>
    ⟨archive, hnames.format_eq hother, hcontent⟩
  have hunpacks : files.host.Unpacks := Host.unpacks_ideal
  have hwrites : files.host.Writes := Host.writes_ideal
  have hload : Batch.load files ⟨sums, sums⟩ = .ok ["1+1", "2/0"] := by decide +kernel
  have hwritable : files.writable sums = .ok ["sums.txt"] := by decide +kernel
  have hone : (runArguments files (arguments sums) "").status = .ok 1 := by decide +kernel
  obtain ⟨input, results, hinput, -, -, -, -, hcompleted⟩ :=
    runArguments_all_or_nothing files (form "sums.txt") (arguments sums) "" hsums rfl
      (fun input hinput => Option.some.inj hinput ▸ hplain) hunpacks hwrites
  obtain rfl := Option.some.inj hinput
  obtain ⟨text, place, -, hexpressions, hplace, hdone⟩ := hcompleted (by simp [hone])
  rw [← Except.ok.inj (hload.symm.trans hexpressions)] at hdone
  obtain rfl := Except.ok.inj (hwritable.symm.trans hplace)
  obtain ⟨input, results, hinput, -, htwo, -, hunchanged, -⟩ :=
    runArguments_all_or_nothing files (form "ops.tar.xz") (arguments packed) "" hpacked rfl
      (fun input hinput => Option.some.inj hinput ▸ harchive) hunpacks hwrites
  obtain rfl := Option.some.inj hinput
  have hfirst : Archive.First archive ⟨"../ops.txt", some [0x31]⟩ :=
    ⟨⟨by simp, by decide +kernel⟩, [⟨"docs.txt", none⟩], [], rfl,
      by simp [Archive.Candidate, archive]⟩
  have houtside : ¬Batch.Inside files.host "../ops.txt" := by
    unfold Batch.Inside
    decide +kernel
  have hunreadable : Batch.Unreadable files packed :=
    .outside ⟨hnames, hcontent⟩ hfirst rfl houtside
  have hstatus := htwo.mpr (.inl hunreadable)
  exact ⟨hsums, hpacked, hplain, harchive, hunpacks, hwrites, hone, hdone.written, hunreadable,
    hstatus, hunchanged hstatus⟩

end Reckoner.Program

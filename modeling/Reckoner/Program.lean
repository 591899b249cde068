import Reckoner.CommandLine.Arguments
import Reckoner.Session

namespace Reckoner.Program

-- Why a run has no status of its own: nothing was started, or an error was not handled.
inductive Stop
  | refused (stop : CommandLine.Stop)
  | unhandled (error : Batch.Error)
  deriving DecidableEq, Repr

-- How a run ended, and all that it left behind.
structure Ending where
  status : Except Stop Nat
  output : String
  files : FileTree
  records : List Log.Record

-- A prompt leaves the cursor behind it; a written line ends.
def rendered : Session.Event → String
  | .prompt text => text
  | .write text => text ++ "\n"

def batchOf (input : Path) (output : Option Path) : Batch :=
  ⟨input, output.getD (input.results?.getD input)⟩

-- Status two means that the batch could not be done, one that some expression failed.
def runBatch (files : FileTree) (batch : Batch) : Ending :=
  let run := Batch.run files batch
  match run.result with
  | .error error =>
      if error.isHandled then
        ⟨.ok 2, "Error: " ++ error.message ++ "\n", run.files,
          run.records ++ [⟨.error, "📄❌ " ++ error.message⟩]⟩
      else ⟨.error (.unhandled error), "", run.files, run.records⟩
  | .ok outcomes =>
      ⟨.ok (if outcomes.any Outcome.isFailure then 1 else 0),
        "Results written to " ++ batch.output.text ++ "\n", run.files, run.records⟩

def runSession (files : FileTree) (settings : Settings) (input : String) : Ending :=
  let report := (Session.run settings History.empty (Text.inputLines input)).report
  ⟨.ok 0, String.join (report.events.map rendered), files, report.records⟩

def settingsOf (arguments : CommandLine.Arguments) : Settings :=
  { Settings.default with
    logLevel := (Log.Level.chosen? (Text.upper arguments.logLevel)).getD Settings.default.logLevel }

def runArguments (files : FileTree) (arguments : CommandLine.Arguments) (input : String) :
    Ending :=
  let settings := settingsOf arguments
  let ending := match arguments.command, arguments.filePath with
    | .batch, some path => runBatch files (batchOf path arguments.output)
    | _, _ => runSession files settings input
  { ending with records := Log.keep settings.logLevel ending.records }

def run (files : FileTree) (argv : List String) (input : String) : Ending :=
  match CommandLine.parse files argv with
  | .error stop => ⟨.error (.refused stop), "", files, []⟩
  | .ok arguments => runArguments files arguments input

end Reckoner.Program

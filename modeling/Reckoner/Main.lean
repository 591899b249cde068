import Reckoner.Program

namespace Reckoner.Main

open Session (Phase Report)

def usage : String :=
  "usage: arithmetic-calculator [-h] [--log-level LEVEL] [batch [-h] [-o OUTPUT] FILE]"

def showEvents (events : List Session.Event) : IO Unit := do
  IO.print (String.join (events.map Program.rendered))
  (← IO.getStdout).flush

def showRecords (level : Log.Level) (records : List Log.Record) : IO Unit :=
  (Log.keep level records).forM fun record => IO.eprintln record.line

def present (level : Log.Level) (report : Report) : IO Unit := do
  showRecords level report.records
  showEvents report.events

def withoutBreak (line : String) : String :=
  String.ofList (if line.toList.getLast? = some '\n' then line.toList.dropLast else line.toList)

-- One line is read for each phase until none is next or the input ends.
partial def converse (settings : Settings) (phase : Phase) (history : History) : IO History := do
  showEvents [.prompt (phase.prompt settings)]
  let line ← (← IO.getStdin).getLine
  if line.isEmpty then
    showEvents [.write ""]
    return history
  let reaction := Session.react settings history (withoutBreak line) phase
  present settings.logLevel reaction.report
  match reaction.next with
  | none => return reaction.report.history
  | some next => converse settings next reaction.report.history

def runSession (settings : Settings) : IO Unit := do
  showEvents (Session.greeting settings)
  showRecords settings.logLevel [Session.started]
  let history ← converse settings .expression History.empty
  showEvents [.write settings.goodbye]
  showRecords settings.logLevel [Session.finished history]

-- What can be opened but not read is taken for a folder.
def probe (place : List String) : IO (Option FileEntry) := do
  try
    let bytes ← IO.FS.readBinFile (FileTree.nameOf place)
    return some (.file (.bytes bytes.toList))
  catch
    | .noFileOrDirectory _ _ _ => return none
    | .inappropriateType _ _ _ => return some .folder
    | _ => return some .folder

def probePath (tree : FileTree) (path : Path) : IO FileTree := do
  let mut tree := tree
  let mut place := FileTree.origin path
  for part in path.parts do
    place := FileTree.enter place part
    if let some entry ← probe place then
      tree := tree.put place entry
  return tree

def pathOf (form : Form) (name : String) : Option Path :=
  match form.field? name with
  | some (.text text) => some (Path.ofString text)
  | _ => none

-- The part of the file tree that a run on these arguments can reach.
def surroundings (form : Form) : IO FileTree := do
  let input := pathOf form "file_path"
  let paths := input.toList ++ (input.bind Path.results?).toList ++ (pathOf form "output").toList
  paths.foldlM probePath FileTree.empty

def store (change : List String × FileContent) : IO Unit :=
  match change.2 with
  | .text text => IO.FS.writeFile (FileTree.nameOf change.1) text
  | _ => return ()

def refuse : CommandLine.Stop → IO UInt32
  | .exit exit => do
      if exit = .help then IO.println usage else IO.eprintln usage
      return exit.status.toUInt32
  | .overlong path => do
      IO.eprintln (FileError.tooLong.message path)
      return 1

def runBatch (argv : List String) (files : FileTree) : IO UInt32 := do
  let ending := Program.run files argv ""
  (FileTree.changes files ending.files).forM store
  showRecords .debug ending.records
  IO.print ending.output
  match ending.status with
  | .ok status => return status.toUInt32
  | .error (.refused stop) => refuse stop
  | .error (.unhandled error) => do
      IO.eprintln error.message
      return 1

def run (argv : List String) : IO UInt32 := do
  match CommandLine.readForm argv with
  | .error exit => refuse (.exit exit)
  | .ok form =>
      let files ← surroundings form
      match CommandLine.parse files argv with
      | .error stop => refuse stop
      | .ok arguments =>
          if arguments.command = .batch then runBatch argv files
          else
            runSession (Program.settingsOf arguments)
            return 0

end Reckoner.Main

def main (argv : List String) : IO UInt32 := Reckoner.Main.run argv

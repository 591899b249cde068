import Reckoner.Batch
import Reckoner.CommandLine.Words

namespace Reckoner.CommandLine

inductive Command
  | repl
  | batch
  deriving DecidableEq, Repr

namespace Command

def all : List Command := [.repl, .batch]

def name : Command → String
  | .repl => "repl"
  | .batch => "batch"

end Command

structure Arguments where
  command : Command
  filePath : Option Path
  output : Option Path
  logLevel : String
  deriving DecidableEq, Repr

def readCommand : Field → Except Problem Command
  | .text name => match Command.all.find? (·.name == name) with
      | some command => .ok command
      | none => .error .notCommand
  | _ => .error .notCommand

def readFile? (files : FileTree) : Field → Except Problem (Option Path)
  | .null => .ok none
  | field => (field.asFile files).map some

def readPath? : Field → Except Problem (Option Path)
  | .null => .ok none
  | field => field.asPath.map some

def needsFile (arguments : Arguments) : Checked Arguments :=
  if arguments.command = .batch ∧ arguments.filePath = none then
    .error [⟨none, .refused "batch requires a file path"⟩]
  else .ok arguments

-- The arguments are looked at together once each of them is in order.
def Arguments.ofForm (files : FileTree) (form : Form) : Except Refusal Arguments :=
  form.lookingUp files "file_path"
    ((Checked.apply (.ok Arguments.mk) (form.optional "command" .repl readCommand)
      |>.apply (form.optional "file_path" none (readFile? files))
      |>.apply (form.optional "output" none readPath?)
      |>.apply (form.optional "log_level" "WARNING" Field.asText)).bind needsFile)

-- Two dashes attached to an option are no value that a field would take. Only a
-- later value of the same option mends that.
def attachedField (value : List Char) : Field :=
  if value = ['-', '-'] then .other else .text (String.ofList value)

-- What the words of the batch command give. Two dashes right after the input
-- belong to it.
def readBatch (input : Option String) (output : Field) (extra : Bool) :
    List Word → Except Exit (String × Field)
  | [] =>
      match input with
      | some input => if extra then .error .usage else .ok (input, output)
      | none => .error .usage
  | ⟨_, .option .output _ (some value)⟩ :: rest =>
      readBatch input (attachedField value) extra rest
  | ⟨_, .option .output _ none⟩ :: ⟨value, .plain⟩ :: rest =>
      readBatch input (.text value) extra rest
  | ⟨_, .option .output _ none⟩ :: _ => .error .usage
  | ⟨_, .option .help short attached⟩ :: rest => .error (helpExit batchNames short rest attached)
  | ⟨_, .option .logLevel _ _⟩ :: _ => .error .usage
  | ⟨text, .plain⟩ :: ⟨next, .separator⟩ :: rest =>
      match input with
      | none => readBatch (some text) output extra rest
      | some input => readBatch (some input) output true (⟨next, .separator⟩ :: rest)
  | ⟨text, .plain⟩ :: rest =>
      match input with
      | none => readBatch (some text) output extra rest
      | some input => readBatch (some input) output true rest
  | ⟨_, .separator⟩ :: ⟨text, .plain⟩ :: rest =>
      match input with
      | none => readBatch (some text) output extra rest
      | some input => readBatch (some input) output true (⟨text, .plain⟩ :: rest)
  | ⟨_, .separator⟩ :: rest => readBatch input output true rest
  | ⟨_, .unknown⟩ :: rest => readBatch input output true rest

def formOf (command : Command) (input output logLevel : Field) : Form :=
  [("command", .text command.name), ("file_path", input), ("output", output),
   ("log_level", logLevel)]

def levelField? (value : String) : Option Field :=
  (Log.Level.chosen? (Text.upper value)).map fun level => .text level.name

-- Everything after the command's name is the command's. Words that nobody
-- understands are refused at the end.
def readTop (logLevel : Field) (extra : Bool) : List Word → Except Exit Form
  | [] => if extra then .error .usage else .ok (formOf .repl .null .null logLevel)
  | ⟨_, .option .logLevel _ (some value)⟩ :: rest =>
      match attachedField value with
      | .text value =>
          match levelField? value with
          | some level => readTop level extra rest
          | none => .error .usage
      | field => readTop field extra rest
  | ⟨_, .option .logLevel _ none⟩ :: ⟨value, .plain⟩ :: rest =>
      match levelField? value with
      | some level => readTop level extra rest
      | none => .error .usage
  | ⟨_, .option .logLevel _ none⟩ :: _ => .error .usage
  | ⟨_, .option .help short attached⟩ :: rest => .error (helpExit topNames short rest attached)
  | ⟨_, .option .output _ _⟩ :: _ => .error .usage
  | ⟨text, .plain⟩ :: rest =>
      if text = Command.batch.name then
        match (words batchNames (rest.map Word.text)).bind (readBatch none .null extra) with
        | .ok (input, output) => .ok (formOf .batch (.text input) output logLevel)
        | .error exit => .error exit
      else .error .usage
  | ⟨_, .separator⟩ :: _ => .error .usage
  | ⟨_, .unknown⟩ :: rest => readTop logLevel true rest

def readForm (argv : List String) : Except Exit Form :=
  (words topNames argv).bind (readTop (.text "WARNING") false)

-- Why nothing is started: the command line is not one, or its file cannot be looked up.
inductive Stop
  | exit (exit : Exit)
  | overlong (path : Path)
  deriving DecidableEq, Repr

def Stop.ofRefusal : Refusal → Stop
  | .issues _ => .exit .usage
  | .overlong path => .overlong path

def parse (files : FileTree) (argv : List String) : Except Stop Arguments :=
  match readForm argv with
  | .error exit => .error (.exit exit)
  | .ok form => (Arguments.ofForm files form).mapError Stop.ofRefusal

end Reckoner.CommandLine

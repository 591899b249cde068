import Reckoner.History
import Reckoner.Settings
import Reckoner.Text.Blank

namespace Reckoner.Session

-- What a user sees: a prompt, after which a line is read, or a line written.
inductive Event
  | prompt (text : String)
  | write (text : String)
  deriving DecidableEq, Repr

-- What some input brought about, and the history after it.
structure Report where
  events : List Event
  records : List Log.Record
  history : History

def Report.before (events : List Event) (records : List Log.Record) (report : Report) : Report :=
  { report with events := events ++ report.events, records := records ++ report.records }

def Report.after (report : Report) (events : List Event) (records : List Log.Record) : Report :=
  { report with events := report.events ++ events, records := report.records ++ records }

def listing (history : History) : List Event :=
  if history.isEmpty then [.write "No calculations in history."]
  else .write "Calculation History:" :: history.numbered.map .write

def answerTo : Outcome → Event
  | .result _ value => .write ("Result: " ++ value.text)
  | .failure _ _ message => .write ("Error: " ++ message)

def complaint : Outcome → List Log.Record
  | .result _ _ => []
  | .failure expression kind _ =>
      [⟨.info, "🧮❌ " ++ kind.name ++ ": " ++ Text.quoted expression⟩]

def isHistoryCommand (settings : Settings) (expression : String) : Bool :=
  Text.lower expression == Text.lower settings.historyCommand

def handleLine (settings : Settings) (history : History) (line : String) : Report :=
  let expression := Text.strip line
  if isHistoryCommand settings expression then ⟨listing history, [], history⟩
  else
    let outcome := evaluate expression
    ⟨[answerTo outcome], outcome.record :: complaint outcome, history.recordOutcome outcome⟩

-- Yes, no, or neither.
def answer? (line : String) : Option Bool :=
  let word := Text.lower (Text.strip line)
  if word = "y" then some true else if word = "n" then some false else none

def refusal : Event := .write "Error: Please enter only 'y' or 'n'."

structure Asked where
  answer : Option Bool
  unread : List String
  events : List Event

-- Asks until a line is an answer. Without one the input has ended.
def ask (settings : Settings) : List String → Asked
  | [] => ⟨none, [], [.prompt settings.continuePrompt]⟩
  | line :: rest =>
      match answer? line with
      | some answer => ⟨some answer, rest, [.prompt settings.continuePrompt]⟩
      | none =>
          let later := ask settings rest
          { later with events := .prompt settings.continuePrompt :: refusal :: later.events }

-- What the next line is read for.
inductive Phase
  | expression
  | answer
  deriving DecidableEq, Repr

def Phase.prompt (settings : Settings) : Phase → String
  | .expression => settings.prompt
  | .answer => settings.continuePrompt

-- The session ends when no phase is next.
structure Reaction where
  next : Option Phase
  report : Report

def react (settings : Settings) (history : History) (line : String) : Phase → Reaction
  | .expression => ⟨some .answer, handleLine settings history line⟩
  | .answer =>
      match answer? line with
      | some true => ⟨some .expression, ⟨[], [], history⟩⟩
      | some false => ⟨none, ⟨[], [], history⟩⟩
      | none => ⟨some .answer, ⟨[refusal], [], history⟩⟩

-- Lines that were not needed stay unread.
structure Conversation where
  report : Report
  unread : List String

-- The end of the input at either prompt leaves that prompt's line empty.
def converse (settings : Settings) : Phase → History → List String → Conversation
  | phase, history, [] => ⟨⟨[.prompt (phase.prompt settings), .write ""], [], history⟩, []⟩
  | phase, history, line :: rest =>
      let reaction := react settings history line phase
      let report := reaction.report.before [.prompt (phase.prompt settings)] []
      match reaction.next with
      | none => ⟨report, rest⟩
      | some next =>
          let later := converse settings next report.history rest
          { later with report := later.report.before report.events report.records }

def greeting (settings : Settings) : List Event := [.write settings.welcome, .write settings.hint]

def started : Log.Record := ⟨.info, "🧮 Session started"⟩

def finished (history : History) : Log.Record :=
  ⟨.info, "🧮 Session finished with " ++ toString history.size ++ " calculation(s)"⟩

def run (settings : Settings) (history : History) (lines : List String) : Conversation :=
  let conversation := converse settings .expression history lines
  let report := conversation.report
  { conversation with
    report := (report.before (greeting settings) [started]).after
      [.write settings.goodbye] [finished report.history] }

end Reckoner.Session

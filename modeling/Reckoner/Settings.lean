import Reckoner.Form

namespace Reckoner

-- The texts of an interactive session, the word that lists its history, and
-- the level of its log.
structure Settings where
  welcome : String
  hint : String
  prompt : String
  continuePrompt : String
  goodbye : String
  historyCommand : String
  logLevel : Log.Level
  deriving DecidableEq, Repr

namespace Settings

def default : Settings where
  welcome := "Welcome to the Calculator!"
  hint := "(Type 'history' to see past calculations)"
  prompt := "Please enter your arithmetic expression: "
  continuePrompt := "Do you want to continue? (y/n): "
  goodbye := "Thank you for using the Calculator!"
  historyCommand := "history"
  logLevel := .warning

-- Level names may be written in any case.
def readLevel (field : Field) : Except Problem Log.Level :=
  match field with
  | .text name =>
      match Log.Level.chosen? (Text.upper name) with
      | some level => .ok level
      | none => .error (.refused ("Unknown logging level: " ++ name))
  | _ => .error .notText

def ofForm (form : Form) : Checked Settings :=
  Checked.apply (.ok Settings.mk) (form.optional "welcome" default.welcome Field.asText)
    |>.apply (form.optional "hint" default.hint Field.asText)
    |>.apply (form.optional "prompt" default.prompt Field.asText)
    |>.apply (form.optional "continue_prompt" default.continuePrompt Field.asText)
    |>.apply (form.optional "goodbye" default.goodbye Field.asText)
    |>.apply (form.optional "history_command" default.historyCommand Field.asCommandWord)
    |>.apply (form.optional "log_level" default.logLevel readLevel)

-- Settings never change once they are made, whatever the value offered. A name
-- that begins with an underscore is no setting's, so nothing stands against it.
def assign (settings : Settings) (field : String) (_ : Field) : Checked Settings :=
  if field.toList.head? = some '_' then .ok settings else .error [⟨some field, .frozen⟩]

-- The fields by name, in their order.
def fields (settings : Settings) : List (String × String) :=
  [("welcome", settings.welcome), ("hint", settings.hint), ("prompt", settings.prompt),
   ("continue_prompt", settings.continuePrompt), ("goodbye", settings.goodbye),
   ("history_command", settings.historyCommand), ("log_level", settings.logLevel.name)]

end Settings

end Reckoner

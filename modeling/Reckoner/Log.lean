import Reckoner.Text.Case
import Reckoner.Text.Quoted

namespace Reckoner.Log

inductive Level
  | notSet
  | debug
  | info
  | warning
  | error
  | critical
  deriving DecidableEq, Repr

namespace Level

def name : Level → String
  | .notSet => "NOTSET"
  | .debug => "DEBUG"
  | .info => "INFO"
  | .warning => "WARNING"
  | .error => "ERROR"
  | .critical => "CRITICAL"

def rank : Level → Nat
  | .notSet => 0
  | .debug => 10
  | .info => 20
  | .warning => 30
  | .error => 40
  | .critical => 50

-- The levels that a user may choose, gravest first.
def choices : List Level := [.critical, .error, .warning, .info, .debug]

def all : List Level := choices ++ [.notSet]

-- Two levels have a second name.
def named? (name : String) : Option Level :=
  if name = "WARN" then some .warning
  else if name = "FATAL" then some .critical
  else all.find? (·.name == name)

def chosen? (name : String) : Option Level := choices.find? (·.name == name)

end Level

structure Record where
  level : Level
  message : String
  deriving DecidableEq, Repr

-- A threshold that is not set is the one that holds where nobody has set any.
def threshold (level : Level) : Nat :=
  if level = .notSet then Level.warning.rank else level.rank

def keep (level : Level) (records : List Record) : List Record :=
  records.filter fun record => threshold level ≤ record.level.rank

-- The name that stands in every log line, and the layout of such a line.
def channel : String := "arithmetic_calculator"

def layout : String := "%(asctime)s [%(levelname)s] %(name)s: %(message)s"

def Record.line (record : Record) : String :=
  "[" ++ record.level.name ++ "] " ++ channel ++ ": " ++ record.message

structure Logger where
  handlers : Nat
  level : Level
  deriving DecidableEq, Repr

def Logger.initial : Logger := ⟨0, .notSet⟩

-- A second attachment would write every line twice.
def Logger.attach (logger : Logger) : Logger :=
  if logger.handlers = 0 then { logger with handlers := 1 } else logger

structure UnknownLevel where
  name : String
  deriving DecidableEq, Repr

def UnknownLevel.message (fault : UnknownLevel) : String :=
  "Unknown level: " ++ Text.quoted fault.name

def Logger.setLevel (logger : Logger) (name : String) : Except UnknownLevel Logger :=
  let name := Text.upper name
  match Level.named? name with
  | some level => .ok { logger with level }
  | none => .error ⟨name⟩

end Reckoner.Log

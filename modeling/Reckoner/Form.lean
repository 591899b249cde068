import Reckoner.Error
import Reckoner.Log

namespace Reckoner

-- What was given for a field.
inductive Field
  | text (value : String)
  | number (value : Binary64)
  | null
  | other
  deriving DecidableEq

-- The fields given by name; a field that nobody asks for does no harm.
abbrev Form := List (String × Field)

inductive Problem
  | missing
  | notText
  | notNumber
  | notKind
  | notCommand
  | tooShort
  | notPath
  | notFile
  | frozen
  | refused (reason : String)
  deriving DecidableEq, Repr

-- A problem belongs to one field, or to the form as a whole.
structure Issue where
  field : Option String
  problem : Problem
  deriving DecidableEq, Repr

namespace Problem

-- Choices in quotes, with "or" before the last one.
def choiceText : List String → String
  | [] => ""
  | [last] => "'" ++ last ++ "'"
  | [other, last] => "'" ++ other ++ "' or '" ++ last ++ "'"
  | first :: rest => "'" ++ first ++ "', " ++ choiceText rest

def message (commands : List String) : Problem → String
  | .missing => "Field required"
  | .notText => "Input should be a valid string"
  | .notNumber => "Input should be a valid number"
  | .notKind => "Input should be " ++ choiceText (ErrorKind.all.map ErrorKind.name)
  | .notCommand => "Input should be " ++ choiceText commands
  | .tooShort => "String should have at least 1 character"
  | .notPath => "Input is not a valid path"
  | .notFile => "Path does not point to a file"
  | .frozen => "Instance is frozen"
  | .refused reason => "Value error, " ++ reason

end Problem

-- A reading of some fields; its issues come in the order of the fields.
abbrev Checked (α : Type) := Except (List Issue) α

namespace Checked

-- Both sides are read, so that no issue hides another.
def apply {α β : Type} (f : Checked (α → β)) (x : Checked α) : Checked β :=
  match f, x with
  | .ok f, .ok x => .ok (f x)
  | .ok _, .error issues => .error issues
  | .error issues, .ok _ => .error issues
  | .error first, .error second => .error (first ++ second)

def ofField {α : Type} (name : String) (value : Except Problem α) : Checked α :=
  value.mapError fun problem => [⟨some name, problem⟩]

end Checked

namespace Form

def field? (form : Form) (name : String) : Option Field := form.lookup name

def required {α : Type} (form : Form) (name : String) (read : Field → Except Problem α) :
    Checked α :=
  .ofField name (match form.field? name with
    | some field => read field
    | none => .error .missing)

def optional {α : Type} (form : Form) (name : String) (default : α)
    (read : Field → Except Problem α) : Checked α :=
  .ofField name (match form.field? name with
    | some field => read field
    | none => .ok default)

end Form

namespace Field

def asText : Field → Except Problem String
  | .text value => .ok value
  | _ => .error .notText

def asNumber : Field → Except Problem Binary64
  | .number value => .ok value
  | _ => .error .notNumber

def asKind : Field → Except Problem ErrorKind
  | .text name => match ErrorKind.named? name with
      | some kind => .ok kind
      | none => .error .notKind
  | _ => .error .notKind

def asCommandWord : Field → Except Problem String
  | .text "" => .error .tooShort
  | field => field.asText

end Field

end Reckoner
